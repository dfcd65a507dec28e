import KubeNova.Foundation.JsFields
import KubeNova.Resources.YamlDocuments

/-!
# Writes to single resources

The paths of the resources service that pass an object to the Kubernetes client: `updateYaml`,
`updateDynamicYaml`, `createDynamicResource`, `deleteDynamicResource` and `applyYaml`.
-/

namespace KubeNova.Resources

open KubeNova.Foundation KubeNova.Common

structure KindMeta where
  kind : String
  apiVersion : String
  namespaced : Bool
  deriving Repr, DecidableEq

def kindMap : List (String × KindMeta) := [
  ("cluster", ⟨"Cluster", "kubenova.io/v1", false⟩),
  ("pod", ⟨"Pod", "v1", true⟩),
  ("node", ⟨"Node", "v1", false⟩),
  ("deployment", ⟨"Deployment", "apps/v1", true⟩),
  ("statefulset", ⟨"StatefulSet", "apps/v1", true⟩),
  ("daemonset", ⟨"DaemonSet", "apps/v1", true⟩),
  ("replicaset", ⟨"ReplicaSet", "apps/v1", true⟩),
  ("job", ⟨"Job", "batch/v1", true⟩),
  ("cronjob", ⟨"CronJob", "batch/v1", true⟩),
  ("service", ⟨"Service", "v1", true⟩),
  ("ingress", ⟨"Ingress", "networking.k8s.io/v1", true⟩),
  ("ingressroute", ⟨"IngressRoute", "traefik.io/v1alpha1", true⟩),
  ("gatewayclass", ⟨"GatewayClass", "gateway.networking.k8s.io/v1", false⟩),
  ("gateway", ⟨"Gateway", "gateway.networking.k8s.io/v1", true⟩),
  ("httproute", ⟨"HTTPRoute", "gateway.networking.k8s.io/v1", true⟩),
  ("network-policy", ⟨"NetworkPolicy", "networking.k8s.io/v1", true⟩),
  ("middleware", ⟨"Middleware", "traefik.io/v1alpha1", true⟩),
  ("endpoints", ⟨"Endpoints", "v1", true⟩),
  ("endpointslice", ⟨"EndpointSlice", "discovery.k8s.io/v1", true⟩),
  ("configmap", ⟨"ConfigMap", "v1", true⟩),
  ("secret", ⟨"Secret", "v1", true⟩),
  ("serviceaccount", ⟨"ServiceAccount", "v1", true⟩),
  ("persistentvolumeclaim", ⟨"PersistentVolumeClaim", "v1", true⟩),
  ("pvc", ⟨"PersistentVolumeClaim", "v1", true⟩),
  ("persistentvolume", ⟨"PersistentVolume", "v1", false⟩),
  ("pv", ⟨"PersistentVolume", "v1", false⟩),
  ("storageclass", ⟨"StorageClass", "storage.k8s.io/v1", false⟩),
  ("sc", ⟨"StorageClass", "storage.k8s.io/v1", false⟩),
  ("namespace", ⟨"Namespace", "v1", false⟩),
  ("horizontalpodautoscaler", ⟨"HorizontalPodAutoscaler", "autoscaling/v2", true⟩),
  ("hpa", ⟨"HorizontalPodAutoscaler", "autoscaling/v2", true⟩),
  ("verticalpodautoscaler", ⟨"VerticalPodAutoscaler", "autoscaling.k8s.io/v1", true⟩),
  ("vpa", ⟨"VerticalPodAutoscaler", "autoscaling.k8s.io/v1", true⟩)]

def aliasMap : List (String × String) := [
  ("clusters", "cluster"),
  ("pods", "pod"),
  ("deployments", "deployment"),
  ("statefulsets", "statefulset"),
  ("daemonsets", "daemonset"),
  ("replicasets", "replicaset"),
  ("jobs", "job"),
  ("cronjobs", "cronjob"),
  ("services", "service"),
  ("ingresses", "ingress"),
  ("ingressroutes", "ingressroute"),
  ("gatewayclass", "gatewayclass"),
  ("gatewayclasses", "gatewayclass"),
  ("gateway", "gateway"),
  ("gateways", "gateway"),
  ("httproute", "httproute"),
  ("httproutes", "httproute"),
  ("networkpolicy", "network-policy"),
  ("configmaps", "configmap"),
  ("secrets", "secret"),
  ("serviceaccounts", "serviceaccount"),
  ("middlewares", "middleware"),
  ("persistentvolumeclaims", "persistentvolumeclaim"),
  ("pvcs", "pvc"),
  ("persistentvolumes", "persistentvolume"),
  ("pvs", "pv"),
  ("storageclasses", "storageclass"),
  ("scs", "sc"),
  ("namespaces", "namespace"),
  ("helmapplications", "helmrelease"),
  ("helmreleases", "helmrelease"),
  ("helmrepositories", "helmrepository"),
  ("horizontalpodautoscaler", "horizontalpodautoscaler"),
  ("horizontalpodautoscalers", "horizontalpodautoscaler"),
  ("vpa", "verticalpodautoscaler"),
  ("vpas", "verticalpodautoscaler"),
  ("verticalpodautoscaler", "verticalpodautoscaler"),
  ("verticalpodautoscalers", "verticalpodautoscaler")]

def normalizeKindKey (rawKind : String) : String :=
  let key := String.ofList ((Text.toLower (Text.trim rawKind)).toList.filter
    fun c => !(Text.isSpace c || c == '_' || c == '-'))
  (aliasMap.lookup key).getD key

def resolveKind (rawKind : String) : Except Exception KindMeta :=
  match kindMap.lookup (normalizeKindKey rawKind) with
  | some kind => .ok kind
  | none => .error (.badRequest ("不支持的资源类型：" ++ rawKind))

def resolveNamespace (kind : KindMeta) (ns : Option String) : Except Exception String :=
  if !kind.namespaced then .ok ""
  else if Text.trim (ns.getD "") = "" then .error (.badRequest (kind.kind ++ " 必须提供 namespace"))
  else .ok (Text.trim (ns.getD ""))

def toApiVersion (group version : String) : String :=
  if group = "" then version else group ++ "/" ++ version

/-- `value || other` -/
def Js.or (value other : Js) : Js := if value.truthy then value else other

/-- What assigning `name` to a field of a primitive value throws. -/
def cannotCreateProperty (value : Js) : Exception :=
  .error ("Cannot create property 'name' on " ++ (match value with
    | .bool _ => "boolean"
    | .string _ => "string"
    | _ => "number") ++ " '" ++ jsText value ++ "'")

def fieldsOf : Js → List (String × Js)
  | .object fields => fields
  | _ => []

def sanitizeForManifest (fields : List (String × Js)) : Js :=
  let clone := fieldsOf (Js.object fields).clone
  let clone := if ((Js.object clone).field "status").truthy then removeField clone "status" else clone
  match (Js.object clone).field "metadata" with
  | .object metadata =>
      .object (setField clone "metadata" (.object (["managedFields", "creationTimestamp", "uid",
        "generation", "selfLink"].foldl removeField metadata)))
  | _ => .object clone

inductive KubeCall where
  | replace (object : Js) (dryRun : Bool)
  | create (object : Js)
  | delete (object : Js)
  | apply (object : Js) (dryRun : Bool)

def KubeCall.object : KubeCall → Js
  | replace object _ => object
  | create object => object
  | delete object => object
  | apply object _ => object

structure KubeError where
  message : String
  status : Option Nat
  deriving Repr, DecidableEq

structure ApiResourceCapability where
  clusterId : String
  group : String
  version : String
  resource : String
  kind : String
  namespaced : Bool
  deriving Repr, DecidableEq

/-- What the service has around it: the YAML library, the table of capabilities and the clients of
the clusters, which it cannot make for every cluster. -/
structure ResourcesService where
  loadYaml : String → Except String Js
  dumpYaml : Js → String
  capabilities : List ApiResourceCapability
  makeObjectClient : String → Except Exception Unit

abbrev KubeClient := List KubeCall → KubeCall → Except KubeError Js

/-- What a request passed to the client, and what it answers. -/
structure Outcome (α : Type) where
  calls : List KubeCall
  result : Except Exception α

def Outcome.ofCall {α β : Type} (client : KubeClient) (prepared : Except Exception α)
    (call : α → KubeCall) (failure : KubeError → Exception) (answer : α → Js → β) : Outcome β :=
  match prepared with
  | .error e => ⟨[], .error e⟩
  | .ok value =>
      ⟨[call value], match client [] (call value) with
        | .error e => .error (failure e)
        | .ok applied => .ok (answer value applied)⟩

def editorApiError (error : KubeError) : Exception :=
  let status := (error.status.filter fun status => 400 ≤ status && status ≤ 599).getD 502
  if status = 409 then .conflict "资源已存在或版本已变更，请刷新后重试"
  else .error ("Kubernetes API 请求失败 (" ++ toString status ++ ")")

def extractResourceVersion (object : Js) : Option String :=
  ((object.field "metadata").field "resourceVersion").text?

structure ObjectIdentity where
  apiVersion : String
  kind : String
  name : String
  «namespace» : Option String
  deriving Repr, DecidableEq

def completeMetadata (target : ObjectIdentity) (metadata : List (String × Js)) :
    List (String × Js) :=
  let metadata := setField metadata "name"
    (Js.or ((Js.object metadata).field "name") (.string target.name))
  match target.namespace with
  | some ns =>
      setField metadata "namespace" (Js.or ((Js.object metadata).field "namespace") (.string ns))
  | none =>
      if ((Js.object metadata).field "namespace").truthy then removeField metadata "namespace"
      else metadata

def editedManifest (target : ObjectIdentity) (identityMessage namespaceMessage : String)
    (fields metadata : List (String × Js)) : Except Exception Js := do
  let fields := setField fields "apiVersion"
    (Js.or ((Js.object fields).field "apiVersion") (.string target.apiVersion))
  let fields := setField fields "kind"
    (Js.or ((Js.object fields).field "kind") (.string target.kind))
  let metadata := completeMetadata target metadata
  if !Js.isText ((Js.object fields).field "apiVersion") target.apiVersion ||
      !Js.isText ((Js.object fields).field "kind") target.kind ||
      !Js.isText ((Js.object metadata).field "name") target.name then
    .error (.badRequest identityMessage)
  if target.namespace.any fun ns => !Js.isText ((Js.object metadata).field "namespace") ns then
    .error (.badRequest namespaceMessage)
  if !((Js.object metadata).field "resourceVersion").truthy then
    .error (.badRequest "YAML 必须包含 metadata.resourceVersion")
  return sanitizeForManifest
    (removeField (setField fields "metadata" (.object metadata)) "status")

/-- What is sent for a text of YAML that is to replace an object.  An array takes the fields that
are assigned to it, but has no `resourceVersion`. -/
def editedYaml (service : ResourcesService) (target : ObjectIdentity)
    (identityMessage namespaceMessage : String) (yaml : String) : Except Exception Js :=
  match service.loadYaml yaml with
  | .error _ => .error (.badRequest "YAML 解析失败，请检查文档格式")
  | .ok (.object fields) =>
      match (Js.object fields).field "metadata" with
      | .object metadata => editedManifest target identityMessage namespaceMessage fields metadata
      | .array _ => editedManifest target identityMessage namespaceMessage fields []
      | metadata =>
          if metadata.truthy then .error (cannotCreateProperty metadata)
          else editedManifest target identityMessage namespaceMessage fields []
  | .ok (.array _) => editedManifest target identityMessage namespaceMessage [] []
  | .ok _ => .error (.badRequest "YAML 内容无效")

structure ResourceYamlUpdateRequest where
  clusterId : String
  «namespace» : Option String
  kind : String
  name : String
  yaml : String
  dryRun : Bool
  deriving Repr, DecidableEq

structure ResourceYamlUpdateResponse where
  clusterId : String
  «namespace» : String
  kind : String
  name : String
  yaml : String
  resourceVersion : Option String
  dryRun : Bool
  message : String
  deriving Repr, DecidableEq

def yamlMessage (dryRun : Bool) : String :=
  if dryRun then "YAML 校验通过（dry-run）" else "YAML 已成功应用"

def KindMeta.identity (kind : KindMeta) (ns name : String) : ObjectIdentity :=
  ⟨kind.apiVersion, kind.kind, name, if kind.namespaced then some ns else none⟩

/-- `updateYaml`, up to its call. -/
def prepareUpdateYaml (service : ResourcesService) (input : ResourceYamlUpdateRequest) :
    Except Exception (KindMeta × String × Js) := do
  let kind ← resolveKind input.kind
  let ns ← resolveNamespace kind input.namespace
  service.makeObjectClient input.clusterId
  let object ← editedYaml service (kind.identity ns input.name)
    "YAML 的 kind/name 必须与目标资源一致" "YAML 的 namespace 必须与目标资源一致" input.yaml
  return (kind, ns, object)

def updateYaml (service : ResourcesService) (client : KubeClient)
    (input : ResourceYamlUpdateRequest) : Outcome ResourceYamlUpdateResponse :=
  .ofCall client (prepareUpdateYaml service input)
    (fun prepared => .replace prepared.2.2 input.dryRun) editorApiError
    fun prepared applied =>
      { clusterId := input.clusterId
        «namespace» := prepared.2.1
        kind := prepared.1.kind
        name := input.name
        yaml := service.dumpYaml (sanitizeForManifest (fieldsOf applied))
        resourceVersion := extractResourceVersion applied
        dryRun := input.dryRun
        message := yamlMessage input.dryRun }

/-! ## Resources discovery knows -/

structure DynamicResourceIdentity where
  clusterId : String
  group : Option String
  version : Option String
  resource : Option String
  «namespace» : Option String
  name : Option String
  deriving Repr, DecidableEq

def trimmed (value : Option String) : String := Text.trim (value.getD "")

def findDynamicCapability (service : ResourcesService) (clusterId : String)
    (identity : DynamicResourceIdentity) : Except Exception ApiResourceCapability :=
  if trimmed identity.version = "" ∨ trimmed identity.resource = "" then
    .error (.badRequest "version/resource 不能为空")
  else match service.capabilities.find? fun row => row.clusterId == clusterId &&
      row.group == trimmed identity.group && row.version == trimmed identity.version &&
      row.resource == trimmed identity.resource with
    | some row => .ok row
    | none => .error (.notFound "未找到资源能力缓存，请先执行 discovery refresh")

structure DynamicTarget where
  capability : ApiResourceCapability
  clusterId : String
  «namespace» : String
  name : String
  deriving Repr, DecidableEq

def resolveDynamicIdentity (service : ResourcesService) (identity : DynamicResourceIdentity) :
    Except Exception DynamicTarget := do
  let clusterId := Text.trim identity.clusterId
  let name := trimmed identity.name
  if clusterId = "" ∨ name = "" then .error (.badRequest "clusterId/name 不能为空")
  let capability ← findDynamicCapability service clusterId identity
  let ns := if capability.namespaced then trimmed identity.namespace else ""
  if capability.namespaced = true ∧ ns = "" then
    .error (.badRequest "该资源为 namespaced，namespace 不能为空")
  return ⟨capability, clusterId, ns, name⟩

def DynamicTarget.apiVersion (target : DynamicTarget) : String :=
  toApiVersion target.capability.group target.capability.version

def DynamicTarget.identity (target : DynamicTarget) : ObjectIdentity :=
  ⟨target.apiVersion, target.capability.kind, target.name,
    if target.capability.namespaced then some target.namespace else none⟩

structure DynamicResourceResponse where
  clusterId : String
  group : String
  version : String
  resource : String
  kind : String
  «namespace» : String
  name : String
  dryRun : Option Bool
  message : String
  deriving Repr, DecidableEq

def DynamicTarget.response (target : DynamicTarget) (dryRun : Option Bool) (message : String) :
    DynamicResourceResponse :=
  ⟨target.clusterId, target.capability.group, target.capability.version,
    target.capability.resource, target.capability.kind, target.namespace, target.name, dryRun,
    message⟩

structure DynamicYamlUpdateRequest where
  identity : DynamicResourceIdentity
  yaml : Option String
  dryRun : Bool
  deriving Repr, DecidableEq

/-- `updateDynamicYaml`, up to its call. -/
def prepareUpdateDynamicYaml (service : ResourcesService) (input : DynamicYamlUpdateRequest) :
    Except Exception (DynamicTarget × Js) := do
  let target ← resolveDynamicIdentity service input.identity
  if trimmed input.yaml = "" then .error (.badRequest "yaml 不能为空")
  let object ← editedYaml service target.identity "YAML 的 kind/name/namespace 必须与目标资源一致"
    "YAML 的 kind/name/namespace 必须与目标资源一致" (trimmed input.yaml)
  service.makeObjectClient target.clusterId
  return (target, object)

def updateDynamicYaml (service : ResourcesService) (client : KubeClient)
    (input : DynamicYamlUpdateRequest) : Outcome DynamicResourceResponse :=
  .ofCall client (prepareUpdateDynamicYaml service input)
    (fun prepared => .replace prepared.2 input.dryRun) editorApiError
    fun prepared _ => prepared.1.response (some input.dryRun) (yamlMessage input.dryRun)

structure DynamicResourceCreateRequest where
  identity : DynamicResourceIdentity
  body : Option (List (String × Js))

def createdMetadata (target : DynamicTarget) (metadata : List (String × Js)) :
    List (String × Js) :=
  let completed := setField metadata "name"
    (Js.or ((Js.object metadata).field "name") (.string target.name))
  if target.capability.namespaced then
    setField completed "namespace"
      (Js.or ((Js.object metadata).field "namespace") (.string target.namespace))
  else removeField completed "namespace"

/-- The object of `createDynamicResource`: the `apiVersion` of the body comes first. -/
def createdManifest (target : DynamicTarget) (body : List (String × Js)) : Except Exception Js := do
  let metadata := createdMetadata target (fieldsOf ((Js.object body).field "metadata"))
  let kind := Js.or ((Js.object body).field "kind") (.string target.capability.kind)
  if !Js.isText kind target.capability.kind ||
      !Js.isText ((Js.object metadata).field "name") target.name ||
      (target.capability.namespaced &&
        !Js.isText ((Js.object metadata).field "namespace") target.namespace) then
    .error (.badRequest "body 的 kind/name/namespace 必须与目标资源一致")
  return .object ([
      ("apiVersion", Js.or ((Js.object body).field "apiVersion") (.string target.apiVersion)),
      ("kind", kind),
      ("metadata", .object metadata)] ++
    ["apiVersion", "kind", "metadata"].foldl removeField body)

/-- `createDynamicResource`, up to its call. -/
def prepareCreateDynamicResource (service : ResourcesService)
    (input : DynamicResourceCreateRequest) : Except Exception (DynamicTarget × Js) := do
  let target ← resolveDynamicIdentity service input.identity
  service.makeObjectClient target.clusterId
  let object ← createdManifest target (input.body.getD [])
  return (target, object)

def createDynamicResource (service : ResourcesService) (client : KubeClient)
    (input : DynamicResourceCreateRequest) : Outcome DynamicResourceResponse :=
  .ofCall client (prepareCreateDynamicResource service input) (fun prepared => .create prepared.2)
    (fun e => .badRequest ("Kubernetes API 调用失败：" ++ e.message))
    fun prepared _ => prepared.1.response none "资源已创建"

/-- `deleteDynamicResource`, up to its call. -/
def prepareDeleteDynamicResource (service : ResourcesService) (identity : DynamicResourceIdentity) :
    Except Exception (DynamicTarget × Js) := do
  let target ← resolveDynamicIdentity service identity
  service.makeObjectClient target.clusterId
  let metadata := [("name", Js.string target.name)] ++
    if target.namespace = "" then [] else [("namespace", Js.string target.namespace)]
  return (target, .object [("apiVersion", .string target.apiVersion),
    ("kind", .string target.capability.kind), ("metadata", .object metadata)])

def deleteDynamicResource (service : ResourcesService) (client : KubeClient)
    (identity : DynamicResourceIdentity) : Outcome DynamicResourceResponse :=
  .ofCall client (prepareDeleteDynamicResource service identity)
    (fun prepared => .delete prepared.2) (fun e => .error e.message)
    fun prepared _ => prepared.1.response none "资源已删除"

structure ResourceYamlApplyRequest where
  clusterId : String
  «namespace» : Option String
  yaml : String
  dryRun : Bool
  deriving Repr, DecidableEq

structure ResourceYamlApplyItem where
  apiVersion : String
  kind : String
  «namespace» : String
  name : String
  dryRun : Bool
  message : String
  resourceVersion : Option String
  deriving Repr, DecidableEq

structure ResourceYamlApplyResponse where
  clusterId : String
  items : List ResourceYamlApplyItem
  total : Nat
  dryRun : Bool
  message : String
  deriving Repr, DecidableEq

/-- `String(value ?? '').trim()` -/
def trimmedText (value : Js) : String := Text.trim (jsText (value.orElse (.string "")))

def preparedMetadata (kind : Option KindMeta) (defaultNamespace : String)
    (metadata : List (String × Js)) : List (String × Js) :=
  let metadata :=
    if kind.any (·.namespaced) && !((Js.object metadata).field "namespace").truthy &&
        defaultNamespace != "" then
      setField metadata "namespace" (.string defaultNamespace)
    else metadata
  if kind.any fun kind => !kind.namespaced then removeField metadata "namespace" else metadata

def prepareApplyManifest (manifest : Js) (defaultNamespace : String) : Except Exception Js := do
  let apiVersion := trimmedText (manifest.field "apiVersion")
  let kind := trimmedText (manifest.field "kind")
  let metadata := fieldsOf (manifest.field "metadata")
  if apiVersion = "" then .error (.badRequest "YAML 资源缺少 apiVersion")
  if kind = "" then .error (.badRequest "YAML 资源缺少 kind")
  if trimmedText ((Js.object metadata).field "name") = "" then
    .error (.badRequest (kind ++ " 缺少 metadata.name"))
  return .object (removeField
    (setField (setField (setField (fieldsOf manifest) "apiVersion" (.string apiVersion)) "kind"
      (.string kind)) "metadata"
      (.object (preparedMetadata (resolveKind kind).toOption defaultNamespace metadata))) "status")

/-- The check of each manifest, before any of them is applied. -/
def authorizeAll (authorize : Js → Except Exception Unit) (prepared : List Js) :
    Except Exception Unit :=
  prepared.forM authorize

/-- `applyYaml`, up to its first call. -/
def prepareApplyYaml (service : ResourcesService) (authorize : Js → Except Exception Unit)
    (input : ResourceYamlApplyRequest) : Except Exception (List Js) := do
  let clusterId := Text.trim input.clusterId
  let yaml := Text.trim input.yaml
  if clusterId = "" then .error (.badRequest "clusterId 不能为空")
  if yaml = "" then .error (.badRequest "yaml 不能为空")
  let manifests ← parseYamlManifests service.loadYaml yaml
  if manifests = [] then .error (.badRequest "YAML 未包含可应用资源")
  let prepared ← manifests.mapM fun manifest =>
    prepareApplyManifest manifest (trimmed input.namespace)
  authorizeAll authorize prepared
  service.makeObjectClient clusterId
  return prepared

def appliedItem (dryRun : Bool) (prepared applied : Js) : ResourceYamlApplyItem :=
  let appliedMeta := applied.field "metadata"
  let preparedMeta := prepared.field "metadata"
  { apiVersion := jsText ((applied.field "apiVersion").orElse (prepared.field "apiVersion"))
    kind := jsText ((applied.field "kind").orElse (prepared.field "kind"))
    «namespace» := jsText ((appliedMeta.field "namespace").orElse
      ((preparedMeta.field "namespace").orElse (.string "")))
    name := jsText ((appliedMeta.field "name").orElse
      ((preparedMeta.field "name").orElse (.string "")))
    dryRun := dryRun
    message := yamlMessage dryRun
    resourceVersion := extractResourceVersion applied }

/-- The manifests one after the other, up to one the client refuses. -/
def applyAll (client : KubeClient) (dryRun : Bool) (calls : List KubeCall)
    (items : List ResourceYamlApplyItem) : List Js → Outcome (List ResourceYamlApplyItem)
  | [] => ⟨calls, .ok items⟩
  | prepared :: rest =>
      match client calls (.apply prepared dryRun) with
      | .error e =>
          ⟨calls ++ [.apply prepared dryRun], .error (.badRequest ("Kubernetes API 调用失败（" ++
            jsText ((prepared.field "kind").orElse (.string "")) ++ "/" ++
            jsText (((prepared.field "metadata").field "name").orElse (.string "")) ++ "）：" ++
            e.message))⟩
      | .ok applied =>
          applyAll client dryRun (calls ++ [.apply prepared dryRun])
            (items ++ [appliedItem dryRun prepared applied]) rest

def applyYaml (service : ResourcesService) (authorize : Js → Except Exception Unit)
    (client : KubeClient) (input : ResourceYamlApplyRequest) : Outcome ResourceYamlApplyResponse :=
  match prepareApplyYaml service authorize input with
  | .error e => ⟨[], .error e⟩
  | .ok prepared =>
      let applied := applyAll client input.dryRun [] [] prepared
      ⟨applied.calls, applied.result.map fun items =>
        { clusterId := Text.trim input.clusterId
          items := items
          total := items.length
          dryRun := input.dryRun
          message := if input.dryRun then "YAML 校验通过（dry-run）"
            else "已应用 " ++ toString items.length ++ " 个资源" }⟩

end KubeNova.Resources
