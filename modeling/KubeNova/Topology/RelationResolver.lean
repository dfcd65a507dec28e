import KubeNova.Foundation.Merging
import KubeNova.Topology.ReplicaSets

/-!
# The relations of the topology graph

`TopologyRelationResolver.resolve`: every row asks for relations to the rows its JSON refers to, and
requests for the same relation are merged.
-/

namespace KubeNova.Topology

open KubeNova.Foundation

inductive TopologyRelationRole where
  | owner
  | network
  | storage
  | config
  | policy
  | gateway
  deriving Repr, DecidableEq

inductive TopologyRelationType where
  | owns
  | selects
  | publishes
  | resolves
  | routesTo
  | governs
  | provisions
  | accepts
  | mounts
  | binds
  | usesStorageClass
  | usesConfig
  | usesSecret
  | usesServiceAccount
  deriving Repr, DecidableEq

def TopologyRelationRole.text : TopologyRelationRole → String
  | .owner => "owner"
  | .network => "network"
  | .storage => "storage"
  | .config => "config"
  | .policy => "policy"
  | .gateway => "gateway"

def confidenceFor : TopologyRelationType → ℚ
  | .selects | .governs => 9 / 10
  | .resolves | .routesTo | .accepts => 98 / 100
  | _ => 1

structure GraphResource where
  id : String
  recordId : String
  deriving Repr, DecidableEq

structure TopologyGraphRelation where
  id : String
  source : String
  target : String
  label : String
  role : TopologyRelationRole
  type : TopologyRelationType
  confidence : ℚ
  direction : String
  evidence : List String
  ports : List String
  deriving DecidableEq

/-- The arguments of a call of `add`. -/
structure AddRequest where
  source : PersistedResource
  target : PersistedResource
  label : String
  role : TopologyRelationRole
  type : TopologyRelationType
  evidence : List String
  ports : List String

inductive GraphVersion where
  | legacy
  | v2
  deriving Repr, DecidableEq

def TopologySource.text : TopologySource → String
  | .workloads => "workloads"
  | .network => "network"
  | .storage => "storage"
  | .configuration => "configuration"
  | .gateway => "gateway"

def v2Source : TopologySource → TopologySource
  | .gateway => .network
  | source => source

def resourceSource : GraphVersion → TopologySource → TopologySource
  | .legacy, source => source
  | .v2, source => v2Source source

def resourceId (version : GraphVersion) (item : TopologyRow) : String :=
  (resourceSource version item.source).text ++ ":" ++ item.row.id

/-- `projectLegacy` and `projectV2` -/
def project (locale : Locale) (version : GraphVersion) (rows : List TopologyRow) :
    List GraphResource :=
  (rows.map fun item => { id := resourceId version item, recordId := item.row.id }).insertionSort
    fun left right => locale.atMost left.id right.id = true

/-- `resourcesByRecordId.get(recordId)`: of two resources with one record the later one counts. -/
def resourceOf (resources : List GraphResource) (recordId : String) : Option GraphResource :=
  resources.reverse.find? fun resource => resource.recordId = recordId

/-! ## What the rows refer to -/

def asStringRecord : Js → Option (List (String × String))
  | .object fields => some ((Js.present fields).filterMap fun field =>
      (asString field.2).map fun value => (field.1, value))
  | _ => none

structure OwnerRef where
  kind : String
  name : String
  path : String

def ownerReferences (row : PersistedResource) : List OwnerRef :=
  let references :=
    (asArray (row.statusJson.field "ownerReferences")).map (·, "statusJson.ownerReferences") ++
      (asArray ((row.statusJson.field "metadata").field "ownerReferences")).map
        (·, "statusJson.metadata.ownerReferences")
  references.filterMap fun (reference, path) => do
    let kind ← asString (reference.field "kind")
    let name ← asString (reference.field "name")
    return { kind := kind, name := name, path := path }

inductive ReferenceKind where
  | persistentVolumeClaim
  | configMap
  | secret
  | serviceAccount
  deriving Repr, DecidableEq

structure ResourceReference where
  kind : ReferenceKind
  name : String
  path : String

def podTemplateSpec (kind : String) (spec : Js) : Js :=
  if kind = "Pod" then spec
  else if kind = "CronJob" then
    (((spec.field "jobTemplate").field "spec").field "template").field "spec"
  else (spec.field "template").field "spec"

def reference (kind : ReferenceKind) (value : Js) (path : String) : List ResourceReference :=
  match asString value with
  | some name => [{ kind := kind, name := name, path := path }]
  | none => []

def volumeReferences (volume : Js) : List ResourceReference :=
  reference .persistentVolumeClaim ((volume.field "persistentVolumeClaim").field "claimName")
      "spec.volumes[].persistentVolumeClaim.claimName" ++
    reference .configMap ((volume.field "configMap").field "name")
      "spec.volumes[].configMap.name" ++
    reference .secret ((volume.field "secret").field "secretName")
      "spec.volumes[].secret.secretName" ++
    (asArray ((volume.field "projected").field "sources")).flatMap fun projected =>
      reference .configMap ((projected.field "configMap").field "name")
          "spec.volumes[].projected.sources[].configMap.name" ++
        reference .secret ((projected.field "secret").field "name")
          "spec.volumes[].projected.sources[].secret.name"

def containerReferences (container : Js) : List ResourceReference :=
  ((asArray (container.field "env")).flatMap fun env =>
    let valueFrom := env.field "valueFrom"
    reference .configMap ((valueFrom.field "configMapKeyRef").field "name")
        "spec.containers[].env[].valueFrom.configMapKeyRef.name" ++
      reference .secret ((valueFrom.field "secretKeyRef").field "name")
        "spec.containers[].env[].valueFrom.secretKeyRef.name") ++
  (asArray (container.field "envFrom")).flatMap fun source =>
    reference .configMap ((source.field "configMapRef").field "name")
        "spec.containers[].envFrom[].configMapRef.name" ++
      reference .secret ((source.field "secretRef").field "name")
        "spec.containers[].envFrom[].secretRef.name"

def workloadReferences (row : PersistedResource) : List ResourceReference :=
  let podSpec := podTemplateSpec row.kind row.spec
  (asArray (podSpec.field "volumes")).flatMap volumeReferences ++
    (asArray (podSpec.field "containers") ++ asArray (podSpec.field "initContainers")).flatMap
      containerReferences ++
    reference .serviceAccount (podSpec.field "serviceAccountName") "spec.serviceAccountName" ++
    (asArray (podSpec.field "imagePullSecrets")).flatMap fun secret =>
      reference .secret (secret.field "name") "spec.imagePullSecrets[].name"

inductive EndpointTarget where
  | named (kind name path : String)
  | address (ip path : String)

def endpointTarget (value : Js) (path : String) : List EndpointTarget :=
  match asString (value.field "kind"), asString (value.field "name"),
    asString (value.field "ip") with
  | some kind, some name, _ => [.named kind name path]
  | _, _, some ip => [.address ip path]
  | _, _, none => []

def endpointTargets (row : PersistedResource) : List EndpointTarget :=
  ((asArray (row.spec.field "endpoints")).flatMap fun endpoint =>
    if (endpoint.field "targetRef").truthy then
      endpointTarget (endpoint.field "targetRef") "spec.endpoints[].targetRef"
    else
      ((asArray (endpoint.field "addresses")).filterMap fun address =>
        (asString address).map (.address · "spec.endpoints[].addresses[]")) ++
      endpointTarget endpoint "spec.endpoints[].addresses[]") ++
  (asArray (row.spec.field "subsets")).flatMap fun subset =>
    (asArray (subset.field "addresses") ++ asArray (subset.field "notReadyAddresses")).flatMap
      fun address =>
        endpointTarget ((address.field "targetRef").orElse address)
          (if (address.field "targetRef").truthy then "spec.subsets[].addresses[].targetRef"
            else "spec.subsets[].addresses[].ip")

def podIpMatches (pod : PersistedResource) (ip : String) : Bool :=
  asString (pod.statusJson.field "podIP") = some ip ||
    (asArray (pod.statusJson.field "podIPs")).any fun item => asString (item.field "ip") = some ip

structure ServiceBackend where
  name : String
  path : String
  ports : List String

def backendRefs (row : PersistedResource) : List (Js × String) :=
  let rules := asArray (row.spec.field "rules")
  [(row.spec.field "defaultBackend", "spec.defaultBackend")] ++
    (rules.flatMap fun rule =>
      (asArray ((rule.field "http").field "paths")).map fun path =>
        (path.field "backend", "spec.rules[].http.paths[].backend")) ++
    ((asArray (row.spec.field "routes")).flatMap fun route =>
      (asArray (route.field "services")).map (·, "spec.routes[].services[]")) ++
    (rules.flatMap fun rule =>
      (asArray (rule.field "backendRefs")).map (·, "spec.rules[].backendRefs[]"))

def backendName (backend : Js) : Option String :=
  (asString ((backend.field "service").field "name")).orElse fun _ =>
    (asString (backend.field "serviceName")).orElse fun _ => asString (backend.field "name")

def backendPort (backend : Js) : Option String :=
  let rawPort := (((backend.field "service").field "port").orElse
    (backend.field "servicePort")).orElse (backend.field "port")
  (asString (rawPort.field "number")).orElse fun _ =>
    (asString (rawPort.field "name")).orElse fun _ => asString rawPort

def serviceBackends (row : PersistedResource) : List ServiceBackend :=
  (backendRefs row).filterMap fun (backend, path) =>
    (backendName backend).map fun name =>
      { name := name, path := path, ports := (backendPort backend).toList }

structure GatewayParent where
  name : String
  «namespace» : Option String
  path : String

def gatewayParents (row : PersistedResource) : List GatewayParent :=
  (asArray (row.spec.field "parentRefs")).filterMap fun parent =>
    (asString (parent.field "name")).map fun name =>
      { name := name, «namespace» := asString (parent.field "namespace"),
        path := "spec.parentRefs[]" }

def servicePorts (row : PersistedResource) : List String :=
  (asArray (row.spec.field "ports")).filterMap fun port =>
    (asString (port.field "port")).map fun value =>
      let shown := match asString (port.field "targetPort") with
        | some target => value ++ "->" ++ target
        | none => value
      ":".intercalate ((asString (port.field "protocol")).toList ++ [shown])

/-! ## Finding rows -/

/-- The keys are joined with a character no text of the database has, so they are tuples here. -/
abbrev KindNameKey := String × String × String × String

def kindNameKey (row : PersistedResource) : KindNameKey :=
  (row.clusterId, row.namespace.getD "", row.kind, row.name)

def serviceKey (row : PersistedResource) (name : String) : WorkloadKey := keyOf row name

/-- What `addToIndex` has put under a key: the rows with the key, in their order. -/
def indexed {κ : Type} [DecidableEq κ] (key : PersistedResource → κ) (rows : List TopologyRow)
    (k : κ) : List PersistedResource :=
  (rows.map (·.row)).filter fun row => key row = k

def byKind (rows : List TopologyRow) (kind : String) : List PersistedResource :=
  indexed (·.kind) rows kind

def findByKindAndName (rows : List TopologyRow) (row : PersistedResource) (kind name : String) :
    List PersistedResource :=
  indexed kindNameKey rows (row.clusterId, row.namespace.getD "", kind, name)

def findClusterScopedByKindAndName (rows : List TopologyRow) (row : PersistedResource)
    (kinds : List String) (name : String) : List PersistedResource :=
  kinds.flatMap fun kind => indexed kindNameKey rows (row.clusterId, "", kind, name)

def sameNamespace (left right : PersistedResource) : Bool :=
  left.clusterId = right.clusterId && left.namespace = right.namespace

def labelsMatch (selector : List (String × String)) (labels : Js) : Bool :=
  selector.all fun (key, value) =>
    ((asStringRecord labels).bind fun actual => actual.lookup key) = some value

def selectorEvidence (selector : List (String × String)) : List String :=
  "spec.selector" :: selector.map fun (key, value) => "selector:" ++ key ++ "=" ++ value

def serviceNameLabel : String := "kubernetes.io/service-name"

def serviceNameOf (row : PersistedResource) : Option String :=
  (asStringRecord row.labels).bind fun labels => labels.lookup serviceNameLabel

def endpointSliceServices (rows : List TopologyRow) : List WorkloadKey :=
  (rows.filter fun item => item.source = .network ∧ item.row.kind = "EndpointSlice").filterMap
    fun item => (serviceNameOf item.row).map (serviceKey item.row)

def endpointServices (rows : List TopologyRow) : List WorkloadKey :=
  (rows.filter fun item => item.source = .network ∧ item.row.kind = "Endpoints").map
    fun item => serviceKey item.row item.row.name

def isPersistentVolumeClaim (kind : String) : Bool :=
  kind = "PVC" || kind = "PersistentVolumeClaim"

def isGatewayRoute (kind : String) : Bool :=
  ["HTTPRoute", "GRPCRoute", "TCPRoute", "TLSRoute", "UDPRoute"].contains kind

/-! ## What a row asks for -/

section Requests

variable (rows : List TopologyRow) (row : PersistedResource)

def ownerRequests : List AddRequest :=
  (ownerReferences row).flatMap fun ref =>
    ((findByKindAndName rows row ref.kind ref.name).filter (sameNamespace row)).map fun owner =>
      { source := owner, target := row, label := "owns", role := .owner, type := .owns,
        evidence := [ref.path], ports := [] }

def ReferenceKind.rowKind : ReferenceKind → String
  | .persistentVolumeClaim => "PVC"
  | .configMap => "ConfigMap"
  | .secret => "Secret"
  | .serviceAccount => "ServiceAccount"

def configRelationType : ReferenceKind → TopologyRelationType
  | .configMap => .usesConfig
  | .serviceAccount => .usesServiceAccount
  | _ => .usesSecret

def workloadRequests : List AddRequest :=
  (workloadReferences row).flatMap fun ref =>
    ((findByKindAndName rows row ref.kind.rowKind ref.name).filter (sameNamespace row)).map
      fun target =>
        if ref.kind = .persistentVolumeClaim then
          { source := row, target := target, label := "mounts", role := .storage, type := .mounts,
            evidence := [ref.path], ports := [] }
        else
          { source := row, target := target, label := "uses", role := .config,
            type := configRelationType ref.kind, evidence := [ref.path], ports := [] }

/-- The pods a selector picks, for a Service or a NetworkPolicy. -/
def selectedPods (selector : Js) (request : List (String × String) → PersistedResource → AddRequest) :
    List AddRequest :=
  match asStringRecord selector with
  | none => []
  | some selector =>
      if selector.isEmpty then []
      else ((byKind rows "Pod").filter fun pod =>
        sameNamespace row pod && labelsMatch selector pod.labels).map (request selector)

def serviceRequests : List AddRequest :=
  let key := serviceKey row row.name
  if (endpointSliceServices rows).contains key || (endpointServices rows).contains key then []
  else selectedPods rows row (row.spec.field "selector") fun selector pod =>
    { source := row, target := pod, label := "selects", role := .network, type := .selects,
      evidence := selectorEvidence selector, ports := servicePorts row }

def networkPolicyRequests : List AddRequest :=
  selectedPods rows row ((row.spec.field "podSelector").field "matchLabels") fun selector pod =>
    { source := row, target := pod, label := "governs", role := .policy, type := .governs,
      evidence := selectorEvidence selector, ports := [] }

def publishesRequests (name evidence : String) : List AddRequest :=
  ((findByKindAndName rows row "Service" name).filter (sameNamespace row)).map fun service =>
    { source := service, target := row, label := "publishes", role := .network,
      type := .publishes, evidence := [evidence], ports := [] }

def endpointWorkloads : EndpointTarget → List PersistedResource
  | .named kind name _ => findByKindAndName rows row kind name
  | .address ip _ =>
      (byKind rows "Pod").filter fun pod => sameNamespace row pod && podIpMatches pod ip

def EndpointTarget.path : EndpointTarget → String
  | .named _ _ path => path
  | .address _ path => path

def resolvesRequests : List AddRequest :=
  (endpointTargets row).flatMap fun target =>
    ((endpointWorkloads rows row target).filter (sameNamespace row)).map fun workload =>
      { source := row, target := workload, label := "resolves", role := .network,
        type := .resolves, evidence := [target.path], ports := [] }

def endpointSliceRequests : List AddRequest :=
  (match serviceNameOf row with
    | some serviceName =>
        publishesRequests rows row serviceName "metadata.labels.kubernetes.io/service-name"
    | none => []) ++ resolvesRequests rows row

def endpointsRequests : List AddRequest :=
  publishesRequests rows row row.name "metadata.name" ++
    if (endpointSliceServices rows).contains (serviceKey row row.name) then []
    else resolvesRequests rows row

def resolveServiceRoutes (role : TopologyRelationRole) : List AddRequest :=
  (serviceBackends row).flatMap fun backend =>
    ((findByKindAndName rows row "Service" backend.name).filter (sameNamespace row)).map
      fun service =>
        { source := row, target := service, label := "routes", role := role, type := .routesTo,
          evidence := [backend.path], ports := backend.ports }

def gatewayRequests : List AddRequest :=
  match asString (row.spec.field "gatewayClassName") with
  | none => []
  | some gatewayClassName =>
      ((byKind rows "GatewayClass").filter fun gatewayClass =>
        gatewayClass.clusterId = row.clusterId && gatewayClass.name = gatewayClassName).map
        fun gatewayClass =>
          { source := gatewayClass, target := row, label := "provisions", role := .gateway,
            type := .provisions, evidence := ["spec.gatewayClassName"], ports := [] }

def acceptsRequests : List AddRequest :=
  (gatewayParents row).flatMap fun parent =>
    ((byKind rows "Gateway").filter fun gateway =>
      gateway.clusterId = row.clusterId && gateway.name = parent.name &&
        parent.namespace.or row.namespace = gateway.namespace).map fun gateway =>
      { source := gateway, target := row, label := "accepts", role := .gateway, type := .accepts,
        evidence := [parent.path], ports := [] }

def bindsRequests : List AddRequest :=
  match asString (row.spec.field "volumeName") with
  | none => []
  | some volumeName =>
      (findClusterScopedByKindAndName rows row ["PV", "PersistentVolume"] volumeName).map fun pv =>
        { source := row, target := pv, label := "binds", role := .storage, type := .binds,
          evidence := ["spec.volumeName"], ports := [] }

def storageClassRequests : List AddRequest :=
  match (asString (row.spec.field "storageClassName")).or row.storageClass with
  | none => []
  | some storageClass =>
      if storageClass = "" then []
      else (findClusterScopedByKindAndName rows row ["SC", "StorageClass"] storageClass).map
        fun item =>
          { source := row, target := item, label := "class", role := .storage,
            type := .usesStorageClass, evidence := ["spec.storageClassName"], ports := [] }

end Requests

/-- The calls of `add` the loop makes for a row.  The `continue` for an Endpoints object skips
nothing: no later branch takes one. -/
def requestsOf (rows : List TopologyRow) (item : TopologyRow) : List AddRequest :=
  let row := item.row
  (if item.source = .workloads then ownerRequests rows row ++ workloadRequests rows row else []) ++
    (if item.source = .network ∧ row.kind = "Service" then serviceRequests rows row else []) ++
    (if item.source = .network ∧ row.kind = "EndpointSlice" then
      endpointSliceRequests rows row else []) ++
    (if item.source = .network ∧ row.kind = "Endpoints" then endpointsRequests rows row else []) ++
    (if item.source = .network ∧ row.kind = "NetworkPolicy" then
      networkPolicyRequests rows row else []) ++
    (if item.source = .network ∧ (row.kind = "Ingress" ∨ row.kind = "IngressRoute") then
      resolveServiceRoutes rows row .network else []) ++
    (if item.source = .gateway ∧ row.kind = "Gateway" then gatewayRequests rows row else []) ++
    (if item.source = .gateway ∧ isGatewayRoute row.kind then
      acceptsRequests rows row ++ resolveServiceRoutes rows row .gateway else []) ++
    if item.source = .storage ∧ isPersistentVolumeClaim row.kind then
      bindsRequests rows row ++ storageClassRequests rows row else []

structure LocatedRequest extends AddRequest where
  sourceId : String
  targetId : String

def LocatedRequest.id (request : LocatedRequest) : String :=
  request.role.text ++ ":" ++ request.sourceId ++ "->" ++ request.targetId

def locate (resources : List GraphResource) (request : AddRequest) : Option LocatedRequest := do
  let source ← resourceOf resources request.source.id
  let target ← resourceOf resources request.target.id
  if source.id = target.id then none
  else some { request with sourceId := source.id, targetId := target.id }

section Resolve

variable (locale : Locale)

def uniqueSorted (values : List String) : List String :=
  values.eraseDups.insertionSort fun left right => locale.atMost left right = true

def relationsById : Merging LocatedRequest TopologyGraphRelation String where
  keyOf := LocatedRequest.id
  key := TopologyGraphRelation.id
  create request := {
    id := request.id
    source := request.sourceId
    target := request.targetId
    label := request.label
    role := request.role
    type := request.type
    confidence := confidenceFor request.type
    direction := "outbound"
    evidence := uniqueSorted locale request.evidence
    ports := uniqueSorted locale request.ports }
  merge existing request := { existing with
    evidence := uniqueSorted locale (existing.evidence ++ request.evidence)
    ports := uniqueSorted locale (existing.ports ++ request.ports) }
  key_create _ := rfl
  key_merge _ _ := rfl

def addRelation (resources : List GraphResource) (relations : List TopologyGraphRelation)
    (request : AddRequest) : List TopologyGraphRelation :=
  match locate resources request with
  | some request => (relationsById locale).add relations request
  | none => relations

def resolve (rows : List TopologyRow) (resources : List GraphResource) :
    List TopologyGraphRelation :=
  ((rows.flatMap (requestsOf rows)).foldl (addRelation locale resources) []).insertionSort
    fun left right => locale.atMost left.id right.id = true

def graphRelations (version : GraphVersion) (rows : List TopologyRow) :
    List TopologyGraphRelation :=
  resolve locale rows (project locale version rows)

end Resolve

end KubeNova.Topology
