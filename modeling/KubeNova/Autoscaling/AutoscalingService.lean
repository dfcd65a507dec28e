import KubeNova.Access.ClusterAccess
import KubeNova.Autoscaling.Policies
import KubeNova.Common.Date
import KubeNova.Common.Governance
import KubeNova.Foundation.Confinement
import Mathlib.Data.List.Sort

/-!
# The autoscaling service

`AutoscalingController` and `AutoscalingService` over the states of the clusters, with a record of
the objects they read and write.  One request is served at a time; which clusters are online, and
what the health service and the cluster registry answer, is fixed for it.
-/

namespace KubeNova.Autoscaling

open KubeNova.Foundation KubeNova.Common KubeNova.Access

/-- An error of the cluster client, with what the service looks at in it. -/
structure ApiError where
  statusCode : Option Nat
  responseStatusCode : Option Nat
  status : Option Nat
  message : String
  bodyMessage : Option String
  reason : Option String
  /-- The error and its body as JSON. -/
  json : String
  deriving DecidableEq

structure ClusterEvent where
  «namespace» : String
  type : Option String
  reason : Option String
  message : Option String
  involvedKind : Option String
  involvedName : Option String
  involvedNamespace : Option String
  time : Int
  deriving DecidableEq

inductive ApiCall where
  | list (apiVersion kind : String)
  | read (apiVersion kind : String)
  | create (kind : String)
  | replace (kind : String)
  | delete (kind : String)
  | events
  deriving DecidableEq

structure ClusterState where
  objects : List K8sObject
  events : List ClusterEvent
  refused : ApiCall → Option ApiError
  isSlow : Bool

structure Place where
  clusterId : String
  «namespace» : String
  deriving Repr, DecidableEq

abbrev Clusters : Type := String → ClusterState

abbrev Handler (α : Type) : Type := Async Exception (Traced Place Clusters) α

/-- `item.state` and `item.hasKubeconfig` of the cluster list. -/
structure ClusterSummary where
  id : String
  state : String
  hasKubeconfig : Option Bool
  deriving Repr, DecidableEq

structure AutoscalingService where
  now : Int
  listReadableClusterIdsForResourceRead : List String
  clusters : List ClusterSummary
  assertClusterOnlineForRead : String → Except Exception Unit
  kubeconfigOf : String → Option String
  localeCompare : String → String → Int
  /-- The errors of the client for an object that is missing, one that is there already and one
  that has been changed in the meantime. -/
  missing : ApiError
  alreadyExists : ApiError
  conflict : ApiError
  /-- The uid of the next object created. -/
  newUid : String

/-! ## The cluster -/

def K8sObject.isAt (apiVersion kind «namespace» name : String) (object : K8sObject) : Bool :=
  object.apiVersion == apiVersion && object.kind == kind && object.namespace == «namespace» &&
    object.name == name

def Place.read (place : Place) : Access Place := ⟨false, place⟩

def Place.write (place : Place) : Access Place := ⟨true, place⟩

def Clusters.set (clusters : Clusters) (clusterId : String) (objects : List K8sObject) :
    Clusters := fun id => if id = clusterId then { clusters id with objects := objects }
  else clusters id

def listAcrossNamespaces (clusterId apiVersion kind : String) :
    Handler (Except ApiError (List K8sObject)) :=
  access fun clusters =>
    match (clusters clusterId).refused (.list apiVersion kind) with
    | some e => (.error e, clusters, [])
    | none =>
        let found := (clusters clusterId).objects.filter fun object =>
          object.apiVersion == apiVersion && object.kind == kind
        (.ok found, clusters, found.map fun object => Place.read ⟨clusterId, object.namespace⟩)

namespace AutoscalingService

variable (service : AutoscalingService)

def readObject (clusterId apiVersion kind «namespace» name : String) :
    Handler (Except ApiError K8sObject) :=
  access fun clusters =>
    match (clusters clusterId).refused (.read apiVersion kind) with
    | some e => (.error e, clusters, [])
    | none =>
        match (clusters clusterId).objects.find? (K8sObject.isAt apiVersion kind «namespace» name)
        with
        | none => (.error service.missing, clusters, [])
        | some object => (.ok object, clusters, [Place.read ⟨clusterId, «namespace»⟩])

def createObject (clusterId apiVersion kind «namespace» name : String) (spec : Js) :
    Handler (Except ApiError K8sObject) :=
  access fun clusters =>
    match (clusters clusterId).refused (.create kind) with
    | some e => (.error e, clusters, [])
    | none =>
        if (clusters clusterId).objects.any (K8sObject.isAt apiVersion kind «namespace» name) then
          (.error service.alreadyExists, clusters, [])
        else
          let created : K8sObject := ⟨apiVersion, kind, «namespace», name, service.newUid, 1,
            toISOString service.now, [], spec, .undefined⟩
          (.ok created, clusters.set clusterId ((clusters clusterId).objects ++ [created]),
            [Place.write ⟨clusterId, «namespace»⟩])

def replaceObject (clusterId apiVersion kind «namespace» name : String) (resourceVersion : Nat)
    (spec : Js) : Handler (Except ApiError K8sObject) :=
  access fun clusters =>
    match (clusters clusterId).refused (.replace kind) with
    | some e => (.error e, clusters, [])
    | none =>
        let here := K8sObject.isAt apiVersion kind «namespace» name
        match (clusters clusterId).objects.find? here with
        | none => (.error service.missing, clusters, [])
        | some object =>
            if resourceVersion ≠ 0 ∧ resourceVersion ≠ object.resourceVersion then
              (.error service.conflict, clusters, [])
            else
              let replaced := { object with
                spec := spec, annotations := [], resourceVersion := object.resourceVersion + 1 }
              (.ok replaced,
                clusters.set clusterId ((clusters clusterId).objects.map fun other =>
                  if here other then replaced else other),
                [Place.write ⟨clusterId, «namespace»⟩])

def deleteObject (clusterId apiVersion kind «namespace» name : String) (resourceVersion : Nat) :
    Handler (Except ApiError Unit) :=
  access fun clusters =>
    match (clusters clusterId).refused (.delete kind) with
    | some e => (.error e, clusters, [])
    | none =>
        let here := K8sObject.isAt apiVersion kind «namespace» name
        match (clusters clusterId).objects.find? here with
        | none => (.error service.missing, clusters, [])
        | some object =>
            if resourceVersion ≠ 0 ∧ resourceVersion ≠ object.resourceVersion then
              (.error service.conflict, clusters, [])
            else
              (.ok (), clusters.set clusterId ((clusters clusterId).objects.filter fun other =>
                  !here other),
                [Place.write ⟨clusterId, «namespace»⟩])

def listNamespacedEvent (clusterId «namespace» resourceName : String) :
    Handler (Except ApiError (List ClusterEvent)) :=
  access fun clusters =>
    match (clusters clusterId).refused .events with
    | some e => (.error e, clusters, [])
    | none =>
        let found := (clusters clusterId).events.filter fun event =>
          event.namespace == «namespace» && event.involvedName == some resourceName &&
            event.involvedNamespace == some «namespace»
        (.ok found, clusters, found.map fun _ => Place.read ⟨clusterId, «namespace»⟩)

def getErrorStatusCode (e : ApiError) : Option Nat :=
  (e.statusCode.orElse fun _ => e.responseStatusCode).orElse fun _ => e.status

def extractK8sErrorMessage (e : ApiError) : String :=
  match e.bodyMessage with
  | some message =>
      if Text.trim message = "" then e.message else e.message ++ " (" ++ message ++ ")"
  | none => e.message

def isAlreadyExistsError (e : ApiError) : Bool :=
  getErrorStatusCode e == some 409 || e.reason == some "AlreadyExists"

/-- `text.replace(/\s+/g, ' ')`. -/
def squeezeSpaces : List Char → List Char
  | [] => []
  | c :: rest =>
      if Text.isSpace c then
        match squeezeSpaces rest with
        | ' ' :: squeezed => ' ' :: squeezed
        | squeezed => ' ' :: squeezed
      else c :: squeezeSpaces rest

def isMissingAutoscalingResourceError (e : ApiError) : Bool :=
  let text := String.ofList (squeezeSpaces (Text.toLower e.json).toList)
  getErrorStatusCode e == some 404 &&
    ["not found", "notfound", "could not be found", "missing"].any (Text.contains · text)

def rethrown (e : ApiError) : Exception := .error e.message

/-! ## Listing -/

structure AutoscalingListQuery where
  clusterId : Option String
  «namespace» : Option String
  kind : Option String
  type : Option String
  state : Option String
  keyword : Option String
  /-- The number the text reads as, zero for none. -/
  page : Nat
  pageSize : Nat
  sortBy : Option String
  sortOrder : Option String

structure AutoscalingOverview where
  totalPolicies : Nat
  enabledPolicies : Nat
  hpaPolicies : Nat
  vpaPolicies : Nat
  coveredWorkloads : Nat
  uncoveredWorkloads : Nat
  deriving DecidableEq

structure PolicyList where
  items : List AutoscalingPolicyItem
  total : Nat
  page : Nat
  pageSize : Nat
  overview : AutoscalingOverview

/-- `value?.trim() || undefined`. -/
def trimmed (value : Option String) : Option String :=
  match value with
  | none => none
  | some text => if Text.trim text = "" then none else some (Text.trim text)

def getKubeconfig (clusterId : String) : Except Exception String :=
  match service.kubeconfigOf clusterId with
  | none => .error (.notFound "集群 kubeconfig 不可用")
  | some kubeconfig =>
      if kubeconfig = "" then .error (.notFound "集群 kubeconfig 不可用") else .ok kubeconfig

def listAllReadableClusterIds : List String :=
  ((service.clusters.filter fun item => item.state == "active" &&
    item.hasKubeconfig != some false).map (·.id)).dedup

def resolveClusterIds (clusterId : Option String) : List String :=
  match trimmed clusterId with
  | some id => [id]
  | none =>
      (service.listReadableClusterIdsForResourceRead ++ service.listAllReadableClusterIds).dedup

def filterSummary (item : AutoscalingPolicyItem) (kind keyword : Option String) : Bool :=
  (kind.all fun kind => kind == "" || item.workloadKind == kind) &&
    keyword.all fun keyword => keyword == "" || Text.contains (Text.toLower keyword)
      (Text.toLower (item.workloadKind ++ "/" ++ item.workloadName ++ " " ++ item.resourceName ++
        " " ++ item.namespace))

/-- `listHpas` and `listVpas`. -/
def listPolicies (query : AutoscalingListQuery) (clusterId : String) (type : AutoscalingType) :
    Handler (List AutoscalingPolicyItem) := do
  let _ ← Async.ofExcept (service.getKubeconfig clusterId)
  let answer ← listAcrossNamespaces clusterId type.apiVersion type.kind
  match answer with
  | .error _ => return []
  | .ok items =>
      return ((items.filter fun item =>
          query.namespace.all fun wanted => wanted == "" || item.namespace == wanted).map
        fun item => attachClusterId (toPolicyItem item type) clusterId).filter fun item =>
          filterSummary item query.kind query.keyword

def listHpas (query : AutoscalingListQuery) (clusterId : String) :
    Handler (List AutoscalingPolicyItem) :=
  service.listPolicies query clusterId .hpa

def listVpas (query : AutoscalingListQuery) (clusterId : String) :
    Handler (List AutoscalingPolicyItem) :=
  service.listPolicies query clusterId .vpa

def listCluster (query : AutoscalingListQuery) (clusterId : String) :
    Handler (List AutoscalingPolicyItem) := do
  let hpas ← service.listHpas query clusterId
  let vpas ← service.listVpas query clusterId
  let isSlow ← Async.query fun s : Traced Place Clusters => (s.store clusterId).isSlow
  Async.ensure (isSlow = false) (.error "TIMEOUT")
  return hpas ++ vpas

/-- `Promise.allSettled` over the clusters: those that fail are left out. -/
def listClusters (query : AutoscalingListQuery) : List String → Handler (List AutoscalingPolicyItem)
  | [] => .done []
  | clusterId :: rest => do
      let settled ← (service.listCluster query clusterId).toExcept
      let others ← listClusters query rest
      match settled with
      | .ok items => return items ++ others
      | .error _ => return others

/-- `Date.parse` with zero for what is no date. -/
def compareTimestamps (left right : String) : Int :=
  (parseDate left).getD 0 - (parseDate right).getD 0

def compareAutoscalingItems (left right : AutoscalingPolicyItem) (sortBy : Option String)
    (sortOrder : String) : Int :=
  let direction : Int := if sortOrder = "asc" then 1 else -1
  let field := sortBy.getD "updatedAt"
  let cmp :=
    if field = "name" ∨ field = "workloadName" then
      service.localeCompare left.workloadName right.workloadName
    else if field = "namespace" then service.localeCompare left.namespace right.namespace
    else if field = "clusterId" then service.localeCompare left.clusterId right.clusterId
    else if field = "updatedAt" ∨ field = "createdAt" then
      compareTimestamps left.updatedAt right.updatedAt
    else 0
  if cmp ≠ 0 then cmp * direction
  else service.localeCompare
    (left.clusterId ++ "/" ++ left.namespace ++ "/" ++ left.workloadName)
    (right.clusterId ++ "/" ++ right.namespace ++ "/" ++ right.workloadName)

def countCoveredWorkloads (items : List AutoscalingPolicyItem) : Nat :=
  (items.map fun item => item.clusterId ++ "/" ++ item.namespace ++ "/" ++ item.workloadKind ++
    "/" ++ item.workloadName).dedup.length

/-- What `list` makes of the policies found. -/
def present (query : AutoscalingListQuery) (summaries : List AutoscalingPolicyItem) : PolicyList :=
  let page := if query.page = 0 then 1 else query.page
  let pageSize := if query.pageSize = 0 then 20 else query.pageSize
  let sortOrder := if query.sortOrder = some "asc" then "asc" else "desc"
  let chosen := (summaries.filter fun item =>
      query.type.all fun type => type == "" || item.type.text == type).filter fun item =>
    query.state.all fun state => state == "" || item.state == state
  let items := chosen.insertionSort fun a b =>
    service.compareAutoscalingItems a b (query.sortBy.map Text.trim) sortOrder ≤ 0
  { items := (items.drop ((page - 1) * pageSize)).take pageSize
    total := items.length
    page := page
    pageSize := pageSize
    overview :=
      { totalPolicies := items.length
        enabledPolicies := (items.filter (·.enabled)).length
        hpaPolicies := (items.filter (·.type == .hpa)).length
        vpaPolicies := (items.filter (·.type == .vpa)).length
        coveredWorkloads := countCoveredWorkloads items
        uncoveredWorkloads := 0 } }

def list (query : AutoscalingListQuery) : Handler PolicyList := do
  let summaries ← service.listClusters query (service.resolveClusterIds query.clusterId)
  return service.present query summaries

/-! ## Writing policies -/

structure CreateAutoscalingPolicyRequest where
  clusterId : Option String
  «namespace» : Option String
  kind : Option String
  name : Option String
  type : String
  hpa : Option HpaPolicyInput
  vpa : Option VpaPolicyInput

structure UpdateAutoscalingPolicyRequest where
  hpa : Option HpaPolicyInput
  vpa : Option VpaPolicyInput

structure ResourceQuery where
  clusterId : Option String
  «namespace» : Option String

def resolveResourceIdentity (query : ResourceQuery) (kind name : String) :
    Except Exception Identity :=
  match trimmed query.clusterId, trimmed query.namespace with
  | some clusterId, some «namespace» => .ok ⟨clusterId, «namespace», kind, name⟩
  | _, _ => .error (.badRequest "clusterId 和 namespace 不能为空")

def normalizeIdentity (body : CreateAutoscalingPolicyRequest) : Except Exception Identity :=
  match trimmed body.clusterId, trimmed body.namespace, trimmed body.kind, trimmed body.name with
  | some clusterId, some «namespace», some kind, some name =>
      .ok ⟨clusterId, «namespace», kind, name⟩
  | _, _, _, _ => .error (.badRequest "clusterId、namespace、kind、name 不能为空")

def normalizeType (type : String) : Except Exception AutoscalingType :=
  match type with
  | "HPA" => .ok .hpa
  | "VPA" => .ok .vpa
  | _ => .error (.badRequest "type 必须是 HPA 或 VPA")

def assertWorkloadExists (identity : Identity) : Handler Unit := do
  let _ ← Async.ofExcept (service.getKubeconfig identity.clusterId)
  let answer ← service.readObject identity.clusterId (resolveWorkloadApiVersion identity.kind)
    identity.kind identity.namespace identity.name
  match answer with
  | .ok _ => return ()
  | .error e =>
      if e.responseStatusCode = some 404 then
        throw (.badRequest ("目标工作负载不存在: " ++ identity.kind ++ " " ++ identity.namespace ++
          "/" ++ identity.name))
      else throw (rethrown e)

/-- The errors that `createHpa` and `createVpa` make of one of the client. -/
def creationError (type : AutoscalingType) (identity : Identity) (notInstalled : String)
    (e : ApiError) : Exception :=
  if getErrorStatusCode e = some 404 then .badRequest notInstalled
  else if isAlreadyExistsError e then
    .conflict (type.text ++ " 策略已存在: " ++ identity.namespace ++ "/" ++ identity.name)
  else .badRequest (type.text ++ " 创建失败: " ++ extractK8sErrorMessage e)

def createHpa (identity : Identity) (config : HpaConfig) : Handler K8sObject := do
  let _ ← Async.ofExcept (service.getKubeconfig identity.clusterId)
  let answer ← service.createObject identity.clusterId hpaApiVersion hpaKind identity.namespace
    (resolveAutoscalingResourceName identity.name "-hpa") (toHpaSpec identity config none)
  Async.ofExcept (answer.mapError (creationError .hpa identity
    "HPA 创建失败: 当前集群未安装 autoscaling/v2 HorizontalPodAutoscaler API"))

/-- The name of the policy goes to `toVpaObject` as the name of the workload. -/
def createVpa (identity : Identity) (config : VpaConfig) : Handler K8sObject := do
  let _ ← Async.ofExcept (service.getKubeconfig identity.clusterId)
  let answer ← service.createObject identity.clusterId vpaApiVersion vpaKind identity.namespace
    (writtenName identity.name "-vpa")
    (toVpaSpec identity config (some (resolveAutoscalingResourceName identity.name "-vpa")))
  Async.ofExcept (answer.mapError (creationError .vpa identity
    "VPA 创建失败: 当前集群未安装 autoscaling.k8s.io/v1 VerticalPodAutoscaler CRD"))

/-- `updateHpa` and `updateVpa`. -/
def replacePolicy (type : AutoscalingType) (identity : Identity) (plural name : String)
    (resourceVersion : Nat) (spec : Js) : Handler K8sObject := do
  let _ ← Async.ofExcept (service.getKubeconfig identity.clusterId)
  let answer ← service.replaceObject identity.clusterId type.apiVersion type.kind
    identity.namespace name resourceVersion spec
  Async.ofExcept (answer.mapError fun e =>
    if isMissingAutoscalingResourceError e then
      .badRequest (type.text ++ " 更新失败: " ++ plural ++ " \"" ++ name ++ "\" not found")
    else .badRequest (type.text ++ " 更新失败: " ++ extractK8sErrorMessage e))

def updateHpa (identity : Identity) (config : HpaConfig) (resourceVersion : Nat)
    (workloadName : String) : Handler K8sObject :=
  service.replacePolicy .hpa identity "horizontalpodautoscalers.autoscaling"
    (writtenName identity.name "-hpa") resourceVersion
    (toHpaSpec identity config (some workloadName))

def updateVpa (identity : Identity) (config : VpaConfig) (resourceVersion : Nat)
    (workloadName : String) : Handler K8sObject :=
  service.replacePolicy .vpa identity "verticalpodautoscalers.autoscaling.k8s.io"
    (writtenName identity.name "-vpa") resourceVersion (toVpaSpec identity config (some workloadName))

def deleteHpa (identity : Identity) (resourceVersion : Nat) : Handler Unit := do
  let _ ← Async.ofExcept (service.getKubeconfig identity.clusterId)
  let answer ← service.deleteObject identity.clusterId hpaApiVersion hpaKind identity.namespace
    identity.name resourceVersion
  Async.ofExcept (answer.mapError fun e =>
    .badRequest ("HPA 删除失败: " ++ extractK8sErrorMessage e))

def deleteVpa (identity : Identity) (resourceVersion : Nat) : Handler Unit := do
  let _ ← Async.ofExcept (service.getKubeconfig identity.clusterId)
  let answer ← service.deleteObject identity.clusterId vpaApiVersion vpaKind identity.namespace
    identity.name resourceVersion
  Async.ofExcept (answer.mapError fun e =>
    if getErrorStatusCode e = some 404 then
      .badRequest "VPA 删除失败: 当前集群未安装 autoscaling.k8s.io/v1 VerticalPodAutoscaler CRD"
    else .badRequest ("VPA 删除失败: " ++ extractK8sErrorMessage e))

/-- `readHpa` and `readVpa`, with the error where there is nothing. -/
def readPolicy (type : AutoscalingType) (identity : Identity) : Handler K8sObject := do
  let _ ← Async.ofExcept (service.getKubeconfig identity.clusterId)
  let answer ← service.readObject identity.clusterId type.apiVersion type.kind identity.namespace
    identity.name
  Async.ofExcept (answer.mapError fun e =>
    if e.responseStatusCode = some 404 then .notFound (type.text ++ " 策略不存在") else rethrown e)

/-- The end of `create`, where the workload exists. -/
def createPolicy (identity : Identity) (body : CreateAutoscalingPolicyRequest) :
    Handler AutoscalingPolicyItem := do
  let type ← Async.ofExcept (normalizeType body.type)
  match type with
  | .hpa =>
      let config ← Async.ofExcept (buildHpaConfig body.hpa)
      let created ← service.createHpa identity config
      return attachClusterId (toPolicyItem created .hpa) identity.clusterId
  | .vpa =>
      let config ← Async.ofExcept (buildVpaConfig body.vpa)
      let created ← service.createVpa identity config
      return attachClusterId (toPolicyItem created .vpa) identity.clusterId

def create (actor : Option Actor) (body : CreateAutoscalingPolicyRequest) :
    Handler AutoscalingPolicyItem := do
  Async.ofExcept (assertWritePermission actor)
  let identity ← Async.ofExcept (normalizeIdentity body)
  Async.ofExcept (service.assertClusterOnlineForRead identity.clusterId)
  service.assertWorkloadExists identity
  service.createPolicy identity body

/-- What an update of the HPA asks for, with the present values where it says nothing. -/
def mergedHpa (input : Option HpaPolicyInput) (current : K8sObject) : HpaPolicyInput :=
  let metrics := current.spec.field "metrics"
  { minReplicas := (input.bind (·.minReplicas)).orElse fun _ =>
      some (readNumber (current.spec.field "minReplicas") 1)
    maxReplicas := (input.bind (·.maxReplicas)).orElse fun _ =>
      some (readNumber (current.spec.field "maxReplicas") 1)
    targetCpuUtilizationPercentage := (input.bind (·.targetCpuUtilizationPercentage)).orElse
      fun _ => (readTargetCpu metrics).map Int.cast
    targetMemoryUtilizationPercentage := (input.bind (·.targetMemoryUtilizationPercentage)).orElse
      fun _ => (readTargetMemory metrics).map Int.cast
    metrics := Js.orElse ((input.map HpaPolicyInput.metrics).getD .undefined)
      (readHpaMetrics metrics)
    behavior := Js.orElse ((input.map HpaPolicyInput.behavior).getD .undefined)
      (readHpaBehavior (current.spec.field "behavior")) }

def mergedVpa (input : Option VpaPolicyInput) (current : K8sObject) : VpaPolicyInput :=
  let policy := current.spec.field "resourcePolicy"
  { updateMode := (input.bind (·.updateMode)).orElse fun _ =>
      some (readVpaUpdateMode ((current.spec.field "updatePolicy").field "updateMode"))
    minAllowedCpu := (input.bind (·.minAllowedCpu)).orElse fun _ =>
      readVpaResourceLimit policy "cpu" "minAllowed"
    maxAllowedCpu := (input.bind (·.maxAllowedCpu)).orElse fun _ =>
      readVpaResourceLimit policy "cpu" "maxAllowed"
    minAllowedMemory := (input.bind (·.minAllowedMemory)).orElse fun _ =>
      readVpaResourceLimit policy "memory" "minAllowed"
    maxAllowedMemory := (input.bind (·.maxAllowedMemory)).orElse fun _ =>
      readVpaResourceLimit policy "memory" "maxAllowed"
    controlledResources := (input.bind (·.controlledResources)).orElse fun _ =>
      some (readVpaControlledResources policy) }

def workloadNameOf (reference : String) (current : K8sObject) (identity : Identity) : String :=
  ((current.spec.field reference).field "name").text?.getD identity.name

/-- The end of `update`, from the present policy on. -/
def replaceCurrent (identity : Identity) (body : UpdateAutoscalingPolicyRequest)
    (current : K8sObject) : AutoscalingType → Handler AutoscalingPolicyItem
  | .hpa => do
      let config ← Async.ofExcept (buildHpaConfig (some (mergedHpa body.hpa current)))
      let updated ← service.updateHpa identity config current.resourceVersion
        (workloadNameOf "scaleTargetRef" current identity)
      return attachClusterId (toPolicyItem updated .hpa) identity.clusterId
  | .vpa => do
      let config ← Async.ofExcept (buildVpaConfig (some (mergedVpa body.vpa current)))
      let updated ← service.updateVpa identity config current.resourceVersion
        (workloadNameOf "targetRef" current identity)
      return attachClusterId (toPolicyItem updated .vpa) identity.clusterId

def update (actor : Option Actor) (type kind name : String) (query : ResourceQuery)
    (body : UpdateAutoscalingPolicyRequest) : Handler AutoscalingPolicyItem := do
  Async.ofExcept (assertWritePermission actor)
  let identity ← Async.ofExcept (resolveResourceIdentity query kind name)
  let type ← Async.ofExcept (normalizeType type)
  Async.ofExcept (service.assertClusterOnlineForRead identity.clusterId)
  let current ← service.readPolicy type identity
  service.replaceCurrent identity body current type

def setPolicyState (actor : Option Actor) (type kind name : String) (query : ResourceQuery)
    (enabled : Bool) : Handler AutoscalingPolicyItem := do
  let normalizedType ← Async.ofExcept (normalizeType type)
  Async.ensure (normalizedType = .vpa) (.badRequest "HPA 不支持启用/停用，请直接编辑或删除策略")
  service.update actor normalizedType.text kind name query
    ⟨none, some ⟨some (if enabled then "Auto" else "Off"), none, none, none, none, none⟩⟩

structure DeletedPolicy where
  message : String
  type : AutoscalingType
  clusterId : String
  «namespace» : String
  kind : String
  name : String
  timestamp : String

def deleteCurrent (identity : Identity) (current : K8sObject) : AutoscalingType → Handler Unit
  | .hpa => service.deleteHpa identity current.resourceVersion
  | .vpa => service.deleteVpa identity current.resourceVersion

def delete (actor : Option Actor) (type kind name : String) (query : ResourceQuery) :
    Handler DeletedPolicy := do
  Async.ofExcept (assertWritePermission actor)
  let identity ← Async.ofExcept (resolveResourceIdentity query kind name)
  let type ← Async.ofExcept (normalizeType type)
  Async.ofExcept (service.assertClusterOnlineForRead identity.clusterId)
  let current ← service.readPolicy type identity
  service.deleteCurrent identity current type
  return ⟨type.text ++ " 策略删除成功", type, identity.clusterId, identity.namespace, kind, name,
    toISOString service.now⟩

structure EventQuery where
  clusterId : Option String
  «namespace» : Option String
  kind : Option String
  name : Option String
  /-- The number the text reads as, zero for none. -/
  hours : Nat

structure EventItem where
  type : String
  reason : String
  message : String
  kind : String
  name : String
  «namespace» : String
  timestamp : String

structure EventList where
  clusterId : String
  «namespace» : String
  hours : Nat
  items : List EventItem
  total : Nat
  timestamp : String

def eventIdentity (query : EventQuery) : Except Exception Identity :=
  match trimmed query.clusterId, trimmed query.namespace, trimmed query.kind, trimmed query.name with
  | some clusterId, some «namespace», some kind, some name =>
      .ok ⟨clusterId, «namespace», kind, name⟩
  | _, _, _, _ => .error (.badRequest "clusterId、namespace、kind、name 不能为空")

def eventResourceName (identity : Identity) : String :=
  if identity.kind = hpaKind then resolveAutoscalingResourceName identity.name "-hpa"
  else if identity.kind = vpaKind then resolveAutoscalingResourceName identity.name "-vpa"
  else Text.trim identity.name

def toEventItem (identity : Identity) (event : ClusterEvent) : EventItem :=
  { type := event.type.getD "Normal"
    reason := event.reason.getD "-"
    message := event.message.getD "-"
    kind := event.involvedKind.getD identity.kind
    name := event.involvedName.getD (eventResourceName identity)
    «namespace» := event.involvedNamespace.getD identity.namespace
    timestamp := toISOString event.time }

def listEvents (query : EventQuery) : Handler EventList := do
  let identity ← Async.ofExcept (eventIdentity query)
  Async.ofExcept (service.assertClusterOnlineForRead identity.clusterId)
  let _ ← Async.ofExcept (service.getKubeconfig identity.clusterId)
  let answer ← listNamespacedEvent identity.clusterId identity.namespace
    (eventResourceName identity)
  let events ← Async.ofExcept (answer.mapError rethrown)
  let hours := if query.hours = 0 then 24 else query.hours
  let recent := events.filter fun event => service.now - hours * 3600 * 1000 ≤ event.time
  let items := (recent.map (toEventItem identity)).insertionSort fun a b =>
    service.localeCompare b.timestamp a.timestamp ≤ 0
  return ⟨identity.clusterId, identity.namespace, hours, items, items.length,
    toISOString service.now⟩

/-- The requests of `AutoscalingController`. -/
inductive AutoscalingRequest where
  | list (query : AutoscalingListQuery)
  | events (query : EventQuery)
  | create (body : CreateAutoscalingPolicyRequest)
  | update (type kind name : String) (query : ResourceQuery) (body : UpdateAutoscalingPolicyRequest)
  | setState (type kind name : String) (query : ResourceQuery) (enabled : Bool)
  | delete (type kind name : String) (query : ResourceQuery)

inductive AutoscalingAnswer where
  | policies (list : PolicyList)
  | events (list : EventList)
  | policy (item : AutoscalingPolicyItem)
  | deleted (policy : DeletedPolicy)

def passedOn (query : AutoscalingListQuery) : AutoscalingListQuery :=
  { query with
    clusterId := trimmed query.clusterId
    «namespace» := trimmed query.namespace
    kind := trimmed query.kind
    keyword := trimmed query.keyword
    sortBy := trimmed query.sortBy }

def serve (actor : Option Actor) : AutoscalingRequest → Handler AutoscalingAnswer
  | .list query => do return .policies (← service.list (passedOn query))
  | .events query => do return .events (← service.listEvents query)
  | .create body => do return .policy (← service.create actor body)
  | .update type kind name query body => do
      return .policy (← service.update actor type kind name query body)
  | .setState type kind name query enabled => do
      return .policy (← service.setPolicyState actor type kind name query enabled)
  | .delete type kind name query => do
      return .deleted (← service.delete actor type kind name query)

end AutoscalingService

end KubeNova.Autoscaling
