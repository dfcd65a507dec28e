import KubeNova.Foundation.JsContainment
import KubeNova.Common.Exceptions

/-!
# Creating a workload

`create` sends an object with the requested spec to the cluster and stores the spec in a row.  The
spec is cleaned first: members that are undefined or null go, and with them objects and lists of
which nothing is left.  A spec of which nothing is left at all is taken as it came.
-/

namespace KubeNova.Workloads

open KubeNova.Foundation KubeNova.Common

mutual

/-- `stripUndefinedDeep(value)`: the members of the object, where none stand for its `null`.
Assigning to `__proto__` makes no member. -/
def stripUndefinedDeep : List (String × Js) → List (String × Js)
  | [] => []
  | (key, item) :: rest =>
      match stripItem item with
      | some kept =>
          if key = "__proto__" then stripUndefinedDeep rest
          else (key, kept) :: stripUndefinedDeep rest
      | none => stripUndefinedDeep rest

def stripItem : Js → Option Js
  | .undefined => none
  | .null => none
  | .array entries =>
      match stripEntries entries with
      | [] => none
      | list => some (.array list)
  | .object fields =>
      match stripUndefinedDeep fields with
      | [] => none
      | nested => some (.object nested)
  | item => some item

def stripEntries : List Js → List Js
  | [] => []
  | .object fields :: rest =>
      match stripUndefinedDeep fields with
      | [] => stripEntries rest
      | nested => .object nested :: stripEntries rest
  | entry :: rest => entry :: stripEntries rest

end

def normalizeCreateSpec : Js → Option Js
  | .object fields =>
      match stripUndefinedDeep fields with
      | [] => none
      | cleaned => some (.object cleaned)
  | _ => none

/-! ## The object for the cluster -/

structure WorkloadCreateDto where
  clusterId : String
  ns : String
  kind : String
  name : String
  replicas : Js
  readyReplicas : Js
  spec : Js
  statusJson : Js
  labels : Js
  annotations : Js

/-- `{ ...dto, ...(spec ? { spec } : {}) }` -/
def WorkloadCreateDto.withSpec (dto : WorkloadCreateDto) : Option Js → WorkloadCreateDto
  | some spec => { dto with spec := spec }
  | none => dto

def kindNames : List (String × String) := [
  ("pod", "Pod"),
  ("pods", "Pod"),
  ("deployment", "Deployment"),
  ("deployments", "Deployment"),
  ("statefulset", "StatefulSet"),
  ("statefulsets", "StatefulSet"),
  ("daemonset", "DaemonSet"),
  ("daemonsets", "DaemonSet"),
  ("replicaset", "ReplicaSet"),
  ("replicasets", "ReplicaSet"),
  ("job", "Job"),
  ("jobs", "Job"),
  ("cronjob", "CronJob"),
  ("cronjobs", "CronJob")]

def normalizeKind (kind : String) : String :=
  (kindNames.lookup (Text.toLower (Text.trim kind))).getD kind

structure ClusterObject where
  apiVersion : String
  kind : String
  name : String
  ns : String
  labels : List (String × String)
  spec : List (String × Js)

def appLabels (name : String) : Js := .object [("app", .string name)]

def defaultPodSpec : List (String × Js) :=
  [("containers", .array [.object [("name", .string "main"), ("image", .string "nginx:alpine")]])]

def templateOf (name : String) (podSpec : List (String × Js)) : Js :=
  .object [("metadata", .object [("labels", appLabels name)]), ("spec", .object podSpec)]

def defaultTemplate (name : String) : Js := templateOf name defaultPodSpec

def jobTemplate (name : String) : Js :=
  templateOf name (Js.spread defaultPodSpec [("restartPolicy", .string "OnFailure")])

def selectorOf (name : String) : Js := .object [("matchLabels", appLabels name)]

def defaultSpec (dto : WorkloadCreateDto) (kind : String) : Option (List (String × Js)) :=
  let replicas := ("replicas", dto.replicas.orElse (.ofInt 1))
  let selector := ("selector", selectorOf dto.name)
  let template := ("template", defaultTemplate dto.name)
  if kind = "Deployment" then some [replicas, selector, template]
  else if kind = "StatefulSet" then
    some [("serviceName", .string (dto.name ++ "-svc")), replicas, selector, template]
  else if kind = "DaemonSet" then some [selector, template]
  else if kind = "ReplicaSet" then some [replicas, selector, template]
  else if kind = "Job" then some [("template", jobTemplate dto.name)]
  else if kind = "CronJob" then
    some [("schedule", .string "*/5 * * * *"),
      ("jobTemplate", .object [("spec", .object [("template", jobTemplate dto.name)])])]
  else none

def rawSpec (dto : WorkloadCreateDto) : List (String × Js) :=
  match dto.spec with
  | .object fields => fields
  | _ => []

def apiVersionOf (kind : String) : String :=
  if kind = "Job" ∨ kind = "CronJob" then "batch/v1" else "apps/v1"

/-- The object `createWorkloadInCluster` sends, for the kinds it creates. -/
def clusterObject (dto : WorkloadCreateDto) : Option ClusterObject :=
  let kind := normalizeKind dto.kind
  if kind = "Pod" then
    some { apiVersion := "v1", kind := kind, name := dto.name, ns := dto.ns,
           labels := [("app", dto.name)], spec := defaultPodSpec }
  else
    (defaultSpec dto kind).map fun defaults =>
      { apiVersion := apiVersionOf kind, kind := kind, name := dto.name, ns := dto.ns,
        labels := [], spec := Js.spread defaults (rawSpec dto) }

structure WorkloadRow where
  clusterId : String
  ns : String
  kind : String
  name : String
  state : String
  replicas : Js
  readyReplicas : Js
  spec : Js
  statusJson : Js
  labels : Js
  annotations : Js

/-- The row `repository.create` inserts. -/
def workloadRow (dto : WorkloadCreateDto) : WorkloadRow where
  clusterId := dto.clusterId
  ns := dto.ns
  kind := dto.kind
  name := dto.name
  state := "active"
  replicas := dto.replicas.orElse .null
  readyReplicas := dto.readyReplicas.orElse .null
  spec := dto.spec.orElse .null
  statusJson := dto.statusJson.orElse .null
  labels := dto.labels.orElse .null
  annotations := dto.annotations.orElse .null

/-- What the registry, the cluster and the database answer. -/
structure Surroundings where
  permitted : Bool
  kubeconfig : Option String
  accepted : ClusterObject → Except String Unit
  inserted : WorkloadRow → Except Exception Unit

/-- What a call of `create` sends and stores, and how it ends. -/
structure Creation where
  sent : Option ClusterObject
  stored : Option WorkloadRow
  outcome : Except Exception Unit

/-- `repository.create`, after the object was sent. -/
def storeWorkload (surroundings : Surroundings) (dto : WorkloadCreateDto)
    (sent : Option ClusterObject) : Creation :=
  match surroundings.inserted (workloadRow dto) with
  | .ok () => ⟨sent, some (workloadRow dto), .ok ()⟩
  | .error error => ⟨sent, none, .error error⟩

def create (surroundings : Surroundings) (dto : WorkloadCreateDto) : Creation :=
  if !surroundings.permitted then ⟨none, none, .error (.forbidden "工作负载不在授权范围内")⟩
  else
    let dto := dto.withSpec (normalizeCreateSpec dto.spec)
    match surroundings.kubeconfig with
    | none => ⟨none, none, .error (.badRequest "目标集群未配置 kubeconfig")⟩
    | some _ =>
        match clusterObject dto with
        | none => storeWorkload surroundings dto none
        | some object =>
            match surroundings.accepted object with
            | .error message =>
                ⟨some object, none,
                  .error (.badRequest (normalizeKind dto.kind ++ " 创建失败: " ++ message))⟩
            | .ok () => storeWorkload surroundings dto (some object)

end KubeNova.Workloads
