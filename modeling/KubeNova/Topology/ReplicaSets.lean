import KubeNova.Topology.Resources
import Mathlib.Algebra.Order.Ring.Rat
import Mathlib.Data.List.Sort
import Mathlib.Tactic.Common

/-!
# Which replica sets the topology shows

`ClusterSyncService.syncReplicaSets` writes a row for every replica set, with its annotations in a
column of their own; `loadRows` does not read that column, and `collapseDeploymentReplicaSets` looks
for the revision in the status, where it never is.
-/

namespace KubeNova.Topology

open KubeNova.Foundation

structure OwnerReference where
  apiVersion : Option String
  kind : Option String
  name : Option String
  uid : Option String
  controller : Option Bool
  blockOwnerDeletion : Option Bool

structure LiveReplicaSet where
  «namespace» : String
  name : String
  uid : Option String
  labels : List (String × String)
  annotations : List (String × String)
  ownerReferences : List OwnerReference
  creationTimestamp : Option String
  spec : Js
  specReplicas : Option Int
  replicas : Option Int
  readyReplicas : Option Int
  availableReplicas : Option Int
  fullyLabeledReplicas : Option Int
  image : Js
  images : Js
  imageResolution : Js

structure WorkloadRecord where
  id : String
  clusterId : String
  «namespace» : String
  kind : String
  name : String
  state : String
  replicas : Option Int
  readyReplicas : Option Int
  spec : Js
  statusJson : Js
  labels : Js
  annotations : Js
  updatedAt : Int

/-- `value ?? null` -/
def orNull {α : Type} (f : α → Js) (value : Option α) : Js := value.elim .null f

def optional {α : Type} (f : α → Js) (value : Option α) : Js := value.elim .undefined f

def textFields (texts : List (String × String)) : Js :=
  .object (texts.map fun field => (field.1, .string field.2))

def OwnerReference.json (owner : OwnerReference) : Js := .object [
  ("apiVersion", orNull .string owner.apiVersion),
  ("kind", orNull .string owner.kind),
  ("name", orNull .string owner.name),
  ("uid", orNull .string owner.uid),
  ("controller", .bool (owner.controller.getD false)),
  ("blockOwnerDeletion", .bool (owner.blockOwnerDeletion.getD false))]

def LiveReplicaSet.statusJson (rs : LiveReplicaSet) : Js := (Js.object [
  ("replicas", optional .ofInt rs.replicas),
  ("uid", orNull .string rs.uid),
  ("readyReplicas", optional .ofInt rs.readyReplicas),
  ("availableReplicas", optional .ofInt rs.availableReplicas),
  ("fullyLabeledReplicas", optional .ofInt rs.fullyLabeledReplicas),
  ("image", rs.image),
  ("images", rs.images),
  ("imageResolution", rs.imageResolution),
  ("ownerReferences", .array (rs.ownerReferences.map OwnerReference.json)),
  ("creationTimestamp", orNull .string rs.creationTimestamp)]).clone

/-- The row `syncReplicaSets` writes, whether it creates or updates it. -/
def replicaSetRecord (id clusterId : String) (updatedAt : Int) (rs : LiveReplicaSet) :
    WorkloadRecord where
  id := id
  clusterId := clusterId
  «namespace» := rs.namespace
  kind := "ReplicaSet"
  name := rs.name
  state := "active"
  replicas := rs.specReplicas
  readyReplicas := rs.readyReplicas
  spec := rs.spec.clone
  statusJson := rs.statusJson
  labels := textFields rs.labels
  annotations := textFields rs.annotations
  updatedAt := updatedAt

/-- What `loadRows` selects of a row. -/
def WorkloadRecord.topologyRow (record : WorkloadRecord) : TopologyRow where
  source := .workloads
  row := {
    id := record.id
    clusterId := record.clusterId
    «namespace» := some record.namespace
    kind := record.kind
    name := record.name
    spec := record.spec
    statusJson := record.statusJson
    labels := record.labels
    replicas := record.replicas
    readyReplicas := record.readyReplicas
    storageClass := none
    updatedAt := record.updatedAt }

/-! ## Collapsing the replica sets of a deployment -/

/-- `Number(text)` where it is finite, and `left.localeCompare(right) <= 0`. -/
structure Locale where
  toNumber : String → Option ℚ
  atMost : String → String → Bool
  total : ∀ a b, atMost a b = true ∨ atMost b a = true
  trans : ∀ a b c, atMost a b = true → atMost b c = true → atMost a c = true

variable (locale : Locale)

def revisionKey : String := "deployment.kubernetes.io/revision"

/-- `Number(asString(annotations?.[…]))`, and 0 for what is no finite number. -/
def revisionOf (annotations : Js) : ℚ :=
  ((asString (annotations.field revisionKey)).bind locale.toNumber).getD 0

def replicaSetRevision (row : PersistedResource) : ℚ :=
  match (row.statusJson.field "metadata").field "annotations" with
  | .object fields => revisionOf locale (.object fields)
  | _ => revisionOf locale (row.statusJson.field "annotations")

def ownerRefs (row : PersistedResource) : List Js :=
  asArray (row.statusJson.field "ownerReferences") ++
    asArray ((row.statusJson.field "metadata").field "ownerReferences")

abbrev WorkloadKey := String × String × String

def keyOf (row : PersistedResource) (name : String) : WorkloadKey :=
  (row.clusterId, row.namespace.getD "", name)

def deploymentKeys (rows : List TopologyRow) : List WorkloadKey :=
  (rows.filter fun item => item.source = .workloads ∧ item.row.kind = "Deployment").map
    fun item => keyOf item.row item.row.name

def ownerKey? (row : PersistedResource) (ref : Js) : Option WorkloadKey :=
  if asString (ref.field "kind") = some "Deployment" then
    (asString (ref.field "name")).map (keyOf row)
  else none

def isReplicaSet (item : TopologyRow) : Bool :=
  item.source = .workloads && item.row.kind = "ReplicaSet"

def candidates (rows : List TopologyRow) (key : WorkloadKey) : List TopologyRow :=
  (rows.filter isReplicaSet).flatMap fun item =>
    ((ownerRefs item.row).filter fun ref => ownerKey? item.row ref = some key).map fun _ => item

/-- `Date.parse(String(updatedAt))`, which keeps the seconds. -/
def updatedSecond (row : PersistedResource) : Int := row.updatedAt / 1000

def goesFirst (left right : TopologyRow) : Prop :=
  let lr := replicaSetRevision locale left.row
  let rr := replicaSetRevision locale right.row
  if lr ≠ rr then rr < lr
  else
    let l := left.row.readyReplicas.getD 0
    let r := right.row.readyReplicas.getD 0
    if l ≠ r then r < l
    else
      let lReplicas := left.row.replicas.getD 0
      let rReplicas := right.row.replicas.getD 0
      if lReplicas ≠ rReplicas then rReplicas < lReplicas
      else
        let lt := updatedSecond left.row
        let rt := updatedSecond right.row
        if lt ≠ rt then rt < lt
        else locale.atMost right.row.name left.row.name = true

instance : DecidableRel (goesFirst locale) := fun _ _ => by unfold goesFirst; infer_instance

def retained (rows : List TopologyRow) : List String :=
  (deploymentKeys rows).filterMap fun key =>
    ((candidates rows key).insertionSort (goesFirst locale)).head?.map (·.row.id)

def hasDeploymentOwner (row : PersistedResource) : Bool :=
  (ownerRefs row).any fun ref => asString (ref.field "kind") = some "Deployment"

def collapseDeploymentReplicaSets (rows : List TopologyRow) : List TopologyRow :=
  rows.filter fun item =>
    !isReplicaSet item || !hasDeploymentOwner item.row ||
      (retained locale rows).contains item.row.id

end KubeNova.Topology
