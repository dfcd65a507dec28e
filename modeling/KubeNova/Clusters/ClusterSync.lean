import KubeNova.Foundation.Async
import KubeNova.Foundation.JsValue
import KubeNova.Foundation.Table

/-!
# Copying a cluster into the database

`ClusterSyncService`: the objects of every kind are listed, written to their rows, and the
rows of the kind that were not listed are marked as deleted.  Each kind reports its own
error and leaves the others alone.
-/

namespace KubeNova.Clusters

open KubeNova.Foundation

/-! ## The rows -/

structure NamespaceKey where
  clusterId : String
  name : String
  deriving Repr, DecidableEq

/-- The unique key of workloads, network resources and configurations. -/
structure ResourceKey where
  clusterId : String
  «namespace» : String
  kind : String
  name : String
  deriving Repr, DecidableEq

/-- The unique key of storage resources, which has no namespace in it. -/
structure StorageKey where
  clusterId : String
  kind : String
  name : String
  deriving Repr, DecidableEq

/-- A row under a key that says which object it is; `columns` is what else the sync copies. -/
structure ResourceRow where
  state : String
  columns : Js

structure StorageRow where
  «namespace» : Option String
  state : String
  columns : Js

inductive ResourceTable where
  | workloadRecord
  | networkResource
  | configResource
  deriving Repr, DecidableEq

structure Inventory where
  namespaceRecord : Table NamespaceKey ResourceRow
  resources : ResourceTable → Table ResourceKey ResourceRow
  storageResource : Table StorageKey StorageRow

structure SyncState where
  inventory : Inventory
  calls : Nat
  fault : Nat → Option String

abbrev SyncHandler (α : Type) := Async String SyncState α

def SyncState.serve {α : Type} (f : Inventory → α × Inventory) (s : SyncState) :
    Except String α × SyncState :=
  match s.fault s.calls with
  | some message => (.error message, { s with calls := s.calls + 1 })
  | none => (.ok (f s.inventory).1, { s with inventory := (f s.inventory).2, calls := s.calls + 1 })

def query {α : Type} (f : Inventory → α) : SyncHandler α :=
  Async.exec (SyncState.serve fun s => (f s, s)) >>= Async.ofExcept

def write (f : Inventory → Inventory) : SyncHandler Unit :=
  Async.exec (SyncState.serve fun s => ((), f s)) >>= Async.ofExcept

def Inventory.setNamespaces (s : Inventory) (rows : Table NamespaceKey ResourceRow) : Inventory :=
  { s with namespaceRecord := rows }

def Inventory.setStorage (s : Inventory) (rows : Table StorageKey StorageRow) : Inventory :=
  { s with storageResource := rows }

def Inventory.setResources (s : Inventory) (table : ResourceTable)
    (rows : Table ResourceKey ResourceRow) : Inventory :=
  { s with resources := Function.update s.resources table rows }

/-- An object as a list call answers it: `metadata?.namespace ?? ''`, `metadata?.name ?? ''`,
and what the sync derives from the rest of it. -/
structure LiveObject where
  «namespace» : String
  name : String
  columns : Js

inductive NamespacedKind where
  | pod | deployment | replicaSet | statefulSet | daemonSet | job | cronJob
  | service | endpoints | endpointSlice | ingress | networkPolicy | ingressRoute
  | configMap | secret | serviceAccount
  deriving Repr, DecidableEq

inductive SyncedKind where
  | «namespace»
  | resource (kind : NamespacedKind)
  | pv
  | pvc
  | sc
  deriving Repr, DecidableEq

abbrev ClusterApi := SyncedKind → Except String (List LiveObject)

def NamespacedKind.text : NamespacedKind → String
  | pod => "Pod"
  | deployment => "Deployment"
  | replicaSet => "ReplicaSet"
  | statefulSet => "StatefulSet"
  | daemonSet => "DaemonSet"
  | job => "Job"
  | cronJob => "CronJob"
  | service => "Service"
  | endpoints => "Endpoints"
  | endpointSlice => "EndpointSlice"
  | ingress => "Ingress"
  | networkPolicy => "NetworkPolicy"
  | ingressRoute => "IngressRoute"
  | configMap => "ConfigMap"
  | secret => "Secret"
  | serviceAccount => "ServiceAccount"

def NamespacedKind.table : NamespacedKind → ResourceTable
  | pod | deployment | replicaSet | statefulSet | daemonSet | job | cronJob => .workloadRecord
  | service | endpoints | endpointSlice | ingress | networkPolicy | ingressRoute => .networkResource
  | configMap | secret | serviceAccount => .configResource

section Sync

variable (clusterId : String)

def upsertNamespace (o : LiveObject) (s : Inventory) : Inventory :=
  s.setNamespaces (s.namespaceRecord.upsert ⟨clusterId, o.name⟩ ⟨"active", o.columns⟩
    fun _ => ⟨"active", o.columns⟩)

def upsertResource (kind : NamespacedKind) (o : LiveObject) (s : Inventory) : Inventory :=
  s.setResources kind.table ((s.resources kind.table).upsert
    ⟨clusterId, o.namespace, kind.text, o.name⟩ ⟨"active", o.columns⟩ fun _ => ⟨"active", o.columns⟩)

/-- Volumes and storage classes: an update leaves the namespace of the row as it is. -/
def upsertClusterStorage (kind : String) (o : LiveObject) (s : Inventory) : Inventory :=
  s.setStorage (s.storageResource.upsert ⟨clusterId, kind, o.name⟩ ⟨none, "active", o.columns⟩
    fun row => { row with state := "active", columns := o.columns })

def upsertClaim (o : LiveObject) (s : Inventory) : Inventory :=
  s.setStorage (s.storageResource.upsert ⟨clusterId, "PVC", o.name⟩
    ⟨some o.namespace, "active", o.columns⟩ fun _ => ⟨some o.namespace, "active", o.columns⟩)

def syncItems (skipped : LiveObject → Bool) (liveKey : LiveObject → String)
    (upsert : LiveObject → Inventory → Inventory) :
    List LiveObject → List String → SyncHandler (List String)
  | [], liveKeys => return liveKeys
  | o :: rest, liveKeys =>
      if skipped o then syncItems skipped liveKey upsert rest liveKeys
      else do
        write (upsert o)
        syncItems skipped liveKey upsert rest (liveKeys.insert (liveKey o))

def isUnplaced (o : LiveObject) : Bool := o.namespace == "" || o.name == ""

def isUnnamed (o : LiveObject) : Bool := o.name == ""

def namespacedKey (o : LiveObject) : String := o.namespace ++ "/" ++ o.name

def clusterKey (o : LiveObject) : String := "_cluster/" ++ o.name

def ResourceRow.deleted (row : ResourceRow) : ResourceRow := { row with state := "deleted" }

def StorageRow.deleted (row : StorageRow) : StorageRow := { row with state := "deleted" }

/-- `updateMany` on the names that are not live. -/
def markDeletedNamespaces (liveNames : List String) : SyncHandler Unit :=
  write fun s => s.setNamespaces (s.namespaceRecord.updateWhere
    (fun k row => k.clusterId == clusterId && row.state != "deleted" && !liveNames.contains k.name)
    ResourceRow.deleted)

/-- `updateMany` on the ids. -/
def retireResources (table : ResourceTable) (stale : List ResourceKey) (s : Inventory) : Inventory :=
  s.setResources table
    ((s.resources table).updateWhere (fun k _ => stale.contains k) ResourceRow.deleted)

def retireStorage (stale : List StorageKey) (s : Inventory) : Inventory :=
  s.setStorage (s.storageResource.updateWhere (fun k _ => stale.contains k) StorageRow.deleted)

/-- `markDeletedWorkloads`, `markDeletedNetworkResources` and `markDeletedConfigResources`,
each on its table. -/
def markDeletedResources (table : ResourceTable) (kind : String) (liveKeys : List String) :
    SyncHandler Unit := do
  let existing ← query fun s => (s.resources table).select
    (fun k row => k.clusterId == clusterId && k.kind == kind && row.state != "deleted") fun k _ => k
  let stale := existing.filter fun k => !liveKeys.contains (k.namespace ++ "/" ++ k.name)
  if stale = [] then return ()
  else write (retireResources table stale)

def markDeletedWorkloads (kind : String) (liveKeys : List String) : SyncHandler Unit :=
  markDeletedResources clusterId .workloadRecord kind liveKeys

def markDeletedNetworkResources (kind : String) (liveKeys : List String) : SyncHandler Unit :=
  markDeletedResources clusterId .networkResource kind liveKeys

def markDeletedConfigResources (kind : String) (liveKeys : List String) : SyncHandler Unit :=
  markDeletedResources clusterId .configResource kind liveKeys

def markDeletedStorageResources (kind : String) (liveKeys : List String) : SyncHandler Unit := do
  let existing ← query fun s => s.storageResource.select
    (fun k row => k.clusterId == clusterId && k.kind == kind && row.state != "deleted")
    fun k row => (k, row.namespace)
  let stale := (existing.filter fun row =>
    !liveKeys.contains (row.2.getD "_cluster" ++ "/" ++ row.1.name)).map (·.1)
  if stale = [] then return ()
  else write (retireStorage stale)

/-! ## One kind -/

/-- What a kind adds to the result: its count and the errors it reports. -/
abbrev SyncCount := Nat × List String

/-- Whatever goes wrong with a kind is reported under its name, and counts nothing. -/
def reported (plural : String) (body : SyncHandler Nat) : SyncHandler SyncCount :=
  Async.tryCatch (body >>= fun count => .done (count, []))
    fun message => .done (0, [plural ++ " sync failed: " ++ message])

variable (api : ClusterApi)

def syncNamespaces : SyncHandler SyncCount := reported "Namespaces" do
  let items ← Async.ofExcept (api .namespace)
  let liveNames ← syncItems isUnnamed (·.name) (upsertNamespace clusterId) items []
  markDeletedNamespaces clusterId liveNames
  return liveNames.length

def syncResources (kind : NamespacedKind) (plural : String)
    (markDeleted : String → List String → SyncHandler Unit) : SyncHandler SyncCount :=
  reported plural do
    let items ← Async.ofExcept (api (.resource kind))
    let liveKeys ← syncItems isUnplaced namespacedKey (upsertResource clusterId kind) items []
    markDeleted kind.text liveKeys
    return liveKeys.length

def syncPods : SyncHandler SyncCount :=
  syncResources clusterId api .pod "Pods" (markDeletedWorkloads clusterId)

def syncDeployments : SyncHandler SyncCount :=
  syncResources clusterId api .deployment "Deployments" (markDeletedWorkloads clusterId)

def syncReplicaSets : SyncHandler SyncCount :=
  syncResources clusterId api .replicaSet "ReplicaSets" (markDeletedWorkloads clusterId)

def syncStatefulSets : SyncHandler SyncCount :=
  syncResources clusterId api .statefulSet "StatefulSets" (markDeletedWorkloads clusterId)

def syncDaemonSets : SyncHandler SyncCount :=
  syncResources clusterId api .daemonSet "DaemonSets" (markDeletedWorkloads clusterId)

def syncJobs : SyncHandler SyncCount :=
  syncResources clusterId api .job "Jobs" (markDeletedWorkloads clusterId)

def syncCronJobs : SyncHandler SyncCount :=
  syncResources clusterId api .cronJob "CronJobs" (markDeletedWorkloads clusterId)

def syncServices : SyncHandler SyncCount :=
  syncResources clusterId api .service "Services" (markDeletedNetworkResources clusterId)

def syncEndpoints : SyncHandler SyncCount :=
  syncResources clusterId api .endpoints "Endpoints" (markDeletedNetworkResources clusterId)

def syncEndpointSlices : SyncHandler SyncCount :=
  syncResources clusterId api .endpointSlice "EndpointSlices" (markDeletedNetworkResources clusterId)

def syncIngresses : SyncHandler SyncCount :=
  syncResources clusterId api .ingress "Ingresses" (markDeletedNetworkResources clusterId)

def syncNetworkPolicies : SyncHandler SyncCount :=
  syncResources clusterId api .networkPolicy "NetworkPolicies"
    (markDeletedNetworkResources clusterId)

def syncIngressRoutes : SyncHandler SyncCount :=
  syncResources clusterId api .ingressRoute "IngressRoutes" (markDeletedNetworkResources clusterId)

def syncConfigMaps : SyncHandler SyncCount :=
  syncResources clusterId api .configMap "ConfigMaps" (markDeletedConfigResources clusterId)

def syncSecrets : SyncHandler SyncCount :=
  syncResources clusterId api .secret "Secrets" (markDeletedConfigResources clusterId)

def syncServiceAccounts : SyncHandler SyncCount :=
  syncResources clusterId api .serviceAccount "ServiceAccounts" (markDeletedConfigResources clusterId)

def syncClusterStorage (listed : SyncedKind) (kind plural : String) : SyncHandler SyncCount :=
  reported plural do
    let items ← Async.ofExcept (api listed)
    let liveKeys ← syncItems isUnnamed clusterKey (upsertClusterStorage clusterId kind) items []
    markDeletedStorageResources clusterId kind liveKeys
    return liveKeys.length

def syncPersistentVolumes : SyncHandler SyncCount :=
  syncClusterStorage clusterId api .pv "PV" "PersistentVolumes"

def syncPersistentVolumeClaims : SyncHandler SyncCount := reported "PersistentVolumeClaims" do
  let items ← Async.ofExcept (api .pvc)
  let liveKeys ← syncItems isUnplaced namespacedKey (upsertClaim clusterId) items []
  markDeletedStorageResources clusterId "PVC" liveKeys
  return liveKeys.length

def syncStorageClasses : SyncHandler SyncCount :=
  syncClusterStorage clusterId api .sc "SC" "StorageClasses"

structure SyncResult where
  ok : Bool
  counts : List (String × Nat)
  errors : List String

/-- `runClusterSync`; `usage` is the error of the usage statistics, which touch no row of a
synced kind. -/
def runClusterSync (usage : Option String) : SyncHandler SyncResult := do
  let namespaces ← syncNamespaces clusterId api
  let pods ← syncPods clusterId api
  let deployments ← syncDeployments clusterId api
  let replicasets ← syncReplicaSets clusterId api
  let statefulsets ← syncStatefulSets clusterId api
  let daemonsets ← syncDaemonSets clusterId api
  let jobs ← syncJobs clusterId api
  let cronjobs ← syncCronJobs clusterId api
  let services ← syncServices clusterId api
  let endpoints ← syncEndpoints clusterId api
  let endpointSlices ← syncEndpointSlices clusterId api
  let ingresses ← syncIngresses clusterId api
  let networkPolicies ← syncNetworkPolicies clusterId api
  let ingressRoutes ← syncIngressRoutes clusterId api
  let configmaps ← syncConfigMaps clusterId api
  let secrets ← syncSecrets clusterId api
  let serviceaccounts ← syncServiceAccounts clusterId api
  let pvs ← syncPersistentVolumes clusterId api
  let pvcs ← syncPersistentVolumeClaims clusterId api
  let storageclasses ← syncStorageClasses clusterId api
  let parts := [("namespaces", namespaces), ("pods", pods), ("deployments", deployments),
    ("replicasets", replicasets), ("statefulsets", statefulsets), ("daemonsets", daemonsets),
    ("jobs", jobs), ("cronjobs", cronjobs), ("services", services), ("endpoints", endpoints),
    ("endpointSlices", endpointSlices), ("ingresses", ingresses),
    ("networkPolicies", networkPolicies), ("ingressRoutes", ingressRoutes),
    ("configmaps", configmaps), ("secrets", secrets), ("serviceaccounts", serviceaccounts),
    ("pvs", pvs), ("pvcs", pvcs), ("storageclasses", storageclasses)]
  let errors := parts.flatMap (fun part => part.2.2) ++ usage.toList
  return ⟨errors == [], parts.map fun part => (part.1, part.2.1), errors⟩

end Sync
end KubeNova.Clusters
