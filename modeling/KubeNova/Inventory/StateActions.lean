import KubeNova.Clusters.ClusterSync
import KubeNova.Common.Exceptions
import KubeNova.Foundation.RelyGuarantee

/-!
# Disabled resources

The actions `enable`, `disable` and `delete` of the workloads, the network resources and the storage
resources write the state of a row that the cluster sync writes as well.
-/

namespace KubeNova.Inventory

open KubeNova.Clusters (ResourceTable ResourceKey StorageKey ResourceRow StorageRow SyncState
  ClusterApi SyncResult runClusterSync)
open KubeNova.Common KubeNova.Foundation

/-- A row of one of the tables, by its unique key, which stands for its id. -/
inductive RowRef where
  | resource (table : ResourceTable) (key : ResourceKey)
  | storage (key : StorageKey)
  deriving Repr, DecidableEq

def rowOf (s : Clusters.Inventory) : RowRef → Option StorageRow
  | .resource table key => ((s.resources table).lookup key).map fun row =>
      ⟨none, row.state, row.columns⟩
  | .storage key => s.storageResource.lookup key

def setRowState (state : String) (s : Clusters.Inventory) : RowRef → Clusters.Inventory
  | .resource table key => s.setResources table
      ((s.resources table).update key fun row => { row with state := state })
  | .storage key => s.setStorage (s.storageResource.update key fun row => { row with state := state })

inductive StateAction where
  | enable
  | disable
  | delete
  deriving Repr, DecidableEq

def StateAction.state : StateAction → String
  | enable => "active"
  | disable => "disabled"
  | delete => "deleted"

/-- `completed` are the enable and disable actions that have been completed, the last one first;
nothing reads it. -/
structure ActionWorld where
  sync : SyncState
  completed : List (RowRef × StateAction)

abbrev ActionHandler (α : Type) := Async Exception ActionWorld α

def record (ref : RowRef) (action : StateAction) (completed : List (RowRef × StateAction)) :
    List (RowRef × StateAction) :=
  if action = .delete then completed else (ref, action) :: completed

def findById (ref : RowRef) : ActionHandler (Option StorageRow) :=
  ((Clusters.query fun s => rowOf s ref).mapError Exception.error).zoom (·.sync)
    fun sync w => { w with sync := sync }

/-- `update({ where: { id }, data: { state } })`; with it an action is completed. -/
def setState (ref : RowRef) (action : StateAction) : ActionHandler StorageRow :=
  Async.exec (fun w =>
    let called := { w with sync := { w.sync with calls := w.sync.calls + 1 } }
    match w.sync.fault w.sync.calls, rowOf w.sync.inventory ref with
    | some message, _ => (.error (.error message), called)
    | none, none => (.error (.database "P2025"), called)
    | none, some row =>
        let sync := { called.sync with inventory := setRowState action.state w.sync.inventory ref }
        (.ok { row with state := action.state }, ⟨sync, record ref action w.completed⟩)) >>=
    Async.ofExcept

structure ActionTexts where
  missing : Exception
  deleted : StateAction → Exception

/-- `scope` is the check of the actor's scope, `removed` the answer of the cluster to the deletion
of the object. -/
def applyAction (texts : ActionTexts) (scope : StorageRow → Except Exception Unit)
    (removed : Except Exception Unit) (ref : RowRef) (action : StateAction) :
    ActionHandler StorageRow := do
  let found ← findById ref
  let existing ← Async.ofExcept (found.elim (.error texts.missing) .ok)
  Async.ofExcept (scope existing)
  Async.ensure (existing.state ≠ "deleted") (texts.deleted action)
  Async.ofExcept (if action = .delete then removed else .ok ())
  setState ref action

def workloadTexts (id : String) : ActionTexts where
  missing := .notFound ("工作负载 " ++ id ++ " 不存在")
  deleted _ := .badRequest "已删除工作负载不可执行动作"

def resourceTexts (resource id : String) : ActionTexts where
  missing := .notFound (resource ++ " " ++ id ++ " 不存在")
  deleted
    | .enable => .badRequest "已删除的资源不可启用"
    | .disable => .badRequest "已删除的资源不可禁用"
    | .delete => .badRequest "资源已删除"

inductive ActionService where
  | workloads
  | network
  | storage
  deriving Repr, DecidableEq

def ActionService.texts (id : String) : ActionService → ActionTexts
  | workloads => workloadTexts id
  | network => resourceTexts "NetworkResource" id
  | storage => resourceTexts "StorageResource" id

def ActionService.Owns : ActionService → RowRef → Prop
  | workloads, .resource table _ => table = .workloadRecord
  | network, .resource table _ => table = .networkResource
  | storage, .storage _ => True
  | _, _ => False

inductive ActionAnswer where
  | synced (result : SyncResult)
  | acted (ref : RowRef) (action : StateAction)

def serveSync (clusterId : String) (api : ClusterApi) (usage : Option String) :
    ActionHandler ActionAnswer :=
  (((runClusterSync clusterId api usage).mapError Exception.error).zoom (·.sync)
    fun sync w => { w with sync := sync }) >>= fun result => return .synced result

def serveAction (service : ActionService) (id : String)
    (scope : StorageRow → Except Exception Unit) (removed : Except Exception Unit) (ref : RowRef)
    (action : StateAction) : ActionHandler ActionAnswer :=
  applyAction (service.texts id) scope removed ref action >>= fun _ => return .acted ref action

inductive ServesState : ActionHandler ActionAnswer → Prop
  | sync (clusterId : String) (api : ClusterApi) (usage : Option String) :
      ServesState (serveSync clusterId api usage)
  | action {service : ActionService} {ref : RowRef} (id : String)
      (scope : StorageRow → Except Exception Unit) (removed : Except Exception Unit)
      (action : StateAction) : service.Owns ref →
      ServesState (serveAction service id scope removed ref action)

def FaultsChange (s t : ActionWorld) : Prop :=
  t.sync.inventory = s.sync.inventory ∧ t.completed = s.completed

def lastAction (ref : RowRef) (w : ActionWorld) : Option StateAction :=
  (w.completed.find? fun entry => entry.1 == ref).map (·.2)

def StateKept (ref : RowRef) (w : ActionWorld) : Prop :=
  ((rowOf w.sync.inventory ref).map (·.state) = some "disabled") ↔ lastAction ref w = some .disable

def Spares (ref : RowRef) (s t : ActionWorld) : Prop :=
  lastAction ref s = some .disable → t.completed = s.completed →
    rowOf t.sync.inventory ref = rowOf s.sync.inventory ref

end KubeNova.Inventory
