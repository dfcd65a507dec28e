import KubeNova.Inventory.StateActions

/-!
# A disabled resource and the sync

Every write of the sync leaves the row it writes active or deleted, whatever it was before.  So a
disabled row stays so exactly as long as the sync, and a deletion, leave it alone.
-/

namespace KubeNova.Inventory

open KubeNova.Clusters (ResourceTable ResourceKey StorageKey ResourceRow StorageRow SyncState
  SyncHandler NamespacedKind LiveObject ClusterApi SyncResult runClusterSync)
open KubeNova.Common KubeNova.Foundation

/-! ## What the sync writes -/

def Overwritten (ref : RowRef) (s t : Clusters.Inventory) : Prop :=
  rowOf t ref = rowOf s ref ∨ ∃ row, rowOf t ref = some row ∧ row.state ≠ "disabled"

def syncProtocol (ref : RowRef) : Protocol SyncState where
  inv _ := True
  guar s t := Overwritten ref s.inventory t.inventory
  refl _ := .inl rfl
  preserves _ _ := trivial

section

variable {ref : RowRef}

theorem obeys_query {α : Type} (f : Clusters.Inventory → α) :
    Obeys (syncProtocol ref) (Clusters.query f) := by
  refine .bind (.exec fun s _ => .inl ?_) fun r => .ofExcept r
  unfold SyncState.serve
  split <;> rfl

theorem obeys_write {f : Clusters.Inventory → Clusters.Inventory}
    (hf : ∀ s, Overwritten ref s (f s)) : Obeys (syncProtocol ref) (Clusters.write f) := by
  refine .bind (.exec fun s _ => ?_) fun r => .ofExcept r
  show Overwritten ref s.inventory (SyncState.serve (fun s => ((), f s)) s).2.inventory
  unfold SyncState.serve
  split
  · exact .inl rfl
  · exact hf s.inventory

/-! ### The tables -/

theorem rowOf_setNamespaces (s : Clusters.Inventory) (rows : Table Clusters.NamespaceKey ResourceRow) :
    rowOf (s.setNamespaces rows) ref = rowOf s ref := by
  cases ref with
  | resource table key => rfl
  | storage key => rfl

theorem overwritten_setResources {s : Clusters.Inventory} {table : ResourceTable}
    {rows : Table ResourceKey ResourceRow}
    (h : ∀ key, rows.lookup key = (s.resources table).lookup key ∨
      ∃ row, rows.lookup key = some row ∧ row.state ≠ "disabled") :
    Overwritten ref s (s.setResources table rows) := by
  cases ref with
  | storage key => exact .inl rfl
  | resource other key =>
      by_cases htable : other = table
      · subst htable
        have hrows : rowOf (s.setResources other rows) (.resource other key) =
            (rows.lookup key).map fun row => ⟨none, row.state, row.columns⟩ := by
          simp [rowOf, Clusters.Inventory.setResources]
        unfold Overwritten
        rw [hrows]
        rcases h key with hsame | ⟨row, hrow, hstate⟩
        · rw [hsame]
          exact .inl rfl
        · rw [hrow]
          exact .inr ⟨_, rfl, hstate⟩
      · refine .inl ?_
        simp [rowOf, Clusters.Inventory.setResources, Function.update_of_ne htable]

theorem overwritten_setStorage {s : Clusters.Inventory} {rows : Table StorageKey StorageRow}
    (h : ∀ key, rows.lookup key = s.storageResource.lookup key ∨
      ∃ row, rows.lookup key = some row ∧ row.state ≠ "disabled") :
    Overwritten ref s (s.setStorage rows) := by
  cases ref with
  | resource table key => exact .inl rfl
  | storage key => exact h key

theorem lookup_retire {κ ν : Type} [DecidableEq κ] {state : ν → String} {p : κ → ν → Bool}
    {f : ν → ν} (hf : ∀ row, state (f row) = "deleted") (t : Table κ ν) (key : κ) :
    (t.updateWhere p f).lookup key = t.lookup key ∨
      ∃ row, (t.updateWhere p f).lookup key = some row ∧ state row ≠ "disabled" := by
  rw [Table.lookup_updateWhere]
  cases hrow : t.lookup key with
  | none => exact .inl rfl
  | some row =>
      rw [Option.map_some]
      cases hp : p key row with
      | false => exact .inl rfl
      | true =>
          refine .inr ⟨f row, rfl, ?_⟩
          rw [hf]
          decide

theorem lookup_upsert_active {κ ν : Type} [DecidableEq κ] {state : ν → String} {create : ν}
    {change : ν → ν} (hcreate : state create = "active") (hchange : ∀ row, state (change row) = "active")
    (t : Table κ ν) (written key : κ) :
    (t.upsert written create change).lookup key = t.lookup key ∨
      ∃ row, (t.upsert written create change).lookup key = some row ∧ state row ≠ "disabled" := by
  rw [Table.lookup_upsert]
  split
  · refine .inr ⟨_, rfl, ?_⟩
    cases t.lookup written with
    | none =>
        rw [Option.elim_none, hcreate]
        decide
    | some row =>
        rw [Option.elim_some, hchange]
        decide
  · exact .inl rfl

/-! ### The parts of a run -/

theorem obeys_syncItems {skipped : LiveObject → Bool} {liveKey : LiveObject → String}
    {upsert : LiveObject → Clusters.Inventory → Clusters.Inventory}
    (hupsert : ∀ o s, Overwritten ref s (upsert o s)) (items : List LiveObject)
    (liveKeys : List String) :
    Obeys (syncProtocol ref) (Clusters.syncItems skipped liveKey upsert items liveKeys) := by
  induction items generalizing liveKeys with
  | nil => exact .done liveKeys
  | cons o rest ih =>
      unfold Clusters.syncItems
      split
      · exact ih liveKeys
      · exact .bind (obeys_write (hupsert o)) fun _ => ih _

theorem obeys_reported {plural : String} {body : SyncHandler Nat}
    (h : Obeys (syncProtocol ref) body) :
    Obeys (syncProtocol ref) (Clusters.reported plural body) :=
  .tryCatch (.bind h fun _ => .done _) fun _ => .done _

theorem obeys_markDeletedResources (clusterId : String) (table : ResourceTable) (kind : String)
    (liveKeys : List String) :
    Obeys (syncProtocol ref) (Clusters.markDeletedResources clusterId table kind liveKeys) := by
  refine .bind (obeys_query _) fun existing => .ite (.done ()) (obeys_write fun s => ?_)
  exact overwritten_setResources fun key => lookup_retire (fun row => rfl) _ key

theorem obeys_markDeletedStorage (clusterId kind : String) (liveKeys : List String) :
    Obeys (syncProtocol ref) (Clusters.markDeletedStorageResources clusterId kind liveKeys) := by
  refine .bind (obeys_query _) fun existing => .ite (.done ()) (obeys_write fun s => ?_)
  exact overwritten_setStorage fun key => lookup_retire (fun row => rfl) _ key

theorem obeys_syncNamespaces (clusterId : String) (api : ClusterApi) :
    Obeys (syncProtocol ref) (Clusters.syncNamespaces clusterId api) := by
  refine obeys_reported (.bind (.ofExcept _) fun items => .bind ?_ fun liveNames => ?_)
  · exact obeys_syncItems (fun o s => .inl (rowOf_setNamespaces s _)) _ _
  · exact .bind (obeys_write fun s => .inl (rowOf_setNamespaces s _)) fun _ => .done _

theorem obeys_syncResources (clusterId : String) (api : ClusterApi) (kind : NamespacedKind)
    (plural : String) (table : ResourceTable) :
    Obeys (syncProtocol ref) (Clusters.syncResources clusterId api kind plural
      (Clusters.markDeletedResources clusterId table)) := by
  refine obeys_reported (.bind (.ofExcept _) fun items => .bind ?_ fun liveKeys => ?_)
  · refine obeys_syncItems (fun o s => ?_) _ _
    exact overwritten_setResources fun key =>
      lookup_upsert_active rfl (fun row => rfl) _ _ key
  · exact .bind (obeys_markDeletedResources _ _ _ _) fun _ => .done _

theorem obeys_syncClusterStorage (clusterId : String) (api : ClusterApi)
    (listed : Clusters.SyncedKind) (kind plural : String) :
    Obeys (syncProtocol ref) (Clusters.syncClusterStorage clusterId api listed kind plural) := by
  refine obeys_reported (.bind (.ofExcept _) fun items => .bind ?_ fun liveKeys => ?_)
  · refine obeys_syncItems (fun o s => ?_) _ _
    exact overwritten_setStorage fun key => lookup_upsert_active rfl (fun row => rfl) _ _ key
  · exact .bind (obeys_markDeletedStorage _ _ _) fun _ => .done _

theorem obeys_syncClaims (clusterId : String) (api : ClusterApi) :
    Obeys (syncProtocol ref) (Clusters.syncPersistentVolumeClaims clusterId api) := by
  refine obeys_reported (.bind (.ofExcept _) fun items => .bind ?_ fun liveKeys => ?_)
  · refine obeys_syncItems (fun o s => ?_) _ _
    exact overwritten_setStorage fun key => lookup_upsert_active rfl (fun row => rfl) _ _ key
  · exact .bind (obeys_markDeletedStorage _ _ _) fun _ => .done _

theorem obeys_runClusterSync (clusterId : String) (api : ClusterApi) (usage : Option String) :
    Obeys (syncProtocol ref) (runClusterSync clusterId api usage) := by
  have resources (kind : NamespacedKind) (plural : String) (table : ResourceTable) :=
    @obeys_syncResources ref clusterId api kind plural table
  have volumes (listed : Clusters.SyncedKind) (kind plural : String) :=
    @obeys_syncClusterStorage ref clusterId api listed kind plural
  refine .bind (obeys_syncNamespaces clusterId api) fun _ => ?_
  refine .bind (resources .pod _ _) fun _ => .bind (resources .deployment _ _) fun _ => ?_
  refine .bind (resources .replicaSet _ _) fun _ => .bind (resources .statefulSet _ _) fun _ => ?_
  refine .bind (resources .daemonSet _ _) fun _ => .bind (resources .job _ _) fun _ => ?_
  refine .bind (resources .cronJob _ _) fun _ => .bind (resources .service _ _) fun _ => ?_
  refine .bind (resources .endpoints _ _) fun _ => .bind (resources .endpointSlice _ _) fun _ => ?_
  refine .bind (resources .ingress _ _) fun _ => .bind (resources .networkPolicy _ _) fun _ => ?_
  refine .bind (resources .ingressRoute _ _) fun _ => .bind (resources .configMap _ _) fun _ => ?_
  refine .bind (resources .secret _ _) fun _ => .bind (resources .serviceAccount _ _) fun _ => ?_
  refine .bind (volumes .pv _ _) fun _ => .bind (obeys_syncClaims clusterId api) fun _ => ?_
  exact .bind (volumes .sc _ _) fun _ => .done _

end

theorem rowOf_setRowState (state : String) (s : Clusters.Inventory) (written ref : RowRef) :
    rowOf (setRowState state s written) ref =
      if ref = written then (rowOf s ref).map fun row => { row with state := state }
      else rowOf s ref := by
  cases written with
  | storage key =>
      cases ref with
      | resource table other => simp [rowOf, setRowState, Clusters.Inventory.setStorage]
      | storage other =>
          simp only [rowOf, setRowState, Clusters.Inventory.setStorage, RowRef.storage.injEq]
          split
          · rename_i hkey
            rw [hkey, Table.lookup_update_self]
          · rename_i hkey
            exact Table.lookup_update_ne _ _ hkey
  | resource table key =>
      cases ref with
      | storage other => simp [rowOf, setRowState, Clusters.Inventory.setResources]
      | resource table' other =>
          simp only [rowOf, setRowState, Clusters.Inventory.setResources, RowRef.resource.injEq]
          by_cases htable : table' = table
          · subst htable
            rw [Function.update_self]
            split
            · rename_i hkey
              rw [hkey.2, Table.lookup_update_self, Option.map_map, Option.map_map]
              rfl
            · rename_i hkey
              rw [Table.lookup_update_ne _ _ fun heq => hkey ⟨rfl, heq⟩]
          · rw [Function.update_of_ne htable, if_neg fun h => htable h.1]

/-- One step of a sync or of an action, for one row: an action is completed, on this row or on
another one, or the row is left alone or overwritten. -/
def Moves (ref : RowRef) (s t : ActionWorld) : Prop :=
  (t.completed = s.completed ∧ Overwritten ref s.sync.inventory t.sync.inventory) ∨
    ∃ written action, action ≠ .delete ∧ t.completed = (written, action) :: s.completed ∧
      if ref = written then
        ∃ row, rowOf t.sync.inventory ref = some row ∧ row.state = action.state
      else rowOf t.sync.inventory ref = rowOf s.sync.inventory ref

def actionProtocol (ref : RowRef) : Protocol ActionWorld where
  inv _ := True
  guar := Moves ref
  refl _ := .inl ⟨rfl, .inl rfl⟩
  preserves _ _ := trivial

section

variable {ref : RowRef}

theorem obeys_zoom {α : Type} {h : SyncHandler α} (hh : Obeys (syncProtocol ref) h) :
    Obeys (actionProtocol ref) ((h.mapError Exception.error).zoom (·.sync)
      fun sync (w : ActionWorld) => { w with sync := sync }) :=
  .zoom hh.mapError (fun _ _ => trivial) fun _ _ _ hstep => .inl ⟨rfl, hstep⟩

theorem moves_setState {written : RowRef} {action : StateAction} {s : ActionWorld}
    {row : StorageRow} {calls : Nat} (hrow : rowOf s.sync.inventory written = some row) :
    Moves ref s ⟨⟨setRowState action.state s.sync.inventory written, calls, s.sync.fault⟩,
      record written action s.completed⟩ := by
  have hwritten := rowOf_setRowState action.state s.sync.inventory written ref
  by_cases hdelete : action = .delete
  · refine .inl ⟨by rw [record, if_pos hdelete], ?_⟩
    by_cases href : ref = written
    · rw [if_pos href, href, hrow, Option.map_some] at hwritten
      refine .inr ⟨_, by rw [href]; exact hwritten, ?_⟩
      rw [hdelete]
      show StateAction.delete.state ≠ "disabled"
      decide
    · rw [if_neg href] at hwritten
      exact .inl hwritten
  · refine .inr ⟨written, action, hdelete, by rw [record, if_neg hdelete], ?_⟩
    split
    · rename_i href
      rw [if_pos href, href, hrow, Option.map_some] at hwritten
      exact ⟨_, by rw [href]; exact hwritten, rfl⟩
    · rename_i href
      rw [if_neg href] at hwritten
      exact hwritten

theorem obeys_setState (written : RowRef) (action : StateAction) :
    Obeys (actionProtocol ref) (setState written action) := by
  refine .bind (.exec fun s _ => ?_) fun r => .ofExcept r
  dsimp only
  split
  · exact .inl ⟨rfl, .inl rfl⟩
  · exact .inl ⟨rfl, .inl rfl⟩
  · rename_i row _ hrow
    exact moves_setState hrow

theorem obeys_applyAction {texts : ActionTexts} {scope : StorageRow → Except Exception Unit}
    {removed : Except Exception Unit} (written : RowRef) (action : StateAction) :
    Obeys (actionProtocol ref) (applyAction texts scope removed written action) := by
  refine .bind (obeys_zoom (obeys_query _)) fun found => .bind (.ofExcept _) fun existing => ?_
  refine .bind (.ofExcept _) fun _ => .bind (.ensure _ _) fun _ => .bind (.ofExcept _) fun _ => ?_
  exact obeys_setState written action

theorem obeys_serves {h : ActionHandler ActionAnswer} (hh : ServesState h) :
    Obeys (actionProtocol ref) h := by
  cases hh with
  | sync clusterId api usage =>
      exact .bind (obeys_zoom (obeys_runClusterSync clusterId api usage)) fun _ => .done _
  | action id scope removed action hrow =>
      exact .bind (obeys_applyAction _ action) fun _ => .done _

theorem moves_of_faultsChange {s t : ActionWorld} (h : FaultsChange s t) : Moves ref s t :=
  .inl ⟨h.2, .inl (by rw [h.1])⟩

/-! ## Steps that keep the state -/

theorem lastAction_of_completed {s t : ActionWorld} (h : t.completed = s.completed) :
    lastAction ref t = lastAction ref s := by
  unfold lastAction
  rw [h]

theorem lastAction_of_cons {s t : ActionWorld} {written : RowRef} {action : StateAction}
    (h : t.completed = (written, action) :: s.completed) :
    lastAction ref t = if written = ref then some action else lastAction ref s := by
  unfold lastAction
  rw [h, List.find?_cons]
  by_cases href : written = ref
  · simp [href]
  · rw [if_neg href, beq_false_of_ne href]

theorem state_eq_disabled_iff (action : StateAction) :
    action.state = "disabled" ↔ action = .disable := by
  cases action <;> decide

theorem StateKept.complete {s t : ActionWorld} {written : RowRef} {action : StateAction}
    (hs : StateKept ref s) (hcompleted : t.completed = (written, action) :: s.completed)
    (hrow : if ref = written then
        ∃ row, rowOf t.sync.inventory ref = some row ∧ row.state = action.state
      else rowOf t.sync.inventory ref = rowOf s.sync.inventory ref) : StateKept ref t := by
  unfold StateKept
  rw [lastAction_of_cons hcompleted]
  by_cases href : ref = written
  · rw [if_pos href] at hrow
    obtain ⟨row, hrow, hstate⟩ := hrow
    rw [if_pos href.symm, hrow, Option.map_some, hstate, Option.some.injEq, Option.some.injEq]
    exact state_eq_disabled_iff action
  · rw [if_neg href] at hrow
    rw [if_neg (Ne.symm href), hrow]
    exact hs

theorem StateKept.step {s t : ActionWorld} (hs : StateKept ref s) (hmoves : Moves ref s t)
    (hspares : Spares ref s t) : StateKept ref t := by
  rcases hmoves with ⟨hcompleted, hwritten⟩ | ⟨written, action, -, hcompleted, hrow⟩
  · by_cases hlast : lastAction ref s = some .disable
    · unfold StateKept
      rw [hspares hlast hcompleted, lastAction_of_completed hcompleted]
      exact hs
    · rcases hwritten with hsame | ⟨row, hrow, hstate⟩
      · unfold StateKept
        rw [hsame, lastAction_of_completed hcompleted]
        exact hs
      · unfold StateKept
        rw [hrow, lastAction_of_completed hcompleted]
        exact iff_of_false (fun h => hstate (Option.some.inj h)) hlast
  · exact hs.complete hcompleted hrow

theorem spares_of_kept {s t : ActionWorld} (ht : StateKept ref t) (hmoves : Moves ref s t) :
    Spares ref s t := by
  intro hlast hcompleted
  rcases hmoves with ⟨-, hsame | ⟨row, hrow, hstate⟩⟩ | ⟨written, action, -, hcons, -⟩
  · exact hsame
  · rw [← lastAction_of_completed hcompleted] at hlast
    have hdisabled := ht.mpr hlast
    rw [hrow] at hdisabled
    exact absurd (Option.some.inj hdisabled) hstate
  · rw [hcompleted] at hcons
    exact absurd (congrArg List.length hcons) (by simp)

end

def webKey : ResourceKey := ⟨"prod", "default", "Deployment", "web"⟩

def webRef : RowRef := .resource .workloadRecord webKey

def webWorld : ActionWorld where
  sync := {
    inventory := {
      namespaceRecord := ∅
      resources := fun table => match table with
        | .workloadRecord => AList.insert webKey ⟨"active", .null⟩ ∅
        | _ => ∅
      storageResource := ∅ }
    calls := 0
    fault := fun _ => none }
  completed := []

def anyRow : StorageRow → Except Exception Unit := fun _ => .ok ()

def disableWeb : ActionHandler ActionAnswer :=
  serveAction .workloads "w1" anyRow (.ok ()) webRef .disable

def webApi : ClusterApi := fun kind =>
  match kind with
  | .resource .deployment => .ok [⟨"default", "web", .null⟩]
  | _ => .error "unavailable"

def syncProd : ActionHandler ActionAnswer := serveSync "prod" webApi none

def disablePool : Pool Exception ActionWorld ActionAnswer := ⟨webWorld, [disableWeb, syncProd]⟩

theorem serves_disableWeb : ServesState disableWeb :=
  @ServesState.action .workloads webRef "w1" anyRow (.ok ()) .disable rfl

end KubeNova.Inventory
