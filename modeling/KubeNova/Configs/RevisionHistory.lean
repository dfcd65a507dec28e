import KubeNova.Configs.ConfigsService

/-!
# The history of a configuration

What the revisions say after each successful call on one configuration, and what the object in the
cluster then has.
-/

namespace KubeNova.Configs

open KubeNova.Clusters (ResourceKey)
open KubeNova.Common KubeNova.Foundation

inductive ConfigCall where
  | create (body : CreateConfigResourceRequest)
  | update (actor : Option ConfigActor) (body : UpdateConfigResourceRequest)
  | rollback (revision : Nat) (changedBy : Option String)
  deriving Repr, DecidableEq

def serveConfig (scope : ScopeCheck) (id : String) : ConfigCall → ConfigHandler ConfigMutationResponse
  | .create body => create scope id body
  | .update actor body => update scope actor id body
  | .rollback revision changedBy => rollback scope id revision changedBy

def content (id : String) (w : ConfigWorld) : Option ConfigData :=
  (w.rows.lookup id).bind fun row => (w.objects.lookup (toRecord id row).objectKey).map (·.data)

def lastState (init : ConfigWorld) (history : List (ConfigCall × ConfigWorld)) : ConfigWorld :=
  (history.getLast?.map (·.2)).getD init

/-- Successful calls one after the other, each with the state it leaves. -/
inductive History (scope : ScopeCheck) (id : String) (init : ConfigWorld) :
    List (ConfigCall × ConfigWorld) → Prop
  | start : History scope id init []
  | step {past call response w} : History scope id init past →
      (serveConfig scope id call).run ⟨lastState init past, none⟩ =
        (.ok response, ⟨w, none⟩) →
      History scope id init (past ++ [(call, w)])

/-- After the call: the current revision has the object's data, the revisions are numbered without
a gap, and a rollback has brought back what the object had when its revision was recorded. -/
structure Faithful (id : String) (past : List (ConfigCall × ConfigWorld)) (call : ConfigCall)
    (w : ConfigWorld) : Prop where
  current : ∃ row revision data, w.rows.lookup id = some row ∧ content id w = some data ∧
    w.revisions.lookup (id, row.currentRev) = some revision ∧ revision.data = some data
  numbers : ∃ row, w.rows.lookup id = some row ∧
    ∀ n, (id, n) ∈ w.revisions ↔ 1 ≤ n ∧ n ≤ row.currentRev
  restored : ∀ revision changedBy, call = .rollback revision changedBy →
    ∃ recorded, past.find? (fun state => decide ((id, revision) ∈ state.2.revisions)) =
      some recorded ∧ content id w = content id recorded.2

def HistoryFaithful (id : String) (history : List (ConfigCall × ConfigWorld)) : Prop :=
  ∀ past call w later, history = past ++ (call, w) :: later → Faithful id past call w

def IsRollback (call : ConfigCall) : Prop :=
  ∃ revision changedBy, call = .rollback revision changedBy

def FitsHistory : List ConfigCall → Prop
  | [] => True
  | .create body :: rest => body.data.isSome = true ∧ ∀ call ∈ rest, IsRollback call
  | _ => False

theorem run_mustFind_eq_ok {id : String} {w : ConfigWorld} {existing : ConfigResourceRecord}
    {u : ConfigState} (h : (mustFind id).run ⟨w, none⟩ = (.ok existing, u)) :
    ∃ row, w.rows.lookup id = some row ∧ existing = toRecord id row ∧ u = ⟨w, none⟩ := by
  obtain ⟨found, u₁, hfind, h⟩ := Async.run_bind_eq_ok h
  obtain ⟨w₁, hbody, rfl⟩ := run_call_eq_ok hfind
  obtain ⟨rfl, rfl⟩ := Prod.mk.inj (Except.ok.inj hbody)
  obtain ⟨helim, rfl⟩ := Async.run_ofExcept_eq_ok h
  cases hrow : w.rows.lookup id with
  | none =>
      rw [hrow] at helim
      cases helim
  | some row =>
      rw [hrow] at helim
      exact ⟨row, rfl, (Except.ok.inj helim).symm, rfl⟩

theorem currentRev_eq_ok {id : String} {w w' : ConfigWorld} {n : Nat}
    (h : ConfigsRepository.currentRev id w = .ok (n, w')) :
    ∃ row, w.rows.lookup id = some row ∧ n = row.currentRev ∧ w' = w := by
  unfold ConfigsRepository.currentRev at h
  split at h
  · rename_i row hrow
    obtain ⟨rfl, rfl⟩ := Prod.mk.inj (Except.ok.inj h)
    exact ⟨row, hrow, rfl, rfl⟩
  · cases h

theorem appendRevision_eq_ok {id : String} {nextRev : Nat} {change : ConfigRow → ConfigRow}
    {revision : ConfigRevision} {w w' : ConfigWorld} {item : ConfigResourceRecord}
    (h : ConfigsRepository.appendRevision id nextRev change revision w = .ok (item, w')) :
    ∃ row, w.rows.lookup id = some row ∧ (id, nextRev) ∉ w.revisions ∧
      item = toRecord id { change row with currentRev := nextRev } ∧
      w' = { w with
        rows := w.rows.insert id { change row with currentRev := nextRev }
        revisions := w.revisions.insert (id, nextRev) revision } := by
  unfold ConfigsRepository.appendRevision at h
  split at h
  · cases h
  · rename_i row hrow
    split at h
    · cases h
    · rename_i hfree
      obtain ⟨rfl, rfl⟩ := Prod.mk.inj (Except.ok.inj h)
      exact ⟨row, hrow, hfree, rfl, rfl⟩

theorem createNamespaced_eq_ok {key : ResourceKey} {data labels : ConfigData} {w w' : ConfigWorld}
    {a : Unit} (h : createNamespaced key data labels w = .ok (a, w')) : key ∉ w.objects ∧
      w' = { w with
        objects := w.objects.insert key ⟨data, labels, w.version + 1, ""⟩
        version := w.version + 1 } := by
  unfold createNamespaced at h
  split at h
  · cases h
  · rename_i hfree
    obtain ⟨-, rfl⟩ := Prod.mk.inj (Except.ok.inj h)
    exact ⟨hfree, rfl⟩

theorem getKubeconfig_eq_ok {clusterId : String} {w w' : ConfigWorld} {a : Unit}
    (h : getKubeconfig clusterId w = .ok (a, w')) : w' = w := by
  unfold getKubeconfig at h
  split at h
  · exact (Prod.mk.inj (Except.ok.inj h)).2.symm
  · cases h

theorem repositoryCreate_eq_ok {id : String} {data : ConfigsRepository.ConfigCreateData}
    {initialData : Option ConfigData} {w w' : ConfigWorld} {item : ConfigResourceRecord}
    (h : ConfigsRepository.create id data initialData w = .ok (item, w')) :
    (ConfigsRepository.rowOf? data.key w = none ∧ id ∉ w.rows ∧ (id, 1) ∉ w.revisions) ∧
      item = toRecord id (ConfigsRepository.newRow data) ∧ w' = { w with
      rows := w.rows.insert id (ConfigsRepository.newRow data)
      revisions := w.revisions.insert (id, 1) ⟨initialData, "system", "初始版本"⟩ } := by
  unfold ConfigsRepository.create at h
  split at h
  · cases h
  · rename_i hfree
    obtain ⟨rfl, rfl⟩ := Prod.mk.inj (Except.ok.inj h)
    push Not at hfree
    exact ⟨⟨by simpa using hfree.1, hfree.2⟩, rfl, rfl⟩

theorem objectKey_newRow {key : ResourceKey} (hkind : key.kind = "ConfigMap" ∨ key.kind = "Secret")
    (id : String) (dataKeys : Option (List String)) (labels : Option ConfigData) :
    (toRecord id (ConfigsRepository.newRow ⟨key, some .active, dataKeys, labels⟩)).objectKey =
      key := by
  obtain ⟨clusterId, «namespace», kind, name⟩ := key
  rcases hkind with hkind | hkind <;> simp only at hkind <;> subst hkind <;> rfl

theorem createKey_kind {body : CreateConfigResourceRequest} {key : ResourceKey}
    (h : createKey body = .ok key) : key.kind = "ConfigMap" ∨ key.kind = "Secret" := by
  simp only [createKey] at h
  split_ifs at h with hempty hkind
  · obtain rfl := Except.ok.inj h
    · by_cases hmap : body.kind = "ConfigMap"
      · exact .inl hmap
      · by_contra hother
        exact hkind ⟨hmap, fun hsecret => hother (.inr hsecret)⟩

theorem run_create_eq_ok {scope : ScopeCheck} {id : String} {body : CreateConfigResourceRequest}
    {w w' : ConfigWorld} {response : ConfigMutationResponse}
    (h : (create scope id body).run ⟨w, none⟩ = (.ok response, ⟨w', none⟩)) :
    ∃ row, id ∉ w.rows ∧ row.currentRev = 1 ∧ w'.rows.lookup id = some row ∧
      content id w' = some (body.data.getD []) ∧
      ∃ changedBy note, w'.revisions = w.revisions.insert (id, 1) ⟨body.data, changedBy, note⟩ := by
  obtain ⟨key, u₁, hkey, h⟩ := Async.run_bind_eq_ok h
  obtain ⟨hcreateKey, rfl⟩ := Async.run_ofExcept_eq_ok hkey
  obtain ⟨_, u₂, hscope, h⟩ := Async.run_bind_eq_ok h
  obtain ⟨-, rfl⟩ := Async.run_ofExcept_eq_ok hscope
  obtain ⟨existing, u₃, hfind, h⟩ := Async.run_bind_eq_ok h
  obtain ⟨w₁, hfound, rfl⟩ := run_call_eq_ok hfind
  obtain ⟨-, rfl⟩ := Prod.mk.inj (Except.ok.inj hfound)
  obtain ⟨_, u₄, hensure, h⟩ := Async.run_bind_eq_ok h
  obtain ⟨-, rfl⟩ := Async.run_ensure_eq_ok hensure
  obtain ⟨_, u₅, hcluster, h⟩ := Async.run_bind_eq_ok h
  obtain ⟨_, u₆, hconfig, hnamespaced⟩ := Async.run_bind_eq_ok hcluster
  obtain ⟨w₂, hbody, rfl⟩ := run_call_eq_ok hconfig
  obtain rfl := getKubeconfig_eq_ok hbody
  obtain ⟨w₃, hobject, rfl⟩ := run_call_eq_ok hnamespaced
  obtain ⟨-, rfl⟩ := createNamespaced_eq_ok hobject
  obtain ⟨item, u₇, hrow, h⟩ := Async.run_bind_eq_ok h
  obtain ⟨w₄, hinsert, rfl⟩ := run_call_eq_ok hrow
  obtain ⟨⟨-, hfree, -⟩, -, rfl⟩ := repositoryCreate_eq_ok hinsert
  obtain ⟨-, hw⟩ := Prod.mk.inj h
  obtain rfl := congrArg Unreliable.world hw
  have hkept : _ = key := objectKey_newRow (createKey_kind hcreateKey) id body.dataKeys body.labels
  refine ⟨_, hfree, rfl, AList.lookup_insert .., ?_, _, _, rfl⟩
  unfold content
  rw [AList.lookup_insert, Option.bind_some, hkept, AList.lookup_insert]
  rfl

theorem run_update_eq_ok {scope : ScopeCheck} {id : String} {actor : Option ConfigActor}
    {body : UpdateConfigResourceRequest} {w w' : ConfigWorld} {response : ConfigMutationResponse}
    (h : (update scope actor id body).run ⟨w, none⟩ = (.ok response, ⟨w', none⟩)) :
    ∃ row revision, w'.rows.lookup id = some row ∧
      w'.revisions.lookup (id, row.currentRev) = some revision ∧ revision.data = none := by
  obtain ⟨existing, u₁, hfind, h⟩ := Async.run_bind_eq_ok h
  obtain ⟨_, u₂, -, h⟩ := Async.run_bind_eq_ok h
  obtain ⟨_, u₃, -, h⟩ := Async.run_bind_eq_ok h
  obtain ⟨data, u₄, -, h⟩ := Async.run_bind_eq_ok h
  obtain ⟨_, u₅, -, h⟩ := Async.run_bind_eq_ok h
  obtain ⟨item, u₆, hupdate, h⟩ := Async.run_bind_eq_ok h
  obtain ⟨n, ⟨w₁, failure⟩, -, hrow⟩ := Async.run_bind_eq_ok hupdate
  obtain rfl : failure = none := run_call_answered hrow
  obtain ⟨w₂, happend, rfl⟩ := run_call_eq_ok hrow
  obtain ⟨row, -, -, -, rfl⟩ := appendRevision_eq_ok happend
  obtain ⟨-, hw⟩ := Prod.mk.inj h
  obtain rfl := congrArg Unreliable.world hw
  exact ⟨_, _, AList.lookup_insert .., AList.lookup_insert .., rfl⟩

theorem run_rollback_eq_ok {scope : ScopeCheck} {id : String} {revision : Nat}
    {changedBy : Option String} {w w' : ConfigWorld} {response : ConfigMutationResponse}
    (h : (rollback scope id revision changedBy).run ⟨w, none⟩ = (.ok response, ⟨w', none⟩)) :
    ∃ row target changedBy note, w.rows.lookup id = some row ∧
      w.revisions.lookup (id, revision) = some target ∧ w' = { w with
        rows := w.rows.insert id { row with currentRev := row.currentRev + 1 }
        revisions := w.revisions.insert (id, row.currentRev + 1) ⟨target.data, changedBy, note⟩ } := by
  obtain ⟨_, u₁, hrevision, h⟩ := Async.run_bind_eq_ok h
  obtain ⟨-, rfl⟩ := Async.run_ofExcept_eq_ok hrevision
  obtain ⟨existing, u₂, hfind, h⟩ := Async.run_bind_eq_ok h
  obtain ⟨row, hrow, rfl, rfl⟩ := run_mustFind_eq_ok hfind
  obtain ⟨_, u₃, hensure, h⟩ := Async.run_bind_eq_ok h
  obtain ⟨-, rfl⟩ := Async.run_ensure_eq_ok hensure
  obtain ⟨_, u₄, hscope, h⟩ := Async.run_bind_eq_ok h
  obtain ⟨-, rfl⟩ := Async.run_ofExcept_eq_ok hscope
  obtain ⟨targetRev, u₅, htarget, h⟩ := Async.run_bind_eq_ok h
  obtain ⟨w₁, hget, rfl⟩ := run_call_eq_ok htarget
  obtain ⟨rfl, rfl⟩ := Prod.mk.inj (Except.ok.inj hget)
  obtain ⟨_, u₆, hfound, h⟩ := Async.run_bind_eq_ok h
  obtain ⟨hsome, rfl⟩ := Async.run_ensure_eq_ok hfound
  obtain ⟨item, u₇, hrollback, h⟩ := Async.run_bind_eq_ok h
  obtain ⟨again, u₈, hagain, hrollback⟩ := Async.run_bind_eq_ok hrollback
  obtain ⟨w₂, hget, rfl⟩ := run_call_eq_ok hagain
  obtain ⟨rfl, rfl⟩ := Prod.mk.inj (Except.ok.inj hget)
  obtain ⟨n, u₉, hcurrent, hrollback⟩ := Async.run_bind_eq_ok hrollback
  obtain ⟨w₃, hread, rfl⟩ := run_call_eq_ok hcurrent
  obtain ⟨row₁, hrow₁, rfl, rfl⟩ := currentRev_eq_ok hread
  obtain ⟨w₄, happend, rfl⟩ := run_call_eq_ok hrollback
  obtain ⟨row₂, hrow₂, -, -, rfl⟩ := appendRevision_eq_ok happend
  obtain ⟨-, hw⟩ := Prod.mk.inj h
  obtain rfl := congrArg Unreliable.world hw
  obtain rfl := Option.some.inj (hrow₁.symm.trans hrow₂)
  obtain ⟨target, htarget⟩ := Option.isSome_iff_exists.mp hsome
  refine ⟨row₁, target, changedBy.getD "system", "回滚到版本 " ++ toString revision, hrow₁,
    htarget, ?_⟩
  simp only [htarget, Option.bind_some]

/-! ## Histories -/

theorem fitsHistory_concat {calls : List ConfigCall} {call : ConfigCall} :
    FitsHistory (calls ++ [call]) ↔ FitsHistory calls ∧
      ((calls = [] ∧ ∃ body, call = .create body ∧ body.data.isSome = true) ∨
        (calls ≠ [] ∧ IsRollback call)) := by
  cases calls with
  | nil =>
      cases call with
      | create body => simp [FitsHistory]
      | update actor body => simp [FitsHistory]
      | rollback revision changedBy => simp [FitsHistory]
  | cons first rest =>
      cases first with
      | create body =>
          simp only [List.cons_append, FitsHistory, List.mem_append, List.mem_singleton, ne_eq,
            reduceCtorEq, not_false_eq_true, true_and, false_and, false_or]
          constructor
          · rintro ⟨hdata, hrest⟩
            exact ⟨⟨hdata, fun c hc => hrest c (.inl hc)⟩, hrest call (.inr rfl)⟩
          · rintro ⟨⟨hdata, hrest⟩, hcall⟩
            refine ⟨hdata, fun c hc => ?_⟩
            rcases hc with hc | rfl
            · exact hrest c hc
            · exact hcall
      | update actor body => simp [FitsHistory]
      | rollback revision changedBy => simp [FitsHistory]

theorem historyFaithful_concat {id : String} {past : List (ConfigCall × ConfigWorld)}
    {call : ConfigCall} {w : ConfigWorld} :
    HistoryFaithful id (past ++ [(call, w)]) ↔
      HistoryFaithful id past ∧ Faithful id past call w := by
  constructor
  · intro h
    refine ⟨fun earlier c v later heq => ?_, h past call w [] rfl⟩
    exact h earlier c v (later ++ [(call, w)]) (by rw [heq]; simp)
  · rintro ⟨hpast, hlast⟩ earlier c v later heq
    rcases List.eq_nil_or_concat later with rfl | ⟨later', last, rfl⟩
    · obtain ⟨rfl, hstate⟩ := List.append_inj' heq rfl
      obtain ⟨rfl, rfl⟩ := Prod.mk.inj (List.cons.inj hstate).1
      exact hlast
    · rw [List.concat_eq_append, ← List.cons_append, ← List.append_assoc] at heq
      obtain ⟨heq, -⟩ := List.append_inj' heq rfl
      exact hpast earlier c v later' heq

structure Kept (id : String) (data : ConfigData) (w : ConfigWorld) : Prop where
  content : content id w = some data
  revisions : ∀ n revision, w.revisions.lookup (id, n) = some revision → revision.data = some data
  numbers : ∃ row, w.rows.lookup id = some row ∧
    ∀ n, (id, n) ∈ w.revisions ↔ 1 ≤ n ∧ n ≤ row.currentRev
  positive : ∀ row, w.rows.lookup id = some row → 1 ≤ row.currentRev

section

variable {scope : ScopeCheck} {id : String} {init : ConfigWorld}
  {history : List (ConfigCall × ConfigWorld)}

theorem History.stored (h : History scope id init history) :
    ∀ state ∈ history, id ∈ state.2.rows := by
  have stored_of_lookup {w : ConfigWorld} {row : ConfigRow} (hrow : w.rows.lookup id = some row) :
      id ∈ w.rows := AList.lookup_isSome.mp (Option.isSome_iff_exists.mpr ⟨row, hrow⟩)
  induction h with
  | start => exact fun state hmem => nomatch hmem
  | @step past call response w hpast hcall ih =>
      intro state hmem
      rcases List.mem_append.mp hmem with hmem | hmem
      · exact ih state hmem
      · obtain rfl := List.mem_singleton.mp hmem
        cases call with
        | create body =>
            obtain ⟨row, -, -, hrow, -⟩ := run_create_eq_ok hcall
            exact stored_of_lookup hrow
        | update actor body =>
            obtain ⟨row, -, hrow, -⟩ := run_update_eq_ok hcall
            exact stored_of_lookup hrow
        | rollback revision changedBy =>
            obtain ⟨row, target, _, _, -, -, hw⟩ := run_rollback_eq_ok hcall
            rw [hw]
            exact (AList.mem_insert _).mpr (.inl rfl)

theorem lastState_mem (init : ConfigWorld) (hpast : history ≠ []) :
    ∃ state ∈ history, lastState init history = state.2 := by
  rcases List.eq_nil_or_concat history with rfl | ⟨past, state, rfl⟩
  · exact absurd rfl hpast
  · refine ⟨state, by simp, ?_⟩
    simp [lastState]

/-! ### What a faithful history is made of -/

theorem Faithful.first {call : ConfigCall} {w : ConfigWorld} {response : ConfigMutationResponse}
    (hinit : ∀ n, (id, n) ∉ init.revisions)
    (hcall : (serveConfig scope id call).run ⟨init, none⟩ = (.ok response, ⟨w, none⟩))
    (h : Faithful id [] call w) : ∃ body, call = .create body ∧ body.data.isSome = true := by
  obtain ⟨row, revision, data, hrow, hcontent, hrevision, hdata⟩ := h.current
  cases call with
  | create body =>
      obtain ⟨row₁, -, hrev, hrow₁, -, changedBy, note, hrevisions⟩ := run_create_eq_ok hcall
      obtain rfl := Option.some.inj (hrow.symm.trans hrow₁)
      rw [hrevisions, hrev, AList.lookup_insert] at hrevision
      obtain rfl := Option.some.inj hrevision
      exact ⟨body, rfl, Option.isSome_iff_exists.mpr ⟨data, hdata⟩⟩
  | update actor body =>
      obtain ⟨row₁, revision₁, hrow₁, hrevision₁, hnone⟩ := run_update_eq_ok hcall
      obtain rfl := Option.some.inj (hrow.symm.trans hrow₁)
      obtain rfl := Option.some.inj (hrevision.symm.trans hrevision₁)
      cases hdata.symm.trans hnone
  | rollback revision changedBy =>
      obtain ⟨_, target, _, _, -, htarget, -⟩ := run_rollback_eq_ok hcall
      exact absurd (AList.lookup_isSome.mp (Option.isSome_iff_exists.mpr ⟨target, htarget⟩))
        (hinit revision)

theorem Faithful.later {past : List (ConfigCall × ConfigWorld)} {call : ConfigCall}
    {v w : ConfigWorld} {response : ConfigMutationResponse} (hstored : id ∈ v.rows)
    (hcall : (serveConfig scope id call).run ⟨v, none⟩ = (.ok response, ⟨w, none⟩))
    (h : Faithful id past call w) : IsRollback call := by
  obtain ⟨row, revision, data, hrow, -, hrevision, hdata⟩ := h.current
  cases call with
  | create body =>
      obtain ⟨_, hfree, -⟩ := run_create_eq_ok hcall
      exact absurd hstored hfree
  | update actor body =>
      obtain ⟨row₁, revision₁, hrow₁, hrevision₁, hnone⟩ := run_update_eq_ok hcall
      obtain rfl := Option.some.inj (hrow.symm.trans hrow₁)
      obtain rfl := Option.some.inj (hrevision.symm.trans hrevision₁)
      cases hdata.symm.trans hnone
  | rollback revision changedBy => exact ⟨revision, changedBy, rfl⟩

theorem History.fits (hinit : ∀ n, (id, n) ∉ init.revisions) (h : History scope id init history)
    (hfaithful : HistoryFaithful id history) : FitsHistory (history.map (·.1)) := by
  induction h with
  | start => trivial
  | @step past call response w hpast hcall ih =>
      obtain ⟨hbefore, hlast⟩ := historyFaithful_concat.mp hfaithful
      rw [List.map_append, List.map_cons, List.map_nil, fitsHistory_concat]
      refine ⟨ih hbefore, ?_⟩
      by_cases hempty : past = []
      · subst hempty
        exact .inl ⟨rfl, hlast.first hinit hcall⟩
      · obtain ⟨state, hmem, hstate⟩ := lastState_mem init hempty
        have hstored : id ∈ (lastState init past).rows := hstate ▸ hpast.stored state hmem
        exact .inr ⟨by simpa using hempty, hlast.later hstored hcall⟩

/-! ### Rollbacks keep the data -/

theorem Kept.of_create {body : CreateConfigResourceRequest} {data : ConfigData} {w : ConfigWorld}
    {response : ConfigMutationResponse} (hinit : ∀ n, (id, n) ∉ init.revisions)
    (hcall : (create scope id body).run ⟨init, none⟩ = (.ok response, ⟨w, none⟩))
    (hdata : body.data = some data) : Kept id data w := by
  obtain ⟨row, -, hrev, hrow, hcontent, changedBy, note, hrevisions⟩ := run_create_eq_ok hcall
  constructor
  · rw [hcontent, hdata]
    rfl
  · intro n revision hrevision
    rw [hrevisions] at hrevision
    by_cases hone : n = 1
    · subst hone
      rw [AList.lookup_insert] at hrevision
      obtain rfl := Option.some.inj hrevision
      exact hdata
    · rw [AList.lookup_insert_ne (by simpa using hone)] at hrevision
      exact absurd (AList.lookup_isSome.mp (Option.isSome_iff_exists.mpr ⟨_, hrevision⟩)) (hinit n)
  · refine ⟨row, hrow, fun n => ?_⟩
    rw [hrevisions, AList.mem_insert, hrev]
    constructor
    · rintro (hone | hmem)
      · obtain rfl : n = 1 := by simpa using hone
        omega
      · exact absurd hmem (hinit n)
    · intro hone
      obtain rfl : n = 1 := by omega
      exact .inl rfl
  · intro row₁ hrow₁
    obtain rfl := Option.some.inj (hrow.symm.trans hrow₁)
    omega

theorem content_congr {v w : ConfigWorld} {row row' : ConfigRow} (hobjects : w.objects = v.objects)
    (hv : v.rows.lookup id = some row) (hw : w.rows.lookup id = some row')
    (hkey : row'.key = row.key) : content id w = content id v := by
  unfold content
  have hobject : (toRecord id row').objectKey = (toRecord id row).objectKey := by
    simp only [ConfigResourceRecord.objectKey, toRecord, hkey]
  rw [hv, hw, hobjects, Option.bind_some, Option.bind_some, hobject]

theorem Kept.rollback {revision : Nat} {changedBy : Option String} {data : ConfigData}
    {v w : ConfigWorld} {response : ConfigMutationResponse} (h : Kept id data v)
    (hcall : (rollback scope id revision changedBy).run ⟨v, none⟩ = (.ok response, ⟨w, none⟩)) :
    Kept id data w := by
  obtain ⟨row, target, by', note, hrow, htarget, hw⟩ := run_rollback_eq_ok hcall
  obtain ⟨row₁, hrow₁, hnumbers⟩ := h.numbers
  obtain rfl := Option.some.inj (hrow.symm.trans hrow₁)
  have hrow' : w.rows.lookup id = some { row with currentRev := row.currentRev + 1 } := by
    rw [hw]
    exact AList.lookup_insert ..
  constructor
  · have hobjects : w.objects = v.objects := by rw [hw]
    rw [content_congr hobjects hrow hrow' rfl, h.content]
  · intro n found hfound
    rw [hw] at hfound
    by_cases hnext : n = row.currentRev + 1
    · subst hnext
      rw [AList.lookup_insert] at hfound
      obtain rfl := Option.some.inj hfound
      exact h.revisions revision target htarget
    · rw [AList.lookup_insert_ne (by simpa using hnext)] at hfound
      exact h.revisions n found hfound
  · refine ⟨_, hrow', fun n => ?_⟩
    rw [hw, AList.mem_insert, hnumbers]
    simp only [Prod.mk.injEq, true_and]
    omega
  · intro row₂ hrow₂
    obtain rfl := Option.some.inj (hrow'.symm.trans hrow₂)
    exact Nat.le_add_left 1 row.currentRev

theorem Kept.faithful {past : List (ConfigCall × ConfigWorld)} {call : ConfigCall}
    {data : ConfigData} {w : ConfigWorld} (h : Kept id data w)
    (hpast : ∀ state ∈ past, Kept id data state.2)
    (hrecorded : ∀ revision changedBy, call = .rollback revision changedBy →
      ∃ state ∈ past, (id, revision) ∈ state.2.revisions) : Faithful id past call w := by
  obtain ⟨row, hrow, hnumbers⟩ := h.numbers
  refine ⟨?_, h.numbers, ?_⟩
  · have hcurrent : (id, row.currentRev) ∈ w.revisions :=
      (hnumbers row.currentRev).mpr ⟨h.positive row hrow, le_rfl⟩
    obtain ⟨revision, hrevision⟩ := Option.isSome_iff_exists.mp (AList.lookup_isSome.mpr hcurrent)
    exact ⟨row, revision, data, hrow, h.content, hrevision, h.revisions _ revision hrevision⟩
  · intro revision changedBy hcall
    obtain ⟨state, hmem, hthere⟩ := hrecorded revision changedBy hcall
    have hsome : (past.find? fun state => decide ((id, revision) ∈ state.2.revisions)).isSome := by
      rw [List.find?_isSome]
      exact ⟨state, hmem, decide_eq_true hthere⟩
    obtain ⟨recorded, hfind⟩ := Option.isSome_iff_exists.mp hsome
    refine ⟨recorded, hfind, ?_⟩
    rw [h.content, (hpast recorded (List.mem_of_find?_eq_some hfind)).content]

theorem History.kept (hinit : ∀ n, (id, n) ∉ init.revisions) (h : History scope id init history)
    (hfits : FitsHistory (history.map (·.1))) :
    HistoryFaithful id history ∧ ∃ data, ∀ state ∈ history, Kept id data state.2 := by
  induction h with
  | start => exact ⟨fun past call w later heq => by simp at heq, [], fun state hmem => nomatch hmem⟩
  | @step past call response w hpast hcall ih =>
      rw [List.map_append, List.map_cons, List.map_nil, fitsHistory_concat] at hfits
      obtain ⟨hbefore, hlast⟩ := hfits
      obtain ⟨hfaithful, data, hkept⟩ := ih hbefore
      have hstep : ∃ data, (∀ state ∈ past, Kept id data state.2) ∧ Kept id data w ∧
          ∀ revision changedBy, call = .rollback revision changedBy →
            ∃ state ∈ past, (id, revision) ∈ state.2.revisions := by
        rcases hlast with ⟨hempty, body, rfl, hdata⟩ | ⟨hsome, revision, changedBy, rfl⟩
        · obtain rfl : past = [] := by simpa using hempty
          obtain ⟨data, hdata⟩ := Option.isSome_iff_exists.mp hdata
          refine ⟨data, fun state hmem => (nomatch hmem), .of_create hinit hcall hdata, ?_⟩
          exact fun revision changedBy heq => nomatch heq
        · have hsome : past ≠ [] := by simpa using hsome
          obtain ⟨state, hmem, hstate⟩ := lastState_mem init hsome
          have hv : Kept id data (lastState init past) := hstate ▸ hkept state hmem
          refine ⟨data, hkept, hv.rollback hcall, ?_⟩
          intro revision₁ changedBy₁ heq
          obtain ⟨rfl, rfl⟩ := ConfigCall.rollback.inj heq
          obtain ⟨row, target, by', note, -, htarget, -⟩ := run_rollback_eq_ok hcall
          refine ⟨state, hmem, ?_⟩
          rw [← hstate]
          exact AList.lookup_isSome.mp (Option.isSome_iff_exists.mpr ⟨target, htarget⟩)
      obtain ⟨data, hkept, hw, hrecorded⟩ := hstep
      refine ⟨historyFaithful_concat.mpr ⟨hfaithful, hw.faithful hkept hrecorded⟩, data, ?_⟩
      intro state hmem
      rcases List.mem_append.mp hmem with hmem | hmem
      · exact hkept state hmem
      · obtain rfl := List.mem_singleton.mp hmem
        exact hw

end

/-- Of a configuration without revisions so far, the history is faithful exactly if its calls are a
creation with data and rollbacks. -/
theorem historyFaithful_iff_fits {scope : ScopeCheck} {id : String} {init : ConfigWorld}
    {history : List (ConfigCall × ConfigWorld)} (hinit : ∀ n, (id, n) ∉ init.revisions)
    (h : History scope id init history) :
    HistoryFaithful id history ↔ FitsHistory (history.map (·.1)) :=
  ⟨h.fits hinit, fun hfits => (h.kept hinit hfits).1⟩

/-! ### Histories of one ConfigMap -/

def oneCluster : ConfigWorld := ⟨["prod"], ∅, 0, ∅, ∅⟩

def anyScope : ScopeCheck := fun _ _ _ => .ok ()

def createLimits : ConfigCall :=
  .create ⟨some "prod", some "default", "ConfigMap", some "limits", none, some [("cpu", "1")], none⟩

def raiseLimits : ConfigCall := .update none ⟨none, none, some [("cpu", "2")], none⟩

def afterCall (call : ConfigCall) (w : ConfigWorld) : ConfigWorld :=
  ((serveConfig anyScope "c1" call).run ⟨w, none⟩).2.world

def restoreLimits : ConfigCall := .rollback 1 (some "admin")

theorem history_createLimits : History anyScope "c1" oneCluster
    ([] ++ [(createLimits, afterCall createLimits oneCluster)]) :=
  .step .start rfl

theorem kept_restoreLimits : HistoryFaithful "c1"
    [(createLimits, afterCall createLimits oneCluster),
      (restoreLimits, afterCall restoreLimits (afterCall createLimits oneCluster))] := by
  have hinit : ∀ n, ("c1", n) ∉ oneCluster.revisions := fun n => AList.notMem_empty _
  have history : History anyScope "c1" oneCluster
      ([(createLimits, afterCall createLimits oneCluster)] ++
        [(restoreLimits, afterCall restoreLimits (afterCall createLimits oneCluster))]) :=
    .step history_createLimits rfl
  apply (historyFaithful_iff_fits hinit history).mpr
  exact ⟨rfl, fun call hcall => ⟨1, some "admin", List.mem_singleton.mp hcall⟩⟩

theorem raisedLimits_notKept : ¬ ∀ (scope : ScopeCheck) (id : String) (init : ConfigWorld)
    (history : List (ConfigCall × ConfigWorld)), (∀ n, (id, n) ∉ init.revisions) →
    History scope id init history → HistoryFaithful id history := by
  intro hall
  have hinit : ∀ n, ("c1", n) ∉ oneCluster.revisions := fun n => AList.notMem_empty _
  have history : History anyScope "c1" oneCluster
      ([(createLimits, afterCall createLimits oneCluster)] ++
        [(raiseLimits, afterCall raiseLimits (afterCall createLimits oneCluster))]) :=
    .step history_createLimits rfl
  obtain ⟨-, hrest⟩ := history.fits hinit (hall _ _ _ _ hinit history)
  obtain ⟨revision, changedBy, hcall⟩ := hrest raiseLimits (by simp)
  cases hcall

end KubeNova.Configs
