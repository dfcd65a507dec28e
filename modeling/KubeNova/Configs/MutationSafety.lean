import KubeNova.Configs.RevisionHistory

/-!
# Changes of a configuration, in the cluster and in the database

A creation or an update that changes the object has to record it, and one that fails has to leave
everything as it was.  An operation by id has to act on the object its row was stored for.

The object is changed first and the row after it, so all depends on whether the database takes the
row then.
-/

namespace KubeNova.Configs

open KubeNova.Clusters (ResourceKey)
open KubeNova.Common KubeNova.Foundation
open KubeNova.Foundation.Unreliable (serve)

inductive ConfigRequest where
  | create (id : String) (body : CreateConfigResourceRequest)
  | update (id : String) (actor : Option ConfigActor) (body : UpdateConfigResourceRequest)
  | applyAction (id : String) (body : ConfigActionRequest)
  | rollback (id : String) (revision : Nat) (changedBy : Option String)
  deriving Repr, DecidableEq

def serveRequest (scope : ScopeCheck) : ConfigRequest → ConfigHandler ConfigMutationResponse
  | .create id body => create scope id body
  | .update id actor body => update scope actor id body
  | .applyAction id body => applyAction scope id body
  | .rollback id revision changedBy => rollback scope id revision changedBy

/-- A statement of a request: the state it found and the state it left. -/
abbrev ConfigStep := ConfigState × ConfigState

def ConfigStep.ChangesObject (p : ConfigStep) : Prop :=
  ∃ key, p.2.world.objects.lookup key ≠ p.1.world.objects.lookup key

def ConfigStep.ChangesRow (p : ConfigStep) : Prop :=
  (∃ id, p.2.world.rows.lookup id ≠ p.1.world.rows.lookup id) ∨
    ∃ id n, p.2.world.revisions.lookup (id, n) ≠ p.1.world.revisions.lookup (id, n)

def ConfigStep.Changes (p : ConfigStep) : Prop :=
  p.ChangesObject ∨ p.ChangesRow

def Recorded (id : String) (steps : List ConfigStep) : Prop :=
  ∃ p ∈ steps, ∃ row, p.2.world.rows.lookup id = some row ∧ parseState row.state = .active ∧
    (id, row.currentRev) ∈ p.2.world.revisions ∧ (id, row.currentRev) ∉ p.1.world.revisions

structure AllOrNothing (steps : List ConfigStep) (r : Except Exception ConfigMutationResponse) :
    Prop where
  recorded : (∃ p ∈ steps, ConfigStep.ChangesObject p) →
    ∃ response, r = .ok response ∧ Recorded response.item.id steps
  unchanged : ∀ e, r = .error e → ∀ p ∈ steps, ¬ConfigStep.Changes p

def readRow (id : String) (steps : List ConfigStep) : Option ConfigRow :=
  steps.head?.bind fun p => p.1.world.rows.lookup id

def ActsOnStored (id : String) (steps : List ConfigStep) : Prop :=
  ∀ p ∈ steps, ∀ key, p.2.world.objects.lookup key ≠ p.1.world.objects.lookup key →
    ∃ row, readRow id steps = some row ∧ row.key = key

def Sound (steps : List ConfigStep) (r : Except Exception ConfigMutationResponse) :
    ConfigRequest → Prop
  | .create _ _ => AllOrNothing steps r
  | .update id _ _ => AllOrNothing steps r ∧ ActsOnStored id steps
  | .applyAction id _ => ActsOnStored id steps
  | .rollback id _ _ => ActsOnStored id steps

/-- The database answers the insertion of the row, and finds its id and its keys free. -/
def TakesNewRow (id : String) (body : CreateConfigResourceRequest) (rest : List ConfigStep) : Prop :=
  ∃ p key, rest = [p] ∧ p.1.failure = none ∧ createKey body = .ok key ∧
    ConfigsRepository.rowOf? key p.1.world = none ∧ id ∉ p.1.world.rows ∧
    (id, 1) ∉ p.1.world.revisions

/-- The database answers both statements, finds the row active, and the number after the one that
was read is free. -/
def TakesRevision (id : String) (rest : List ConfigStep) : Prop :=
  ∃ p q row row', rest = [p, q] ∧ p.1.failure = none ∧ p.1.world.rows.lookup id = some row ∧
    q.1.failure = none ∧ q.1.world.rows.lookup id = some row' ∧ parseState row'.state = .active ∧
    (id, row.currentRev + 1) ∉ q.1.world.revisions

/-- No answer to a change is lost, and once the object is changed the database takes the row. -/
structure FitsMutation (takes : List ConfigStep → Prop) (steps : List ConfigStep) : Prop where
  answered : ∀ p ∈ steps, ConfigStep.Changes p → p.1.failure = none
  taken : ∀ before p after, steps = before ++ p :: after → ConfigStep.ChangesObject p → takes after

def FitsKind (id : String) (steps : List ConfigStep) : Prop :=
  (∃ p ∈ steps, ConfigStep.ChangesObject p) → ∀ row, readRow id steps = some row →
    row.key.kind = "ConfigMap" ∨ row.key.kind = "Secret"

def Fits (steps : List ConfigStep) : ConfigRequest → Prop
  | .create id body => FitsMutation (TakesNewRow id body) steps
  | .update id _ _ => FitsMutation (TakesRevision id) steps ∧ FitsKind id steps
  | .applyAction id _ => FitsKind id steps
  | .rollback id _ _ => FitsKind id steps

theorem not_changesObject_of_eq {p : ConfigStep} (h : p.2.world.objects = p.1.world.objects) :
    ¬p.ChangesObject := by
  rintro ⟨key, hkey⟩
  rw [h] at hkey
  exact hkey rfl

theorem not_changes_of_idle {p : ConfigStep} (h : p.2.world = p.1.world) : ¬p.Changes := by
  rintro (hobject | ⟨id, hrow⟩ | ⟨id, n, hrevision⟩)
  · exact not_changesObject_of_eq (congrArg _ h) hobject
  · rw [h] at hrow
    exact hrow rfl
  · rw [h] at hrevision
    exact hrevision rfl

theorem reads_findById (id : String) : Reads (ConfigsRepository.findById id) :=
  fun _ _ _ h => (congrArg Prod.snd (Except.ok.inj h)).symm

theorem reads_findByKey (key : ResourceKey) : Reads (ConfigsRepository.findByKey key) :=
  fun _ _ _ h => (congrArg Prod.snd (Except.ok.inj h)).symm

theorem reads_getRevision (id : String) (revision : Nat) :
    Reads (ConfigsRepository.getRevision id revision) :=
  fun _ _ _ h => (congrArg Prod.snd (Except.ok.inj h)).symm

theorem reads_getKubeconfig (clusterId : String) : Reads (getKubeconfig clusterId) :=
  fun _ _ _ h => getKubeconfig_eq_ok h

theorem reads_currentRev (id : String) : Reads (ConfigsRepository.currentRev id) := by
  intro w n w' h
  obtain ⟨row, -, -, hw⟩ := currentRev_eq_ok h
  exact hw

theorem reads_readNamespaced (key : ResourceKey) : Reads (readNamespaced key) := by
  intro w object w' h
  unfold readNamespaced at h
  split at h
  · exact (congrArg Prod.snd (Except.ok.inj h)).symm
  · cases h

section

variable {takes : List ConfigStep → Prop} {p : ConfigStep} {steps : List ConfigStep}
  {r : Except Exception ConfigMutationResponse}

def Agree (takes : List ConfigStep → Prop) (steps : List ConfigStep)
    (r : Except Exception ConfigMutationResponse) : Prop :=
  AllOrNothing steps r ↔ FitsMutation takes steps

theorem agree_of_idle (h : ∀ p ∈ steps, ¬ConfigStep.Changes p) : Agree takes steps r := by
  refine iff_of_true ⟨?_, fun _ _ => h⟩ ⟨fun p hp hchanges => absurd hchanges (h p hp), ?_⟩
  · rintro ⟨p, hp, hobject⟩
    exact absurd (.inl hobject) (h p hp)
  · intro before p after heq hobject
    exact absurd (.inl hobject) (h p (by simp [heq]))

theorem agree_nil : Agree takes [] r :=
  agree_of_idle fun _ hp => (nomatch hp)

theorem recorded_cons_idle {id : String} (h : p.2.world = p.1.world) :
    Recorded id (p :: steps) ↔ Recorded id steps := by
  unfold Recorded
  rw [List.exists_mem_cons_iff]
  constructor
  · rintro (⟨row, -, -, hin, hnot⟩ | hrest)
    · rw [h] at hin
      exact absurd hin hnot
    · exact hrest
  · exact .inr

theorem agree_cons_idle (h : p.2.world = p.1.world) (hrest : Agree takes steps r) :
    Agree takes (p :: steps) r := by
  have hidle : ¬ConfigStep.Changes p := not_changes_of_idle h
  have hobject : ¬ConfigStep.ChangesObject p := fun hobject => hidle (.inl hobject)
  have hall : AllOrNothing (p :: steps) r ↔ AllOrNothing steps r := by
    constructor
    · intro hp
      refine ⟨fun hchanges => ?_, fun e he q hq => hp.unchanged e he q (List.mem_cons_of_mem _ hq)⟩
      obtain ⟨q, hq, hchanges⟩ := hchanges
      obtain ⟨response, hr, hrecorded⟩ := hp.recorded ⟨q, List.mem_cons_of_mem _ hq, hchanges⟩
      exact ⟨response, hr, (recorded_cons_idle h).mp hrecorded⟩
    · intro hsteps
      refine ⟨?_, fun e he q hq => ?_⟩
      · rintro ⟨q, hq, hchanges⟩
        rcases List.mem_cons.mp hq with rfl | hq
        · exact absurd hchanges hobject
        · obtain ⟨response, hr, hrecorded⟩ := hsteps.recorded ⟨q, hq, hchanges⟩
          exact ⟨response, hr, (recorded_cons_idle h).mpr hrecorded⟩
      · rcases List.mem_cons.mp hq with rfl | hq
        · exact hidle
        · exact hsteps.unchanged e he q hq
  have hfits : FitsMutation takes (p :: steps) ↔ FitsMutation takes steps := by
    constructor
    · intro hp
      refine ⟨fun q hq => hp.answered q (List.mem_cons_of_mem _ hq), fun before q after heq => ?_⟩
      exact hp.taken (p :: before) q after (by rw [heq]; rfl)
    · intro hsteps
      refine ⟨fun q hq hchanges => ?_, fun before q after heq hchanges => ?_⟩
      · rcases List.mem_cons.mp hq with rfl | hq
        · exact absurd hchanges hidle
        · exact hsteps.answered q hq hchanges
      · rcases List.cons_eq_append_iff.mp heq with ⟨rfl, hcons⟩ | ⟨before', rfl, hsteps'⟩
        · obtain ⟨rfl, rfl⟩ := List.cons.inj hcons
          exact absurd hchanges hobject
        · exact hsteps.taken before' q after hsteps' hchanges
  exact hall.trans (hrest.trans hfits.symm)

theorem agree_read {α : Type} {body : ConfigStatement α}
    {k : α → ConfigHandler ConfigMutationResponse} (hreads : Reads body)
    (hplays : Plays (call body >>= k) steps r)
    (hk : ∀ (s : ConfigState) a w rest, body s.world = .ok (a, w) → Plays (k a) rest r →
      Agree takes rest r) : Agree takes steps r := by
  obtain ⟨s, rest, rfl, ⟨e, -, rfl, rfl⟩ | ⟨a, w, -, hbody, hrest⟩⟩ := Plays.call_bind hplays
  · exact agree_cons_idle (hreads.serve s) agree_nil
  · exact agree_cons_idle (hreads.serve s) (hk s a w rest hbody hrest)

theorem agree_ofExcept {α : Type} {e : Except Exception α}
    {k : α → ConfigHandler ConfigMutationResponse} (hplays : Plays (.ofExcept e >>= k) steps r)
    (hk : ∀ a, e = .ok a → Plays (k a) steps r → Agree takes steps r) : Agree takes steps r := by
  cases e with
  | error e =>
      obtain ⟨rfl, -⟩ := Plays.fail_iff.mp hplays
      exact agree_nil
  | ok a => exact hk a rfl hplays

theorem agree_ensure {c : Prop} [Decidable c] {e : Exception}
    {k : Unit → ConfigHandler ConfigMutationResponse} (hplays : Plays (.ensure c e >>= k) steps r)
    (hk : Plays (k ()) steps r → Agree takes steps r) : Agree takes steps r := by
  unfold Async.ensure at hplays
  split at hplays
  · exact hk hplays
  · obtain ⟨rfl, -⟩ := Plays.fail_iff.mp hplays
    exact agree_nil

theorem agree_of_lost {e : Exception} (hchanges : p.Changes) (hlost : p.1.failure ≠ none) :
    Agree takes (p :: steps) (.error e) := by
  refine iff_of_false (fun hall => ?_) (fun hfits => ?_)
  · exact hall.unchanged e rfl p List.mem_cons_self hchanges
  · exact hlost (hfits.answered p List.mem_cons_self hchanges)

theorem agree_of_changed (hchanges : p.ChangesObject) (hanswered : p.1.failure = none)
    (hrest : ∀ q ∈ steps, ¬ConfigStep.ChangesObject q)
    (htakes : takes steps → (∀ q ∈ steps, q.1.failure = none) ∧
      ∃ response, r = .ok response ∧ Recorded response.item.id steps)
    (hrecorded : ∀ response, r = .ok response → Recorded response.item.id (p :: steps) →
      takes steps) : Agree takes (p :: steps) r := by
  constructor
  · intro hall
    obtain ⟨response, hr, hresponse⟩ := hall.recorded ⟨p, List.mem_cons_self, hchanges⟩
    have htaken := hrecorded response hr hresponse
    refine ⟨fun q hq _ => ?_, fun before q after heq hq => ?_⟩
    · rcases List.mem_cons.mp hq with rfl | hq
      · exact hanswered
      · exact (htakes htaken).1 q hq
    · rcases List.cons_eq_append_iff.mp heq with ⟨rfl, hcons⟩ | ⟨before', rfl, rfl⟩
      · obtain ⟨rfl, rfl⟩ := List.cons.inj hcons
        exact htaken
      · exact absurd hq (hrest q (by simp))
  · intro hfits
    obtain ⟨-, response, rfl, q, hq, hrow⟩ := htakes (hfits.taken [] p steps rfl hchanges)
    exact ⟨fun _ => ⟨response, rfl, q, List.mem_cons_of_mem _ hq, hrow⟩, fun e he => nomatch he⟩

theorem agree_change {α : Type} {body : ConfigStatement α}
    {k : α → ConfigHandler ConfigMutationResponse} (hplays : Plays (call body >>= k) steps r)
    (hbody : ∀ (s : ConfigState) a w, body s.world = .ok (a, w) →
      w = s.world ∨ ∀ f, ConfigStep.ChangesObject (s, ⟨w, f⟩))
    (hsame : ∀ (s : ConfigState) a rest, body s.world = .ok (a, s.world) → Plays (k a) rest r →
      Agree takes rest r)
    (hchanged : ∀ (s : ConfigState) a w rest, s.failure = none → body s.world = .ok (a, w) →
      ConfigStep.ChangesObject (s, ⟨w, none⟩) → Plays (k a) rest r →
      Agree takes ((s, ⟨w, none⟩) :: rest) r) : Agree takes steps r := by
  obtain ⟨s, rest, rfl, ⟨e, herror, rfl, rfl⟩ | ⟨a, w, hfailure, hok, hrest⟩⟩ :=
    Plays.call_bind hplays
  · rcases Unreliable.serve_world body s with hidle | ⟨a, hcarried⟩
    · exact agree_cons_idle hidle agree_nil
    · rcases hbody s a _ hcarried with hidle | hobject
      · exact agree_cons_idle hidle agree_nil
      · exact agree_of_lost (.inl (hobject _)) (Unreliable.failure_of_error herror hcarried)
  · have hserve := Unreliable.serve_of_eq_ok hfailure hok
    rcases hbody s a w hok with rfl | hobject
    · refine agree_cons_idle ?_ (hsame s a rest hok hrest)
      rw [hserve]
    · rw [hserve]
      exact hchanged s a w rest hfailure hok (hobject none) hrest

end

/-! ## Creations and updates -/

theorem repositoryCreate_of_free {id : String} {data : ConfigsRepository.ConfigCreateData}
    {initialData : Option ConfigData} {w : ConfigWorld}
    (hrow : ConfigsRepository.rowOf? data.key w = none) (hid : id ∉ w.rows)
    (hrevision : (id, 1) ∉ w.revisions) :
    ∃ item w', ConfigsRepository.create id data initialData w = .ok (item, w') := by
  unfold ConfigsRepository.create
  rw [if_neg]
  · exact ⟨_, _, rfl⟩
  · rintro (hsome | hmem | hmem)
    · rw [hrow] at hsome
      cases hsome
    · exact hid hmem
    · exact hrevision hmem

theorem objects_repositoryCreate (id : String) (data : ConfigsRepository.ConfigCreateData)
    (initialData : Option ConfigData) (s : ConfigState) :
    (serve (ConfigsRepository.create id data initialData) s).2.world.objects = s.world.objects := by
  rcases Unreliable.serve_world (ConfigsRepository.create id data initialData) s with h | ⟨item, h⟩
  · rw [h]
  · obtain ⟨-, -, hw⟩ := repositoryCreate_eq_ok h
    rw [hw]

theorem objects_appendRevision (id : String) (nextRev : Nat) (change : ConfigRow → ConfigRow)
    (revision : ConfigRevision) (s : ConfigState) :
    (serve (ConfigsRepository.appendRevision id nextRev change revision) s).2.world.objects =
      s.world.objects := by
  rcases Unreliable.serve_world (ConfigsRepository.appendRevision id nextRev change revision) s with
    h | ⟨item, h⟩
  · rw [h]
  · obtain ⟨row, -, -, -, hw⟩ := appendRevision_eq_ok h
    rw [hw]

section

variable {scope : ScopeCheck} {id : String} {steps : List ConfigStep}
  {r : Except Exception ConfigMutationResponse}

theorem agree_insertRow {body : CreateConfigResourceRequest} {key : ResourceKey} {p : ConfigStep}
    {text : ConfigResourceRecord → String} (hkey : createKey body = .ok key)
    (hchanges : p.ChangesObject) (hanswered : p.1.failure = none)
    (hplays : Plays (call (ConfigsRepository.create id ⟨key, some .active, body.dataKeys,
      body.labels⟩ body.data) >>= fun item => .done ⟨item, text item⟩) steps r) :
    Agree (TakesNewRow id body) (p :: steps) r := by
  obtain ⟨s, rest, rfl, hend⟩ := Plays.call_bind hplays
  have hobjects := objects_repositoryCreate id ⟨key, some .active, body.dataKeys, body.labels⟩
    body.data s
  have hrest : ∀ q ∈ [(s, (serve (ConfigsRepository.create id ⟨key, some .active, body.dataKeys,
      body.labels⟩ body.data) s).2)], ¬ConfigStep.ChangesObject q := by
    intro q hq
    obtain rfl := List.mem_singleton.mp hq
    exact not_changesObject_of_eq hobjects
  rcases hend with ⟨e, herror, rfl, rfl⟩ | ⟨item, w, hfailure, hbody, hend⟩
  · apply agree_of_changed hchanges hanswered hrest
    · rintro ⟨q, key', hq, hfailure, hkey', hrow, hid, hrevision⟩
      obtain ⟨rfl, -⟩ := List.cons.inj hq
      obtain rfl := Except.ok.inj (hkey.symm.trans hkey')
      have hfree : ∃ item w, ConfigsRepository.create id
          ⟨key, some .active, body.dataKeys, body.labels⟩ body.data s.world = .ok (item, w) :=
        repositoryCreate_of_free hrow hid hrevision
      obtain ⟨item, w, hok⟩ := hfree
      exact absurd hfailure (Unreliable.failure_of_error herror hok)
    · exact fun response hr => nomatch hr
  · obtain ⟨rfl, rfl⟩ := Plays.done_iff.mp hend
    obtain ⟨⟨hrow, hid, hrevision⟩, rfl, rfl⟩ := repositoryCreate_eq_ok hbody
    rw [Unreliable.serve_of_eq_ok hfailure hbody] at hrest ⊢
    apply agree_of_changed hchanges hanswered hrest
    · intro _
      refine ⟨fun q hq => ?_, _, rfl, _, List.mem_singleton_self _, _, AList.lookup_insert .., rfl,
        ?_, hrevision⟩
      · obtain rfl := List.mem_singleton.mp hq
        exact hfailure
      · exact (AList.mem_insert _).mpr (.inl rfl)
    · exact fun _ _ _ => ⟨_, key, rfl, hfailure, hkey, hrow, hid, hrevision⟩

theorem createNamespaced_changes {key : ResourceKey} {data labels : ConfigData} {s : ConfigState}
    {w : ConfigWorld} {a : Unit} (h : createNamespaced key data labels s.world = .ok (a, w))
    (f : Option (Failure Exception)) : ConfigStep.ChangesObject (s, ⟨w, f⟩) := by
  obtain ⟨hfree, rfl⟩ := createNamespaced_eq_ok h
  refine ⟨key, ?_⟩
  have hnone : s.world.objects.lookup key = none := AList.lookup_eq_none.mpr hfree
  rw [AList.lookup_insert, hnone]
  exact Option.some_ne_none _

theorem agree_create {body : CreateConfigResourceRequest}
    (hplays : Plays (create scope id body) steps r) : Agree (TakesNewRow id body) steps r := by
  unfold create at hplays
  refine agree_ofExcept hplays fun key hkey hplays => agree_ofExcept hplays fun _ _ hplays => ?_
  refine agree_read (reads_findByKey key) hplays fun _ existing _ steps _ hplays => ?_
  refine agree_ensure hplays fun hplays => ?_
  unfold createConfigInCluster at hplays
  rw [Async.bind_assoc] at hplays
  refine agree_read (reads_getKubeconfig _) hplays fun _ _ _ steps _ hplays => ?_
  apply agree_change hplays
  · exact fun s a w h => .inr (createNamespaced_changes h)
  · intro s a rest hsame
    obtain ⟨key, hkey⟩ := createNamespaced_changes hsame none
    exact absurd rfl hkey
  · exact fun s a w rest hanswered _ hchanges hplays =>
      agree_insertRow hkey hchanges hanswered hplays

/-! ### Updates -/

theorem replaceNamespaced_changes {key : ResourceKey} {body : ConfigObject} {s : ConfigState}
    {w : ConfigWorld} {a : Unit} (h : replaceNamespaced key body s.world = .ok (a, w)) :
    w = s.world ∨ ∀ f, ConfigStep.ChangesObject (s, ⟨w, f⟩) := by
  unfold replaceNamespaced at h
  split at h
  · rename_i object hobject
    split_ifs at h with hversion hsame
    · exact .inl (congrArg Prod.snd (Except.ok.inj h)).symm
    · obtain ⟨-, rfl⟩ := Prod.mk.inj (Except.ok.inj h)
      refine .inr fun f => ⟨key, ?_⟩
      rw [AList.lookup_insert, hobject]
      intro heq
      -- the two differ in something besides the resource version
      apply hsame
      obtain ⟨data, labels, version, rest⟩ := object
      obtain ⟨data', labels', version', rest'⟩ := body
      simp only [ConfigObject.mk.injEq, Option.some.injEq, not_not, ne_eq] at heq hversion ⊢
      exact ⟨heq.1.symm, heq.2.1.symm, hversion, heq.2.2.2.symm⟩
  · cases h

theorem changesRow_appendRevision {nextRev : Nat} {change : ConfigRow → ConfigRow}
    {revision : ConfigRevision} {s : ConfigState} {w : ConfigWorld} {item : ConfigResourceRecord}
    (h : ConfigsRepository.appendRevision id nextRev change revision s.world = .ok (item, w))
    (f : Option (Failure Exception)) : ConfigStep.ChangesRow (s, ⟨w, f⟩) := by
  obtain ⟨row, -, hfree, -, rfl⟩ := appendRevision_eq_ok h
  refine .inr ⟨id, nextRev, ?_⟩
  have hnone : s.world.revisions.lookup (id, nextRev) = none := AList.lookup_eq_none.mpr hfree
  rw [AList.lookup_insert, hnone]
  exact Option.some_ne_none _

theorem agree_appendAlone {takes : List ConfigStep → Prop} {nextRev : Nat}
    {change : ConfigRow → ConfigRow} {revision : ConfigRevision}
    {text : ConfigResourceRecord → String}
    (hplays : Plays (call (ConfigsRepository.appendRevision id nextRev change revision) >>=
      fun item => .done ⟨item, text item⟩) steps r) : Agree takes steps r := by
  obtain ⟨s, rest, rfl, hend⟩ := Plays.call_bind hplays
  rcases hend with ⟨e, herror, rfl, rfl⟩ | ⟨item, w, hfailure, hbody, hend⟩
  · rcases Unreliable.serve_world (ConfigsRepository.appendRevision id nextRev change revision) s
      with hidle | ⟨item, hcarried⟩
    · exact agree_cons_idle hidle agree_nil
    · exact agree_of_lost (.inr (changesRow_appendRevision hcarried _))
        (Unreliable.failure_of_error herror hcarried)
  · obtain ⟨rfl, rfl⟩ := Plays.done_iff.mp hend
    have hobject := not_changesObject_of_eq (p := (s, _))
      (objects_appendRevision id nextRev change revision s)
    have hmem : ∀ q : ConfigStep, q ∈ [(s, (serve (ConfigsRepository.appendRevision id nextRev
        change revision) s).2)] → q.1.failure = none ∧ ¬q.ChangesObject := by
      intro q hq
      obtain rfl := List.mem_singleton.mp hq
      exact ⟨hfailure, hobject⟩
    refine iff_of_true ⟨?_, fun e he => nomatch he⟩ ⟨fun q hq _ => (hmem q hq).1, ?_⟩
    · rintro ⟨q, hq, hchanges⟩
      exact absurd hchanges (hmem q hq).2
    · intro before q after heq hchanges
      exact absurd hchanges (hmem q (by rw [heq]; simp)).2

theorem appendRevision_of_free {nextRev : Nat} {change : ConfigRow → ConfigRow}
    {revision : ConfigRevision} {w : ConfigWorld} {row : ConfigRow}
    (hrow : w.rows.lookup id = some row) (hfree : (id, nextRev) ∉ w.revisions) :
    ∃ item w', ConfigsRepository.appendRevision id nextRev change revision w = .ok (item, w') := by
  unfold ConfigsRepository.appendRevision
  rw [hrow]
  dsimp only
  rw [if_neg hfree]
  exact ⟨_, _, rfl⟩

theorem agree_appendRow {p : ConfigStep} {data : ConfigsRepository.ConfigUpdateData}
    {changedBy : Option String} {text : ConfigResourceRecord → String}
    (hchanges : p.ChangesObject) (hanswered : p.1.failure = none)
    (hrevisions : p.2.world.revisions = p.1.world.revisions)
    (hplays : Plays (ConfigsRepository.update id data changedBy >>=
      fun item => .done ⟨item, text item⟩) steps r) :
    Agree (TakesRevision id) (p :: steps) r := by
  unfold ConfigsRepository.update at hplays
  rw [Async.bind_assoc] at hplays
  obtain ⟨s, rest, rfl, ⟨e, herror, rfl, rfl⟩ | ⟨n, w, hfailure, hread, hplays⟩⟩ :=
    Plays.call_bind hplays
  · have hidle := (reads_currentRev id).serve s
    apply agree_of_changed hchanges hanswered
    · intro q hq
      obtain rfl := List.mem_singleton.mp hq
      exact not_changesObject_of_eq (congrArg _ hidle)
    · rintro ⟨q, q', row, row', heq, -⟩
      exact absurd (congrArg List.length heq) (by simp)
    · exact fun response hr => nomatch hr
  have hidle := (reads_currentRev id).serve s
  obtain ⟨row, hrow, rfl, rfl⟩ := currentRev_eq_ok hread
  obtain ⟨s', rest', rfl, hend⟩ := Plays.call_bind hplays
  have hobjects := objects_appendRevision id (row.currentRev + 1) data.apply
    ⟨none, changedBy.getD "system", "更新配置"⟩ s'
  rcases hend with ⟨e, herror, rfl, rfl⟩ | ⟨item, w', hfailure', hbody, hend⟩
  · apply agree_of_changed hchanges hanswered
    · intro q hq
      rcases List.mem_cons.mp hq with rfl | hq
      · exact not_changesObject_of_eq (congrArg _ hidle)
      · obtain rfl := List.mem_singleton.mp hq
        exact not_changesObject_of_eq hobjects
    · rintro ⟨q, q', row₁, row', heq, -, hrow₁, hfailure', hrow', -, hfree⟩
      obtain ⟨rfl, hlast⟩ := List.cons.inj heq
      obtain ⟨rfl, -⟩ := List.cons.inj hlast
      obtain rfl := Option.some.inj (hrow.symm.trans hrow₁)
      obtain ⟨item, w', hok⟩ := appendRevision_of_free hrow' hfree
      exact absurd hfailure' (Unreliable.failure_of_error herror hok)
    · exact fun response hr => nomatch hr
  · obtain ⟨rfl, rfl⟩ := Plays.done_iff.mp hend
    rw [Unreliable.serve_of_eq_ok hfailure' hbody] at hobjects ⊢
    obtain ⟨row', hrow', hfree, rfl, rfl⟩ := appendRevision_eq_ok hbody
    apply agree_of_changed hchanges hanswered
    · intro q hq
      rcases List.mem_cons.mp hq with rfl | hq
      · exact not_changesObject_of_eq (congrArg _ hidle)
      · obtain rfl := List.mem_singleton.mp hq
        exact not_changesObject_of_eq hobjects
    · rintro ⟨q, q', row₁, row₂, heq, -, -, -, hrow₂, hactive, -⟩
      obtain ⟨-, hlast⟩ := List.cons.inj heq
      obtain ⟨rfl, -⟩ := List.cons.inj hlast
      obtain rfl := Option.some.inj (hrow'.symm.trans hrow₂)
      refine ⟨fun q hq => ?_, _, rfl, _, List.mem_cons_of_mem _ (List.mem_singleton_self _), _,
        AList.lookup_insert .., hactive, ?_, hfree⟩
      · rcases List.mem_cons.mp hq with rfl | hq
        · exact hfailure
        · obtain rfl := List.mem_singleton.mp hq
          exact hfailure'
      · exact (AList.mem_insert _).mpr (.inl rfl)
    · rintro response hr ⟨q, hq, found, hfound, hactive, hin, hnot⟩
      obtain rfl := Except.ok.inj hr
      rcases List.mem_cons.mp hq with rfl | hq
      · rw [hrevisions] at hin
        exact absurd hin hnot
      rcases List.mem_cons.mp hq with rfl | hq
      · dsimp only at hin hnot
        rw [hidle] at hin
        exact absurd hin hnot
      · obtain rfl := List.mem_singleton.mp hq
        obtain rfl := Option.some.inj ((AList.lookup_insert _).symm.trans hfound)
        exact ⟨_, _, row, row', rfl, hfailure, hrow, hfailure', hrow', hactive, hfree⟩

theorem replaceNamespaced_revisions {key : ResourceKey} {body : ConfigObject} {w w' : ConfigWorld}
    {a : Unit} (h : replaceNamespaced key body w = .ok (a, w')) : w'.revisions = w.revisions := by
  unfold replaceNamespaced at h
  split at h
  · split_ifs at h
    · exact congrArg (fun x => ConfigWorld.revisions x.2) (Except.ok.inj h).symm
    · exact congrArg (fun x => ConfigWorld.revisions x.2) (Except.ok.inj h).symm
  · cases h

theorem agree_mustFind {takes : List ConfigStep → Prop}
    {k : ConfigResourceRecord → ConfigHandler ConfigMutationResponse}
    (hplays : Plays (mustFind id >>= k) steps r)
    (hk : ∀ existing rest, Plays (k existing) rest r → Agree takes rest r) :
    Agree takes steps r := by
  unfold mustFind at hplays
  rw [Async.bind_assoc] at hplays
  refine agree_read (reads_findById id) hplays fun s found w rest _ hplays => ?_
  exact agree_ofExcept hplays fun existing _ hplays => hk existing rest hplays

theorem agree_update {actor : Option ConfigActor} {body : UpdateConfigResourceRequest}
    (hplays : Plays (update scope actor id body) steps r) : Agree (TakesRevision id) steps r := by
  unfold update at hplays
  refine agree_mustFind hplays fun existing steps hplays => agree_ensure hplays fun hplays => ?_
  refine agree_ofExcept hplays fun _ _ hplays => agree_ofExcept hplays fun data _ hplays => ?_
  unfold updateConfigInCluster at hplays
  rw [Async.bind_assoc] at hplays
  refine agree_ensure hplays fun hplays => ?_
  rw [Async.bind_assoc] at hplays
  refine agree_read (reads_getKubeconfig _) hplays fun _ _ _ steps _ hplays => ?_
  rw [Async.bind_assoc] at hplays
  refine agree_read (reads_readNamespaced _) hplays fun _ object _ steps _ hplays => ?_
  apply agree_change hplays
  · exact fun s a w h => replaceNamespaced_changes h
  · intro s a rest _ hplays
    unfold ConfigsRepository.update at hplays
    rw [Async.bind_assoc] at hplays
    refine agree_read (reads_currentRev id) hplays fun _ n _ rest _ hplays => ?_
    exact agree_appendAlone hplays
  · intro s a w rest hanswered hbody hchanges hplays
    exact agree_appendRow hchanges hanswered (replaceNamespaced_revisions hbody) hplays

/-! ## Operations by id -/

def OnlyAt (key : ResourceKey) (p : ConfigStep) : Prop :=
  ∀ other, p.2.world.objects.lookup other ≠ p.1.world.objects.lookup other → other = key

theorem onlyAt_call {α : Type} {key : ResourceKey} {body : ConfigStatement α}
    (h : ∀ w a w', body w = .ok (a, w') → ∀ other, other ≠ key →
      w'.objects.lookup other = w.objects.lookup other) : Each (OnlyAt key) (call body) := by
  apply Each.call
  intro s other hother
  rcases Unreliable.serve_world body s with hidle | ⟨a, hbody⟩
  · dsimp only at hother
    rw [hidle] at hother
    exact absurd rfl hother
  · by_contra hne
    exact hother (h s.world a _ hbody other hne)

theorem onlyAt_read {α : Type} {key : ResourceKey} {body : ConfigStatement α} (h : Reads body) :
    Each (OnlyAt key) (call body) := by
  apply onlyAt_call
  intro w a w' hbody other _
  rw [h w a w' hbody]

theorem onlyAt_replaceNamespaced (key : ResourceKey) (body : ConfigObject) :
    Each (OnlyAt key) (call (replaceNamespaced key body)) := by
  apply onlyAt_call
  intro w a w' h other hne
  unfold replaceNamespaced at h
  split at h
  · split_ifs at h
    · rw [← (Prod.mk.inj (Except.ok.inj h)).2]
    · rw [← (Prod.mk.inj (Except.ok.inj h)).2]
      exact AList.lookup_insert_ne hne
  · cases h

theorem onlyAt_deleteNamespaced (key : ResourceKey) :
    Each (OnlyAt key) (call (deleteNamespaced key)) := by
  apply onlyAt_call
  intro w a w' h other hne
  unfold deleteNamespaced at h
  split at h
  · rw [← (Prod.mk.inj (Except.ok.inj h)).2]
    exact AList.lookup_erase_ne hne
  · cases h

theorem onlyAt_setState (key : ResourceKey) (state : ConfigResourceState) :
    Each (OnlyAt key) (call (ConfigsRepository.setState id state)) := by
  apply onlyAt_call
  intro w a w' h other _
  unfold ConfigsRepository.setState at h
  split at h
  · cases h
  · rw [← (Prod.mk.inj (Except.ok.inj h)).2]

theorem onlyAt_appendRevision (key : ResourceKey) (nextRev : Nat) (change : ConfigRow → ConfigRow)
    (revision : ConfigRevision) :
    Each (OnlyAt key) (call (ConfigsRepository.appendRevision id nextRev change revision)) := by
  apply onlyAt_call
  intro w a w' h other _
  obtain ⟨row, -, -, -, rfl⟩ := appendRevision_eq_ok h
  rfl

theorem objectKey_eq_iff {row : ConfigRow} : (toRecord id row).objectKey = row.key ↔
    row.key.kind = "ConfigMap" ∨ row.key.kind = "Secret" := by
  obtain ⟨⟨clusterId, «namespace», kind, name⟩, state, dataKeys, currentRev, labels⟩ := row
  simp only [ConfigResourceRecord.objectKey, toRecord, ResourceKey.mk.injEq, true_and, and_true]
  unfold parseKind
  split
  · rename_i hsecret
    exact iff_of_true hsecret.symm (.inr hsecret)
  · rename_i hother
    exact ⟨fun h => .inl h.symm, fun h => (h.resolve_right hother).symm⟩

theorem actsOnStored_iff {k : ConfigResourceRecord → ConfigHandler ConfigMutationResponse}
    (hplays : Plays (mustFind id >>= k) steps r)
    (hk : ∀ existing, Each (OnlyAt existing.objectKey) (k existing)) :
    ActsOnStored id steps ↔ FitsKind id steps := by
  have of_idle (h : ∀ p ∈ steps, ¬ConfigStep.ChangesObject p) :
      ActsOnStored id steps ↔ FitsKind id steps := by
    refine iff_of_true (fun p hp key hkey => absurd ⟨key, hkey⟩ (h p hp)) ?_
    rintro ⟨p, hp, hchanges⟩
    exact absurd hchanges (h p hp)
  unfold mustFind at hplays
  rw [Async.bind_assoc] at hplays
  obtain ⟨s, rest, rfl, hend⟩ := Plays.call_bind hplays
  have hidle : (serve (ConfigsRepository.findById id) s).2.world = s.world :=
    (reads_findById id).serve s
  have hfirst := not_changesObject_of_eq (p := (s, (serve (ConfigsRepository.findById id) s).2))
    (congrArg _ hidle)
  rcases hend with ⟨e, -, rfl, -⟩ | ⟨found, w, -, hfind, hplays⟩
  · exact of_idle fun p hp => List.mem_singleton.mp hp ▸ hfirst
  obtain ⟨hfound, -⟩ := Prod.mk.inj (Except.ok.inj hfind)
  cases hrow : s.world.rows.lookup id with
  | none =>
      rw [hrow] at hfound
      subst hfound
      obtain ⟨rfl, -⟩ := Plays.fail_iff.mp hplays
      exact of_idle fun p hp => List.mem_singleton.mp hp ▸ hfirst
  | some row =>
      rw [hrow] at hfound
      subst hfound
      have hread : readRow id ((s, (serve (ConfigsRepository.findById id) s).2) :: rest) =
          some row := hrow
      have honly : ∀ p ∈ rest, OnlyAt (toRecord id row).objectKey p := hk _ rest r hplays
      have hchanged : ∀ p ∈ (s, (serve (ConfigsRepository.findById id) s).2) :: rest, ∀ key,
          p.2.world.objects.lookup key ≠ p.1.world.objects.lookup key →
            key = (toRecord id row).objectKey := by
        intro p hp key hkey
        rcases List.mem_cons.mp hp with rfl | hp
        · exact absurd ⟨key, hkey⟩ hfirst
        · exact honly p hp key hkey
      constructor
      · rintro hacts ⟨p, hp, key, hkey⟩ row₁ hrow₁
        obtain rfl := Option.some.inj (hread.symm.trans hrow₁)
        obtain ⟨row₂, hrow₂, hstored⟩ := hacts p hp key hkey
        obtain rfl := Option.some.inj (hread.symm.trans hrow₂)
        apply objectKey_eq_iff.mp
        rw [hstored, hchanged p hp key hkey]
      · intro hfits p hp key hkey
        refine ⟨row, hread, ?_⟩
        rw [hchanged p hp key hkey]
        exact (objectKey_eq_iff.mpr (hfits ⟨p, hp, key, hkey⟩ row hread)).symm

theorem actsOnStored_update {actor : Option ConfigActor} {body : UpdateConfigResourceRequest}
    (hplays : Plays (update scope actor id body) steps r) :
    ActsOnStored id steps ↔ FitsKind id steps := by
  apply actsOnStored_iff hplays
  intro existing
  refine .bind (.ensure _ _) fun _ => .bind (.ofExcept _) fun _ => .bind (.ofExcept _) fun data => ?_
  refine .bind ?_ fun _ => .bind ?_ fun _ => .done _
  · refine .bind (.ensure _ _) fun _ => .bind (onlyAt_read (reads_getKubeconfig _)) fun _ => ?_
    refine .bind (onlyAt_read (reads_readNamespaced _)) fun object => ?_
    exact onlyAt_replaceNamespaced _ _
  · refine .bind (onlyAt_read (reads_currentRev id)) fun n => ?_
    exact onlyAt_appendRevision _ _ _ _

theorem actsOnStored_applyAction {body : ConfigActionRequest}
    (hplays : Plays (applyAction scope id body) steps r) :
    ActsOnStored id steps ↔ FitsKind id steps := by
  apply actsOnStored_iff hplays
  intro existing
  have hact : ∀ state refused done,
      Each (OnlyAt existing.objectKey) (actOn id existing state refused done) := by
    intro state refused done
    unfold actOn
    refine .bind (.ensure _ _) fun _ => ?_
    split
    · refine .bind (.bind (onlyAt_read (reads_getKubeconfig _)) fun _ => ?_) fun _ => ?_
      · exact onlyAt_deleteNamespaced _
      · exact .bind (onlyAt_setState _ _) fun _ => .done _
    · exact .bind (onlyAt_setState _ _) fun _ => .done _
  refine .bind (.ofExcept _) fun _ => ?_
  split
  · exact hact _ _ _
  · split
    · exact hact _ _ _
    · split
      · exact hact _ _ _
      · exact .fail _

theorem actsOnStored_rollback {revision : Nat} {changedBy : Option String}
    (hplays : Plays (rollback scope id revision changedBy) steps r) :
    ActsOnStored id steps ↔ FitsKind id steps := by
  unfold rollback at hplays
  cases hrevision : assertRevision revision with
  | error e =>
      rw [hrevision] at hplays
      obtain ⟨rfl, -⟩ := Plays.fail_iff.mp hplays
      refine iff_of_true (fun p hp => nomatch hp) ?_
      rintro ⟨p, hp, -⟩
      cases hp
  | ok a =>
      rw [hrevision] at hplays
      apply actsOnStored_iff hplays
      intro existing
      refine .bind (.ensure _ _) fun _ => .bind (.ofExcept _) fun _ => ?_
      refine .bind (onlyAt_read (reads_getRevision _ _)) fun target => ?_
      refine .bind (.ensure _ _) fun _ => .bind ?_ fun _ => .done _
      refine .bind (onlyAt_read (reads_getRevision _ _)) fun _ => ?_
      refine .bind (onlyAt_read (reads_currentRev id)) fun n => ?_
      exact onlyAt_appendRevision _ _ _ _

theorem sound_iff_fits {request : ConfigRequest}
    (hplays : Plays (serveRequest scope request) steps r) :
    Sound steps r request ↔ Fits steps request := by
  cases request with
  | create id body => exact agree_create hplays
  | update id actor body => exact and_congr (agree_update hplays) (actsOnStored_update hplays)
  | applyAction id body => exact actsOnStored_applyAction hplays
  | rollback id revision changedBy => exact actsOnStored_rollback hplays

end

/-- Whatever runs beside it, a request is sound exactly if it meets the condition. -/
theorem mutations_sound_iff {scope : ScopeCheck} {env : ConfigState → ConfigState → Prop}
    {init : ConfigState}
    {c c' : Pool Exception ConfigState (Report ConfigRequest Exception ConfigState
      ConfigMutationResponse)}
    {request : ConfigRequest} {steps : List ConfigStep} {r : Except Exception ConfigMutationResponse}
    (hreach : Reach (reports (serveRequest scope)) env init c)
    (hends : c.Ends c' (request, steps, r)) : Sound steps r request ↔ Fits steps request :=
  sound_iff_fits (Pool.plays_of_ends hreach hends)

/-! ### A ConfigMap that is created again -/

abbrev ConfigPool :=
  Pool Exception ConfigState (Report ConfigRequest Exception ConfigState ConfigMutationResponse)

def limitsBody : CreateConfigResourceRequest :=
  ⟨some "prod", some "default", "ConfigMap", some "limits", none, some [("cpu", "1")], none⟩

def limitsRequests : List ConfigRequest :=
  [.create "c1" limitsBody, .applyAction "c1" ⟨"delete"⟩, .create "c2" limitsBody]

def observed (request : ConfigRequest) :
    Async Exception ConfigState (Report ConfigRequest Exception ConfigState
      ConfigMutationResponse) :=
  (serveRequest anyScope request).observe [] >>= fun answer => .done (request, answer)

def limitsPool : ConfigPool :=
  ⟨⟨oneCluster, none⟩, limitsRequests.map observed⟩

theorem limitsPool_reach :
    Reach (reports (serveRequest anyScope)) (fun _ _ => False) ⟨oneCluster, none⟩ limitsPool := by
  have hempty : Reach (reports (serveRequest anyScope)) (fun _ _ => False) ⟨oneCluster, none⟩
      (⟨⟨oneCluster, none⟩, []⟩ : ConfigPool) := .refl
  refine Reach.arrive_all hempty _ fun h hh => ?_
  have hmem : h ∈ limitsRequests.map observed := hh
  obtain ⟨request, -, rfl⟩ := List.mem_map.mp hmem
  exact ⟨request, rfl⟩

def creating : ConfigPool := limitsPool.play [0, 0, 0]

def creatingAgain : ConfigPool := limitsPool.play [0, 0, 0, 0, 1, 1, 1, 1, 2, 2, 2]

theorem allOrNothing_of_recorded {steps : List ConfigStep} {response : ConfigMutationResponse}
    (h : Recorded response.item.id steps) : AllOrNothing steps (.ok response) :=
  ⟨fun _ => ⟨response, rfl, h⟩, fun _ he => nomatch he⟩

/-- `Recorded`, evaluated. -/
def isRecorded (id : String) (steps : List ConfigStep) : Bool :=
  steps.any fun p => (p.2.world.rows.lookup id).any fun row =>
    decide (parseState row.state = .active ∧ (id, row.currentRev) ∈ p.2.world.revisions ∧
      (id, row.currentRev) ∉ p.1.world.revisions)

theorem recorded_of_isRecorded {id : String} {steps : List ConfigStep}
    (h : isRecorded id steps = true) : Recorded id steps := by
  obtain ⟨p, hp, hrow⟩ := List.any_eq_true.mp h
  obtain ⟨row, hlookup, hrow⟩ := (Option.any_eq_true _ _).mp hrow
  exact ⟨p, hp, row, hlookup, of_decide_eq_true hrow⟩

def answersRecorded (id : String)
    (answer : Report ConfigRequest Exception ConfigState ConfigMutationResponse) : Bool :=
  match answer.2.2 with
  | .ok response => decide (response.item.id = id) && isRecorded id answer.2.1
  | .error _ => false

theorem creating_fits : ∃ steps, Fits steps (.create "c1" limitsBody) ∧ Recorded "c1" steps := by
  have hsome : (creating.nextAnswer 0).isSome = true := by decide +kernel
  obtain ⟨⟨request, steps, r⟩, hanswer⟩ := Option.isSome_iff_exists.mp hsome
  have hrequest : (creating.nextAnswer 0).map (·.1) = some (.create "c1" limitsBody) := by
    decide +kernel
  have hcheck : (creating.nextAnswer 0).all (answersRecorded "c1") = true := by decide +kernel
  rw [hanswer] at hrequest hcheck
  obtain rfl : request = .create "c1" limitsBody := Option.some.inj hrequest
  have hanswers : answersRecorded "c1" (.create "c1" limitsBody, steps, r) = true := hcheck
  cases r with
  | error e => cases hanswers
  | ok response =>
      obtain ⟨hid, hrecorded⟩ := Bool.and_eq_true_iff.mp hanswers
      have hrow := recorded_of_isRecorded hrecorded
      have hall : AllOrNothing steps (.ok response) := by
        apply allOrNothing_of_recorded
        rw [of_decide_eq_true hid]
        exact hrow
      have hreach := limitsPool_reach.play [0, 0, 0]
      exact ⟨steps, (mutations_sound_iff hreach (Pool.ends_advance hanswer)).mp hall, hrow⟩

/-- The deleted row still has the key, so the second creation fails with the object created. -/
theorem creatingAgain_leavesObject : ¬∀ (scope : ScopeCheck) (env : ConfigState → ConfigState → Prop)
    (init : ConfigState) (c c' : ConfigPool) (request : ConfigRequest) (steps : List ConfigStep)
    (r : Except Exception ConfigMutationResponse), Reach (reports (serveRequest scope)) env init c →
      c.Ends c' (request, steps, r) → Sound steps r request := by
  intro hall
  have hsome : (creatingAgain.nextAnswer 2).isSome = true := by decide +kernel
  obtain ⟨⟨request, steps, r⟩, hanswer⟩ := Option.isSome_iff_exists.mp hsome
  have hsound := hall anyScope _ _ _ _ request steps r (limitsPool_reach.play _)
    (Pool.ends_advance hanswer)
  have hrequest : (creatingAgain.nextAnswer 2).map (·.1) = some (.create "c2" limitsBody) := by
    decide +kernel
  have hrefused : (creatingAgain.nextAnswer 2).map (·.2.2.toOption) = some none := by
    decide +kernel
  have hcreated : (creatingAgain.nextAnswer 2).all (fun answer => answer.2.1.any fun p =>
      decide (p.2.world.objects.lookup ⟨"prod", "default", "ConfigMap", "limits"⟩ ≠
        p.1.world.objects.lookup ⟨"prod", "default", "ConfigMap", "limits"⟩)) = true := by
    decide +kernel
  rw [hanswer] at hrequest hrefused hcreated
  obtain rfl : request = .create "c2" limitsBody := Option.some.inj hrequest
  obtain ⟨p, hp, hobject⟩ := List.any_eq_true.mp hcreated
  obtain ⟨response, rfl, -⟩ := hsound.recorded ⟨p, hp, _, of_decide_eq_true hobject⟩
  cases hrefused

end KubeNova.Configs
