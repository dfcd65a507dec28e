import KubeNova.Helm.RepositoryStore

/-!
# What the store of Helm repositories keeps

An operation writes back what it has read.  Where it reads everything, and no operation on another
key comes between its reading and its writing, the records of other keys stay.
-/

namespace KubeNova.Helm

open KubeNova.Foundation

/-- What the operations so far ought to have left is in the file, unless it is being written. -/
def HelmStores.NothingLost (s : HelmStores) : Prop :=
  s.isWriting = false → ∀ entry ∈ s.expected, entry ∈ s.file.entries

def isReadable (key : RepositoryKey) (found : Bool) (entry : Js) : Bool :=
  match keyOf entry with
  | some other => other == key || (found && isRepositoryRecord entry)
  | none => true

def StoreJob.letsRead (key : RepositoryKey) (job : StoreJob) : Bool :=
  match job.stage with
  | .waiting => true
  | .loaded _ => job.op.key == key
  | .writing _ _ => false

/-- An end of the job before its file is complete loses no record of another key. -/
def StoreJob.letsEnd (job : StoreJob) : Bool :=
  match job.stage with
  | .writing payload _ => (others job.op.key payload).isEmpty
  | _ => true

/-- Whoever reads in order to write reads everything, while nobody writes and nobody else is about
to write for another key; nobody writes where another one does; and a write that has begun is
completed, unless there are no other records. -/
def HelmStores.isHarmless (s : HelmStores) : StoreAction → Bool
  | .read i found =>
      match s.stores[i]? with
      | some (⟨op, .waiting⟩ :: _) =>
          s.stores.flatten.all (·.letsRead op.key) &&
            ((op.payload (readPayload found s.file)).isNone ||
              s.file.entries.all (isReadable op.key found))
      | _ => true
  | .opened _ succeeded => !succeeded || !s.isWriting
  | .wrote i succeeded _ =>
      match s.stores[i]? with
      | some (job :: _) => succeeded || job.letsEnd
      | _ => true
  | .crashed => s.stores.flatten.all (·.letsEnd)
  | _ => true

open StoreOperation in
theorem mem_others_iff {key : RepositoryKey} {entries : List Js} {entry : Js} :
    entry ∈ others key entries ↔ entry ∈ entries ∧ keyOf entry ≠ some key := by
  simp [others, matchesKey]

theorem keyOf_toJs (record : HelmRepositoryRecord) :
    keyOf record.toJs = some (record.clusterId, record.name) := by
  simp only [keyOf, field_toJs]
  simp [HelmRepositoryRecord.toJs, List.lookup_cons, Js.text?]

theorem keyOf_left {op : StoreOperation} {entry : Js} (h : entry ∈ op.left) :
    keyOf entry = some op.key := by
  cases op with
  | save record =>
      rw [List.mem_singleton.mp h]
      exact keyOf_toJs record
  | delete clusterId name => cases h

open StoreOperation in
theorem mem_upsert (key : RepositoryKey) (record : Js) (entries : List Js) :
    record ∈ upsert key record entries := by
  induction entries with
  | nil => exact List.mem_singleton_self record
  | cons entry rest ih =>
      unfold upsert
      split
      · exact List.mem_cons_self
      · exact List.mem_cons_of_mem _ ih

open StoreOperation in
theorem mem_upsert_of_ne {key : RepositoryKey} {record entry : Js} {entries : List Js}
    (h : entry ∈ entries) (hkey : keyOf entry ≠ some key) : entry ∈ upsert key record entries := by
  induction entries with
  | nil => cases h
  | cons first rest ih =>
      unfold upsert
      split
      · rename_i hmatch
        rcases List.mem_cons.mp h with rfl | hrest
        · exact absurd (eq_of_beq hmatch) hkey
        · exact List.mem_cons_of_mem _ hrest
      · rcases List.mem_cons.mp h with rfl | hrest
        · exact List.mem_cons_self
        · exact List.mem_cons_of_mem _ (ih hrest)

open StoreOperation in
theorem payload_keeps {op : StoreOperation} {entries payload : List Js}
    (h : op.payload entries = some payload) :
    (∀ entry ∈ entries, keyOf entry ≠ some op.key → entry ∈ payload) ∧ op.left ⊆ payload := by
  cases op with
  | save record =>
      obtain rfl := Option.some.inj h
      refine ⟨fun entry hentry hkey => mem_upsert_of_ne hentry hkey, fun entry hentry => ?_⟩
      rw [List.mem_singleton.mp hentry]
      exact mem_upsert _ _ _
  | delete clusterId name =>
      simp only [StoreOperation.payload] at h
      split at h
      · obtain rfl := Option.some.inj h
        exact ⟨fun entry hentry hkey => mem_others_iff.mpr ⟨hentry, hkey⟩, fun _ h => nomatch h⟩
      · cases h

/-! ## The invariant -/

def StoreJob.payload? (job : StoreJob) : Option (List Js) :=
  match job.stage with
  | .waiting => none
  | .loaded payload => some payload
  | .writing payload _ => some payload

structure Kept (s : HelmStores) : Prop where
  stored : s.NothingLost
  covered : ∀ job ∈ s.stores.flatten, ∀ payload ∈ job.payload?,
    others job.op.key s.expected ⊆ payload ∧ job.op.left ⊆ payload
  same : ∀ job ∈ s.stores.flatten, ∀ other ∈ s.stores.flatten, job.payload?.isSome →
    other.payload?.isSome → job.op.key = other.op.key
  whole : ∀ job ∈ s.stores.flatten, ∀ payload, job.stage ≠ .writing payload true
  keyed : ∀ entry ∈ s.expected, (keyOf entry).isSome

theorem isWriting_eq_false_iff {s : HelmStores} :
    s.isWriting = false ↔ ∀ job ∈ s.stores.flatten, job.isWriting = false := by
  rw [HelmStores.isWriting, List.any_eq_false]
  exact forall₂_congr fun job _ => by rw [Bool.not_eq_true]

section Queues

variable {stores : List (List StoreJob)} {i : Nat} {jobs queue : List StoreJob} {job : StoreJob}

theorem mem_flatten_set (h : job ∈ (stores.set i jobs).flatten) :
    job ∈ stores.flatten ∨ job ∈ jobs := by
  obtain ⟨queue, hqueue, hjob⟩ := List.mem_flatten.mp h
  rcases List.mem_or_eq_of_mem_set hqueue with hold | rfl
  · exact .inl (List.mem_flatten.mpr ⟨queue, hold, hjob⟩)
  · exact .inr hjob

theorem mem_flatten_of_getElem? (h : stores[i]? = some queue) (hjob : job ∈ queue) :
    job ∈ stores.flatten := List.mem_flatten.mpr ⟨queue, List.mem_of_getElem? h, hjob⟩

theorem mem_of_mem_flatten (jobs : List StoreJob) (h : stores[i]? = some queue)
    (hjob : job ∈ stores.flatten) :
    job ∈ queue ∨ job ∈ (stores.set i jobs).flatten := by
  obtain ⟨queue', hqueue', hmem⟩ := List.mem_flatten.mp hjob
  obtain ⟨j, hj⟩ := List.mem_iff_getElem?.mp hqueue'
  by_cases hij : i = j
  · subst hij
    obtain rfl := Option.some.inj (h.symm.trans hj)
    exact .inl hmem
  · refine .inr (mem_flatten_of_getElem? (i := j) ?_ hmem)
    rw [List.getElem?_set_ne hij]
    exact hj

theorem mem_flatten_set_self (h : stores[i]? = some queue) (hjob : job ∈ jobs) :
    job ∈ (stores.set i jobs).flatten := by
  obtain ⟨hlt, -⟩ := List.getElem?_eq_some_iff.mp h
  exact mem_flatten_of_getElem? (List.getElem?_set_self hlt) hjob

end Queues

namespace Kept

variable {s t : HelmStores} {i : Nat} {op : StoreOperation} {rest : List StoreJob}

theorem of_jobs (hs : Kept s) (hjobs : ∀ job ∈ t.stores.flatten,
    job ∈ s.stores.flatten ∨ job.stage = .waiting) (hexpected : t.expected = s.expected)
    (hstored : t.NothingLost) : Kept t := by
  have hold : ∀ job ∈ t.stores.flatten, job.payload?.isSome → job ∈ s.stores.flatten := by
    intro job hjob hpayload
    refine (hjobs job hjob).resolve_right fun hstage => ?_
    simp [StoreJob.payload?, hstage] at hpayload
  refine ⟨hstored, fun job hjob payload hpayload => ?_, ?_, fun job hjob payload hstage => ?_, ?_⟩
  · rw [hexpected]
    exact hs.covered job (hold job hjob (by rw [hpayload]; rfl)) payload hpayload
  · intro job hjob other hother hpayload hpayload'
    exact hs.same job (hold job hjob hpayload) other (hold other hother hpayload') hpayload hpayload'
  · have hpayload : job.payload?.isSome := by simp [StoreJob.payload?, hstage]
    exact hs.whole job (hold job hjob hpayload) payload hstage
  · rw [hexpected]
    exact hs.keyed

theorem release (hs : Kept s) {job : StoreJob} (hqueue : s.stores[i]? = some (job :: rest))
    (hjob : job.isWriting = false) : Kept (s.release i rest) := by
  refine hs.of_jobs (fun other hother => .inl ?_) rfl fun hquiet entry hentry => ?_
  · rcases mem_flatten_set hother with hold | hrest
    · exact hold
    · exact mem_flatten_of_getElem? hqueue (List.mem_cons_of_mem _ hrest)
  · refine hs.stored (isWriting_eq_false_iff.mpr fun other hother => ?_) entry hentry
    rcases mem_of_mem_flatten rest hqueue hother with hmem | hmem
    · rcases List.mem_cons.mp hmem with rfl | hrest
      · exact hjob
      · exact isWriting_eq_false_iff.mp hquiet other (mem_flatten_set_self hqueue hrest)
    · exact isWriting_eq_false_iff.mp hquiet other hmem

theorem advance (hs : Kept s) {job : StoreJob} (job' : StoreJob) {payload : List Js}
    (hqueue : s.stores[i]? = some (job :: rest)) (hop : job'.op = op)
    (hpayload : job'.payload? = some payload)
    (hcovered : others op.key s.expected ⊆ payload ∧ op.left ⊆ payload)
    (hsame : ∀ other ∈ s.stores.flatten, other.payload?.isSome → other.op.key = op.key)
    (hwhole : ∀ payload, job'.stage ≠ .writing payload true) (hexpected : t.expected = s.expected)
    (hstores : t.stores = s.stores.set i (job' :: rest)) (hstored : t.NothingLost) : Kept t := by
  have hjobs : ∀ other ∈ t.stores.flatten, other = job' ∨ other ∈ s.stores.flatten := by
    intro other hother
    rw [hstores] at hother
    rcases mem_flatten_set hother with hold | hnew
    · exact .inr hold
    · rcases List.mem_cons.mp hnew with rfl | hrest
      · exact .inl rfl
      · exact .inr (mem_flatten_of_getElem? hqueue (List.mem_cons_of_mem _ hrest))
  refine ⟨hstored, fun other hother payload' hpayload' => ?_, ?_, fun other hother => ?_, ?_⟩
  · rw [hexpected]
    rcases hjobs other hother with rfl | hold
    · obtain rfl := Option.some.inj (hpayload.symm.trans hpayload')
      rw [hop]
      exact hcovered
    · exact hs.covered other hold payload' hpayload'
  · have hkey : ∀ other ∈ t.stores.flatten, other.payload?.isSome → other.op.key = op.key := by
      intro other hother hbegun
      rcases hjobs other hother with rfl | hold
      · rw [hop]
      · exact hsame other hold hbegun
    intro other hother other' hother' hbegun hbegun'
    rw [hkey other hother hbegun, hkey other' hother' hbegun']
  · rcases hjobs other hother with rfl | hold
    · exact hwhole
    · exact hs.whole other hold
  · rw [hexpected]
    exact hs.keyed

theorem read (hs : Kept s) {found : Bool} (hqueue : s.stores[i]? = some (⟨op, .waiting⟩ :: rest))
    (hok : s.isHarmless (.read i found) = true) : Kept (s.read i found op rest) := by
  unfold HelmStores.isHarmless at hok
  simp only [hqueue, Bool.and_eq_true] at hok
  obtain ⟨hletsRead, hreads⟩ := hok
  have hothers := List.all_eq_true.mp hletsRead
  have hquiet : s.isWriting = false := by
    refine isWriting_eq_false_iff.mpr fun job hjob => ?_
    have hlets := hothers job hjob
    unfold StoreJob.letsRead at hlets
    unfold StoreJob.isWriting
    split at hlets <;> simp_all
  unfold HelmStores.read
  cases hpayload : op.payload (readPayload found s.file) with
  | none => exact hs.release hqueue rfl
  | some payload =>
      rw [hpayload] at hreads
      have hreadable := List.all_eq_true.mp hreads
      obtain ⟨hkept, hleft⟩ := payload_keeps hpayload
      refine hs.advance ⟨op, .loaded payload⟩ hqueue rfl rfl ⟨fun entry hentry => ?_, hleft⟩
        (fun job hjob hbegun => ?_) (fun _ h => nomatch h) rfl rfl fun _ => hs.stored hquiet
      · obtain ⟨hexpected, hkey⟩ := mem_others_iff.mp hentry
        have hmem := hs.stored hquiet entry hexpected
        refine hkept entry ?_ hkey
        -- It is under another key, so it has been read.
        obtain ⟨other, hother⟩ := Option.isSome_iff_exists.mp (hs.keyed entry hexpected)
        have hread := hreadable entry hmem
        simp only [isReadable, hother, Bool.or_eq_true, Bool.and_eq_true] at hread
        rcases hread with hsame | ⟨hfound, hrecord⟩
        · rw [hother, eq_of_beq hsame] at hkey
          exact absurd rfl hkey
        · rw [readPayload, if_pos hfound]
          exact List.mem_filter.mpr ⟨hmem, hrecord⟩
      · have hlets := hothers job hjob
        unfold StoreJob.letsRead at hlets
        unfold StoreJob.payload? at hbegun
        split at hlets
        · simp_all
        · exact eq_of_beq hlets
        · cases hlets

theorem map_tear (hquiet : s.isWriting = false) :
    s.stores.map (fun jobs => jobs.map StoreJob.tear) = s.stores := by
  refine (List.map_congr_left fun jobs hjobs => ?_).trans (List.map_id s.stores)
  refine (List.map_congr_left fun job hjob => ?_).trans (List.map_id jobs)
  have hjob := isWriting_eq_false_iff.mp hquiet job (List.mem_flatten.mpr ⟨jobs, hjobs, hjob⟩)
  unfold StoreJob.isWriting at hjob
  unfold StoreJob.tear
  split at hjob
  · cases hjob
  · rfl

theorem opened (hs : Kept s) {payload : List Js}
    (hqueue : s.stores[i]? = some (⟨op, .loaded payload⟩ :: rest)) (hquiet : s.isWriting = false) :
    Kept (s.opened i op payload rest) := by
  have hhead := mem_flatten_of_getElem? hqueue List.mem_cons_self
  have hstores : (s.opened i op payload rest).stores =
      s.stores.set i (⟨op, .writing payload false⟩ :: rest) := by
    simp only [HelmStores.opened, map_tear hquiet, hquiet]
  refine hs.advance ⟨op, .writing payload false⟩ hqueue rfl rfl
    (hs.covered _ hhead payload rfl) (fun other hother hbegun => ?_) (fun _ h => nomatch h) rfl
    hstores fun hclosed => ?_
  · exact hs.same other hother ⟨op, .loaded payload⟩ hhead hbegun rfl
  · have hwriting := isWriting_eq_false_iff.mp hclosed ⟨op, .writing payload false⟩ (by
      rw [hstores]
      exact mem_flatten_set_self hqueue List.mem_cons_self)
    cases hwriting

theorem ended (hs : Kept s) {job : StoreJob} (file : StoreFile) (new : List Js)
    (hqueue : s.stores[i]? = some (job :: rest)) (hbegun : job.payload?.isSome)
    (hnew : ∀ entry ∈ new, keyOf entry = some job.op.key)
    (hfile : ∀ entry ∈ others job.op.key s.expected ++ new, entry ∈ file.entries) :
    Kept { s.release i rest with
      file := file
      expected := others job.op.key s.expected ++ new } := by
  have hjobs : ∀ other ∈ (s.stores.set i rest).flatten, other ∈ s.stores.flatten := by
    intro other hother
    rcases mem_flatten_set hother with hold | hrest
    · exact hold
    · exact mem_flatten_of_getElem? hqueue (List.mem_cons_of_mem _ hrest)
  have hhead := mem_flatten_of_getElem? hqueue List.mem_cons_self
  refine ⟨fun _ => hfile, fun other hother payload hpayload => ⟨fun entry hentry => ?_, ?_⟩,
    fun other hother other' hother' => hs.same _ (hjobs other hother) _ (hjobs other' hother'),
    fun other hother => hs.whole other (hjobs other hother), fun entry hentry => ?_⟩
  · -- Another operation under way is on the same key.
    have hkey := hs.same other (hjobs other hother) job hhead (by rw [hpayload]; rfl) hbegun
    obtain ⟨hmem, hne⟩ := mem_others_iff.mp hentry
    rcases List.mem_append.mp hmem with hold | hadded
    · refine (hs.covered other (hjobs other hother) payload hpayload).1 (mem_others_iff.mpr ⟨?_, hne⟩)
      exact (mem_others_iff.mp hold).1
    · rw [hkey, hnew entry hadded] at hne
      exact absurd rfl hne
  · exact (hs.covered other (hjobs other hother) payload hpayload).2
  · rcases List.mem_append.mp hentry with hold | hadded
    · exact hs.keyed entry (mem_others_iff.mp hold).1
    · rw [hnew entry hadded]
      rfl

theorem wrote (hs : Kept s) {payload : List Js} {torn : Bool} (remains : StoreFile)
    (hqueue : s.stores[i]? = some (⟨op, .writing payload torn⟩ :: rest)) :
    Kept (s.wrote i op payload torn remains rest) := by
  have hhead := mem_flatten_of_getElem? hqueue List.mem_cons_self
  obtain ⟨hothers, hleft⟩ := hs.covered _ hhead payload rfl
  have hwhole : torn = false := by
    cases torn with
    | false => rfl
    | true => exact absurd rfl (hs.whole _ hhead payload)
  subst hwhole
  refine hs.ended (.of payload) _ hqueue rfl (fun _ h => keyOf_left h) fun entry hentry => ?_
  rcases List.mem_append.mp hentry with hold | hadded
  · exact hothers hold
  · exact hleft hadded

theorem others_eq_nil (hs : Kept s) {job : StoreJob} (hjob : job ∈ s.stores.flatten)
    (hwriting : job.isWriting = true) (hends : job.letsEnd = true) :
    others job.op.key s.expected = [] := by
  obtain ⟨op, stage⟩ := job
  cases stage with
  | waiting | loaded => cases hwriting
  | writing payload torn =>
      have hempty : others op.key payload = [] := List.isEmpty_iff.mp hends
      refine List.eq_nil_iff_forall_not_mem.mpr fun entry hentry => ?_
      have hmem := (hs.covered _ hjob payload rfl).1 hentry
      have hnil : entry ∈ others op.key payload :=
        mem_others_iff.mpr ⟨hmem, (mem_others_iff.mp hentry).2⟩
      rw [hempty] at hnil
      cases hnil

theorem failed (hs : Kept s) {payload : List Js} {torn : Bool} (remains : StoreFile)
    (hqueue : s.stores[i]? = some (⟨op, .writing payload torn⟩ :: rest))
    (hends : (⟨op, .writing payload torn⟩ : StoreJob).letsEnd = true) :
    Kept (s.failed i op torn remains rest) := by
  have hhead := mem_flatten_of_getElem? hqueue List.mem_cons_self
  have hnone : others op.key s.expected = [] := hs.others_eq_nil hhead rfl hends
  have hended := hs.ended (if torn then remains else .garbled) [] hqueue rfl
    (fun _ h => nomatch h) fun entry hentry => by
      simp only [List.append_nil] at hentry
      rw [hnone] at hentry
      cases hentry
  simp only [List.append_nil] at hended
  exact hended

theorem foldl_others_subset (keys : List RepositoryKey) (entries : List Js) :
    keys.foldl (fun entries key => others key entries) entries ⊆ entries := by
  induction keys generalizing entries with
  | nil => exact List.Subset.refl _
  | cons key keys ih => exact List.Subset.trans (ih (others key entries)) List.filter_sublist.subset

theorem foldl_others_subset_of_mem {keys : List RepositoryKey} {key : RepositoryKey}
    (hkey : key ∈ keys) (entries : List Js) :
    keys.foldl (fun entries key => others key entries) entries ⊆ others key entries := by
  induction keys generalizing entries with
  | nil => cases hkey
  | cons first keys ih =>
      rcases List.mem_cons.mp hkey with rfl | hrest
      · exact foldl_others_subset keys _
      · refine List.Subset.trans (ih hrest (others first entries)) fun entry hentry => ?_
        obtain ⟨hmem, hne⟩ := mem_others_iff.mp hentry
        exact mem_others_iff.mpr ⟨(mem_others_iff.mp hmem).1, hne⟩

theorem crashed (hs : Kept s) (hok : s.isHarmless .crashed = true) : Kept s.crashed := by
  refine ⟨fun _ entry hentry => ?_, fun _ h => (nomatch h), fun _ h => (nomatch h),
    fun _ h => (nomatch h), fun entry hentry => ?_⟩
  · cases hwriting : s.isWriting with
    | false => exact hs.stored hwriting entry (foldl_others_subset _ _ hentry)
    | true =>
        obtain ⟨job, hjob, hbegun⟩ := List.any_eq_true.mp hwriting
        have hends := List.all_eq_true.mp hok job hjob
        have hkey : job.op.key ∈ s.cutOff :=
          List.mem_map.mpr ⟨job, List.mem_filter.mpr ⟨hjob, hbegun⟩, rfl⟩
        have hmem := foldl_others_subset_of_mem hkey s.expected hentry
        rw [hs.others_eq_nil hjob hbegun hends] at hmem
        cases hmem
  · exact hs.keyed entry (foldl_others_subset _ _ hentry)

theorem step (hs : Kept s) {a : StoreAction} (hok : s.isHarmless a = true)
    (hstep : helmStores.step a s = some t) : Kept t := by
  cases a with
  | created =>
      obtain rfl := Option.some.inj hstep
      have hflat : (s.stores ++ [[]]).flatten = s.stores.flatten := by simp
      refine hs.of_jobs (fun job hjob => .inl (hflat ▸ hjob)) rfl fun hquiet => ?_
      refine hs.stored ?_
      rw [HelmStores.isWriting, ← hflat]
      exact hquiet
  | called i op =>
      obtain ⟨jobs, hqueue, rfl⟩ := Option.map_eq_some_iff.mp hstep
      refine hs.of_jobs (fun job hjob => ?_) rfl fun hquiet => hs.stored ?_
      · rcases mem_flatten_set hjob with hold | hnew
        · exact .inl hold
        · rcases List.mem_append.mp hnew with hold | hadded
          · exact .inl (mem_flatten_of_getElem? hqueue hold)
          · rw [List.mem_singleton.mp hadded]
            exact .inr rfl
      · refine isWriting_eq_false_iff.mpr fun job hjob => isWriting_eq_false_iff.mp hquiet job ?_
        rcases mem_of_mem_flatten (jobs ++ [⟨op, .waiting⟩]) hqueue hjob with hmem | hmem
        · exact mem_flatten_set_self hqueue (List.mem_append_left _ hmem)
        · exact hmem
  | read i found =>
      simp only [helmStores] at hstep
      split at hstep
      · rename_i op rest hqueue
        obtain rfl := Option.some.inj hstep
        exact hs.read hqueue hok
      · cases hstep
  | opened i succeeded =>
      simp only [helmStores] at hstep
      split at hstep
      · rename_i op payload rest hqueue
        obtain rfl := Option.some.inj hstep
        cases succeeded with
        | true => exact hs.opened hqueue (by simpa [HelmStores.isHarmless] using hok)
        | false => exact hs.release hqueue rfl
      · cases hstep
  | wrote i succeeded remains =>
      simp only [helmStores] at hstep
      split at hstep
      · rename_i op payload torn rest hqueue
        obtain rfl := Option.some.inj hstep
        cases succeeded with
        | true => exact hs.wrote remains hqueue
        | false =>
            refine hs.failed remains hqueue ?_
            simpa [HelmStores.isHarmless, hqueue] using hok
      · cases hstep
  | crashed =>
      obtain rfl := Option.some.inj hstep
      exact hs.crashed hok

end Kept

theorem kept_initial (file : StoreFile) : Kept (.initial file) where
  stored _ _ hentry := (List.mem_filter.mp hentry).1
  covered _ h := nomatch h
  same _ h := nomatch h
  whole _ h := nomatch h
  keyed _ hentry := (List.mem_filter.mp hentry).2

theorem harmless_nothingLost (file : StoreFile) {s : HelmStores}
    (hrun : helmStores.Run (fun s a => s.isHarmless a = true) (.initial file) s) : s.NothingLost :=
  (hrun.invariant (I := Kept) (fun _ _ _ hok hstep hs => hs.step hok hstep) (kept_initial file)).stored

def repository (name : String) : HelmRepositoryRecord :=
  ⟨"c", name, "u", none, none, .none, none, none, none, none, none, .saved, none, none, "t", "t"⟩

/-- One instance saves `a`, then another one `b`. -/
def oneAfterAnother : List StoreAction :=
  [.created, .created, .called 0 (.save (repository "a")), .read 0 false, .opened 0 true,
    .wrote 0 true .missing, .called 1 (.save (repository "b")), .read 1 true, .opened 1 true,
    .wrote 1 true .missing]

theorem oneAfterAnother_plays : ((helmStores.restrict fun s a => s.isHarmless a = true).play
    oneAfterAnother (.initial .missing)).isSome = true := by decide +kernel

def bothSaved : HelmStores := Option.get _ oneAfterAnother_plays

theorem bothSaved_nothingLost : bothSaved.NothingLost ∧ bothSaved.isWriting = false ∧
    bothSaved.expected.length = 2 :=
  ⟨harmless_nothingLost .missing (Machine.Run.play (Option.some_get oneAfterAnother_plays).symm),
    by decide +kernel, by decide +kernel⟩

def overlapping : List StoreAction :=
  [.created, .created, .called 0 (.save (repository "a")), .called 1 (.save (repository "b")),
    .read 0 false, .read 1 false, .opened 0 true, .wrote 0 true .missing, .opened 1 true,
    .wrote 1 true .missing]

theorem overlapping_plays : ((helmStores.restrict fun _ _ => True).play overlapping
    (.initial .missing)).isSome = true := by decide +kernel

def oneSaved : HelmStores := Option.get _ overlapping_plays

theorem overlapping_loses : ¬∀ (file : StoreFile) (s : HelmStores),
    helmStores.AnyRun (.initial file) s → s.NothingLost := by
  intro h
  have hlost := h .missing oneSaved (Machine.Run.play (Option.some_get overlapping_plays).symm)
    (by decide +kernel)
  have hfirst : oneSaved.expected.any (fun entry => keyOf entry == some ("c", "a")) = true := by
    decide +kernel
  obtain ⟨entry, hentry, hkey⟩ := List.any_eq_true.mp hfirst
  have hnone : oneSaved.file.entries.all (fun entry => keyOf entry != some ("c", "a")) = true := by
    decide +kernel
  have hother := List.all_eq_true.mp hnone entry (hlost entry hentry)
  rw [eq_of_beq hkey] at hother
  exact absurd hother (by decide)

end KubeNova.Helm
