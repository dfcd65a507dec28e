import KubeNova.Update.SystemUpdate

/-!
# What a statement of an update request does

Every statement of a preflight, an install, a save or a call to the queue is an `UpdateStep`, and
every step keeps what the log says true: which settings a preflight read, whose fingerprint is in
the shared field, and which task belongs to which request.
-/

namespace KubeNova.Update

open KubeNova.Common KubeNova.Foundation

/-! ## Tasks from one statement to the next -/

/-- A task stays what it was submitted as; one that has failed stays so, and one that has
succeeded can only fail. -/
structure SameSubmission (row row' : Task) : Prop where
  action : row'.action = row.action
  payload : row'.payload = row.payload
  createdAt : row'.createdAt = row.createdAt
  failed : row.status = .failed → row'.status = .failed
  succeeded : row.status = .succeeded → row'.status = .succeeded ∨ row'.status = .failed

theorem SameSubmission.refl (row : Task) : SameSubmission row row := ⟨rfl, rfl, rfl, id, .inl⟩

theorem SameSubmission.of_active {row row' : Task} (hactive : row.isActive = true)
    (haction : row'.action = row.action) (hpayload : row'.payload = row.payload)
    (hcreated : row'.createdAt = row.createdAt) : SameSubmission row row' := by
  refine ⟨haction, hpayload, hcreated, fun hfailed => ?_, fun hsucceeded => ?_⟩
  · simp [Task.isActive, hfailed] at hactive
  · simp [Task.isActive, hsucceeded] at hactive

def TasksStay (q t : Queue) : Prop :=
  ∀ id row, q.tasks.lookup id = some row →
    ∃ row', t.tasks.lookup id = some row' ∧ SameSubmission row row'

/-- No task goes away, and none that appears is a preflight. -/
structure TasksKept (q t : Queue) : Prop where
  kept : TasksStay q t
  known : ∀ id row', t.tasks.lookup id = some row' → row'.action = .preflight →
    ∃ row, q.tasks.lookup id = some row ∧ SameSubmission row row'

theorem TasksKept.of_eq {q t : Queue} (h : t.tasks = q.tasks) : TasksKept q t :=
  ⟨fun _ row hrow => ⟨row, by rw [h]; exact hrow, .refl row⟩,
    fun _ row hrow _ => ⟨row, by rw [← h]; exact hrow, .refl row⟩⟩

theorem TasksKept.refl (q : Queue) : TasksKept q q := .of_eq rfl

theorem TasksKept.update {q t : Queue} {id : String} {row : Task} {f : Task → Task}
    (hrow : q.tasks.lookup id = some row) (ht : t.tasks = q.tasks.update id f)
    (hf : SameSubmission row (f row)) : TasksKept q t := by
  constructor
  · intro k other hother
    rw [ht]
    by_cases hk : k = id
    · subst hk
      obtain rfl := Option.some.inj (hrow.symm.trans hother)
      exact ⟨f row, by simp [hrow], hf⟩
    · exact ⟨other, (Table.lookup_update_ne f q.tasks hk).trans hother, .refl other⟩
  · intro k row' hrow' _
    rw [ht] at hrow'
    rcases lookup_update_cases hrow hrow' with ⟨rfl, rfl⟩ | ⟨-, hold⟩
    · exact ⟨row, hrow, hf⟩
    · exact ⟨row', hold, .refl row'⟩

theorem TasksKept.updateTask {q : Queue} {id : String} {row : Task} {f : Task → Task}
    (hrow : q.tasks.lookup id = some row) (hf : SameSubmission row (f row)) :
    TasksKept q (q.updateTask id f) := .update hrow rfl hf

theorem tasksStay_insert {q : Queue} {id : String} {row : Task} (hfresh : id ∉ q.tasks) :
    TasksStay q { q with tasks := q.tasks.insert id row } := by
  intro k other hother
  have hk : k ≠ id := by
    rintro rfl
    exact hfresh (AList.lookup_isSome.mp (by simp [hother]))
  refine ⟨other, ?_, .refl other⟩
  rw [Table.lookup_insert, if_neg hk]
  exact hother

theorem tasksKept_insert {q : Queue} {id : String} {row : Task} (hfresh : id ∉ q.tasks)
    (haction : row.action ≠ .preflight) :
    TasksKept q { q with tasks := q.tasks.insert id row } := by
  refine ⟨tasksStay_insert hfresh, fun k other hother hpreflight => ?_⟩
  have hother : (q.tasks.insert id row).lookup k = some other := hother
  rw [Table.lookup_insert] at hother
  split at hother
  · rw [← Option.some.inj hother] at hpreflight
    exact absurd hpreflight haction
  · exact ⟨other, hother, .refl other⟩

theorem tasksKept_create {q t : Queue} {id signature : String} {payload : TaskPayload} {row : Task}
    (h : Tasks.create id payload signature q = .ok (row, t)) (haction : payload.action ≠ .preflight) :
    TasksKept q t := by
  unfold Tasks.create at h
  split at h
  · cases h
  · rename_i hfree
    obtain ⟨rfl, rfl⟩ := Prod.mk.inj (Except.ok.inj h)
    rw [not_or] at hfree
    exact tasksKept_insert hfree.1 haction

def tasksProtocol : Protocol Queue where
  inv _ := True
  guar := TasksKept
  refl := TasksKept.refl
  preserves _ _ := trivial

namespace Tasks

variable {q : Queue}

theorem tasksKept_invalidate (id : String) (now : Nat) (message : String) (result : TaskResult)
    (signature : String) : TasksKept q (invalidate id now message result signature q).2 := by
  unfold invalidate
  split
  · rename_i row hrow
    split
    · refine TasksKept.updateTask hrow ?_
      exact ⟨rfl, rfl, rfl, fun _ => rfl, fun _ => .inr rfl⟩
    · exact .refl q
  · exact .refl q

theorem tasksKept_reject (id : String) (now : Nat) (candidate : Task) (e : Exception) :
    TasksKept q (reject id now candidate e q).2 := by
  unfold reject
  split
  · rename_i row hrow
    split
    · rename_i hguard
      refine TasksKept.updateTask hrow ?_
      exact .of_active (isActive_of_isUnchanged hguard) rfl rfl rfl
    · exact .refl q
  · exact .refl q

theorem tasksKept_claim (id workerId : String) (now : Nat) (candidate : Task) :
    TasksKept q (claim id workerId now candidate q).2 := by
  unfold claim
  split
  · rename_i row hrow
    split
    · rename_i hguard
      refine TasksKept.update hrow rfl ?_
      exact .of_active (isActive_of_isUnchanged hguard) rfl rfl rfl
    · exact .refl q
  · exact .refl q

theorem tasksKept_updateOwned {id workerId : String} {now : Nat} {f : Task → Task}
    (haction : ∀ row, (f row).action = row.action) (hpayload : ∀ row, (f row).payload = row.payload)
    (hcreated : ∀ row, (f row).createdAt = row.createdAt) :
    TasksKept q (updateOwned id workerId now f q).2 := by
  unfold updateOwned
  split
  · rename_i row hrow
    split
    · split
      · rename_i hguard
        have hactive : row.isActive = true := by simp [Task.isActive, hguard.1]
        exact .update hrow rfl (.of_active hactive (haction row) (hpayload row) (hcreated row))
      · exact .refl q
    · exact .refl q
  · exact .refl q

theorem keeps_submit (config : QueueConfig) (id : String) (payload : TaskPayload)
    (haction : payload.action ≠ .preflight) : Obeys tasksProtocol (submit config id payload) := by
  refine .bind (.query _) fun _ => .bind (.ofExcept _) fun _ => .bind ?_ fun _ => .done _
  refine .tryCatch (.bind (.ofExcept _) fun _ => .attempt fun q _ row t hrun => ?_) fun e => ?_
  · exact tasksKept_create hrun haction
  · exact .ite (.fail _) (.fail _)

theorem keeps_finish (config : QueueConfig) (id workerId : String) (succeeded : Bool)
    (phase : String) (percent : Option Int) (message : String) (taskResult : Option TaskResult) :
    Obeys tasksProtocol
      (finish config id workerId succeeded phase percent message taskResult) := by
  refine .bind (.ensure _ _) fun _ => .bind (.ensure _ _) fun _ => .bind (.ofExcept _) fun _ =>
    .bind (.query _) fun now => .bind (.exec fun q _ => ?_) fun _ => .ensure _ _
  exact tasksKept_updateOwned (fun _ => rfl) (fun _ => rfl) fun _ => rfl

end Tasks

open Tasks in
theorem keeps_traffic (config : QueueConfig) {request : QueueRequest}
    (h : UpdateService.isQueueTraffic request = true) :
    Obeys tasksProtocol (serveQueue config request) := by
  cases request with
  | submit id payload =>
      have haction : payload.action = .rollback := eq_of_beq h
      refine .bind (keeps_submit config id payload ?_) fun _ => .done _
      rw [haction]
      exact fun h => nomatch h
  | get id => exact .bind (obeys_get _ _) fun _ => .done _
  | invalidateLatestPreflight checks message => cases h
  | claimNext workerId =>
      rw [serveQueue]
      have hclaim := @obeys_claimNext tasksProtocol config workerId tasksKept_reject
        fun id => tasksKept_claim id workerId
      -- The handler is a loop of ten rounds, which is not to be unfolded here.
      generalize claimNext config workerId = handler at hclaim
      exact .bind hclaim fun _ => .done _
  | heartbeat id workerId phase percent message =>
      refine .bind (.ensure _ _) fun _ => .bind (.ensure _ _) fun _ => .bind (.query _) fun now =>
        .bind (.exec fun q _ => ?_) fun _ => .ensure _ _
      exact tasksKept_updateOwned (fun _ => rfl) (fun _ => rfl) fun _ => rfl
  | recordBackup id workerId location bytes =>
      refine .bind (.ensure _ _) fun _ => .bind (.query _) fun now =>
        .bind (.exec fun q _ => ?_) fun _ => .ensure _ _
      exact tasksKept_updateOwned (fun _ => rfl) (fun _ => rfl) fun _ => rfl
  | finish id workerId succeeded phase percent message taskResult =>
      exact keeps_finish _ _ _ _ _ _ _ _

end KubeNova.Update
