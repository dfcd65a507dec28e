import KubeNova.Update.TaskQueue

/-!
# Safety of the task queue

Six requests write the same row under different guards.  `QueueStep` says what any
of their statements does; the invariant ties the slot to the active task and the
row's claimant to the latest claim, and each step keeps it.
-/

namespace KubeNova.Update

open KubeNova.Common KubeNova.Foundation Relation

def updateSlot : String := "system-update"

def Task.isActive (row : Task) : Bool := row.status == .queued || row.status == .running

def lastClaim (id : String) : List QueueEvent → Option String
  | [] => none
  | .claimed i worker :: past => if i = id then some worker else lastClaim id past
  | .owned _ _ _ _ :: past => lastClaim id past

def WrittenByClaimant : List QueueEvent → Prop
  | [] => True
  | .claimed _ _ :: past => WrittenByClaimant past
  | .owned id worker issuedAt lease :: past =>
      (lastClaim id past = some worker ∧ issuedAt < lease) ∧ WrittenByClaimant past

theorem verifiedPublicTask_eq_ok {config : QueueConfig} {id : String} {row : Task}
    {record : TaskRecord} (h : Tasks.verifiedPublicTask config id row = .ok record) :
    record = Tasks.publicTask id row := by
  obtain ⟨_, -, h⟩ := exists_of_bind_eq_ok h
  obtain ⟨_, -, h⟩ := exists_of_bind_eq_ok h
  obtain ⟨_, -, h⟩ := exists_of_bind_eq_ok h
  cases hresult : row.result with
  | none =>
      simp only [hresult] at h
      exact (Except.ok.inj h).symm
  | some result =>
      simp only [hresult] at h
      obtain ⟨_, -, h⟩ := exists_of_bind_eq_ok h
      obtain ⟨_, -, h⟩ := exists_of_bind_eq_ok h
      exact (Except.ok.inj h).symm

/-- A guarded update of one row, and the events it leaves. -/
inductive RowWrite (id : String) (row : Task) : Task → List QueueEvent → Prop
  | claim {row' : Task} (worker : String) (hactive : row.isActive = true)
      (hrunning : row'.status = .running) (hslot : row'.activeSlot = row.activeSlot)
      (hworker : row'.claimedBy = some worker) : RowWrite id row row' [.claimed id worker]
  | progress {row' : Task} (worker : String) (issuedAt lease : Nat)
      (hrunning : row.status = .running) (hworker : row.claimedBy = some worker)
      (hlease : issuedAt < lease) (hstatus : row'.status = .running)
      (hslot : row'.activeSlot = row.activeSlot) (hclaimed : row'.claimedBy = row.claimedBy) :
      RowWrite id row row' [.owned id worker issuedAt lease]
  | finish {row' : Task} (worker : String) (issuedAt lease : Nat)
      (hrunning : row.status = .running) (hworker : row.claimedBy = some worker)
      (hlease : issuedAt < lease) (hstatus : row'.isActive = false)
      (hslot : row'.activeSlot = none) : RowWrite id row row' [.owned id worker issuedAt lease]
  | reject {row' : Task} (hactive : row.isActive = true) (hstatus : row'.isActive = false)
      (hslot : row'.activeSlot = none) : RowWrite id row row' []
  | invalidate {row' : Task} (haction : row.action = .preflight) (hrow : row.status = .succeeded)
      (hstatus : row'.status = .failed) (hslot : row'.activeSlot = none) : RowWrite id row row' []

inductive QueueStep (q : Queue) : Queue → Prop
  | clock (now : Nat) : QueueStep q { q with now := now }
  | submit (id : String) (row : Task) (hfresh : id ∉ q.tasks)
      (hfree : ∀ k other, q.tasks.lookup k = some other → other.activeSlot ≠ some updateSlot)
      (hstatus : row.status = .queued) (hslot : row.activeSlot = some updateSlot) :
      QueueStep q { q with tasks := AList.insert id row q.tasks }
  | write (id : String) (row : Task) (f : Task → Task) (events : List QueueEvent)
      (hrow : q.tasks.lookup id = some row) (haction : (f row).action = row.action)
      (hwrite : RowWrite id row (f row) events) :
      QueueStep q ⟨q.now, q.tasks.update id f, events ++ q.log⟩

theorem QueueStep.refl (q : Queue) : QueueStep q q := .clock q.now

/-! ## The invariant -/

structure QueueInv (q : Queue) : Prop where
  slot : ∀ id row, q.tasks.lookup id = some row →
    row.activeSlot = if row.isActive then some updateSlot else none
  single : ∀ id id' row row', q.tasks.lookup id = some row → q.tasks.lookup id' = some row' →
    row.isActive = true → row'.isActive = true → id = id'
  claimant : ∀ id row, q.tasks.lookup id = some row → row.status = .running →
    row.claimedBy = lastClaim id q.log
  log : WrittenByClaimant q.log

namespace RowWrite

variable {id : String} {row row' : Task} {events : List QueueEvent}

theorem slot (h : RowWrite id row row' events)
    (hrow : row.activeSlot = if row.isActive then some updateSlot else none) :
    row'.activeSlot = if row'.isActive then some updateSlot else none := by
  cases h with
  | claim worker hactive hrunning hslot =>
      have hactive' : row'.isActive = true := by simp [Task.isActive, hrunning]
      rw [hslot, hrow, if_pos hactive, if_pos hactive']
  | progress worker issuedAt lease hrunning _ _ hstatus hslot =>
      simp [hslot, hrow, Task.isActive, hrunning, hstatus]
  | finish worker issuedAt lease _ _ _ hstatus hslot => simp [hslot, hstatus]
  | reject hactive hstatus hslot => simp [hslot, hstatus]
  | invalidate haction hsucceeded hstatus hslot => simp [hslot, Task.isActive, hstatus]

theorem isActive (h : RowWrite id row row' events) (hactive : row'.isActive = true) :
    row.isActive = true := by
  cases h with
  | claim worker hold => exact hold
  | progress worker issuedAt lease hrunning => simp [Task.isActive, hrunning]
  | finish worker issuedAt lease hrunning => simp [Task.isActive, hrunning]
  | reject hold => exact hold
  | invalidate haction hsucceeded hstatus => simp [Task.isActive, hstatus] at hactive

theorem lastClaim_ne (h : RowWrite id row row' events) {k : String} (hk : k ≠ id)
    (log : List QueueEvent) : lastClaim k (events ++ log) = lastClaim k log := by
  cases h with
  | claim worker => simp [lastClaim, Ne.symm hk]
  | progress | finish | reject | invalidate => rfl

theorem claimant (h : RowWrite id row row' events) {log : List QueueEvent}
    (hrow : row.status = .running → row.claimedBy = lastClaim id log)
    (hrunning : row'.status = .running) : row'.claimedBy = lastClaim id (events ++ log) := by
  cases h with
  | claim worker _ _ _ hworker => simp [hworker, lastClaim]
  | progress worker issuedAt lease hold _ _ _ _ hclaimed => exact hclaimed.trans (hrow hold)
  | finish worker issuedAt lease _ _ _ hstatus => simp [Task.isActive, hrunning] at hstatus
  | reject _ hstatus => simp [Task.isActive, hrunning] at hstatus
  | invalidate _ _ hstatus => simp [hrunning] at hstatus

theorem written (h : RowWrite id row row' events) {log : List QueueEvent}
    (hrow : row.status = .running → row.claimedBy = lastClaim id log)
    (hlog : WrittenByClaimant log) : WrittenByClaimant (events ++ log) := by
  cases h with
  | claim | reject | invalidate => exact hlog
  | progress worker issuedAt lease hrunning hworker hlease
  | finish worker issuedAt lease hrunning hworker hlease =>
      have hclaim : lastClaim id log = some worker := by
        rw [← hrow hrunning]
        exact hworker
      exact ⟨⟨hclaim, hlease⟩, hlog⟩

end RowWrite

theorem lookup_update_cases {tasks : Table String Task} {id k : String} {f : Task → Task}
    {row row' : Task} (hrow : tasks.lookup id = some row)
    (h : (tasks.update id f).lookup k = some row') :
    (k = id ∧ row' = f row) ∨ (k ≠ id ∧ tasks.lookup k = some row') := by
  by_cases hk : k = id
  · subst hk
    rw [Table.lookup_update_self, hrow] at h
    exact .inl ⟨rfl, (Option.some.inj h).symm⟩
  · rw [Table.lookup_update_ne f tasks hk] at h
    exact .inr ⟨hk, h⟩

namespace QueueInv

variable {q : Queue}

theorem submit (hq : QueueInv q) {id : String} {row : Task} (hfresh : id ∉ q.tasks)
    (hfree : ∀ k other, q.tasks.lookup k = some other → other.activeSlot ≠ some updateSlot)
    (hstatus : row.status = .queued) (hslot : row.activeSlot = some updateSlot) :
    QueueInv { q with tasks := AList.insert id row q.tasks } := by
  -- The slot was free, so no other task is active.
  have hidle : ∀ k other, q.tasks.lookup k = some other → other.isActive = false := by
    intro k other hother
    by_contra hactive
    refine hfree k other hother ?_
    rw [hq.slot k other hother, if_pos (by simpa using hactive)]
  have hcases : ∀ k other, (AList.insert id row q.tasks).lookup k = some other →
      (k = id ∧ other = row) ∨ (k ≠ id ∧ q.tasks.lookup k = some other) := by
    intro k other hother
    rw [Table.lookup_insert] at hother
    by_cases hk : k = id
    · rw [if_pos hk] at hother
      exact .inl ⟨hk, (Option.some.inj hother).symm⟩
    · rw [if_neg hk] at hother
      exact .inr ⟨hk, hother⟩
  refine ⟨fun k other hother => ?_, fun k k' other other' hother hother' hactive hactive' => ?_,
    fun k other hother hrunning => ?_, hq.log⟩
  · rcases hcases k other hother with ⟨rfl, rfl⟩ | ⟨_, hold⟩
    · simp [hslot, Task.isActive, hstatus]
    · exact hq.slot k other hold
  · rcases hcases k other hother with ⟨rfl, rfl⟩ | ⟨_, hold⟩
    · rcases hcases k' other' hother' with ⟨rfl, rfl⟩ | ⟨_, hold'⟩
      · rfl
      · rw [hidle k' other' hold'] at hactive'
        contradiction
    · rw [hidle k other hold] at hactive
      contradiction
  · rcases hcases k other hother with ⟨rfl, rfl⟩ | ⟨_, hold⟩
    · rw [hstatus] at hrunning
      contradiction
    · exact hq.claimant k other hold hrunning

theorem write (hq : QueueInv q) {id : String} {row : Task} {f : Task → Task}
    {events : List QueueEvent} (hrow : q.tasks.lookup id = some row)
    (hwrite : RowWrite id row (f row) events) :
    QueueInv ⟨q.now, q.tasks.update id f, events ++ q.log⟩ := by
  -- A task active after the update was active before it.
  have hactive : ∀ k other, (q.tasks.update id f).lookup k = some other →
      other.isActive = true → ∃ old, q.tasks.lookup k = some old ∧ old.isActive = true := by
    intro k other hother hactive
    rcases lookup_update_cases hrow hother with ⟨rfl, rfl⟩ | ⟨_, hold⟩
    · exact ⟨row, hrow, hwrite.isActive hactive⟩
    · exact ⟨other, hold, hactive⟩
  refine ⟨fun k other hother => ?_, fun k k' other other' hother hother' h h' => ?_,
    fun k other hother hrunning => ?_, hwrite.written (hq.claimant id row hrow) hq.log⟩
  · rcases lookup_update_cases hrow hother with ⟨rfl, rfl⟩ | ⟨_, hold⟩
    · exact hwrite.slot (hq.slot k row hrow)
    · exact hq.slot k other hold
  · obtain ⟨old, hold, hold_active⟩ := hactive k other hother h
    obtain ⟨old', hold', hold_active'⟩ := hactive k' other' hother' h'
    exact hq.single k k' old old' hold hold' hold_active hold_active'
  · rcases lookup_update_cases hrow hother with ⟨rfl, rfl⟩ | ⟨hk, hold⟩
    · exact hwrite.claimant (hq.claimant k row hrow) hrunning
    · show other.claimedBy = lastClaim k (events ++ q.log)
      rw [hwrite.lastClaim_ne hk]
      exact hq.claimant k other hold hrunning

theorem step {t : Queue} (hq : QueueInv q) (hstep : QueueStep q t) : QueueInv t := by
  cases hstep with
  | clock now => exact ⟨hq.slot, hq.single, hq.claimant, hq.log⟩
  | submit id row hfresh hfree hstatus hslot => exact hq.submit hfresh hfree hstatus hslot
  | write id row f events hrow _ hwrite => exact hq.write hrow hwrite

end QueueInv

def queueProtocol : Protocol Queue where
  inv := QueueInv
  guar := QueueStep
  refl := QueueStep.refl
  preserves := QueueInv.step

/-- Every finished task is still there with its status, except that a succeeded
preflight may have failed. -/
def FinishedKept (q t : Queue) : Prop :=
  ∀ id row, q.tasks.lookup id = some row → row.isActive = false →
    ∃ row', t.tasks.lookup id = some row' ∧ row'.action = row.action ∧
      (row'.status = row.status ∨
        (row.action = .preflight ∧ row.status = .succeeded ∧ row'.status = .failed))

theorem FinishedKept.refl (q : Queue) : FinishedKept q q :=
  fun _ row hrow _ => ⟨row, hrow, rfl, .inl rfl⟩

theorem FinishedKept.trans {q t u : Queue} (hqt : FinishedKept q t) (htu : FinishedKept t u) :
    FinishedKept q u := by
  intro id row hrow hidle
  obtain ⟨mid, hmid, hmid_action, hmid_status⟩ := hqt id row hrow hidle
  have hmid_idle : mid.isActive = false := by
    rcases hmid_status with hsame | ⟨-, -, hfailed⟩
    · simpa [Task.isActive, hsame] using hidle
    · simp [Task.isActive, hfailed]
  obtain ⟨last, hlast, hlast_action, hlast_status⟩ := htu id mid hmid hmid_idle
  refine ⟨last, hlast, hlast_action.trans hmid_action, ?_⟩
  rcases hmid_status with hsame | ⟨haction, hsucceeded, hfailed⟩
  · rw [hsame, hmid_action] at hlast_status
    exact hlast_status
  · rcases hlast_status with hsame' | ⟨_, hsucceeded', _⟩
    · exact .inr ⟨haction, hsucceeded, hsame'.trans hfailed⟩
    · rw [hfailed] at hsucceeded'
      contradiction

theorem FinishedKept.of_step {q t : Queue} (hstep : QueueStep q t) : FinishedKept q t := by
  cases hstep with
  | clock now => exact FinishedKept.refl q
  | submit id new hfresh =>
      intro k row hrow _
      refine ⟨row, ?_, rfl, .inl rfl⟩
      have hk : k ≠ id := by
        rintro rfl
        exact hfresh (AList.lookup_isSome.mp (by simp [hrow]))
      rw [Table.lookup_insert, if_neg hk]
      exact hrow
  | write id old f events hold haction hwrite =>
      intro k row hrow hidle
      by_cases hk : k = id
      · subst hk
        obtain rfl : old = row := Option.some.inj (hold.symm.trans hrow)
        refine ⟨f old, by simp [hold], haction, ?_⟩
        -- Only the invalidation writes a finished task.
        cases hwrite with
        | claim worker hactive | reject hactive => simp [hactive] at hidle
        | progress worker issuedAt lease hrunning | finish worker issuedAt lease hrunning =>
            simp [Task.isActive, hrunning] at hidle
        | invalidate hpreflight hsucceeded hfailed => exact .inr ⟨hpreflight, hsucceeded, hfailed⟩
      · exact ⟨row, (Table.lookup_update_ne f q.tasks hk).trans hrow, rfl, .inl rfl⟩

theorem FinishedKept.of_rely {q t : Queue} (h : queueProtocol.rely q t) : FinishedKept q t := by
  induction h with
  | refl => exact .refl q
  | tail _ hstep ih => exact ih.trans (.of_step hstep)

/-! ## The requests obey the protocol -/

inductive QueueRequest where
  | submit (id : String) (payload : TaskPayload)
  | get (id : String)
  | invalidateLatestPreflight (checks : List TaskCheck) (message : String)
  | claimNext (workerId : String)
  | heartbeat (id workerId phase : String) (percent : Option Int) (message : Option String)
  | recordBackup (id workerId location : String) (bytes : Nat)
  | finish (id workerId : String) (succeeded : Bool) (phase : String) (percent : Option Int)
      (message : String) (taskResult : Option TaskResult)

open Tasks in
def serveQueue (config : QueueConfig) : QueueRequest → QueueHandler Unit
  | .submit id payload => discard (submit config id payload)
  | .get id => discard (get config id)
  | .invalidateLatestPreflight checks message => invalidateLatestPreflight config checks message
  | .claimNext workerId => discard (claimNext config workerId)
  | .heartbeat id workerId phase percent message => heartbeat id workerId phase percent message
  | .recordBackup id workerId location bytes => recordBackup id workerId location bytes
  | .finish id workerId succeeded phase percent message taskResult =>
      finish config id workerId succeeded phase percent message taskResult

def isQueueHandler (config : QueueConfig) (h : QueueHandler Unit) : Prop :=
  ∃ request, h = serveQueue config request

def queueClockMoves (q t : Queue) : Prop := ∃ now, t = { q with now := now }

namespace Tasks

variable {q : Queue}

theorem queueStep_create {id : String} {payload : TaskPayload} {signature : String} {row : Task}
    {t : Queue} (h : create id payload signature q = .ok (row, t)) : QueueStep q t := by
  unfold create at h
  split at h
  · simp at h
  · rename_i hfree
    rw [not_or, Option.not_isSome_iff_eq_none] at hfree
    obtain ⟨rfl, rfl⟩ := Prod.mk.inj (Except.ok.inj h)
    refine .submit id _ hfree.1 (fun k other hother hslot => ?_) rfl rfl
    have hother_free := Table.first?_eq_none hfree.2 hother
    simp [hslot, updateSlot] at hother_free

theorem queueStep_invalidate (id : String) (now : Nat) (message : String) (result : TaskResult)
    (signature : String) : QueueStep q (invalidate id now message result signature q).2 := by
  unfold invalidate
  split
  · rename_i row hrow
    split
    · rename_i hguard
      exact .write id row _ [] hrow rfl (.invalidate hguard.1 hguard.2 rfl rfl)
    · exact .refl q
  · exact .refl q

theorem isActive_of_isUnchanged {now : Nat} {candidate row : Task}
    (h : isUnchanged now candidate row = true) : row.isActive = true := by
  unfold isUnchanged at h
  split at h
  · simp_all [Task.isActive]
  · simp_all [Task.isActive]

theorem queueStep_reject (id : String) (now : Nat) (candidate : Task) (e : Exception) :
    QueueStep q (reject id now candidate e q).2 := by
  unfold reject
  split
  · rename_i row hrow
    split
    · rename_i hguard
      exact .write id row _ [] hrow rfl (.reject (isActive_of_isUnchanged hguard) rfl rfl)
    · exact .refl q
  · exact .refl q

theorem queueStep_claim (id workerId : String) (now : Nat) (candidate : Task) :
    QueueStep q (claim id workerId now candidate q).2 := by
  unfold claim
  split
  · rename_i row hrow
    split
    · rename_i hguard
      exact .write id row (claimRow workerId now candidate) [.claimed id workerId] hrow rfl
        (.claim workerId (isActive_of_isUnchanged hguard) rfl rfl rfl)
    · exact .refl q
  · exact .refl q

theorem queueStep_updateOwned {id workerId : String} {now : Nat} {f : Task → Task}
    (haction : ∀ row, (f row).action = row.action)
    (hwrite : ∀ row lease, row.status = .running → row.claimedBy = some workerId → now < lease →
      RowWrite id row (f row) [.owned id workerId now lease]) :
    QueueStep q (updateOwned id workerId now f q).2 := by
  unfold updateOwned
  split
  · rename_i row hrow
    split
    · rename_i lease _
      split
      · rename_i hguard
        exact .write id row f [.owned id workerId now lease] hrow (haction row)
          (hwrite row lease hguard.1 hguard.2.1 hguard.2.2)
      · exact .refl q
    · exact .refl q
  · exact .refl q

theorem obeys_get {P : Protocol Queue} (config : QueueConfig) (id : String) :
    Obeys P (get config id) := by
  refine .bind (.query _) fun row => ?_
  cases row with
  | none => exact .done _
  | some row => exact .bind (.ofExcept _) fun _ => .done _

theorem obeys_submit (config : QueueConfig) (id : String) (payload : TaskPayload) :
    Obeys queueProtocol (submit config id payload) := by
  refine .bind (.query _) fun _ => .bind (.ofExcept _) fun _ => .bind ?_ fun _ => .done _
  refine .tryCatch (.bind (.ofExcept _) fun _ => .attempt fun q _ row t hrun => ?_) fun e => ?_
  · exact queueStep_create hrun
  · exact .ite (.fail _) (.fail _)

theorem obeys_invalidateLatestPreflight (config : QueueConfig) (checks : List TaskCheck)
    (message : String) :
    Obeys queueProtocol (invalidateLatestPreflight config checks message) := by
  refine .bind (.ensure _ _) fun _ => .bind (.query _) fun latest => ?_
  cases latest with
  | none => exact .done _
  | some latest =>
      refine .bind (.ofExcept _) fun _ => .bind (.query _) fun now => .bind (.exec fun q _ => ?_)
        fun _ => .ite (.done _) (.bind (.query _) fun row => ?_)
      · exact queueStep_invalidate _ _ _ _ _
      · cases row with
        | none => exact .done _
        | some row => exact .bind (.ofExcept _) fun _ => .done _

theorem obeys_claimLoop {P : Protocol Queue} (config : QueueConfig) (workerId : String)
    (now attempts : Nat)
    (hreject : ∀ {q} id candidate e, P.guar q (reject id now candidate e q).2)
    (hclaim : ∀ {q} id candidate, P.guar q (claim id workerId now candidate q).2) :
    Obeys P (claimLoop config workerId now attempts) := by
  induction attempts with
  | zero => exact .done _
  | succ attempts ih =>
      refine .bind (.query _) fun candidate => ?_
      cases candidate with
      | none => exact .done _
      | some candidate =>
          refine .bind (.ofExcept _) fun _ => .bind (.query _) fun current => ?_
          cases verifyCandidate config now current candidate.2 with
          | error e =>
              exact .bind (.exec fun q _ => hreject _ _ _) fun _ => .ite (.done _) ih
          | ok _ =>
              exact .bind (.exec fun q _ => hclaim _ _) fun _ => .ite (.done _) (obeys_get _ _)

theorem obeys_heartbeat (id workerId phase : String) (percent : Option Int)
    (message : Option String) :
    Obeys queueProtocol (heartbeat id workerId phase percent message) := by
  refine .bind (.ensure _ _) fun _ => .bind (.ensure _ _) fun _ => .bind (.query _) fun now =>
    .bind (.exec fun q _ => ?_) fun _ => .ensure _ _
  exact queueStep_updateOwned (fun _ => rfl) fun row lease hrunning hworker hlease =>
    .progress workerId now lease hrunning hworker hlease hrunning rfl rfl

theorem obeys_recordBackup (id workerId location : String) (bytes : Nat) :
    Obeys queueProtocol (recordBackup id workerId location bytes) := by
  refine .bind (.ensure _ _) fun _ => .bind (.query _) fun now =>
    .bind (.exec fun q _ => ?_) fun _ => .ensure _ _
  exact queueStep_updateOwned (fun _ => rfl) fun row lease hrunning hworker hlease =>
    .progress workerId now lease hrunning hworker hlease hrunning rfl rfl

theorem obeys_finish (config : QueueConfig) (id workerId : String) (succeeded : Bool)
    (phase : String) (percent : Option Int) (message : String) (taskResult : Option TaskResult) :
    Obeys queueProtocol
      (finish config id workerId succeeded phase percent message taskResult) := by
  refine .bind (.ensure _ _) fun _ => .bind (.ensure _ _) fun _ => .bind (.ofExcept _) fun _ =>
    .bind (.query _) fun now => .bind (.exec fun q _ => ?_) fun _ => .ensure _ _
  refine queueStep_updateOwned (fun _ => rfl) fun row lease hrunning hworker hlease =>
    .finish workerId now lease hrunning hworker hlease ?_ rfl
  cases succeeded <;> rfl

theorem obeys_claimNext {P : Protocol Queue} (config : QueueConfig) (workerId : String)
    (hreject : ∀ {q} id now candidate e, P.guar q (reject id now candidate e q).2)
    (hclaim : ∀ {q} id now candidate, P.guar q (claim id workerId now candidate q).2) :
    Obeys P (claimNext config workerId) := by
  unfold claimNext
  have hloop : ∀ now, Obeys P (claimLoop config workerId now 10) := fun now =>
    obeys_claimLoop config workerId now 10 (fun id => hreject id now) fun id => hclaim id now
  refine .bind (.ensure _ _) fun _ => .bind (.query _) fun now => ?_
  exact hloop now

end Tasks

open Tasks in
theorem obeys_serveQueue (config : QueueConfig) (request : QueueRequest) :
    Obeys queueProtocol (serveQueue config request) := by
  cases request with
  | submit id payload => exact .bind (obeys_submit _ _ _) fun _ => .done _
  | get id => exact .bind (obeys_get _ _) fun _ => .done _
  | invalidateLatestPreflight checks message => exact obeys_invalidateLatestPreflight _ _ _
  | claimNext workerId =>
      rw [serveQueue]
      have hclaim := @obeys_claimNext queueProtocol config workerId queueStep_reject
        fun id => queueStep_claim id workerId
      -- The handler is a loop of ten rounds, which is not to be unfolded here.
      generalize claimNext config workerId = handler at hclaim
      exact .bind hclaim fun _ => .done _
  | heartbeat id workerId phase percent message => exact obeys_heartbeat _ _ _ _ _
  | recordBackup id workerId location bytes => exact obeys_recordBackup _ _ _ _
  | finish id workerId succeeded phase percent message taskResult =>
      exact obeys_finish _ _ _ _ _ _ _ _

structure QueueSafe (q : Queue) : Prop where
  /-- At most one task is queued or running. -/
  single : ∀ id id' row row', q.tasks.lookup id = some row → q.tasks.lookup id' = some row' →
    row.isActive = true → row'.isActive = true → id = id'
  /-- The slot is set exactly on that task. -/
  slot : ∀ id row, q.tasks.lookup id = some row →
    (row.activeSlot = some updateSlot ↔ row.isActive = true) ∧
      (row.activeSlot = none ↔ row.isActive = false)
  /-- What workers wrote, the latest claimant wrote within its lease. -/
  written : ∀ before after id worker issuedAt lease,
    q.log = before ++ .owned id worker issuedAt lease :: after →
    lastClaim id after = some worker ∧ issuedAt < lease

theorem WrittenByClaimant.of_append {before after : List QueueEvent}
    (h : WrittenByClaimant (before ++ after)) : WrittenByClaimant after := by
  induction before with
  | nil => exact h
  | cons event before ih =>
      cases event with
      | claimed => exact ih h
      | owned => exact ih h.2

theorem QueueInv.safe {q : Queue} (hq : QueueInv q) : QueueSafe q := by
  refine ⟨hq.single, fun id row hrow => ?_, fun before after id worker issuedAt lease hlog => ?_⟩
  · rw [hq.slot id row hrow]
    cases row.isActive <;> simp
  · have hwritten := hq.log
    rw [hlog] at hwritten
    exact hwritten.of_append.1

/-- The queue is safe in every state that any run reaches, and no later state of
the run changes a finished task, except for a preflight that is invalidated. -/
theorem queue_safe (config : QueueConfig) {init : Queue} {c c' : Pool Exception Queue Unit}
    (hempty : init.tasks = ∅ ∧ init.log = [])
    (hc : Reach (isQueueHandler config) queueClockMoves init c)
    (hc' : ReflTransGen (Step (isQueueHandler config) queueClockMoves) c c') :
    QueueSafe c.shared ∧ FinishedKept c.shared c'.shared := by
  have hstart : ∀ h q, isQueueHandler config h → queueProtocol.inv q →
      Guards queueProtocol.contract (fun _ _ => True) h q := by
    rintro _ q ⟨request, rfl⟩ hq
    exact (obeys_serveQueue config request).guards hq
  have henv : ∀ q t, queueProtocol.inv q → queueClockMoves q t → queueProtocol.guar q t := by
    rintro q _ _ ⟨now, rfl⟩
    exact .clock now
  have hinit : queueProtocol.inv init := by
    refine ⟨fun id row hrow => ?_, fun id _ row _ hrow => ?_, fun id row hrow => ?_, ?_⟩
    · simp [hempty.1] at hrow
    · simp [hempty.1] at hrow
    · simp [hempty.1] at hrow
    · rw [hempty.2]
      trivial
  have hsafe := Protocol.reachable hstart henv hinit hc
  have hrun := Protocol.safe_run hstart henv hsafe.1 hc'
  exact ⟨hsafe.1.inv.safe, .of_rely hrun.2⟩

def sampleDigest : String := "0123456789abcdef0123456789abcdef0123456789abcdef0123456789abcdef"

def sampleImages : Images
  | .frontend => "ghcr.io/feize666/kubenova-frontend@sha256:" ++ sampleDigest
  | .controlApi => "ghcr.io/feize666/kubenova-control-api@sha256:" ++ sampleDigest
  | .runtimeGateway => "ghcr.io/feize666/kubenova-runtime-gateway@sha256:" ++ sampleDigest

def samplePayload : TaskPayload where
  action := .install
  targetVersion := "v1.2"
  preflightId := "preflight"
  preflightExpiresAt := "2026-01-31T08:00:00.000Z"
  backupTargetId := "local"
  migrationTargetId := none
  settingsFingerprint := some sampleDigest
  previousVersion := none
  rollbackTaskId := none
  preflightChecks := none
  images := sampleImages
  operator := "ann"

def sampleQueueConfig : QueueConfig := ⟨some sampleDigest, ⟨fun key _ => key, fun key _ => key⟩⟩

def emptyQueue : Queue := ⟨1769846000000, ∅, []⟩

/-- A task, two workers that want it, and the winner's reports. -/
def taskRequests : List QueueRequest :=
  [.submit "t" samplePayload, .claimNext "w", .claimNext "v",
    .heartbeat "t" "w" "updating" (some 5) none, .finish "t" "w" true "completed" (some 100) "" none]

def taskArrived : Pool Exception Queue Unit :=
  ⟨emptyQueue, taskRequests.map (serveQueue sampleQueueConfig)⟩

theorem submitted_task_safe :
    QueueSafe (taskArrived.play [0, 0]).shared ∧
      FinishedKept (taskArrived.play [0, 0]).shared
        ((taskArrived.play [0, 0]).play [1, 2, 1, 2, 1, 2, 1, 2, 1, 3, 3, 4, 4]).shared := by
  have harrived : Reach (isQueueHandler sampleQueueConfig) queueClockMoves emptyQueue
      taskArrived := by
    refine Reach.arrive_all (c := ⟨emptyQueue, []⟩) .refl
      (taskRequests.map (serveQueue sampleQueueConfig)) fun h hh => ?_
    obtain ⟨request, _, rfl⟩ := List.mem_map.mp hh
    exact ⟨request, rfl⟩
  exact queue_safe sampleQueueConfig ⟨rfl, rfl⟩ (harrived.play [0, 0]) (Reach.play_from _ _)

end KubeNova.Update
