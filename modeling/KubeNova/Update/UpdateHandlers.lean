import KubeNova.Update.UpdateProtocol

/-!
# Update requests obey their protocol

Each handler is followed with what it knows: facts that last, however long it waits for its next
statement.
-/

namespace KubeNova.Update

open KubeNova.Common KubeNova.Foundation

def Lasting (p : UpdateState → Prop) : Prop := ∀ s t, Later s t → p s → p t

theorem Lasting.true : Lasting fun _ => True := fun _ _ _ _ => trivial

theorem Lasting.and {p q : UpdateState → Prop} (hp : Lasting p) (hq : Lasting q) :
    Lasting fun s => p s ∧ q s := fun s t hlater hs => ⟨hp s t hlater hs.1, hq s t hlater hs.2⟩

theorem lasting_mem (event : UpdateEvent) : Lasting (event ∈ ·.log) :=
  fun _ _ hlater h => hlater.log h

theorem lasting_hasRead (request : Nat) (id : String) (fingerprint : Option String) :
    Lasting (·.HasRead request id fingerprint) := fun _ _ hlater h => h.mono hlater

theorem lasting_exists {α : Type} {p : α → UpdateState → Prop} (hp : ∀ a, Lasting (p a)) :
    Lasting fun s => ∃ a, p a s :=
  fun s t hlater ⟨a, ha⟩ => ⟨a, hp a s t hlater ha⟩

theorem lasting_imp {c : Prop} {p : UpdateState → Prop} (hp : Lasting p) : Lasting fun s => c → p s :=
  fun s t hlater h hc => hp s t hlater (h hc)

theorem lasting_forall {α : Type} {p : α → UpdateState → Prop} (hp : ∀ a, Lasting (p a)) :
    Lasting fun s => ∀ a, p a s :=
  fun s t hlater h a => hp a s t hlater (h a)

theorem lasting_const (c : Prop) : Lasting fun _ => c := fun _ _ _ h => h

/-- What the settings row was after `n` saves satisfies `P`. -/
def UpdateState.HadRow (s : UpdateState) (n : Nat) (P : Option String → Prop) : Prop :=
  n ≤ s.saves.length ∧ P (rowAt s.saves n)

theorem lasting_hadRow (n : Nat) (P : Option String → Prop) : Lasting (·.HadRow n P) := by
  intro s t hlater h
  refine ⟨h.1.trans hlater.saves.length_le, ?_⟩
  rw [rowAt_of_suffix hlater.saves h.1]
  exact h.2

variable {service : UpdateService} {hids : Function.Injective service.newId}

def Knows (service : UpdateService) (p : UpdateState → Prop) (s : UpdateState) : Prop :=
  UpdateInv service s ∧ p s

section Rules

variable {α β σ : Type} {p q : UpdateState → Prop} {R : α → UpdateState → Prop}

theorem knows_step (hids : Function.Injective service.newId) {s t : UpdateState} (hp : Lasting p)
    (hs : Knows service p s) (h : s = t ∨ UpdateStep service s t) : Knows service p t := by
  rcases h with rfl | h
  · exact hs
  · exact ⟨hs.1.step hids h, hp s t h.later hs.2⟩

theorem stable_knows (hp : Lasting p) :
    Stable (updateProtocol service hids).contract (Knows service p) :=
  fun _ _ hs hmove => knows_step hids hp hs hmove.2

theorem returns_stmt (hp : Lasting p) (hR : ∀ a, Lasting (R a)) {u : UpdateState → UpdateState}
    {a : UpdateState → α}
    (hu : ∀ s, Knows service p s → (s = u s ∨ UpdateStep service s (u s)) ∧
      (Knows service p (u s) → R (a s) (u s))) :
    Returns (updateProtocol service hids).contract (Knows service p)
      (.stmt u fun s => .done (a s) : UpdateHandler α)
      fun a => Knows service fun s => p s ∧ R a s := by
  intro s hs
  refine Guards.stmt_iff.mpr fun t hst _ => ?_
  have ht := (stable_knows hp).rely hs hst
  obtain ⟨hstep, hknown⟩ := hu t ht
  have hnew := knows_step hids hp ht hstep
  have hdone : Returns (updateProtocol service hids).contract
      (Knows service fun s => p s ∧ R (a t) s) (.done (a t) : UpdateHandler α)
      fun a => Knows service fun s => p s ∧ R a s :=
    .done (stable_knows (hp.and (hR _))) fun _ h => h
  exact ⟨hstep, hdone.guards ⟨hnew.1, hnew.2, hknown hnew⟩⟩

theorem returns_exec (hp : Lasting p) (hR : ∀ a, Lasting (R a)) {f : UpdateState → α × UpdateState}
    (hf : ∀ s, Knows service p s → (s = (f s).2 ∨ UpdateStep service s (f s).2) ∧
      (Knows service p (f s).2 → R (f s).1 (f s).2)) :
    Returns (updateProtocol service hids).contract (Knows service p) (.exec f : UpdateHandler α)
      fun a => Knows service fun s => p s ∧ R a s :=
  returns_stmt hp hR hf

theorem returns_query (hp : Lasting p) (hR : ∀ a, Lasting (R a)) {q : UpdateState → α}
    (hq : ∀ s, Knows service p s → R (q s) s) :
    Returns (updateProtocol service hids).contract (Knows service p) (.query q : UpdateHandler α)
      fun a => Knows service fun s => p s ∧ R a s :=
  returns_stmt hp hR fun s hs => ⟨.inl rfl, fun _ => hq s hs⟩

theorem returns_look (hp : Lasting p) (q : UpdateState → α) :
    Returns (updateProtocol service hids).contract (Knows service p) (.query q : UpdateHandler α)
      fun _ => Knows service p :=
  (returns_query (R := fun _ _ => True) hp (fun _ => .true) fun _ _ => trivial).conseq
    (fun _ h => h) fun _ _ h => ⟨h.1, h.2.1⟩

theorem returns_queue {K : Protocol Queue} {h : QueueHandler α} (hh : Obeys K h)
    (hK : ∀ q, K.inv q) (hp : Lasting p) {set : Queue → UpdateState → UpdateState}
    (hget : ∀ q s, (set q s).queue = q)
    (hset : ∀ s q, Knows service p s → K.guar s.queue q →
      s = set q s ∨ UpdateStep service s (set q s)) :
    Returns (updateProtocol service hids).contract (Knows service p) (h.zoom (·.queue) set)
      fun _ => Knows service p := by
  let C : Contract Queue := ⟨fun _ _ => True, K.guar, fun _ => True, K.refl⟩
  have hqueue : Triple C (fun _ => True) h fun _ _ => True :=
    hh.triple (fun _ _ _ h => h) (fun _ _ _ _ => trivial) (fun q _ => hK q) fun _ _ _ _ => trivial
  have hwhole := Triple.zoom (D := (updateProtocol service hids).contract) (·.queue) set
    (Knows service p) hqueue hget (fun s t hs hmove => ⟨trivial, stable_knows hp s t hs hmove⟩) (fun _ => trivial)
    fun t q ht hguar => ⟨hset t q ht hguar, knows_step hids hp ht (hset t q ht hguar)⟩
  exact hwhole.conseq (fun s hs => ⟨hs, trivial⟩) fun _ _ hs _ _ => hs.1

end Rules

section Settings

variable {p : UpdateState → Prop}

theorem returns_readStored (low : Nat) (hp : Lasting p) (hlow : ∀ s, p s → low ≤ s.saves.length) :
    Returns (updateProtocol service hids).contract (Knows service p) service.readStored fun r =>
      Knows service fun s =>
        p s ∧ low ≤ r.2 ∧ s.HadRow r.2 (service.settings.decode · = .ok r.1) := by
  refine .bind (returns_query (R := fun r s => low ≤ r.2 ∧ s.HadRow r.2 (· = r.1)) hp
    (fun r => (lasting_const _).and (lasting_hadRow _ _)) fun s hs => ?_) fun r => ?_
  · exact ⟨hlow s hs.2, Nat.le_refl _, rowAt_length s.saves⟩
  · have hlast := hp.and ((lasting_const (low ≤ r.2)).and (lasting_hadRow r.2 (· = r.1)))
    refine .ofExcept_bind (stable_knows hlast) fun settings hsettings => ?_
    refine .conseq (.done (stable_knows (hp.and ((lasting_const _).and (lasting_hadRow _ _))))
      fun _ h => h) (fun s hs => ?_) fun _ _ h => h
    obtain ⟨hinv, hold, hle, hn, hrow⟩ := hs
    refine ⟨hinv, hold, hle, hn, ?_⟩
    rw [hrow]
    exact hsettings

theorem returns_fingerprint (low : Nat) (hp : Lasting p) (hlow : ∀ s, p s → low ≤ s.saves.length) :
    Returns (updateProtocol service hids).contract (Knows service p) service.fingerprint fun r =>
      Knows service fun s =>
        p s ∧ low ≤ r.2 ∧ s.HadRow r.2 (service.settings.digest · = r.1) := by
  refine returns_query hp (fun r => (lasting_const _).and (lasting_hadRow _ _)) fun s hs => ?_
  refine ⟨hlow s hs.2, Nat.le_refl _, ?_⟩
  rw [rowAt_length]

theorem returns_save (input : StoredSettings) (iv : String) :
    Returns (updateProtocol service hids).contract (Knows service fun _ => True)
      (service.save input iv) fun _ => Knows service fun _ => True := by
  have hany : ∀ {p : UpdateState → Prop} s, Knows service p s → Knows service (fun _ => True) s :=
    fun s hs => ⟨hs.1, trivial⟩
  refine .bind (returns_readStored 0 .true fun _ _ => Nat.zero_le _) fun r => ?_
  refine .conseq ?_ hany fun _ _ h => h
  refine .ofExcept_bind (stable_knows .true) fun normalized _ => ?_
  refine .ofExcept_bind (stable_knows .true) fun encryptedData _ => ?_
  refine .bind (returns_exec (R := fun _ _ => True) .true (fun _ => .true) fun s _ => ?_) fun _ => ?_
  · exact ⟨.inr (.save encryptedData), fun _ => trivial⟩
  · exact .conseq (.done (stable_knows .true) fun _ h => h) hany fun _ _ h => h

end Settings

def creates (id : String) (payload : TaskPayload) : Protocol Queue where
  inv _ := True
  guar q t := t = q ∨ ∃ row : Task, id ∉ q.tasks ∧ row.action = payload.action ∧
    row.payload = payload ∧ row.createdAt = q.now ∧ t = { q with tasks := q.tasks.insert id row }
  refl _ := .inl rfl
  preserves _ _ := trivial

theorem obeys_submit (config : QueueConfig) (id : String) (payload : TaskPayload) :
    Obeys (creates id payload) (Tasks.submit config id payload) := by
  refine .bind (.query _) fun _ => .bind (.ofExcept _) fun _ => .bind ?_ fun _ => .done _
  refine .tryCatch (.bind (.ofExcept _) fun _ => .attempt fun q _ row t hrun => ?_) fun e => ?_
  · unfold Tasks.create at hrun
    split at hrun
    · cases hrun
    · rename_i hfree
      obtain ⟨rfl, rfl⟩ := Prod.mk.inj (Except.ok.inj hrun)
      rw [not_or] at hfree
      exact .inr ⟨_, hfree.1, rfl, rfl, rfl, rfl⟩
  · exact .ite (.fail _) (.fail _)

theorem UpdateState.setQueue_queue (taskId : String) (event : Nat → UpdateEvent) (q : Queue)
    (s : UpdateState) : (s.setQueue taskId event q).queue = q := by
  unfold UpdateState.setQueue
  split <;> rfl

theorem UpdateState.setQueue_same (taskId : String) (event : Nat → UpdateEvent) (s : UpdateState) :
    s.setQueue taskId event s.queue = s := by
  unfold UpdateState.setQueue
  rw [if_neg fun h => h.1 h.2]

theorem UpdateState.setQueue_created {taskId : String} (event : Nat → UpdateEvent)
    {s : UpdateState} (row : Task) (hfresh : taskId ∉ s.queue.tasks) :
    s.setQueue taskId event { s.queue with tasks := s.queue.tasks.insert taskId row } =
      { s with queue := { s.queue with tasks := s.queue.tasks.insert taskId row } }.note
        (event s.queue.now) := by
  unfold UpdateState.setQueue
  rw [if_pos ⟨hfresh, AList.mem_insert _ |>.mpr (.inl rfl)⟩]

def IsEnded (q : Queue) (id : String) : Prop :=
  ∃ row, q.tasks.lookup id = some row ∧ row.action = .preflight ∧
    (row.status = .succeeded ∨ row.status = .failed)

theorem IsEnded.mono {q t : Queue} (htasks : TasksStay q t) {id : String} (h : IsEnded q id) :
    IsEnded t id := by
  obtain ⟨row, hrow, haction, hended⟩ := h
  obtain ⟨row', hrow', hsame⟩ := htasks id row hrow
  exact ⟨row', hrow', hsame.action.trans haction,
    hended.elim hsame.succeeded fun h => .inr (hsame.failed h)⟩

def amongTasks : Contract Queue := ⟨TasksStay, TasksKept, fun _ => True, TasksKept.refl⟩

theorem isSpent_invalidate {q : Queue} {id : String} (h : IsEnded q id) (now : Nat)
    (message : String) (result : TaskResult) (signature : String) :
    IsSpent (Tasks.invalidate id now message result signature q).2 id := by
  obtain ⟨row, hrow, haction, hended⟩ := h
  unfold Tasks.invalidate
  rw [hrow]
  by_cases hsucceeded : row.status = .succeeded
  · simp only [haction, hsucceeded, and_self, if_true]
    refine ⟨_, (Table.lookup_update_self id _ q.tasks).trans (congrArg _ hrow), .inl rfl⟩
  · have hfailed := hended.resolve_left hsucceeded
    simp only [hsucceeded, and_false, if_false]
    exact ⟨row, hrow, .inl hfailed⟩

theorem returns_invalidateLatestPreflight (config : QueueConfig) (checks : List TaskCheck)
    (message : String) (wanted : String → Prop) :
    Returns amongTasks (fun q => ∀ id, wanted id → IsEnded q id)
      (Tasks.invalidateLatestPreflight config checks message)
      fun _ q => ∀ id, wanted id → IsSpent q id := by
  have hended : Stable amongTasks fun q => ∀ id, wanted id → IsEnded q id :=
    fun q t h hmove id hid => (h id hid).mono hmove
  have hspent : Stable amongTasks fun q => ∀ id, wanted id → IsSpent q id :=
    fun q t h hmove id hid => (h id hid).mono hmove
  refine .ensure_bind hended fun _ => .query_bind hended fun q hq _ => ?_
  cases hlatest : q.tasks.latest? (fun _ row => row.action == .preflight) (·.createdAt) with
  | none =>
      refine ⟨_, fun id hid => ?_, .done hspent fun _ h => h⟩
      obtain ⟨row, hrow, haction, -⟩ := hq id hid
      have hnone := Table.latest?_eq_none hlatest hrow
      simp [haction] at hnone
  | some latest =>
      let p : Queue → Prop := fun q =>
        ∀ id, wanted id → (id = latest.1 ∧ IsEnded q id) ∨ IsSpent q id
      have hp : Stable amongTasks p := fun q t h hmove id hid =>
        (h id hid).imp (fun h => ⟨h.1, h.2.mono hmove⟩) fun h => h.mono hmove
      refine ⟨p, fun id hid => ?_, ?_⟩
      · obtain ⟨row, hrow, haction, hrest⟩ := hq id hid
        by_cases hid' : id = latest.1
        · exact .inl ⟨hid', row, hrow, haction, hrest⟩
        · have hfound := Table.latest?_eq_some (k := latest.1) (v := latest.2) hlatest
          have hle := Table.latest?_le (k := latest.1) (v := latest.2) hlatest hrow (by simp [haction])
          exact .inr ⟨row, hrow, .inr ⟨latest.1, latest.2, Ne.symm hid', hfound.1,
            by simpa using hfound.2, hle⟩⟩
      · refine .ofExcept_bind hp fun signature _ => .query_bind hp fun q hq _ => ⟨p, hq, ?_⟩
        refine Triple.exec_bind hp fun u hu _ => ?_
        have hkept := Tasks.tasksKept_invalidate (q := u) latest.1 q.now message
          ⟨some checks, none, none⟩ signature
        refine ⟨hkept, Returns.guards (p := fun q => ∀ id, wanted id → IsSpent q id) ?_ ?_⟩
        · refine .ite (fun _ => .done hspent fun _ h => h) fun _ => .query_bind hspent ?_
          intro v hv _
          refine ⟨fun q => ∀ id, wanted id → IsSpent q id, hv, ?_⟩
          cases v.tasks.lookup latest.1 with
          | none => exact .done hspent fun _ h => h
          | some row => exact .ofExcept_bind hspent fun _ _ => .done hspent fun _ h => h
        · intro id hid
          rcases hu id hid with ⟨rfl, hend⟩ | hend
          · exact isSpent_invalidate hend _ _ _ _
          · exact hend.mono hkept.kept

section Preflight

variable {gathered : UpdateService.Gathered}

def UpdateService.Gathered.IsRead (gathered : UpdateService.Gathered) : UpdateState → Prop :=
  (·.HasRead gathered.request gathered.id (some gathered.fingerprint))

theorem lasting_isRead : Lasting gathered.IsRead := lasting_hasRead _ _ _

def isFoundEnded (found : Option (String × TaskStatus)) (id : String) : Prop :=
  ∃ task ∈ found, task.1 = id ∧ task.2 ≠ .queued ∧ task.2 ≠ .running

theorem isEnded_found (s : UpdateState) :
    ∀ id, isFoundEnded ((UpdateService.latestPreflight s).map fun task =>
      (task.1, task.2.status)) id → IsEnded s.queue id := by
  rintro id ⟨task, htask, rfl, hqueued, hrunning⟩
  obtain ⟨latest, hlatest, rfl⟩ := Option.map_eq_some_iff.mp htask
  obtain ⟨hrow, haction⟩ := Table.latest?_eq_some (k := latest.1) (v := latest.2) hlatest
  refine ⟨latest.2, hrow, eq_of_beq haction, ?_⟩
  cases hstatus : latest.2.status with
  | queued => exact absurd hstatus hqueued
  | running => exact absurd hstatus hrunning
  | succeeded => exact .inl rfl
  | failed => exact .inr rfl

theorem returns_invalidate (checks : List TaskCheck) (message : String) (wanted : String → Prop) :
    Returns (updateProtocol service hids).contract
      (Knows service fun s => ∀ id, wanted id → IsEnded s.queue id)
      ((Tasks.invalidateLatestPreflight service.queue checks message).zoom (·.queue)
        fun queue s => { s with queue := queue })
      fun _ => Knows service fun s => ∀ id, wanted id → IsSpent s.queue id := by
  have hwhole := Triple.zoom (D := (updateProtocol service hids).contract) (·.queue)
    (fun queue s => { s with queue := queue }) (Knows service fun _ => True)
    (returns_invalidateLatestPreflight service.queue checks message wanted) (fun _ _ => rfl)
    (fun s t hs hmove => ?_) (fun _ => trivial) fun s q hs hkept => ?_
  · exact Triple.conseq hwhole (fun s hs => ⟨⟨hs.1, trivial⟩, hs.2⟩)
      fun r s hs a ha => ⟨hs.1.1, hs.2 a ha⟩
  · refine ⟨?_, stable_knows .true s t hs hmove⟩
    rcases hmove.2 with rfl | hstep
    · exact (TasksKept.refl s.queue).kept
    · exact hstep.later.tasks
  · have hstep : UpdateStep service s { s with queue := q } := .queue q hkept
    exact ⟨.inr hstep, knows_step hids .true hs (.inr hstep)⟩

theorem lasting_spent (wanted : String → Prop) :
    Lasting fun s => ∀ id, wanted id → IsSpent s.queue id :=
  fun _ _ hlater h id hid => (h id hid).mono hlater.tasks

theorem returns_refuseKubernetes (hmode : service.mode = .kubernetes) :
    Returns (updateProtocol service hids).contract (Knows service fun _ => True)
      (service.refuseKubernetes gathered) fun _ => Knows service fun _ => True := by
  have hended : ∀ found, Lasting fun s => ∀ id, isFoundEnded found id → IsEnded s.queue id :=
    fun found s t hlater h id hid => (h id hid).mono hlater.tasks
  refine .bind (returns_query .true hended fun s _ => isEnded_found s) fun found => ?_
  refine .conseq (.bind (returns_invalidate _ _ (isFoundEnded found)) fun _ => ?_)
    (fun s hs => ⟨hs.1, hs.2.2⟩) fun _ _ h => h
  refine .conseq (returns_exec (R := fun _ _ => True) (lasting_spent _) (fun _ => .true)
    fun s hs => ⟨.inr ?_, fun _ => trivial⟩) (fun _ h => h) fun _ _ h => ⟨h.1, trivial⟩
  refine .refuse gathered.request found _ hmode (fun h => nomatch h) fun task htask h h' => ?_
  exact hs.2 task.1 ⟨task, htask, rfl, h, h'⟩

theorem returns_submitKubernetes (hmode : service.mode = .kubernetes) (images : Images)
    (backupTargetId migrationTargetId taskId : String) :
    Returns (updateProtocol service hids).contract (Knows service gathered.IsRead)
      (service.submitKubernetes gathered images backupTargetId migrationTargetId taskId)
      fun _ => Knows service gathered.IsRead := by
  refine .bind (returns_look lasting_isRead _) fun now => ?_
  refine .bind (returns_queue (obeys_submit service.queue taskId _) (fun _ => trivial) lasting_isRead
    (UpdateState.setQueue_queue taskId (.submitted gathered.request)) fun s q hs hguar => ?_)
    fun task => ?_
  · rcases hguar with rfl | ⟨row, hfresh, haction, hpayload, hcreated, rfl⟩
    · exact .inl (UpdateState.setQueue_same taskId _ s).symm
    · refine .inr ?_
      rw [UpdateState.setQueue_created _ row hfresh]
      refine .submit taskId row gathered.request hmode hfresh haction hcreated ?_
      rw [hpayload]
      exact hs.2
  · refine .conseq (returns_exec (R := fun _ _ => True) lasting_isRead (fun _ => .true)
      fun s hs => ⟨.inr ?_, fun _ => trivial⟩) (fun _ h => h) fun _ _ h => ⟨h.1, h.2.1⟩
    exact .running _ fun h => nomatch h

theorem returns_rehearseOnKubernetes (hmode : service.mode = .kubernetes)
    (outside : PreflightAnswers) :
    Returns (updateProtocol service hids).contract (Knows service gathered.IsRead)
      (service.rehearseOnKubernetes gathered outside) fun _ => Knows service fun _ => True := by
  unfold UpdateService.rehearseOnKubernetes
  split
  · exact .conseq (returns_submitKubernetes hmode _ _ _ _) (fun _ h => h) fun _ _ h => ⟨h.1, trivial⟩
  · exact .conseq (returns_refuseKubernetes hmode) (fun _ h => ⟨h.1, trivial⟩) fun _ _ h => h

theorem returns_rehearseOnHost (hmode : service.mode ≠ .kubernetes) (outside : PreflightAnswers) :
    Returns (updateProtocol service hids).contract (Knows service gathered.IsRead)
      (service.rehearseOnHost gathered outside) fun _ => Knows service fun _ => True := by
  have hpublish : ∀ checks, Returns (updateProtocol service hids).contract
      (Knows service gathered.IsRead)
      (.exec (service.publish gathered checks) : UpdateHandler UpdateAnswer) fun _ => Knows service fun _ => True := by
    intro checks
    refine .conseq (returns_exec (R := fun _ _ => True) lasting_isRead (fun _ => .true)
      fun s hs => ⟨.inr ?_, fun _ => trivial⟩) (fun _ h => h) fun _ _ h => ⟨h.1, trivial⟩
    exact .publish gathered.request _ hmode ⟨_, hs.2⟩
  refine .bind (returns_look lasting_isRead _) fun ready => .ite (fun _ => ?_) fun _ => hpublish _
  exact .bind (returns_look lasting_isRead _) fun _ => hpublish _

theorem returns_runPreflight (request : Nat) (body : PreflightRequest) (outside : PreflightAnswers) :
    Returns (updateProtocol service hids).contract (Knows service fun _ => True)
      (service.runPreflight request body outside) fun _ => Knows service fun _ => True := by
  refine .bind (returns_look .true _) fun targetVersion => .bind (returns_look .true _) fun _ =>
    .bind (returns_look .true _) fun executor => .bind (returns_look .true _) fun _ => ?_
  refine .bind (returns_readStored 0 .true fun _ _ => Nat.zero_le _) fun first => ?_
  have hfirst := Lasting.true.and ((lasting_const (0 ≤ first.2)).and
    (lasting_hadRow first.2 (service.settings.decode · = .ok first.1)))
  refine .bind (returns_readStored first.2 hfirst fun s hs => hs.2.2.1) fun second => ?_
  have hsecond := hfirst.and ((lasting_const (first.2 ≤ second.2)).and
    (lasting_hadRow second.2 (service.settings.decode · = .ok second.1)))
  refine .bind (returns_fingerprint second.2 hsecond fun s hs => hs.2.2.1) fun last => ?_
  have hlast := hsecond.and ((lasting_const (second.2 ≤ last.2)).and
    (lasting_hadRow last.2 (service.settings.digest · = last.1)))
  refine .bind (returns_exec (R := fun id s => s.HasRead request id (some last.1)) hlast
    (fun id => lasting_hasRead _ _ _) fun s hs => ⟨.inr ?_, fun _ => ?_⟩) fun id => ?_
  · obtain ⟨-, ⟨⟨-, -, hfirst⟩, hle, hsecond⟩, hle', hlast⟩ := hs
    exact .execute request _ ⟨hlast.1, ⟨first.1, hfirst.2, rfl⟩,
      ⟨second.2, hle, hle', hsecond.2⟩, hlast.2.symm⟩
  · exact ⟨_, List.mem_cons_self, rfl⟩
  · refine .ite (fun hmode => ?_) fun hmode => ?_
    · exact .conseq (returns_rehearseOnKubernetes hmode outside) (fun s hs => ⟨hs.1, hs.2.2⟩)
        fun _ _ h => h
    · exact .conseq (returns_rehearseOnHost hmode outside) (fun s hs => ⟨hs.1, hs.2.2⟩)
        fun _ _ h => h

theorem returns_preflight (body : PreflightRequest) (outside : PreflightAnswers) :
    Returns (updateProtocol service hids).contract (Knows service fun _ => True)
      (service.preflight body outside) fun _ _ => True := by
  refine .bind (returns_exec (R := fun _ _ => True) .true (fun _ => .true)
    fun s _ => ⟨.inr .request, fun _ => trivial⟩) fun request => ?_
  refine .tryCatch (.conseq (returns_runPreflight request body outside)
    (fun s hs => ⟨hs.1, trivial⟩) fun _ _ _ => trivial) fun e => ?_
  exact Triple.exec_bind .true fun s _ _ =>
    ⟨.inr (.abandon request), (Returns.fail .true).guards trivial⟩

end Preflight

/-! ## Installs -/

section Install

variable {since : Nat}

/-- An install has taken the preflight from the latest task or from the memory. -/
def UpdateState.IsTaken (s : UpdateState) (since : Nat) (id : String) : Prop :=
  .consulted since id ∈ s.log ∨ .recalled since id ∈ s.log

theorem lasting_isTaken (id : String) : Lasting (·.IsTaken since id) :=
  fun _ _ hlater h => h.imp (fun h => hlater.log h) fun h => hlater.log h

/-- The fingerprint on record is one that a preflight `id` has read, and equals this one. -/
def UpdateState.IsCompared (s : UpdateState) (id fingerprint : String) : Prop :=
  ∃ writer, .compared id writer fingerprint ∈ s.log

theorem lasting_isCompared (id fingerprint : String) : Lasting (·.IsCompared id fingerprint) :=
  lasting_exists fun _ => lasting_mem _

theorem supports_of {s : UpdateState} {id fingerprint : String} {used : StoredSettings}
    {compared read : Nat} (htaken : s.IsTaken since id) (hcompared : s.IsCompared id fingerprint)
    (hle : compared ≤ read) (hdigest : s.HadRow compared (service.settings.digest · = fingerprint))
    (hused : s.HadRow read (service.settings.decode · = .ok used)) :
    s.Supports service ⟨since, id, used, compared, read⟩ := by
  refine ⟨htaken, ?_, hused.2, hle, hused.1⟩
  obtain ⟨writer, hmem⟩ := hcompared
  refine ⟨writer, ?_⟩
  rw [hdigest.2]
  exact hmem

def UpdateState.IsFound (s : UpdateState) (since : Nat) (task : String × Task) : Prop :=
  (∃ request, s.HasRead request task.2.payload.preflightId task.2.payload.settingsFingerprint) ∧
    (UpdateService.hasPassed task.2.status ((task.2.result.bind (·.checks)).getD []) = true →
      s.IsTaken since task.2.payload.preflightId)

theorem lasting_isFound (task : String × Task) : Lasting (·.IsFound since task) :=
  (lasting_exists fun _ => lasting_hasRead _ _ _).and (lasting_imp (lasting_isTaken _))

open UpdateService in
theorem returns_consultLatest (hmode : service.mode = .kubernetes) :
    Returns (updateProtocol service hids).contract (Knows service fun _ => True)
      (.exec (consultLatest since) : UpdateHandler (Option (String × Task))) fun found =>
        Knows service fun s => ∀ task ∈ found, s.IsFound since task := by
  refine .conseq (returns_exec
    (R := fun (found : Option (String × Task)) s => ∀ task ∈ found, s.IsFound since task) .true
    (fun found s t hlater h task htask => lasting_isFound task s t hlater (h task htask))
    fun s hs => ?_) (fun _ h => h) fun _ _ h => ⟨h.1, h.2.2⟩
  cases hlatest : latestPreflight s with
  | none =>
      have hresult : consultLatest since s = (none, s) := by simp [consultLatest, hlatest]
      rw [hresult]
      exact ⟨.inl rfl, fun _ _ h => nomatch h⟩
  | some latest =>
      obtain ⟨id, row⟩ := latest
      obtain ⟨hrow, haction⟩ := Table.latest?_eq_some hlatest
      obtain ⟨request, hread, -⟩ := hs.1.tasks id row hrow (eq_of_beq haction)
      by_cases hpassed : hasPassed row.status ((row.result.bind (·.checks)).getD []) = true
      · have hsucceeded : row.status = .succeeded := by
          simp only [hasPassed, Bool.and_eq_true] at hpassed
          exact eq_of_beq hpassed.1.1
        have hresult : consultLatest since s =
            (some (id, row), s.note (.consulted since row.payload.preflightId)) := by
          simp [consultLatest, hlatest, hpassed]
        have hstep : UpdateStep service s (s.note (.consulted since row.payload.preflightId)) :=
          .consult since id row hmode hlatest hsucceeded
        rw [hresult]
        refine ⟨.inr hstep, fun _ task htask => ?_⟩
        obtain rfl := Option.some.inj htask
        exact ⟨⟨request, hread.mono hstep.later⟩, fun _ => .inl List.mem_cons_self⟩
      · have hresult : consultLatest since s = (some (id, row), s) := by
          simp [consultLatest, hlatest, hpassed]
        rw [hresult]
        refine ⟨.inl rfl, fun _ task htask => ?_⟩
        obtain rfl := Option.some.inj htask
        exact ⟨⟨request, hread⟩, fun h => absurd h hpassed⟩

open UpdateService in
theorem recordOf_status_ne {record : TaskRecord}
    (h : ¬hasPassed record.status (taskChecks record) = true) :
    (recordOf record).status ≠ .passed := by
  unfold recordOf
  simp only [if_neg h]
  split <;> exact fun h => nomatch h

open UpdateService in
theorem returns_loadLatest (hmode : service.mode = .kubernetes) (found : Option (String × Task)) :
    Returns (updateProtocol service hids).contract
      (Knows service fun s => ∀ task ∈ found, s.IsFound since task)
      (.exec (loadLatest since (found.map fun task => Tasks.publicTask task.1 task.2)) :
        UpdateHandler (Option PreflightPayload)) fun preflight =>
        Knows service fun s => ∀ p ∈ preflight, p.status = .passed → s.IsTaken since p.id := by
  refine .conseq (returns_exec (R := fun (preflight : Option PreflightPayload) s =>
      ∀ p ∈ preflight, p.status = .passed → s.IsTaken since p.id)
    (lasting_forall fun task => lasting_imp (lasting_isFound task))
    (fun preflight => lasting_forall fun p => lasting_imp (lasting_imp (lasting_isTaken p.id)))
    fun s hs => ?_) (fun _ h => h) fun _ _ h => ⟨h.1, h.2.2⟩
  cases found with
  | none =>
      cases hmemory : s.preflight with
      | none =>
          have hresult : loadLatest since none s = (none, s) := by simp [loadLatest, hmemory]
          rw [Option.map_none, hresult]
          exact ⟨.inl rfl, fun _ _ h => nomatch h⟩
      | some preflight =>
          by_cases hpassed : preflight.status = .passed
          · have hresult : loadLatest since none s =
                (some preflight, s.note (.recalled since preflight.id)) := by
              simp [loadLatest, hmemory, hpassed]
            rw [Option.map_none, hresult]
            refine ⟨.inr (.«recall» since preflight.id), fun _ p hp _ => ?_⟩
            obtain rfl := Option.some.inj hp
            exact .inr List.mem_cons_self
          · have hresult : loadLatest since none s = (some preflight, s) := by
              simp [loadLatest, hmemory, hpassed]
            rw [Option.map_none, hresult]
            refine ⟨.inl rfl, fun _ p hp h => ?_⟩
            obtain rfl := Option.some.inj hp
            exact absurd h hpassed
  | some task =>
      obtain ⟨hread, htaken⟩ := hs.2 task rfl
      let record := Tasks.publicTask task.1 task.2
      by_cases hpassed : hasPassed record.status (taskChecks record) = true
      · have hresult : loadLatest since (some record) s = (some (recordOf record), { s with
            preflight := some (recordOf record)
            preflightSettingsFingerprint := record.payload.settingsFingerprint
            writer := some record.payload.preflightId }) := by
          simp [loadLatest, hpassed]
        have hstep : UpdateStep service s _ := .load (recordOf record)
          record.payload.settingsFingerprint hmode hread
        rw [Option.map_some, hresult]
        refine ⟨.inr hstep, fun _ p hp _ => ?_⟩
        obtain rfl := Option.some.inj hp
        exact lasting_isTaken _ _ _ hstep.later (htaken hpassed)
      · have hresult : loadLatest since (some record) s =
            (some (recordOf record), { s with preflight := some (recordOf record) }) := by
          simp [loadLatest, hpassed]
        have hstatus := recordOf_status_ne hpassed
        rw [Option.map_some, hresult]
        refine ⟨.inr (.running _ hstatus), fun _ p hp h => ?_⟩
        obtain rfl := Option.some.inj hp
        exact absurd h hstatus

theorem assertValidPreflight_ok {record : Option (PreflightPayload × Option String)}
    {id : Option String} {targetVersion fingerprint : String} {now : Nat}
    {backupTargetId : Option String}
    (h : assertValidPreflight record id targetVersion now fingerprint backupTargetId = .ok ()) :
    ∃ preflight, record = some (preflight, some fingerprint) ∧ id = some preflight.id ∧
      preflight.status = .passed := by
  cases record with
  | none => cases h
  | some record =>
      cases id with
      | none => cases h
      | some id =>
          obtain ⟨_, hid, h⟩ := exists_of_bind_eq_ok h
          obtain ⟨_, hstatus, h⟩ := exists_of_bind_eq_ok h
          obtain ⟨_, -, h⟩ := exists_of_bind_eq_ok h
          obtain ⟨_, -, h⟩ := exists_of_bind_eq_ok h
          obtain ⟨_, -, h⟩ := exists_of_bind_eq_ok h
          obtain ⟨_, hfingerprint, h⟩ := exists_of_bind_eq_ok h
          refine ⟨record.1, ?_, ?_, of_refuseUnless hstatus⟩
          · rw [← (of_refuseUnless hfingerprint).2]
          · rw [(of_refuseUnless hid).2]

/-- The comparison changes nothing, or finds a record that has passed and the fingerprint in the
shared field. -/
theorem compare_cases (preflight : Option PreflightPayload) (body : InstallRequest)
    (targetVersion fingerprint : String) (s : UpdateState) :
    (∃ e, UpdateService.compare preflight body targetVersion fingerprint s = (.error e, s)) ∨
      ∃ q, preflight = some q ∧ q.status = .passed ∧ body.preflightId = some q.id ∧
        s.preflightSettingsFingerprint = some fingerprint ∧
        UpdateService.compare preflight body targetVersion fingerprint s =
          (.ok (), s.note (.compared q.id s.writer fingerprint)) := by
  cases hvalid : assertValidPreflight
      (preflight.map fun preflight => (preflight, s.preflightSettingsFingerprint)) body.preflightId
      targetVersion s.queue.now fingerprint body.backupTargetId with
  | error e => exact .inl ⟨.badRequest e.message, by simp only [UpdateService.compare, hvalid]⟩
  | ok u =>
      obtain ⟨q, hrecord, hid, hpassed⟩ := assertValidPreflight_ok hvalid
      obtain ⟨q', hpreflight, hsame⟩ := Option.map_eq_some_iff.mp hrecord
      obtain ⟨rfl, hfield⟩ := Prod.mk.inj hsame
      refine .inr ⟨q', hpreflight, hpassed, hid, hfield, ?_⟩
      have hresult : UpdateService.compare preflight body targetVersion fingerprint s =
          (.ok (), s.note (.compared (body.preflightId.getD "") s.writer fingerprint)) := by
        simp only [UpdateService.compare, hvalid]
      rw [hresult, hid, Option.getD_some]

theorem returns_compare {p : UpdateState → Prop} (hp : Lasting p)
    (preflight : Option PreflightPayload) (body : InstallRequest)
    (targetVersion fingerprint : String) :
    Returns (updateProtocol service hids).contract (Knows service p)
      (.exec (UpdateService.compare preflight body targetVersion fingerprint) :
        UpdateHandler (Except Exception Unit)) fun valid =>
        Knows service fun s => p s ∧ ∀ u, valid = .ok u →
          ∃ q, preflight = some q ∧ q.status = .passed ∧ s.IsCompared q.id fingerprint := by
  refine returns_exec (R := fun (valid : Except Exception Unit) s => ∀ u, valid = .ok u →
      ∃ q, preflight = some q ∧ q.status = .passed ∧ s.IsCompared q.id fingerprint) hp
    (fun valid => lasting_forall fun u => lasting_imp (lasting_exists fun q =>
      (lasting_const _).and ((lasting_const _).and (lasting_isCompared _ _)))) fun s hs => ?_
  rcases compare_cases preflight body targetVersion fingerprint s with
    ⟨e, hresult⟩ | ⟨q, hpreflight, hpassed, -, hfield, hresult⟩
  · rw [hresult]
    exact ⟨.inl rfl, fun _ _ h => nomatch h⟩
  · rw [hresult]
    exact ⟨.inr (.compare q.id fingerprint hfield), fun _ _ _ =>
      ⟨q, hpreflight, hpassed, s.writer, List.mem_cons_self⟩⟩

open UpdateService in
theorem returns_compareOnHost (since : Nat) {p : UpdateState → Prop} (hp : Lasting p)
    (hmode : service.mode ≠ .kubernetes) (body : InstallRequest)
    (targetVersion fingerprint : String) :
    Returns (updateProtocol service hids).contract (Knows service p)
      (.exec (compareOnHost since body targetVersion fingerprint) :
        UpdateHandler (Except Exception Unit)) fun valid =>
        Knows service fun s => p s ∧ ∀ u, valid = .ok u →
          s.IsTaken since (body.preflightId.getD "") ∧
            s.IsCompared (body.preflightId.getD "") fingerprint := by
  refine returns_exec (R := fun (valid : Except Exception Unit) s => ∀ u, valid = .ok u →
      s.IsTaken since (body.preflightId.getD "") ∧
        s.IsCompared (body.preflightId.getD "") fingerprint) hp
    (fun valid => lasting_forall fun u => lasting_imp
      ((lasting_isTaken _).and (lasting_isCompared _ _))) fun s hs => ?_
  rcases compare_cases s.preflight body targetVersion fingerprint s with
    ⟨e, hresult⟩ | ⟨q, hpreflight, hpassed, hid, hfield, hresult⟩
  · have hwhole : compareOnHost since body targetVersion fingerprint s = (.error e, s) := by
      simp only [compareOnHost, hresult]
    rw [hwhole]
    exact ⟨.inl rfl, fun _ _ h => nomatch h⟩
  · have hwhole : compareOnHost since body targetVersion fingerprint s =
        (.ok (), (s.note (.compared q.id s.writer fingerprint)).note (.consulted since q.id)) := by
      simp only [compareOnHost, hresult, hid, Option.getD_some]
    rw [hwhole, hid]
    refine ⟨.inr (.compareOnHost since q fingerprint hmode hpreflight hpassed hfield),
      fun _ _ _ => ⟨.inl List.mem_cons_self, s.writer, ?_⟩⟩
    exact List.mem_cons_of_mem _ List.mem_cons_self

open UpdateService in
theorem returns_submitInstall {preflight : PreflightPayload} {compared : Nat}
    {used : StoredSettings} {read : Nat} (taskId : String) (payload : TaskPayload)
    (haction : payload.action = .install) :
    Returns (updateProtocol service hids).contract
      (Knows service (UpdateState.Supports service · ⟨since, preflight.id, used, compared, read⟩))
      ((Tasks.submit service.queue taskId payload).zoom (·.queue) (UpdateState.setQueue taskId
        fun _ => .accepted ⟨since, preflight.id, used, compared, read⟩))
      fun _ => Knows service fun _ => True := by
  have hlast : Lasting (UpdateState.Supports service · ⟨since, preflight.id, used, compared, read⟩) :=
    fun _ _ hlater h => h.mono hlater
  refine .conseq (returns_queue (obeys_submit service.queue taskId payload) (fun _ => trivial) hlast
    (UpdateState.setQueue_queue taskId _) fun s q hs hguar => ?_) (fun _ h => h)
    fun _ _ h => ⟨h.1, trivial⟩
  rcases hguar with rfl | ⟨row, hfresh, hinstall, -, -, rfl⟩
  · exact .inl (UpdateState.setQueue_same taskId _ s).symm
  · refine .inr ?_
    rw [UpdateState.setQueue_created _ row hfresh]
    refine .accept _ _ s.installStatus (tasksKept_insert hfresh ?_) hs.2
    rw [hinstall, haction]
    exact fun h => nomatch h

open UpdateService in
theorem returns_startKubernetesInstall (hmode : service.mode = .kubernetes) (body : InstallRequest)
    (operator : String) (outside : InstallAnswers) :
    Returns (updateProtocol service hids).contract (Knows service fun _ => True)
      (service.startKubernetesInstall body operator outside) fun _ _ => True := by
  refine .bind (returns_look .true _) fun since => .bind (returns_consultLatest hmode) fun found => ?_
  have hfound : Lasting fun s => ∀ task ∈ found, s.IsFound since task :=
    lasting_forall fun task => lasting_imp (lasting_isFound task)
  refine .ofExcept_bind (stable_knows hfound) fun record hrecord => ?_
  obtain rfl : record = found.map fun task => Tasks.publicTask task.1 task.2 := by
    cases found with
    | none => exact (Except.ok.inj hrecord).symm
    | some task =>
        obtain ⟨record', hverified, hsome⟩ := exists_of_bind_eq_ok hrecord
        rw [verifiedPublicTask_eq_ok hverified] at hsome
        exact (Except.ok.inj hsome).symm
  refine .bind (returns_loadLatest hmode found) fun preflight => ?_
  have htaken : Lasting fun s => ∀ p ∈ preflight, p.status = .passed → s.IsTaken since p.id :=
    lasting_forall fun p => lasting_imp (lasting_imp (lasting_isTaken p.id))
  refine .bind (returns_fingerprint 0 htaken fun _ _ => Nat.zero_le _) fun fingerprint => ?_
  have hdigest := htaken.and ((lasting_const (0 ≤ fingerprint.2)).and
    (lasting_hadRow fingerprint.2 (service.settings.digest · = fingerprint.1)))
  refine .bind (returns_compare hdigest preflight body _ fingerprint.1) fun valid => ?_
  have hvalid := hdigest.and (lasting_forall fun u : Unit => @lasting_imp (valid = .ok u) _
    (lasting_exists fun q => (lasting_const (preflight = some q)).and
      ((lasting_const (q.status = .passed)).and (lasting_isCompared q.id fingerprint.1))))
  refine .ofExcept_bind (stable_knows hvalid) fun u hu => ?_
  cases preflight with
  | none => exact .fail (stable_knows hvalid)
  | some preflight =>
      have hknown := (@lasting_isTaken since preflight.id).and
        ((lasting_isCompared preflight.id fingerprint.1).and
          (lasting_hadRow fingerprint.2 (service.settings.digest · = fingerprint.1)))
      refine .conseq (q := Knows service fun s => s.IsTaken since preflight.id ∧
          s.IsCompared preflight.id fingerprint.1 ∧
          s.HadRow fingerprint.2 (service.settings.digest · = fingerprint.1))
        (S := fun _ _ => True) ?_ (fun s hs => ?_) fun _ _ h => h
      · refine .ofExcept_bind (stable_knows hknown) fun images _ => ?_
        refine .bind (returns_readStored fingerprint.2 hknown fun s hs => hs.2.2.1)
          fun read => ?_
        have hsupports : Lasting (UpdateState.Supports service ·
            ⟨since, preflight.id, read.1, fingerprint.2, read.2⟩) := fun _ _ hlater h => h.mono hlater
        refine .conseq (q := Knows service (UpdateState.Supports service ·
            ⟨since, preflight.id, read.1, fingerprint.2, read.2⟩)) (S := fun _ _ => True) ?_
          (fun s hs => ?_) fun _ _ h => h
        · refine .ensure_bind (stable_knows hsupports) fun _ =>
            .ensure_bind (stable_knows hsupports) fun _ =>
            .bind (returns_look hsupports _) fun bound =>
            .bind (returns_submitInstall _ _ rfl) fun _ => ?_
          refine .conseq (returns_exec (R := fun _ _ => True) .true (fun _ => .true)
            fun s _ => ⟨.inr ?_, fun _ => trivial⟩) (fun _ h => h) fun _ _ _ => trivial
          exact .outside (.polled s .queued s.latestVersion s.updateCheckError s.executorReady
            s.executorReason)
        · obtain ⟨hinv, ⟨htaken, hcompared, hdigest⟩, hle, hused⟩ := hs
          exact ⟨hinv, supports_of htaken hcompared hle hdigest hused⟩
      · obtain ⟨hinv, ⟨htaken, -, hdigest⟩, hcompared⟩ := hs
        obtain ⟨q, hq, hpassed, hcompared⟩ := hcompared u hu
        obtain rfl := Option.some.inj hq
        exact ⟨hinv, htaken _ rfl hpassed, hcompared, hdigest⟩

open UpdateService in
theorem returns_startInstall (hmode : service.mode ≠ .kubernetes) (body : InstallRequest)
    (outside : InstallAnswers) :
    Returns (updateProtocol service hids).contract (Knows service fun _ => True)
      (service.startInstall body outside) fun _ _ => True := by
  refine .bind (returns_look .true _) fun since => .bind (returns_look .true _) fun executor =>
    .ensure_bind (stable_knows .true) fun _ => .ensure_bind (stable_knows .true) fun _ =>
    .bind (returns_look .true _) fun latest => .ensure_bind (stable_knows .true) fun _ =>
    .ensure_bind (stable_knows .true) fun _ => .bind (returns_look .true _) fun _ =>
    .ensure_bind (stable_knows .true) fun _ => .ensure_bind (stable_knows .true) fun _ =>
    .ensure_bind (stable_knows .true) fun _ => ?_
  refine .bind (returns_fingerprint 0 .true fun _ _ => Nat.zero_le _) fun fingerprint => ?_
  have hdigest := Lasting.true.and ((lasting_const (0 ≤ fingerprint.2)).and
    (lasting_hadRow fingerprint.2 (service.settings.digest · = fingerprint.1)))
  refine .bind (returns_compareOnHost since hdigest hmode body _ fingerprint.1)
    fun valid => ?_
  have hvalid := hdigest.and (lasting_forall fun u : Unit => @lasting_imp (valid = .ok u) _
    ((@lasting_isTaken since (body.preflightId.getD "")).and
      (lasting_isCompared (body.preflightId.getD "") fingerprint.1)))
  refine .ofExcept_bind (stable_knows hvalid) fun u hu => ?_
  refine .bind (returns_readStored fingerprint.2 hvalid fun s hs => hs.1.2.2.1)
    fun read => ?_
  have hsupports : Lasting (UpdateState.Supports service ·
      ⟨since, body.preflightId.getD "", read.1, fingerprint.2, read.2⟩) :=
    fun _ _ hlater h => h.mono hlater
  refine .conseq (q := Knows service (UpdateState.Supports service ·
      ⟨since, body.preflightId.getD "", read.1, fingerprint.2, read.2⟩)) (S := fun _ _ => True) ?_
    (fun s hs => ?_) fun _ _ h => h
  · refine .ensure_bind (stable_knows hsupports) fun _ => .bind (returns_look hsupports _) fun _ =>
      .ofExcept_bind (stable_knows hsupports) fun _ _ => ?_
    refine .conseq (returns_exec (R := fun _ _ => True) hsupports (fun _ => .true)
      fun s hs => ⟨.inr ?_, fun _ => trivial⟩) (fun _ h => h) fun _ _ _ => trivial
    exact .accept _ s.queue .queued (.refl _) hs.2
  · obtain ⟨hinv, ⟨⟨-, -, hdigest⟩, hcompared⟩, hle, hused⟩ := hs
    obtain ⟨htaken, hcompared⟩ := hcompared u hu
    exact ⟨hinv, supports_of htaken hcompared hle hdigest hused⟩

theorem returns_install (body : InstallRequest) (operator : String) (outside : InstallAnswers) :
    Returns (updateProtocol service hids).contract (Knows service fun _ => True)
      (service.install body operator outside) fun _ _ => True := by
  refine .ensure_bind (stable_knows .true) fun _ => .ite (fun hmode => ?_) fun hmode =>
    .ite (fun _ => ?_) fun _ => .fail (stable_knows .true)
  · exact returns_startKubernetesInstall hmode body operator outside
  · exact returns_startInstall hmode body outside

end Install

theorem guards_update {h : UpdateHandler UpdateAnswer} (hh : service.IsUpdateHandler h)
    {s : UpdateState} (hs : UpdateInv service s) :
    Guards (updateProtocol service hids).contract (fun _ _ => True) h s := by
  have hany : ∀ {h : UpdateHandler UpdateAnswer}, Returns (updateProtocol service hids).contract
      (Knows service fun _ => True) h (fun _ _ => True) →
      Guards (updateProtocol service hids).contract (fun _ _ => True) h s :=
    fun hh => (hh.guards ⟨hs, trivial⟩).mono fun _ _ _ => trivial
  cases hh with
  | preflight body outside => exact hany (returns_preflight body outside)
  | install body operator outside => exact hany (returns_install body operator outside)
  | save input iv =>
      exact hany (.conseq (returns_save input iv) (fun _ h => h) fun _ _ _ => trivial)
  | traffic request hrequest =>
      refine hany (.bind (returns_queue (keeps_traffic service.queue hrequest) (fun _ => trivial)
        .true (fun _ _ => rfl) fun s q _ hkept => .inr (.queue q hkept)) fun _ => ?_)
      exact .done (stable_knows .true) fun _ _ => trivial

/-- Nothing has been asked for yet, and no settings have been read. -/
structure IsFreshUpdate (s : UpdateState) : Prop where
  preflight : s.preflight = none
  fingerprint : s.preflightSettingsFingerprint = none
  tasks : ∀ id row, s.queue.tasks.lookup id = some row → row.action ≠ .preflight
  log : s.log = []

theorem IsFreshUpdate.inv {s : UpdateState} (hs : IsFreshUpdate s) : UpdateInv service s where
  log event h := by
    rw [hs.log] at h
    cases h
  unique h := by
    rw [hs.log] at h
    cases h
  field fingerprint h := by
    rw [hs.fingerprint] at h
    cases h
  record _ preflight h := by
    rw [hs.preflight] at h
    cases h
  tasks id row hrow haction := absurd haction (hs.tasks id row hrow)

abbrev UpdateReach (service : UpdateService) (init : UpdateState) :
    Pool Exception UpdateState UpdateAnswer → Prop :=
  Reach service.IsUpdateHandler OutsideUpdate init

theorem update_run (hids : Function.Injective service.newId) {init : UpdateState}
    (hinit : IsFreshUpdate init) {c : Pool Exception UpdateState UpdateAnswer}
    (hc : UpdateReach service init c) :
    UpdateInv service c.shared ∧ (updateProtocol service hids).rely init c.shared := by
  have hsafe := Protocol.reachable (P := updateProtocol service hids) (R := fun _ _ => True)
    (fun h s hh hs => guards_update hh hs) (fun s t _ hst => .inr (.outside hst)) hinit.inv hc
  exact ⟨hsafe.1.inv, hsafe.2⟩

end KubeNova.Update
