import KubeNova.Update.ImageUpdate
import KubeNova.Update.Worker

/-!
# What a worker records

A task that ends failed left the images alone, unless its phase says that the
rollback was incomplete.  This holds as long as nothing fails after the adapter has
returned; a lease renewal or a final record that fails then is reported as a failed
task although all three images have changed.
-/

namespace KubeNova.Update

open KubeNova.Common KubeNova.Foundation

/-! ## Steps that leave the record of the task alone -/

/-- The row keeps what the worker's reports do not write. -/
structure RowKept (row row' : Task) : Prop where
  action : row'.action = row.action
  payload : row'.payload = row.payload
  status : row'.status = row.status
  result : row'.result = row.result
  phase : row'.phase = row.phase ∨ row.status = .running

theorem RowKept.refl (row : Task) : RowKept row row := ⟨rfl, rfl, rfl, rfl, .inl rfl⟩

def rowsKept (id : String) (q q' : Queue) : Prop :=
  ∀ row', q'.tasks.lookup id = some row' → ∃ row, q.tasks.lookup id = some row ∧ RowKept row row'

theorem rowsKept_refl (id : String) (q : Queue) : rowsKept id q q := fun row h => ⟨row, h, .refl row⟩

def OthersIdle (id : String) (q : Queue) : Prop :=
  ∀ k row, k ≠ id → q.tasks.lookup k = some row → row.isActive = false

structure progressStep (id : String) (s t : World) : Prop where
  report : reportStep s t
  stage : t.stage = s.stage
  rows : rowsKept id s.queue t.queue
  others : OthersIdle id s.queue → OthersIdle id t.queue

theorem progressStep.refl (id : String) (s : World) : progressStep id s s :=
  ⟨⟨rfl, rfl, rfl⟩, rfl, rowsKept_refl id s.queue, fun h => h⟩

def progressProtocol (id : String) : Protocol World :=
  ⟨fun _ => True, progressStep id, progressStep.refl id, fun _ _ => trivial⟩

/-- Steps on the queue that keep the row of the task, and leave the others idle. -/
def rowsProtocol (id : String) : Protocol Queue :=
  ⟨fun _ => True, fun q q' => rowsKept id q q' ∧ (OthersIdle id q → OthersIdle id q'),
    fun q => ⟨rowsKept_refl id q, fun h => h⟩, fun _ _ => trivial⟩

theorem obeys_callTasks {α : Type} {P : Protocol World} {R : Protocol Queue} {h : QueueHandler α}
    (hh : Obeys R h) (hinv : ∀ s, P.inv s → R.inv s.queue)
    (hguar : ∀ s q, P.inv s → R.guar s.queue q → P.guar s (s.setQueue q)) :
    Obeys P (callTasks h) := by
  have hzoom : Obeys P (h.zoom World.queue World.setQueue) := hh.zoom hinv hguar
  refine .bind (.query _) fun answer => ?_
  obtain ⟨failure, applied⟩ := answer
  cases failure with
  | none => exact hzoom
  | some message =>
      cases applied with
      | false => exact .fail _
      | true => exact .bind hzoom.toExcept fun _ => .fail _

theorem obeys_consult {α : Type} {P : Protocol World} (answer : World → α) :
    Obeys P (consult answer) := by
  refine .bind (.exec fun s _ => ?_) fun _ => .ofExcept _
  cases s.outside.failure with
  | none => exact P.refl s
  | some message =>
      simp only [ite_self]
      exact P.refl s

theorem obeys_assertLease {P : Protocol World} : Obeys P assertLease := by
  refine .bind (.query _) fun leaseError => ?_
  cases leaseError with
  | none => exact .done _
  | some message => exact .fail _

theorem lookup_updateOwned {id id' workerId : String} {now : Nat} {f : Task → Task} {q : Queue}
    {row' : Task} (h : (Tasks.updateOwned id' workerId now f q).2.tasks.lookup id = some row') :
    q.tasks.lookup id = some row' ∨
      ∃ row, q.tasks.lookup id = some row ∧ row.status = .running ∧ row' = f row := by
  unfold Tasks.updateOwned at h
  split at h
  · rename_i old hold
    split at h
    · split at h
      · rename_i hguard
        rcases lookup_update_cases hold h with ⟨rfl, rfl⟩ | ⟨_, hsame⟩
        · exact .inr ⟨old, hold, hguard.1, rfl⟩
        · exact .inl hsame
      · exact .inl h
    · exact .inl h
  · exact .inl h

theorem othersIdle_updateOwned {id id' workerId : String} {now : Nat} {f : Task → Task} {q : Queue}
    (h : OthersIdle id q) : OthersIdle id (Tasks.updateOwned id' workerId now f q).2 := by
  intro k row' hk hrow'
  rcases lookup_updateOwned hrow' with hsame | ⟨row, hrow, hrunning, _⟩
  · exact h k row' hk hsame
  · have hidle := h k row hk hrow
    simp [Task.isActive, hrunning] at hidle

theorem rowsKept_updateOwned {id id' workerId : String} {now : Nat} {f : Task → Task} {q : Queue}
    (hf : ∀ row, row.status = .running → RowKept row (f row)) :
    rowsKept id q (Tasks.updateOwned id' workerId now f q).2 := by
  intro row' hrow'
  rcases lookup_updateOwned hrow' with hsame | ⟨row, hrow, hrunning, rfl⟩
  · exact ⟨row', hsame, .refl row'⟩
  · exact ⟨row, hrow, hf row hrunning⟩

theorem obeys_rows_heartbeat (id task workerId phase : String) (percent : Option Int)
    (message : Option String) :
    Obeys (rowsProtocol id) (Tasks.heartbeat task workerId phase percent message) :=
  .bind (.ensure _ _) fun _ => .bind (.ensure _ _) fun _ => .bind (.query _) fun _ =>
    .bind (.exec fun _ _ => ⟨rowsKept_updateOwned fun _ hrunning => ⟨rfl, rfl, rfl, rfl, .inr hrunning⟩,
      othersIdle_updateOwned⟩) fun _ => .ensure _ _

theorem obeys_rows_recordBackup (id task workerId location : String) (bytes : Nat) :
    Obeys (rowsProtocol id) (Tasks.recordBackup task workerId location bytes) :=
  .bind (.ensure _ _) fun _ => .bind (.query _) fun _ =>
    .bind (.exec fun _ _ => ⟨rowsKept_updateOwned fun _ hrunning => ⟨rfl, rfl, rfl, rfl, .inr hrunning⟩,
      othersIdle_updateOwned⟩) fun _ => .ensure _ _

theorem obeys_progress_callTasks {α : Type} {id : String} {h : QueueHandler α}
    (hh : Obeys (rowsProtocol id) h) : Obeys (progressProtocol id) (callTasks h) :=
  obeys_callTasks hh (fun _ _ => trivial) fun _ _ _ hrows =>
    ⟨⟨rfl, rfl, rfl⟩, rfl, hrows.1, hrows.2⟩

theorem obeys_reportProgress (w : Worker) (id task phase : String) (percent : Nat) (message : String) :
    Obeys (progressProtocol id) (w.reportProgress task phase percent message) :=
  .bind obeys_assertLease fun _ => .bind (obeys_progress_callTasks (obeys_rows_heartbeat _ _ _ _ _ _))
    fun _ => obeys_assertLease

/-- What others may do while a worker runs the task: anything but changing the
containers of the Deployments and the record of the task. -/
structure workerMove (id : String) (s t : World) : Prop where
  containers : ∀ c, (t.deployments c).containers = (s.deployments c).containers
  patches : t.patches = s.patches
  stage : t.stage = s.stage
  clock : s.queue.now ≤ t.queue.now
  rows : rowsKept id s.queue t.queue

def IsRunning (id : String) (s : World) : Prop :=
  ∀ row, s.queue.tasks.lookup id = some row → row.status = .running

theorem IsRunning.kept {id : String} {s t : World} (h : IsRunning id s)
    (hrows : rowsKept id s.queue t.queue) : IsRunning id t := by
  intro row' hrow'
  obtain ⟨row, hrow, hkept⟩ := hrows row' hrow'
  exact hkept.status.trans (h row hrow)

variable {C : Contract World} {p : World → Prop} {w : Worker} {task : TaskRecord}
  {Q : Except Exception Unit → World → Prop}

theorem reports_reportProgress (w : Worker) (task : TaskRecord) :
    Reports C (progressStep task.id) (w.reportProgress task.id) :=
  fun phase percent message _ hp =>
    (obeys_reportProgress w task.id task.id phase percent message).triple
      (fun s t _ => hp.guar_report s t) hp.stable (fun _ _ => trivial) hp.report

theorem triple_progress {α : Type} {id : String} {h : WorkerHandler α}
    (hh : Obeys (progressProtocol id) h) (hp : Keeps C (progressStep id) p) :
    Triple C p h fun _ => p :=
  hh.triple (fun s t _ => hp.guar_report s t) hp.stable (fun _ _ => trivial) hp.report

theorem triple_attemptTask (hp : Keeps C (progressStep task.id) p)
    (haction : task.payload.action ≠ .preflight) (herr : ∀ e s, p s → Q (.error e) s)
    (hupdate : Triple C p (w.runUpdate task) Q) : Triple C p (w.attemptTask task) Q := by
  have hreport := reports_reportProgress (C := C) w task
  refine .bind (hreport _ _ _ p hp) (fun _ => ?_) herr
  refine .bind (hreport _ _ _ p hp) (fun _ => ?_) herr
  refine .bind (triple_progress (obeys_consult _) hp) (fun settings => ?_) herr
  refine .ensure_bind hp.stable (fun _ => ?_) (herr _)
  refine .ensure_bind hp.stable (fun _ => ?_) (herr _)
  refine .bind (triple_progress (obeys_consult _) hp) (fun backup => ?_) herr
  refine .bind (triple_progress obeys_assertLease hp) (fun _ => ?_) herr
  refine .bind (triple_progress (obeys_progress_callTasks (obeys_rows_recordBackup _ _ _ _ _)) hp)
    (fun _ => ?_) herr
  refine .bind (hreport _ _ _ p hp) (fun _ => ?_) herr
  exact .ite (fun h => absurd h haction) fun _ => hupdate

def failsAs (id phase : String) (q q' : Queue) : Prop :=
  ∀ row', q'.tasks.lookup id = some row' →
    q.tasks.lookup id = some row' ∨
      (row'.status = .failed ∧ row'.phase = phase ∧
        ∃ row, q.tasks.lookup id = some row ∧ row'.payload = row.payload ∧ row'.result = row.result)

def failsProtocol (id phase : String) : Protocol Queue :=
  ⟨fun _ => True, failsAs id phase, fun _ _ h => .inl h, fun _ _ => trivial⟩

theorem obeys_fails_finish (config : QueueConfig) (id workerId phase message : String)
    (percent : Option Int) :
    Obeys (failsProtocol id phase)
      (Tasks.finish config id workerId false phase percent message none) := by
  refine .bind (.ensure _ _) fun _ => .bind (.ensure _ _) fun _ => .bind (.ofExcept _) fun _ =>
    .bind (.query _) fun _ => .bind (.exec fun q _ row' hrow' => ?_) fun _ => .ensure _ _
  rcases lookup_updateOwned hrow' with hsame | ⟨row, hrow, _, rfl⟩
  · exact .inl hsame
  · exact .inr ⟨rfl, rfl, row, hrow, rfl, rfl⟩

/-- What the catch block keeps: a property of the images and of the row that allows
the row to fail with the phase the error calls for. -/
theorem triple_recordFailure {e : Exception} (haction : task.payload.action ≠ .preflight)
    (hstable : Stable C p) (hguar : ∀ s t, p s → p t → C.guar s t)
    (hstage : ∀ s, p s → p (s.setStage .working))
    (hfails : ∀ s q, p s → failsAs task.id (failurePhase e.message) s.queue q → p (s.setQueue q)) :
    Triple C p (w.recordFailure task e) fun _ => p := by
  refine .exec_bind hstable fun s hs _ => ⟨hguar _ _ hs (hstage s hs), ?_⟩
  rw [Worker.failureResult, if_neg haction]
  have hobeys : Obeys (⟨p, fun s t => p s → p t, fun _ => id, fun hs h => h hs⟩ : Protocol World)
      (w.finish task.id false (failurePhase e.message) none e.message none) :=
    obeys_callTasks (obeys_fails_finish _ _ _ _ _ _) (fun _ _ => trivial)
      fun s q hs hq _ => hfails s q hs hq
  have hfinish : Triple C p (w.finish task.id false (failurePhase e.message) none e.message none)
      fun _ => p :=
    hobeys.triple (fun s t hs h => hguar s t hs (h hs)) hstable (fun _ hs => hs) fun s t hs h => h hs
  exact Triple.tryCatch hfinish (fun _ _ hs => hs) (fun _ => .done hstable fun _ hs => hs) _
    (hstage s hs)

/-! ## A failed task left the images alone -/

/-- Where the task has failed with another phase than the one that says the rollback
was incomplete, the images are those of before. -/
def EndedClean (id : String) (before : KubernetesComponent → Option String) (s : World) : Prop :=
  ∀ row, s.queue.tasks.lookup id = some row → row.status = .failed →
    row.phase ≠ "rollback-incomplete" → s.image = before

def HoldsLease (id worker : String) (q : Queue) : Prop :=
  ∃ row lease, q.tasks.lookup id = some row ∧ row.status = .running ∧
    row.claimedBy = some worker ∧ row.leaseUntil = some lease ∧ q.now < lease

/-- After the adapter has returned with changed images, no renewal has failed when
the lease is verified, and the final record is neither lost nor too late. -/
structure Dependable (w : Worker) (id : String) (s : World) : Prop where
  renewed : s.stage = .verifying → s.outside.leaseError = none
  recorded : s.stage = .finishing → s.outside.failure = none ∧ HoldsLease id w.id s.queue

/-- The runs of one worker under `Dependable`. -/
def dependable (w : Worker) (id : String) (before : KubernetesComponent → Option String) :
    Contract World where
  env := workerMove id
  guar s t := EndedClean id before s → EndedClean id before t
  assumes := Dependable w id
  refl _ h := h

section Dependable

variable {before : KubernetesComponent → Option String}

theorem IsRunning.endedClean {id : String} {s : World} (h : IsRunning id s) :
    EndedClean id before s := by
  intro row hrow hfailed
  rw [h row hrow] at hfailed
  contradiction

theorem EndedClean.kept {id : String} {s t : World} (h : EndedClean id before s)
    (himage : t.image = s.image) (hrows : rowsKept id s.queue t.queue) : EndedClean id before t := by
  intro row' hrow' hfailed hphase
  obtain ⟨row, hrow, hkept⟩ := hrows row' hrow'
  have hold : row.status = .failed := hkept.status.symm.trans hfailed
  have hsame : row'.phase = row.phase := by
    rcases hkept.phase with hsame | hrunning
    · exact hsame
    · rw [hold] at hrunning
      contradiction
  rw [himage]
  exact h row hrow hold (hsame ▸ hphase)

theorem image_of_move {id : String} {s t : World} (h : workerMove id s t) : t.image = s.image :=
  image_eq_of_containers h.containers

theorem image_of_report {id : String} {s t : World} (h : progressStep id s t) : t.image = s.image :=
  image_eq_of_containers fun c => by rw [h.report.1]

def AtWork (id : String) (s : World) : Prop := IsRunning id s ∧ s.stage = .working

theorem calm_dependable (w : Worker) (id : String) :
    Calm (dependable w id before) (progressStep id) (AtWork id) where
  keeps :=
    { stable := fun _ _ hs h => ⟨hs.1.kept h.rows, h.stage.trans hs.2⟩
      report := fun _ _ hs h => ⟨hs.1.kept h.rows, h.stage.trans hs.2⟩
      see := fun _ _ _ hs => hs
      guar_report := fun _ _ h hclean => hclean.kept (image_of_report h) h.rows
      guar_see := fun _ _ _ hclean => hclean }
  env _ _ h := h.containers
  report _ _ h := h.report.1
  patch s c patch expected hs := by
    unfold World.servePatch
    by_cases hpass : patch.passes (s.deployments c) = true
    · rw [if_pos hpass]
      exact hs
    · rw [if_neg hpass]
      exact hs
  guar_patch s c patch expected hs _ := by
    refine IsRunning.endedClean ?_
    unfold World.servePatch
    by_cases hpass : patch.passes (s.deployments c) = true
    · rw [if_pos hpass]
      exact hs.1
    · rw [if_neg hpass]
      exact hs.1

theorem keeps_patches (w : Worker) (id : String) (ps : List Patch) :
    Keeps (dependable w id before) (progressStep id) fun s => s.patches = ps where
  stable _ _ hs h := h.patches.trans hs
  report _ _ hs h := h.report.2.2.trans hs
  see _ _ _ hs := hs
  guar_report _ _ h hclean := hclean.kept (image_of_report h) h.rows
  guar_see _ _ _ hclean := hclean

theorem stable_running (w : Worker) (id : String) (stage : Stage) :
    Stable (dependable w id before) fun s => IsRunning id s ∧ s.stage = stage :=
  fun _ _ hs h => ⟨hs.1.kept h.rows, h.stage.trans hs.2⟩

theorem updateOwned_of_holds {id workerId : String} {now : Nat} {f : Task → Task} {q : Queue}
    (h : HoldsLease id workerId q) (hnow : now ≤ q.now) :
    (Tasks.updateOwned id workerId now f q).1 = 1 ∧ ∃ row, q.tasks.lookup id = some row ∧
      (Tasks.updateOwned id workerId now f q).2.tasks.lookup id = some (f row) := by
  obtain ⟨row, lease, hrow, hrunning, hworker, hlease, hlater⟩ := h
  have hguard : row.status = .running ∧ row.claimedBy = some workerId ∧ now < lease :=
    ⟨hrunning, hworker, by omega⟩
  simp only [Tasks.updateOwned, hrow, hlease, if_pos hguard]
  refine ⟨trivial, row, rfl, ?_⟩
  simp only [Queue.record, Queue.updateTask, Table.lookup_update_self, hrow, Option.map_some]

theorem finish_succeeded_eq {config : QueueConfig} {id workerId message : String}
    {result : Option TaskResult} {signature : Option String}
    (hsign : result.mapM (Tasks.signResult config) = .ok signature) :
    Tasks.finish config id workerId true "completed" (some 100) message result =
      (do
        let now ← Async.query (·.now)
        let count ← Async.exec (Tasks.updateOwned id workerId now
          (Tasks.finishRow true "completed" (some 100) message result signature now))
        Async.ensure (count ≠ 0) Tasks.leaseLost) := by
  have hphase : Tasks.isTerminalPhase true "completed" = true := by decide
  have hpercent : isPercent (some 100) = true := by decide
  simp only [Tasks.finish, Async.ensure, if_pos hphase, if_pos hpercent, hsign, Async.ofExcept,
    Async.done_bind]

theorem mapM_signResult {config : QueueConfig} {key : String} (hkey : Tasks.key config = .ok key)
    (result : Option TaskResult) :
    result.mapM (Tasks.signResult config) = .ok (result.map (config.mac.signResult key)) := by
  cases result with
  | none => rfl
  | some result =>
      have hsign : Tasks.signResult config result = .ok (config.mac.signResult key result) := by
        rw [Tasks.signResult, hkey]
        rfl
      simp only [Option.mapM_some, hsign, Option.map_some]
      rfl

theorem triple_finish_succeeded {id message key : String} {result : Option TaskResult}
    (hkey : Tasks.key w.config = .ok key) :
    Triple (dependable w id before) (fun s => IsRunning id s ∧ s.stage = .finishing)
      (w.finish id true "completed" (some 100) message result) fun r s =>
        EndedClean id before s ∧ ∀ e, r ≠ .error e := by
  have hstable := @stable_running before w id .finishing
  have hclean : ∀ r : Except Exception Unit, Stable (dependable w id before) fun s =>
      EndedClean id before s ∧ ∀ e, r ≠ .error e :=
    fun r s t hs h => ⟨hs.1.kept (image_of_move h) h.rows, hs.2⟩
  have hzoom : Triple (dependable w id before) (fun s => IsRunning id s ∧ s.stage = .finishing)
      ((Tasks.finish w.config id w.id true "completed" (some 100) message result).zoom
        World.queue World.setQueue) fun r s => EndedClean id before s ∧ ∀ e, r ≠ .error e := by
    rw [finish_succeeded_eq (mapM_signResult hkey result)]
    simp only [Async.zoom_bind, Async.zoom_query World.queue World.setQueue (fun _ => rfl),
      Async.zoom_exec, Async.zoom_ensure]
    refine .query_bind hstable fun s hs _ => ?_
    -- The clock was read before the record; it has not gone back since.
    have hlater : Stable (dependable w id before) fun t => s.queue.now ≤ t.queue.now ∧
        IsRunning id t ∧ t.stage = .finishing :=
      fun t u ht h => ⟨ht.1.trans h.clock, hstable t u ht.2 h⟩
    refine Triple.exec_bind hlater (fun t ht hassumes => ?_) s ⟨Nat.le_refl _, hs⟩
    obtain ⟨_, hholds⟩ := hassumes.recorded ht.2.2
    obtain ⟨hcount, row, hrow, hrecorded⟩ := updateOwned_of_holds
      (f := Tasks.finishRow true "completed" (some 100) message result
        (result.map (w.config.mac.signResult key)) s.queue.now) hholds ht.1
    have hended : EndedClean id before (t.setQueue (Tasks.updateOwned id w.id s.queue.now
        (Tasks.finishRow true "completed" (some 100) message result
          (result.map (w.config.mac.signResult key)) s.queue.now) t.queue).2) := by
      intro row' hrow' hfailed
      obtain rfl := Option.some.inj (hrecorded.symm.trans hrow')
      simp [Tasks.finishRow] at hfailed
    refine ⟨fun _ => hended, ?_⟩
    simp only [hcount, Async.ensure]
    exact Triple.done (hclean (.ok ())) (fun _ h => h) _ ⟨hended, by simp⟩
  refine .query_bind hstable fun s hs hassumes => ?_
  simp only [(hassumes.recorded hs.2).1]
  exact hzoom s hs

theorem saysIncomplete_rollbackIncomplete : saysIncomplete ImageUpdate.rollbackIncomplete = true := by
  decide +kernel

/-- A failure that the catch block may record: the images are those of before, or the
error says that the rollback was incomplete. -/
def Recordable (id : String) (before : KubernetesComponent → Option String) (e : Exception)
    (s : World) : Prop :=
  EndedClean id before s ∧ (s.image = before ∨ saysIncomplete e.message = true)

def LeavesClean (id : String) (before : KubernetesComponent → Option String)
    (r : Except Exception Unit) (s : World) : Prop :=
  EndedClean id before s ∧ ∀ e, r = .error e → Recordable id before e s

theorem LeavesClean.of_image {id : String} {s : World} (h : s.image = before)
    (r : Except Exception Unit) : LeavesClean id before r s :=
  ⟨fun _ _ _ _ => h, fun _ _ => ⟨fun _ _ _ _ => h, .inl h⟩⟩

theorem stable_recordable (w : Worker) (id : String) (e : Exception) :
    Stable (dependable w id before) (Recordable id before e) := by
  intro s t hs h
  have himage := image_of_move h
  refine ⟨hs.1.kept himage h.rows, ?_⟩
  rw [himage]
  exact hs.2

theorem triple_harmless {α : Type} {id : String} {h : WorkerHandler α}
    (hh : Obeys (⟨fun _ => True, fun s t => t.image = s.image, fun _ => rfl, fun _ _ => trivial⟩ :
      Protocol World) h) :
    Triple (dependable w id before) (fun s => s.image = before) h fun _ s => s.image = before :=
  hh.triple (fun _ _ hs h _ _ _ _ _ => h.trans hs)
    (fun _ _ hs h => (image_of_move h).trans hs) (fun _ _ => trivial) fun _ _ hs h => h.trans hs

theorem obeys_image_finish (w : Worker) (id phase message : String) (succeeded : Bool)
    (percent : Option Int) (result : Option TaskResult) :
    Obeys (⟨fun _ => True, fun s t => t.image = s.image, fun _ => rfl, fun _ _ => trivial⟩ :
      Protocol World) (w.finish id succeeded phase percent message result) := by
  refine obeys_callTasks (R := ⟨fun _ => True, fun _ _ => True, fun _ => trivial,
    fun _ _ => trivial⟩) ?_ (fun _ _ => trivial) fun _ _ _ _ => rfl
  exact .bind (.ensure _ _) fun _ => .bind (.ensure _ _) fun _ => .bind (.ofExcept _) fun _ =>
    .bind (.query _) fun _ => .bind (.exec fun _ _ => trivial) fun _ => .ensure _ _

theorem triple_recordChanged {message key : String} {result : Option TaskResult}
    (hkey : Tasks.key w.config = .ok key) :
    Triple (dependable w task.id before) (AtWork task.id)
      (do
        Async.exec fun s => ((), s.setStage .verifying)
        verifyLease
        Async.exec fun s => ((), s.setStage .finishing)
        w.finish task.id true "completed" (some 100) message result)
      (LeavesClean task.id before) := by
  have hfinish := @triple_finish_succeeded w before task.id message _ result hkey
  have hstable := @stable_running before w task.id .verifying
  have hverify : Triple (dependable w task.id before)
      (fun s => IsRunning task.id s ∧ s.stage = .verifying) verifyLease fun r s =>
        (IsRunning task.id s ∧ s.stage = .verifying) ∧ ∀ e, r ≠ .error e := by
    refine .query_bind hstable fun s hs hassumes => ?_
    rw [hassumes.renewed hs.2]
    exact Triple.done hstable (fun t ht => ⟨ht, by simp⟩) s hs
  refine .exec_bind (stable_running w task.id .working) fun s hs _ => ⟨id, ?_⟩
  refine (hverify (s.setStage .verifying) ⟨hs.1, rfl⟩).bind (fun _ t ht => ?_)
    fun e t ht => absurd rfl (ht.2 e)
  refine Triple.exec_bind (f := fun s => ((), s.setStage .finishing)) hstable
    (fun u hu _ => ⟨id, ?_⟩) t ht.1
  exact (hfinish (u.setStage .finishing) ⟨hu.1, rfl⟩).mono fun r v hv =>
    ⟨hv.1, fun e he => absurd he (hv.2 e)⟩

theorem triple_recordUnchanged {message : String} {result : Option TaskResult} :
    Triple (dependable w task.id before) (fun s => s.image = before)
      (do
        Async.exec fun s => ((), s)
        verifyLease
        Async.exec fun s => ((), s)
        w.finish task.id true "completed" (some 100) message result)
      (LeavesClean task.id before) :=
  (triple_harmless (.bind (.exec fun _ _ => rfl) fun _ => .bind obeys_assertLease fun _ =>
    .bind (.exec fun _ _ => rfl) fun _ => obeys_image_finish _ _ _ _ _ _ _)).conseq
      (fun _ hs => hs) fun r _ hs => .of_image hs r

theorem triple_runUpdate {key : String} (hkey : Tasks.key w.config = .ok key) :
    Triple (dependable w task.id before) (fun s => s.image = before ∧ AtWork task.id s)
      (w.runUpdate task) (LeavesClean task.id before) := by
  intro s hs
  refine (guards_apply (@calm_dependable before w task.id)
    (reports_reportProgress w task) (keeps_patches w task.id s.patches) hs.2).bind
    (fun previous t ht => ?_) fun e t ht => ?_
  · obtain ⟨houtcome, hwork⟩ := ht
    cases houtcome with
    | updated hbefore htarget =>
        cases hchanged : Worker.changesImages previous task.payload.images with
        | true =>
            exact triple_recordChanged hkey t hwork
        | false =>
            refine triple_recordUnchanged t ?_
            -- Nothing was to be changed, so the target is what was there before.
            funext c
            have hsame : previous c = task.payload.images c := by
              simp only [Worker.changesImages, List.any_eq_false, decide_eq_true_eq, not_not] at hchanged
              exact hchanged c (by cases c <;> decide)
            rw [htarget c, ← hs.1, hbefore c, hsame]
  · obtain ⟨houtcome, hwork⟩ := ht
    refine ⟨hwork.1.endedClean, fun e' he => ⟨hwork.1.endedClean, ?_⟩⟩
    obtain rfl := Except.error.inj he
    cases houtcome with
    | untouched _ himage => exact .inl (himage.trans hs.1)
    | restored _ himage => exact .inl (himage.trans hs.1)
    | incomplete => exact .inr saysIncomplete_rollbackIncomplete

end Dependable

/-! ## A renewal that fails too late -/

def sampleWorker : Worker := ⟨sampleQueueConfig, "w", "", false⟩

def claimedRow : Task where
  action := .install
  payload := samplePayload
  signature := sampleDigest
  status := .running
  phase := "initializing"
  percent := some 0
  message := none
  claimedBy := some "w"
  leaseUntil := some 1769846030000
  attempt := 1
  createdAt := 1769846000000
  startedAt := some 1769846000000
  completedAt := none
  backupLocation := none
  backupBytes := none
  result := none
  resultSignature := none
  activeSlot := some updateSlot

def claimedTask : TaskRecord := Tasks.publicTask "t" claimedRow

def claimedWorld (failure : Option String) : World :=
  (sampleWorld failure).setQueue
    ⟨1769846000000, List.toAList [⟨"t", claimedRow⟩], [.claimed "t" "w"]⟩

theorem atWork_claimedWorld (failure : Option String) : AtWork "t" (claimedWorld failure) := by
  refine ⟨fun row hrow => ?_, rfl⟩
  obtain rfl : claimedRow = row := Option.some.inj hrow
  rfl

theorem key_sampleWorker : Tasks.key sampleWorker.config = .ok sampleDigest := by decide +kernel

/-- The runs of one worker without an assumption about what fails. -/
def undependable (w : Worker) (id : String) (before : KubernetesComponent → Option String) :
    Contract World :=
  { dependable w id before with assumes := fun _ => True }

def World.failRenewal (message : String) (s : World) : World :=
  { s with outside := { s.outside with leaseError := some message } }

theorem workerMove_failRenewal (id message : String) (s : World) :
    workerMove id s (s.failRenewal message) :=
  ⟨fun _ => rfl, rfl, rfl, Nat.le_refl _, rowsKept_refl _ _⟩

def adapterReturned : WorkerHandler Unit × World :=
  (sampleWorker.runTask claimedTask).steps 71 (claimedWorld none)

def renewalRecorded : Except Exception Unit × World :=
  adapterReturned.1.run (adapterReturned.2.failRenewal "timeout")

theorem executes_renewalRecorded :
    Executes (undependable sampleWorker "t" (claimedWorld none).image)
      (sampleWorker.runTask claimedTask) (claimedWorld none) (.ofExcept renewalRecorded.1)
      renewalRecorded.2 :=
  Executes.of_disturbed_run (fun _ => trivial) 71 (sampleWorker.runTask claimedTask)
    (workerMove_failRenewal "t" "timeout" adapterReturned.2)

end KubeNova.Update
