import KubeNova.Update.Deployments

/-!
# The update worker

`KubernetesUpdateWorker.runOnce`: claim a task, back the database up, rehearse or
apply the update, and record how it ended.  The renewal timer runs beside the task;
its failures arrive from outside as `leaseError`.
-/

namespace KubeNova.Update

open KubeNova.Common KubeNova.Foundation

structure Worker where
  config : QueueConfig
  id : String
  databaseUrl : String
  /-- The services of the migration rehearsal are there. -/
  rehearses : Bool

def World.setQueue (queue : Queue) (s : World) : World := { s with queue := queue }

def World.setStage (stage : Stage) (s : World) : World := { s with stage := stage }

def World.clearLeaseError (s : World) : World :=
  { s with outside := { s.outside with leaseError := none } }

/-- A call to the task service.  The connection may be lost before the call, or
after it has taken effect. -/
def callTasks {α : Type} (h : QueueHandler α) : WorkerHandler α := do
  match ← Async.query fun s : World => (s.outside.failure, s.outside.applied) with
  | (none, _) => h.zoom World.queue World.setQueue
  | (some message, false) => throw (.error message)
  | (some message, true) => do
      let _ ← (h.zoom World.queue World.setQueue).toExcept
      throw (.error message)

/-- A call to a service that changes nothing the model looks at. -/
def consult {α : Type} (answer : World → α) : WorkerHandler α := remote fun s => (.ok (answer s), s)

def assertLease : WorkerHandler Unit := do
  match ← Async.query (·.outside.leaseError) with
  | none => return ()
  | some message => throw (.error ("Kubernetes update worker lease renewal failed: " ++ message))

/-- `await renewal` gives the others time, and then the lease is asserted. -/
def verifyLease : WorkerHandler Unit := assertLease

/-- Does the text say that the rollback failed?  `/rollback was incomplete/i`. -/
def saysIncomplete (message : String) : Bool :=
  Text.contains "rollback was incomplete" (Text.toLower message)

def failurePhase (message : String) : String :=
  if saysIncomplete message then "rollback-incomplete" else "failed"

def actionName : TaskAction → String
  | .install => "install"
  | .rollback => "rollback"
  | .preflight => "preflight"

namespace Worker

variable (w : Worker)

def reportProgress (id phase : String) (percent : Nat) (message : String) : WorkerHandler Unit := do
  assertLease
  callTasks (Tasks.heartbeat id w.id phase (some percent) (some message))
  assertLease

def finish (id : String) (succeeded : Bool) (phase : String) (percent : Option Int)
    (message : String) (taskResult : Option TaskResult) : WorkerHandler Unit :=
  callTasks (Tasks.finish w.config id w.id succeeded phase percent message taskResult)

def runPreflight (task : TaskRecord) (settings : UpdateSettings) (backup : Backup) :
    WorkerHandler Unit := do
  let migrationTarget := settings.migrationTargets.find? fun candidate =>
    some candidate.id == task.payload.migrationTargetId
  let connection := ((migrationTarget.bind (·.connection)).filter (· ≠ "")).getD
    (if migrationTarget.any (·.isLocal) then w.databaseUrl else "")
  Async.ensure (connection ≠ "" ∧ w.rehearses = true)
    (.error "Kubernetes temporary-database migration rehearsal is not fully configured")
  w.reportProgress task.id "migration-test" 35 "正在恢复临时数据库并运行目标版本迁移"
  let rehearsal ← consult (·.outside.rehearsal)
  let backedUp : TaskCheck :=
    ⟨"数据库备份", .passed, "已创建备份（" ++ toString backup.bytes ++ " 字节）"⟩
  let checks := task.payload.preflightChecks.getD [] ++ backedUp :: rehearsal.checks
  verifyLease
  if rehearsal.passed then
    w.finish task.id true "completed" (some 100)
      "Kubernetes 备份恢复、目标迁移、旧版本兼容和临时库清理均已通过" (some ⟨some checks, none, none⟩)
  else
    w.finish task.id false "failed" none
      "Kubernetes 临时数据库迁移兼容演练未全部通过，已阻止更新" (some ⟨some checks, none, none⟩)

def rollbackState (task : TaskRecord) (previousImages : Images) : Option TaskResult :=
  (task.payload.previousVersion.filter (· ≠ "")).map fun previousVersion =>
    ⟨none, some previousImages, some previousVersion⟩

def changesImages (previousImages target : Images) : Bool :=
  components.any fun c => previousImages c ≠ target c

def runUpdate (task : TaskRecord) : WorkerHandler Unit := do
  let previousImages ← apply task.payload.images (w.reportProgress task.id)
  let changed := changesImages previousImages task.payload.images
  Async.exec fun s => ((), if changed then s.setStage .verifying else s)
  verifyLease
  Async.exec fun s => ((), if changed then s.setStage .finishing else s)
  w.finish task.id true "completed" (some 100)
    (task.payload.targetVersion ++ " 已完成滚动更新") (rollbackState task previousImages)

/-- The body of the `try` in `runTask`. -/
def attemptTask (task : TaskRecord) : WorkerHandler Unit := do
  let announcement := "正在执行 " ++ actionName task.payload.action ++ " " ++ task.payload.targetVersion
  w.reportProgress task.id "updating" 5 announcement
  w.reportProgress task.id "backing-up" 8 "正在备份 PostgreSQL"
  let settings ← consult (·.outside.settings)
  let bound := task.payload.settingsFingerprint.filter (· ≠ "")
  Async.ensure (bound = none ∨ settings.fingerprint = bound)
    (.error "更新设置在任务排队后已变化，任务已阻止执行")
  Async.ensure (settings.backupTargets.contains task.payload.backupTargetId = true)
    (.error "绑定的 Kubernetes 数据库备份目标不存在")
  let backup ← consult (·.outside.backup)
  verifyLease
  callTasks (Tasks.recordBackup task.id w.id backup.location backup.bytes)
  w.reportProgress task.id "updating" 25 ("数据库备份完成（" ++ toString backup.bytes ++ " 字节）")
  if task.payload.action = .preflight then w.runPreflight task settings backup
  else w.runUpdate task

def failureResult (task : TaskRecord) (e : Exception) : Option TaskResult :=
  if task.payload.action = .preflight then
    let name :=
      if failurePhase e.message = "rollback-incomplete" then "恢复状态" else "Kubernetes 数据库演练"
    some ⟨some (task.payload.preflightChecks.getD [] ++ [⟨name, .failed, e.message⟩]), none, none⟩
  else none

/-- The `catch` in `runTask`: record the failure, or give up. -/
def recordFailure (task : TaskRecord) (e : Exception) : WorkerHandler Unit := do
  Async.exec fun s => ((), s.setStage .working)
  (w.finish task.id false (failurePhase e.message) none e.message
    (failureResult task e)).tryCatch fun _ => return ()

def runTask (task : TaskRecord) : WorkerHandler Unit := do
  Async.exec fun s => ((), s.clearLeaseError)
  (w.attemptTask task).tryCatch (w.recordFailure task)

def runOnce : WorkerHandler Bool := do
  Async.exec fun s => ((), s.setStage .claiming)
  match ← callTasks (Tasks.claimNext w.config w.id) with
  | none => return false
  | some task => do
      Async.exec fun s => ((), s.setStage .working)
      w.runTask task
      return true

end Worker
end KubeNova.Update
