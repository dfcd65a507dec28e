import KubeNova.Update.SettingsStore
import KubeNova.Update.TaskQueueSafety

/-!
# Preflights and installs

`SystemUpdateService`: a preflight checks a release and the update settings, and an install
needs the id of a preflight that passed.  On a host the service keeps the last preflight itself;
under Kubernetes the preflights are tasks of the queue.

`requests`, `executions`, `writer` and `log` record what happened and are read by no decision of
the service.
-/

namespace KubeNova.Update

open KubeNova.Common KubeNova.Foundation

inductive DeploymentMode where
  | compose
  | systemd
  | kubernetes
  | source
  | unknown
  deriving Repr, DecidableEq

inductive PreflightStatus where
  | running
  | passed
  | failed
  deriving Repr, DecidableEq

inductive InstallStatus where
  | idle | queued | installing | backingUp | downloading | verifying | switching | healthCheck
  | installedNotActive | installed | restarting | rollbacking | failed
  deriving Repr, DecidableEq

structure PreflightPayload where
  id : String
  taskId : Option String
  status : PreflightStatus
  targetVersion : String
  deploymentMode : DeploymentMode
  expiresAt : Option String
  backupTargetId : Option String
  migrationTargetId : Option String
  imageDigests : Option Images
  message : String
  checks : List TaskCheck

/-- What a preflight read of the settings: `get`, `getForExecutor` and `fingerprint`, with the
number of saves before its first reading and before its last one. -/
structure PreflightRun where
  settings : PublicSettings
  executorSettings : StoredSettings
  fingerprint : String
  first : Nat
  last : Nat
  deriving Repr, DecidableEq

/-- An install that was accepted: the number of preflight requests before it, the preflight it
relies on, the settings it uses, and the numbers of saves before it read their fingerprint and
before it read them. -/
structure Acceptance where
  since : Nat
  preflightId : String
  used : StoredSettings
  compared : Nat
  read : Nat
  deriving Repr, DecidableEq

/-- What happened, newest first in `UpdateState.log`. -/
inductive UpdateEvent where
  /-- The preflight request has read the settings under this id. -/
  | executed (request : Nat) (id : String) (run : PreflightRun)
  /-- Its task was created. -/
  | submitted (request createdAt : Nat)
  /-- It could not be submitted and has invalidated the latest preflight task: the task, as it
  was found before, and the latest one afterwards. -/
  | invalidated (request : Nat) (found : Option (String × TaskStatus)) (left : Option String)
  /-- Its outcome is the preflight on record. -/
  | published (request : Nat)
  /-- It failed on the way. -/
  | abandoned (request : Nat)
  /-- An install takes the preflight as the one on record. -/
  | consulted (since : Nat) (id : String)
  /-- Under Kubernetes, an install found no task and takes the one kept in memory. -/
  | recalled (since : Nat) (id : String)
  /-- An install finds the fingerprint equal to the one on record, which the preflight `writer`
  has put there. -/
  | compared (id : String) (writer : Option String) (fingerprint : String)
  | accepted (acceptance : Acceptance)
  deriving Repr, DecidableEq

/-- `saves` are the encrypted texts the settings row has had, newest first. -/
structure UpdateState where
  queue : Queue
  saves : List String
  preflight : Option PreflightPayload
  preflightSettingsFingerprint : Option String
  installStatus : InstallStatus
  latestVersion : String
  updateCheckError : Option String
  executorReady : Bool
  executorReason : String
  requests : Nat
  executions : Nat
  writer : Option String
  log : List UpdateEvent

abbrev UpdateHandler (α : Type) := Async Exception UpdateState α

def UpdateState.note (event : UpdateEvent) (s : UpdateState) : UpdateState :=
  { s with log := event :: s.log }

def UpdateState.setQueue (taskId : String) (event : Nat → UpdateEvent) (queue : Queue)
    (s : UpdateState) : UpdateState :=
  if taskId ∉ s.queue.tasks ∧ taskId ∈ queue.tasks then
    { s with queue := queue }.note (event queue.now)
  else { s with queue := queue }

/-- `randomUUID()` gives the ids in turn. -/
structure UpdateService where
  mode : DeploymentMode
  runningVersion : String
  executorConfigured : Bool
  settings : SettingsConfig
  queue : QueueConfig
  newId : Nat → String

structure PreflightRequest where
  targetVersion : Option String
  backupTargetId : Option String
  migrationTargetId : Option String

structure InstallRequest where
  confirm : Bool
  targetVersion : Option String
  preflightId : Option String
  backupTargetId : Option String

structure Release where
  releaseReady : Bool
  validationMessage : Option String
  downloadUrl : Option String
  checksumUrl : Option String

/-- What a preflight is told from outside: the entry of its release, the manifest of its images,
the outcome of the executor's rehearsal, and the id of a new task. -/
structure PreflightAnswers where
  release : Option Release
  releasesError : Option String
  imageDigests : Except String Images
  rehearsal : Except String (Bool × List TaskCheck)
  taskId : String

/-- What an install is told from outside; `task` is the executor's answer to it. -/
structure InstallAnswers where
  release : Option Release
  releasesError : Option String
  task : Except Exception Unit
  taskId : String

inductive UpdateAnswer where
  | status (preflight : Option PreflightPayload)
  | settings (settings : PublicSettings)
  | served

def takeNumber (cs : List Char) : Option (Nat × List Char) :=
  match cs.takeWhile Text.isDigit with
  | [] => none
  | digits => (Common.digitsValue digits).bind fun n =>
      if Text.isSafeInteger n then some (n, cs.dropWhile Text.isDigit) else none

def isVersionSuffix (cs : List Char) : Bool := cs.all fun c => c.isAlphanum || c == '.' || c == '-'

/-- `(?:-[0-9A-Za-z.-]+)?(?:\+[0-9A-Za-z.-]+)?$`. -/
def isVersionTail (cs : List Char) : Bool :=
  let build := fun (cs : List Char) => match cs with
    | [] => true
    | '+' :: cs => cs != [] && isVersionSuffix cs
    | _ => false
  match cs with
  | '-' :: cs =>
      let label := cs.takeWhile (· != '+')
      label != [] && isVersionSuffix label && build (cs.dropWhile (· != '+'))
  | cs => build cs

def parseVersion (value : String) : Option (Nat × Nat × Nat) := do
  let cs := match value.toList with
    | 'v' :: cs => cs
    | cs => cs
  let (major, cs) ← takeNumber cs
  match cs with
  | '.' :: cs =>
      let (minor, cs) ← takeNumber cs
      match cs with
      | '.' :: cs =>
          let (patch, cs) ← takeNumber cs
          if isVersionTail cs then some (major, minor, patch) else none
      | cs => if isVersionTail cs then some (major, minor, 0) else none
  | _ => none

def isNewerVersion (candidate current : String) : Bool :=
  match parseVersion candidate, parseVersion current with
  | some (a, b, c), some (a', b', c') =>
      if a ≠ a' then a' < a
      else if b ≠ b' then b' < b
      else if c ≠ c' then c' < c
      else Text.contains "-" current && !Text.contains "-" candidate
  | _, _ => false

def trimmedOr (value : Option String) (other : String) : String :=
  let trimmed := Text.trim (value.getD "")
  if trimmed = "" then other else trimmed

def assertValidPreflight (record : Option (PreflightPayload × Option String)) (id : Option String)
    (targetVersion : String) (now : Nat) (settingsFingerprint : String)
    (backupTargetId : Option String) : Except Exception Unit :=
  match record, id with
  | some (record, fingerprint), some id => do
      refuseUnless (id ≠ "" ∧ record.id = id) "请先重新运行预检"
      refuseUnless (record.status = .passed) "预检未通过，不能开始更新"
      refuseUnless (record.targetVersion = targetVersion) "预检目标版本已变化，请重新运行预检"
      refuseUnless ((record.expiresAt.bind parseDate).all fun expiry : Int => (now : Int) < expiry)
        "预检已过期，请重新运行预检"
      refuseUnless (record.expiresAt ≠ none ∧ record.expiresAt ≠ some "") "预检已过期，请重新运行预检"
      refuseUnless (settingsFingerprint ≠ "" ∧ fingerprint = some settingsFingerprint)
        "更新配置已变化，请重新运行预检"
      refuseUnless (backupTargetId ≠ none ∧ backupTargetId ≠ some "" ∧
        record.backupTargetId = backupTargetId) "备份目标已变化，请重新运行预检"
  | _, _ => .error (.badRequest "请先重新运行预检")

namespace UpdateService

variable (service : UpdateService)

def readStored : UpdateHandler (StoredSettings × Nat) := do
  let (row, saves) ← Async.query fun s => (s.saves.head?, s.saves.length)
  let settings ← Async.ofExcept (service.settings.decode row)
  return (settings, saves)

def fingerprint : UpdateHandler (String × Nat) :=
  Async.query fun s => (service.settings.digest s.saves.head?, s.saves.length)

def save (input : StoredSettings) (iv : String) : UpdateHandler UpdateAnswer := do
  let (existing, _) ← service.readStored
  let normalized ← Async.ofExcept
    (normalizeSettings service.settings.parseUrl (keepSecrets existing input))
  let encryptedData ← Async.ofExcept (service.settings.encryptUpdateSettings iv normalized)
  Async.exec fun s => ((), { s with saves := encryptedData :: s.saves })
  return .settings (publicSettings normalized)

/-! ## Preflights -/

def KUBERNETES_UPDATE_REASON : String :=
  "当前为 Kubernetes 部署，但专用持久化更新执行器尚未接入；在线更新保持禁用，避免绕过 GitOps 或跳过数据库演练。"

def MANUAL_UPDATE_REASON : String :=
  "未配置宿主机升级执行器。请重新运行系统安装脚本接入受保护的本机执行器与私有 socket。"

def canUseHostExecutor : Bool := service.mode == .compose || service.mode == .systemd

/-- A call to the outside whose answer is given or shows in the state. -/
def awaitOutside : UpdateHandler Unit := Async.query fun _ => ()

def executorCheck (s : UpdateState) : TaskCheck :=
  if service.canUseHostExecutor && s.executorReady then ⟨"更新执行器", .passed, s.executorReason⟩
  else if service.mode = .kubernetes then
    ⟨"更新执行器", .passed, "Kubernetes 持久化更新任务队列已接入，可执行受保护的数据库演练"⟩
  else
    ⟨"更新执行器", .failed,
      if service.executorConfigured then s.executorReason else "当前部署未接入受保护的更新执行器"⟩

def isReady (release : Option Release) : Bool := release.any (·.releaseReady)

def releaseCheck (targetVersion : String) (outside : PreflightAnswers) : TaskCheck :=
  if isReady outside.release then
    ⟨"正式发布资产", .passed, targetVersion ++ " 的下载包、校验文件和清单完整"⟩
  else
    let message := (outside.release.bind (·.validationMessage)).or outside.releasesError
    ⟨"正式发布资产", .failed, message.getD "目标版本不是已校验的正式版本"⟩

def manifestImages (outside : PreflightAnswers) : Except String Images :=
  if isReady outside.release then outside.imageDigests
  else .error "目标版本没有完整的正式发布资产"

def imagesCheck (outside : PreflightAnswers) : List TaskCheck :=
  if service.mode = .kubernetes then
    match manifestImages outside with
    | .ok _ =>
        [⟨"Kubernetes 镜像清单", .passed, "发布清单版本、仓库和三个不可变镜像摘要均已核验"⟩]
    | .error message => [⟨"Kubernetes 镜像清单", .failed, message⟩]
  else []

def chooseTarget {α : Type} (id : α → String) (wanted : Option String) (targets : List α) :
    Option α :=
  match nonEmpty wanted with
  | some wanted => targets.find? fun target => id target == wanted
  | none => targets.head?

def backupCheck (target : Option PublicBackupTarget) : TaskCheck :=
  match target with
  | some ⟨_, name, _, _, true⟩ => ⟨"数据库备份目标", .passed, "已选择 " ++ name⟩
  | _ => ⟨"数据库备份目标", .failed, "请先配置并验证一个备份目标"⟩

def migrationCheck (target : Option PublicMigrationTarget) : TaskCheck :=
  match target with
  | some ⟨_, name, _, true⟩ => ⟨"迁移测试目标", .passed, "已选择 " ++ name⟩
  | _ => ⟨"迁移测试目标", .failed, "请先配置并验证一个迁移测试目标"⟩

def allPassed (checks : List TaskCheck) : Bool := checks.all fun check => check.status == .passed

/-- What a preflight has gathered when it comes to the rehearsal. -/
structure Gathered where
  request : Nat
  id : String
  targetVersion : String
  settings : PublicSettings
  fingerprint : String
  backupTarget : Option PublicBackupTarget
  migrationTarget : Option PublicMigrationTarget
  imageDigests : Option Images
  checks : List TaskCheck

def execute (request : Nat) (run : PreflightRun) (s : UpdateState) : String × UpdateState :=
  let id := service.newId s.executions
  (id, { s with
    preflightSettingsFingerprint := some run.fingerprint
    writer := some id
    executions := s.executions + 1 }.note (.executed request id run))

def setPreflight (preflight : PreflightPayload) (s : UpdateState) : UpdateAnswer × UpdateState :=
  (.status (some preflight), { s with preflight := some preflight })

def preflightLifetimeMs : Nat := 30 * 60000

def isLatestPreflight (_ : String) (row : Task) : Bool := row.action == .preflight

def latestPreflight (s : UpdateState) : Option (String × Task) :=
  s.queue.tasks.latest? isLatestPreflight (·.createdAt)

def refuseKubernetes (gathered : Gathered) : UpdateHandler UpdateAnswer := do
  let checks := gathered.checks ++ [⟨"Kubernetes 数据库演练", .failed,
    "发布资产、镜像摘要、备份或迁移配置未就绪，未创建预检任务"⟩]
  let found ← Async.query fun s => (latestPreflight s).map fun task => (task.1, task.2.status)
  (Tasks.invalidateLatestPreflight service.queue checks
    "新的 Kubernetes 预检未满足执行条件，之前的预检已失效").zoom (·.queue)
      fun queue s => { s with queue := queue }
  Async.exec fun s =>
    setPreflight
      { id := gathered.id
        taskId := none
        status := .failed
        targetVersion := gathered.targetVersion
        deploymentMode := service.mode
        expiresAt := none
        backupTargetId := gathered.backupTarget.map (·.id)
        migrationTargetId := gathered.migrationTarget.map (·.id)
        imageDigests := gathered.imageDigests
        message := "预检未通过，请修复失败项后重新预检"
        checks := checks }
      (s.note (.invalidated gathered.request found ((latestPreflight s).map Prod.fst)))

def submitKubernetes (gathered : Gathered) (images : Images) (backupTargetId : String)
    (migrationTargetId : String) (taskId : String) : UpdateHandler UpdateAnswer := do
  let now ← Async.query (·.queue.now)
  let expiresAt := toISOString (now + preflightLifetimeMs : Nat)
  let task ← (Tasks.submit service.queue taskId
    { action := .preflight
      targetVersion := gathered.targetVersion
      preflightId := gathered.id
      preflightExpiresAt := expiresAt
      backupTargetId := backupTargetId
      migrationTargetId := some migrationTargetId
      settingsFingerprint := some gathered.fingerprint
      previousVersion := none
      rollbackTaskId := none
      preflightChecks := some gathered.checks
      images := images
      operator := "system-preflight" }).zoom (·.queue)
        (UpdateState.setQueue taskId (.submitted gathered.request))
  Async.exec (setPreflight
    { id := gathered.id
      taskId := some task.id
      status := .running
      targetVersion := gathered.targetVersion
      deploymentMode := service.mode
      expiresAt := some expiresAt
      backupTargetId := some backupTargetId
      migrationTargetId := some migrationTargetId
      imageDigests := some images
      message := "Kubernetes 数据库备份、恢复、迁移兼容和临时库清理正在执行"
      checks := gathered.checks })

def rehearseOnKubernetes (gathered : Gathered) (outside : PreflightAnswers) :
    UpdateHandler UpdateAnswer :=
  match allPassed gathered.checks && isReady outside.release, gathered.imageDigests,
      gathered.backupTarget, gathered.migrationTarget with
  | true, some images, some backupTarget, some migrationTarget =>
      service.submitKubernetes gathered images backupTarget.id migrationTarget.id outside.taskId
  | _, _, _, _ => service.refuseKubernetes gathered

def rehearsalChecks (rehearsal : Except String (Bool × List TaskCheck)) : List TaskCheck :=
  match rehearsal with
  | .ok (passed, checks) =>
      if passed = false ∧ allPassed checks = true then
        checks ++ [⟨"预检执行器结果", .failed, "宿主机执行器未确认整体验证通过"⟩]
      else checks
  | .error message =>
      [⟨"备份与磁盘预检", .failed, message⟩,
        ⟨"迁移副本演练", .failed, "没有获得完整的迁移兼容与测试库清理验证结果"⟩]

def unrehearsedChecks : List TaskCheck :=
  [⟨"备份与磁盘预检", .failed, "执行器未就绪或备份目标未配置"⟩,
    ⟨"迁移副本演练", .failed, "执行器未就绪或迁移测试目标未配置"⟩]

/-- The outcome of a preflight on a host becomes the preflight on record. -/
def publish (gathered : Gathered) (checks : List TaskCheck) (s : UpdateState) :
    UpdateAnswer × UpdateState :=
  let passed := allPassed checks
  setPreflight
    { id := gathered.id
      taskId := none
      status := if passed then .passed else .failed
      targetVersion := gathered.targetVersion
      deploymentMode := service.mode
      expiresAt := if passed then some (toISOString (s.queue.now + preflightLifetimeMs : Nat)) else none
      backupTargetId := gathered.backupTarget.map (·.id)
      migrationTargetId := gathered.migrationTarget.map (·.id)
      imageDigests := none
      message := if passed then "预检通过；正式执行时仍会再次备份并验证数据库"
        else "预检未通过，请修复失败项后重新预检"
      checks := checks }
    (s.note (.published gathered.request))

def rehearseOnHost (gathered : Gathered) (outside : PreflightAnswers) :
    UpdateHandler UpdateAnswer := do
  let ready ← Async.query (·.executorReady)
  if ready ∧ gathered.backupTarget.isSome ∧ gathered.migrationTarget.isSome then do
    awaitOutside
    Async.exec (service.publish gathered (gathered.checks ++ rehearsalChecks outside.rehearsal))
  else
    Async.exec (service.publish gathered (gathered.checks ++ unrehearsedChecks))

def runPreflight (request : Nat) (body : PreflightRequest) (outside : PreflightAnswers) :
    UpdateHandler UpdateAnswer := do
  let targetVersion ← Async.query fun s => trimmedOr body.targetVersion s.latestVersion
  -- `refreshExecutor`, on a host.
  awaitOutside
  let executor ← Async.query service.executorCheck
  -- The catalogue, and under Kubernetes the manifest of the release.
  awaitOutside
  let (stored, first) ← service.readStored
  let settings := publicSettings stored
  let (executorSettings, _) ← service.readStored
  let (fingerprint, last) ← service.fingerprint
  let id ← Async.exec
    (service.execute request ⟨settings, executorSettings, fingerprint, first, last⟩)
  let backupTarget := chooseTarget (·.id) body.backupTargetId settings.backupTargets
  let migrationTarget := chooseTarget (·.id) body.migrationTargetId settings.migrationTargets
  let gathered : Gathered :=
    { request := request
      id := id
      targetVersion := targetVersion
      settings := settings
      fingerprint := fingerprint
      backupTarget := backupTarget
      migrationTarget := migrationTarget
      imageDigests := if service.mode = .kubernetes then (manifestImages outside).toOption else none
      checks := [executor, releaseCheck targetVersion outside] ++ service.imagesCheck outside ++
        [backupCheck backupTarget, migrationCheck migrationTarget] }
  if service.mode = .kubernetes then service.rehearseOnKubernetes gathered outside
  else service.rehearseOnHost gathered outside

def preflight (body : PreflightRequest) (outside : PreflightAnswers) :
    UpdateHandler UpdateAnswer := do
  let request ← Async.exec fun s => (s.requests, { s with requests := s.requests + 1 })
  (service.runPreflight request body outside).tryCatch fun e => do
    Async.exec fun s => ((), s.note (.abandoned request))
    throw e

/-! ## Installs -/

def taskChecks (record : TaskRecord) : List TaskCheck := (record.result.bind (·.checks)).getD []

def hasPassed (status : TaskStatus) (checks : List TaskCheck) : Bool :=
  status == .succeeded && checks != [] && allPassed checks

/-- `getLatestPreflight`, as far as the database answers it. -/
def consultLatest (since : Nat) (s : UpdateState) : Option (String × Task) × UpdateState :=
  match latestPreflight s with
  | none => (none, s)
  | some (id, row) =>
      if hasPassed row.status ((row.result.bind (·.checks)).getD []) then
        (some (id, row), s.note (.consulted since row.payload.preflightId))
      else (some (id, row), s)

def recordOf (record : TaskRecord) : PreflightPayload :=
  let passed := hasPassed record.status (taskChecks record)
  let running := record.status == .queued || record.status == .running
  { id := record.payload.preflightId
    taskId := some record.id
    status := if passed then .passed else if running then .running else .failed
    targetVersion := record.payload.targetVersion
    deploymentMode := .kubernetes
    expiresAt := some record.payload.preflightExpiresAt
    backupTargetId := some record.payload.backupTargetId
    migrationTargetId := record.payload.migrationTargetId
    imageDigests := some record.payload.images
    message := record.message.getD
      (if passed then "Kubernetes 临时数据库演练全部通过"
        else "Kubernetes 临时数据库演练失败，已阻止更新")
    checks := taskChecks record }

def loadLatest (since : Nat) (record : Option TaskRecord) (s : UpdateState) :
    Option PreflightPayload × UpdateState :=
  match record with
  | none =>
      match s.preflight with
      | some preflight =>
          if preflight.status = .passed then
            (some preflight, s.note (.recalled since preflight.id))
          else (some preflight, s)
      | none => (none, s)
  | some record =>
      let preflight := recordOf record
      if hasPassed record.status (taskChecks record) then
        (some preflight, { s with
          preflight := some preflight
          preflightSettingsFingerprint := record.payload.settingsFingerprint
          writer := some record.payload.preflightId })
      else (some preflight, { s with preflight := some preflight })

/-- `assertValidPreflight` on a record with the fingerprint in the shared field. -/
def compare (preflight : Option PreflightPayload) (body : InstallRequest) (targetVersion : String)
    (fingerprint : String) (s : UpdateState) : Except Exception Unit × UpdateState :=
  let record := preflight.map fun preflight => (preflight, s.preflightSettingsFingerprint)
  match assertValidPreflight record body.preflightId targetVersion s.queue.now fingerprint
    body.backupTargetId with
  | .ok _ => (.ok (), s.note (.compared (body.preflightId.getD "") s.writer fingerprint))
  | .error e => (.error (.badRequest e.message), s)

def compareOnHost (since : Nat) (body : InstallRequest) (targetVersion : String)
    (fingerprint : String) (s : UpdateState) : Except Exception Unit × UpdateState :=
  match compare s.preflight body targetVersion fingerprint s with
  | (.ok _, t) => (.ok (), t.note (.consulted since (body.preflightId.getD "")))
  | (.error e, t) => (.error e, t)

def isUsable (preflight : PreflightPayload) : Bool :=
  preflight.deploymentMode == .kubernetes && preflight.status == .passed &&
    allPassed preflight.checks

def startKubernetesInstall (body : InstallRequest) (operator : String) (outside : InstallAnswers) :
    UpdateHandler UpdateAnswer := do
  let since ← Async.query (·.requests)
  let durablePreflight ← Async.exec (consultLatest since)
  let record ← Async.ofExcept (durablePreflight.mapM fun task =>
    Tasks.verifiedPublicTask service.queue task.1 task.2)
  let preflight ← Async.exec (loadLatest since record)
  let targetVersion := trimmedOr body.targetVersion ((preflight.map (·.targetVersion)).getD "")
  let (settingsFingerprint, compared) ← service.fingerprint
  let valid ← Async.exec (compare preflight body targetVersion settingsFingerprint)
  Async.ofExcept valid
  match preflight with
  | none => throw (.badRequest "Kubernetes 备份与迁移演练尚未全部通过，已阻止更新")
  | some preflight => do
      let images ← Async.ofExcept (match isUsable preflight, preflight.imageDigests with
        | true, some images => .ok images
        | _, _ => .error (.badRequest "Kubernetes 备份与迁移演练尚未全部通过，已阻止更新"))
      let (used, read) ← service.readStored
      Async.ensure (used.backupTargets.any fun target => some target.id == preflight.backupTargetId)
        (.badRequest "预检绑定的备份目标不存在，请重新运行预检")
      Async.ensure (targetVersion = preflight.targetVersion)
        (.badRequest "目标版本与已通过的预检不一致")
      let bound ← Async.query (·.preflightSettingsFingerprint)
      let _ ← (Tasks.submit service.queue outside.taskId
        { action := .install
          targetVersion := targetVersion
          preflightId := preflight.id
          preflightExpiresAt := preflight.expiresAt.getD ""
          backupTargetId := preflight.backupTargetId.getD ""
          migrationTargetId := none
          settingsFingerprint := bound
          previousVersion := some service.runningVersion
          rollbackTaskId := none
          preflightChecks := none
          images := images
          operator := operator }).zoom (·.queue)
            (UpdateState.setQueue outside.taskId fun _ =>
              .accepted ⟨since, preflight.id, used, compared, read⟩)
      Async.exec fun s => (.status s.preflight, { s with installStatus := .queued })

def isIdle (status : InstallStatus) : Bool :=
  status == .idle || status == .installed || status == .failed

def accept (acceptance : Acceptance) (s : UpdateState) : UpdateAnswer × UpdateState :=
  (.status s.preflight, { s with installStatus := .queued }.note (.accepted acceptance))

def startInstall (body : InstallRequest) (outside : InstallAnswers) :
    UpdateHandler UpdateAnswer := do
  let since ← Async.query (·.requests)
  -- `refreshExecutor`.
  let (ready, reason, status) ← Async.query fun s =>
    (s.executorReady, s.executorReason, s.installStatus)
  Async.ensure (ready = true) (.badRequest reason)
  Async.ensure (isIdle status) (.badRequest "已有升级任务正在运行，请等待完成")
  -- `refreshLatestVersion`.
  let (checkError, latestVersion) ← Async.query fun s => (s.updateCheckError, s.latestVersion)
  Async.ensure (checkError = none) (.badRequest "无法重新确认正式发布版本，请检查更新成功后重试")
  let targetVersion := trimmedOr body.targetVersion latestVersion
  Async.ensure (isVersionTag targetVersion) (.badRequest "目标版本不是稳定版本")
  -- The catalogue is read anew.
  awaitOutside
  Async.ensure (outside.releasesError = none)
    (.badRequest ("无法确认目标版本资产：" ++ outside.releasesError.getD ""))
  Async.ensure (outside.release.any fun release =>
      release.releaseReady && (nonEmpty release.downloadUrl).isSome &&
        (nonEmpty release.checksumUrl).isSome)
    (.badRequest "目标版本不是已校验的正式版本")
  Async.ensure (isNewerVersion targetVersion service.runningVersion)
    (.badRequest "目标版本必须高于当前运行版本")
  let (settingsFingerprint, compared) ← service.fingerprint
  let valid ← Async.exec (compareOnHost since body targetVersion settingsFingerprint)
  Async.ofExcept valid
  let (used, read) ← service.readStored
  Async.ensure (used.backupTargets.any fun target => some target.id == body.backupTargetId)
    (.badRequest "预检使用的备份目标不存在，请重新运行预检")
  -- `createExecutorTask`.
  awaitOutside
  Async.ofExcept outside.task
  Async.exec (accept ⟨since, body.preflightId.getD "", used, compared, read⟩)

def unsupportedDeployment : Exception :=
  .error (if service.mode = .kubernetes then KUBERNETES_UPDATE_REASON else MANUAL_UPDATE_REASON)

def install (body : InstallRequest) (operator : String) (outside : InstallAnswers) :
    UpdateHandler UpdateAnswer := do
  Async.ensure (body.confirm = true)
    (.badRequest "install 是高风险操作，body.confirm 必须显式为 true")
  if service.mode = .kubernetes then service.startKubernetesInstall body operator outside
  else if service.canUseHostExecutor ∧ service.executorConfigured then
    service.startInstall body outside
  else throw service.unsupportedDeployment

/-- What runs beside these requests: the workers' calls to the queue, and rollbacks. -/
def isQueueTraffic : QueueRequest → Bool
  | .submit _ payload => payload.action == .rollback
  | .invalidateLatestPreflight _ _ => false
  | .get _ | .claimNext _ | .heartbeat _ _ _ _ _ | .recordBackup _ _ _ _
  | .finish _ _ _ _ _ _ _ => true

def serveTraffic (request : QueueRequest) : UpdateHandler UpdateAnswer := do
  (serveQueue service.queue request).zoom (·.queue) fun queue s => { s with queue := queue }
  return .served

inductive IsUpdateHandler : UpdateHandler UpdateAnswer → Prop
  | preflight (body : PreflightRequest) (outside : PreflightAnswers) :
      IsUpdateHandler (service.preflight body outside)
  | install (body : InstallRequest) (operator : String) (outside : InstallAnswers) :
      IsUpdateHandler (service.install body operator outside)
  | save (input : StoredSettings) (iv : String) : IsUpdateHandler (service.save input iv)
  | traffic (request : QueueRequest) (h : isQueueTraffic request = true) :
      IsUpdateHandler (service.serveTraffic request)

end UpdateService

/-- What else happens: the clock moves, the catalogue and the executor are polled, and the process
starts anew. -/
inductive OutsideUpdate : UpdateState → UpdateState → Prop
  | clock (s : UpdateState) (now : Nat) :
      OutsideUpdate s { s with queue := { s.queue with now := now } }
  | polled (s : UpdateState) (status : InstallStatus) (latestVersion : String)
      (checkError : Option String) (ready : Bool) (reason : String) :
      OutsideUpdate s { s with
        installStatus := status
        latestVersion := latestVersion
        updateCheckError := checkError
        executorReady := ready
        executorReason := reason }
  | restarted (s : UpdateState) (latestVersion : String) :
      OutsideUpdate s { s with
        preflight := none
        preflightSettingsFingerprint := none
        writer := none
        installStatus := .idle
        latestVersion := latestVersion
        updateCheckError := none
        executorReady := false
        executorReason := UpdateService.MANUAL_UPDATE_REASON }

end KubeNova.Update
