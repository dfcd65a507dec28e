import KubeNova.Foundation.Observed
import KubeNova.Update.PreflightOrder

/-!
# The versions that installs go to

An install on a host compares the version it is asked for with the running one.  Under Kubernetes it
takes the version of the preflight in force, which nobody has compared.
-/

namespace KubeNova.Update

open KubeNova.Common KubeNova.Foundation

namespace UpdateService

variable (service : UpdateService)

/-- `startKubernetesInstall`, with the version of the task that it submits. -/
def kubernetesInstallTarget (body : InstallRequest) (operator : String) (outside : InstallAnswers) :
    UpdateHandler (UpdateAnswer × String) := do
  let since ← Async.query (·.requests)
  let durablePreflight ← Async.exec (consultLatest since)
  let record ← Async.ofExcept (durablePreflight.mapM fun task =>
    Tasks.verifiedPublicTask service.queue task.1 task.2)
  let preflight ← Async.exec (loadLatest since record)
  let targetVersion := trimmedOr body.targetVersion ((preflight.map (·.targetVersion)).getD "")
  let (settingsFingerprint, compared) ← service.fingerprint
  let valid ← Async.exec (compare preflight body targetVersion settingsFingerprint)
  Async.ofExcept valid
  match preflight with
  | none => throw (.badRequest "Kubernetes 备份与迁移演练尚未全部通过，已阻止更新")
  | some preflight => do
      let images ← Async.ofExcept (match isUsable preflight, preflight.imageDigests with
        | true, some images => .ok images
        | _, _ => .error (.badRequest "Kubernetes 备份与迁移演练尚未全部通过，已阻止更新"))
      let (used, read) ← service.readStored
      Async.ensure (used.backupTargets.any fun target => some target.id == preflight.backupTargetId)
        (.badRequest "预检绑定的备份目标不存在，请重新运行预检")
      Async.ensure (targetVersion = preflight.targetVersion)
        (.badRequest "目标版本与已通过的预检不一致")
      let bound ← Async.query (·.preflightSettingsFingerprint)
      let _ ← (Tasks.submit service.queue outside.taskId
        { action := .install
          targetVersion := targetVersion
          preflightId := preflight.id
          preflightExpiresAt := preflight.expiresAt.getD ""
          backupTargetId := preflight.backupTargetId.getD ""
          migrationTargetId := none
          settingsFingerprint := bound
          previousVersion := some service.runningVersion
          rollbackTaskId := none
          preflightChecks := none
          images := images
          operator := operator }).zoom (·.queue)
            (UpdateState.setQueue outside.taskId fun _ =>
              .accepted ⟨since, preflight.id, used, compared, read⟩)
      let answer ← Async.exec fun s => (.status s.preflight, { s with installStatus := .queued })
      return (answer, targetVersion)

/-- `startInstall`, with the version that it hands to `createExecutorTask`. -/
def hostInstallTarget (body : InstallRequest) (outside : InstallAnswers) :
    UpdateHandler (UpdateAnswer × String) := do
  let since ← Async.query (·.requests)
  let (ready, reason, status) ← Async.query fun s =>
    (s.executorReady, s.executorReason, s.installStatus)
  Async.ensure (ready = true) (.badRequest reason)
  Async.ensure (isIdle status) (.badRequest "已有升级任务正在运行，请等待完成")
  let (checkError, latestVersion) ← Async.query fun s => (s.updateCheckError, s.latestVersion)
  Async.ensure (checkError = none) (.badRequest "无法重新确认正式发布版本，请检查更新成功后重试")
  let targetVersion := trimmedOr body.targetVersion latestVersion
  Async.ensure (isVersionTag targetVersion) (.badRequest "目标版本不是稳定版本")
  awaitOutside
  Async.ensure (outside.releasesError = none)
    (.badRequest ("无法确认目标版本资产：" ++ outside.releasesError.getD ""))
  Async.ensure (outside.release.any fun release =>
      release.releaseReady && (nonEmpty release.downloadUrl).isSome &&
        (nonEmpty release.checksumUrl).isSome)
    (.badRequest "目标版本不是已校验的正式版本")
  Async.ensure (isNewerVersion targetVersion service.runningVersion)
    (.badRequest "目标版本必须高于当前运行版本")
  let (settingsFingerprint, compared) ← service.fingerprint
  let valid ← Async.exec (compareOnHost since body targetVersion settingsFingerprint)
  Async.ofExcept valid
  let (used, read) ← service.readStored
  Async.ensure (used.backupTargets.any fun target => some target.id == body.backupTargetId)
    (.badRequest "预检使用的备份目标不存在，请重新运行预检")
  awaitOutside
  Async.ofExcept outside.task
  let answer ← Async.exec (accept ⟨since, body.preflightId.getD "", used, compared, read⟩)
  return (answer, targetVersion)

/-- `install`, with the version it goes to. -/
def installTarget (body : InstallRequest) (operator : String) (outside : InstallAnswers) :
    UpdateHandler (UpdateAnswer × String) := do
  Async.ensure (body.confirm = true)
    (.badRequest "install 是高风险操作，body.confirm 必须显式为 true")
  if service.mode = .kubernetes then service.kubernetesInstallTarget body operator outside
  else if service.canUseHostExecutor ∧ service.executorConfigured then
    service.hostInstallTarget body outside
  else throw service.unsupportedDeployment

theorem install_eq (body : InstallRequest) (operator : String) (outside : InstallAnswers) :
    service.install body operator outside =
      service.installTarget body operator outside >>= fun answer => pure answer.1 := by
  unfold install installTarget
  rw [Async.bind_assoc]
  congr 1
  funext _
  split
  · simp only [startKubernetesInstall, kubernetesInstallTarget, Async.bind_assoc]
    congr 1; funext since
    congr 1; funext durablePreflight
    congr 1; funext record
    congr 1; funext preflight
    congr 1; funext fingerprint
    congr 1; funext valid
    congr 1; funext _
    cases preflight with
    | none => rfl
    | some preflight =>
        simp only [Async.bind_assoc]
        rfl
  · split
    · simp only [startInstall, hostInstallTarget, Async.bind_assoc]
      rfl
    · rfl

/-! ## The preflight in force -/

def versionInForce (consulted memory : UpdateState) : Option String :=
  match latestPreflight consulted with
  | some (_, row) => some row.payload.targetVersion
  | none => memory.preflight.map (·.targetVersion)

/-- The same for an install: its second statement consults the tasks, its third one the memory. -/
def inForce : List (UpdateState × UpdateState) → Option String
  | _ :: (consulted, _) :: (memory, _) :: _ => versionInForce consulted memory
  | _ => none

theorem consultLatest_fst (since : Nat) (s : UpdateState) :
    (consultLatest since s).1 = latestPreflight s := by
  unfold consultLatest
  cases latestPreflight s with
  | none => rfl
  | some task =>
      dsimp only
      split <;> rfl

theorem loadLatest_fst (since : Nat) (record : Option TaskRecord) (s : UpdateState) :
    (loadLatest since record s).1 = (record.map recordOf).or s.preflight := by
  unfold loadLatest
  cases record with
  | some record =>
      dsimp only
      split <;> rfl
  | none =>
      cases s.preflight with
      | none => rfl
      | some preflight =>
          dsimp only
          split <;> rfl

theorem loaded_version {service : UpdateService} {since : Nat} {consulted memory : UpdateState}
    {record : Option TaskRecord}
    (h : ((consultLatest since consulted).1.mapM fun task =>
      Tasks.verifiedPublicTask service.queue task.1 task.2) = .ok record) :
    (loadLatest since record memory).1.map (·.targetVersion) = versionInForce consulted memory := by
  rw [consultLatest_fst] at h
  rw [loadLatest_fst, versionInForce]
  cases hlatest : latestPreflight consulted with
  | none =>
      rw [hlatest] at h
      obtain rfl := Except.ok.inj h
      rfl
  | some task =>
      rw [hlatest, Option.mapM_some] at h
      cases hverified : Tasks.verifiedPublicTask service.queue task.1 task.2 with
      | error e =>
          rw [hverified] at h
          cases h
      | ok shown =>
          rw [hverified] at h
          obtain rfl := Except.ok.inj h
          rw [verifiedPublicTask_eq_ok hverified]
          rfl

theorem kubernetesInstallTarget_eq {service : UpdateService} {body : InstallRequest}
    {operator target : String} {outside : InstallAnswers} {answer : UpdateAnswer}
    {steps : List (UpdateState × UpdateState)}
    (h : Plays (service.kubernetesInstallTarget body operator outside) steps
      (.ok (answer, target))) :
    inForce steps = some target := by
  obtain ⟨start, afterStart, hstart, h⟩ := Plays.query_bind_iff.mp h
  obtain ⟨consulted, afterConsulted, hconsulted, h⟩ := Plays.exec_bind_iff.mp h
  obtain ⟨record, hrecord, h⟩ := Plays.ofExcept_bind_iff.mp h
  obtain ⟨memory, afterMemory, hmemory, h⟩ := Plays.exec_bind_iff.mp h
  have hversion := @loaded_version _ _ _ memory _ hrecord
  rw [hstart, hconsulted, hmemory, inForce, ← hversion]
  generalize (loadLatest start.requests record memory).1 = preflight at h ⊢
  obtain ⟨_, _, -, h⟩ := Plays.query_bind_iff.mp h
  obtain ⟨_, _, -, h⟩ := Plays.exec_bind_iff.mp h
  obtain ⟨_, -, h⟩ := Plays.ofExcept_bind_iff.mp h
  cases preflight with
  | none => cases (Plays.fail_iff.mp h).2
  | some preflight =>
      obtain ⟨images, -, h⟩ := Plays.ofExcept_bind_iff.mp h
      obtain ⟨_, _, _, -, -, h⟩ := Plays.bind_ok_iff.mp h
      obtain ⟨-, h⟩ := Plays.ensure_bind_iff.mp h
      obtain ⟨htarget, h⟩ := Plays.ensure_bind_iff.mp h
      obtain ⟨_, _, -, h⟩ := Plays.query_bind_iff.mp h
      obtain ⟨_, _, _, -, -, h⟩ := Plays.bind_ok_iff.mp h
      obtain ⟨_, _, -, h⟩ := Plays.exec_bind_iff.mp h
      have hanswer := Except.ok.inj (Plays.done_iff.mp h).2
      rw [Option.map_some, ← htarget, (Prod.mk.inj hanswer).2]

theorem hostInstallTarget_newer {service : UpdateService} {body : InstallRequest}
    {target : String} {outside : InstallAnswers} {answer : UpdateAnswer}
    {steps : List (UpdateState × UpdateState)}
    (h : Plays (service.hostInstallTarget body outside) steps (.ok (answer, target))) :
    isNewerVersion target service.runningVersion = true := by
  obtain ⟨_, _, -, h⟩ := Plays.query_bind_iff.mp h
  obtain ⟨_, _, -, h⟩ := Plays.query_bind_iff.mp h
  obtain ⟨-, h⟩ := Plays.ensure_bind_iff.mp h
  obtain ⟨-, h⟩ := Plays.ensure_bind_iff.mp h
  obtain ⟨_, _, -, h⟩ := Plays.query_bind_iff.mp h
  obtain ⟨-, h⟩ := Plays.ensure_bind_iff.mp h
  obtain ⟨-, h⟩ := Plays.ensure_bind_iff.mp h
  obtain ⟨_, _, -, h⟩ := Plays.query_bind_iff.mp h
  obtain ⟨-, h⟩ := Plays.ensure_bind_iff.mp h
  obtain ⟨-, h⟩ := Plays.ensure_bind_iff.mp h
  obtain ⟨hnewer, h⟩ := Plays.ensure_bind_iff.mp h
  obtain ⟨_, _, -, h⟩ := Plays.query_bind_iff.mp h
  obtain ⟨_, _, -, h⟩ := Plays.exec_bind_iff.mp h
  obtain ⟨_, -, h⟩ := Plays.ofExcept_bind_iff.mp h
  obtain ⟨_, _, _, -, -, h⟩ := Plays.bind_ok_iff.mp h
  obtain ⟨-, h⟩ := Plays.ensure_bind_iff.mp h
  obtain ⟨_, _, -, h⟩ := Plays.query_bind_iff.mp h
  obtain ⟨_, -, h⟩ := Plays.ofExcept_bind_iff.mp h
  obtain ⟨_, _, -, h⟩ := Plays.exec_bind_iff.mp h
  have hanswer := Except.ok.inj (Plays.done_iff.mp h).2
  rw [(Prod.mk.inj hanswer).2]
  exact hnewer

/-- **What an accepted install goes to**, whatever happens between its statements: a version newer
than the running one exactly if, under Kubernetes, the version in force is. -/
theorem accepted_newer_iff {service : UpdateService} {body : InstallRequest}
    {operator target : String} {outside : InstallAnswers} {answer : UpdateAnswer}
    {steps : List (UpdateState × UpdateState)}
    (h : Plays (service.installTarget body operator outside) steps (.ok (answer, target))) :
    isNewerVersion target service.runningVersion = true ↔
      (service.mode = .kubernetes →
        ∃ version, inForce steps = some version ∧
          isNewerVersion version service.runningVersion = true) := by
  obtain ⟨-, h⟩ := Plays.ensure_bind_iff.mp h
  split at h
  · rename_i hmode
    have htarget := kubernetesInstallTarget_eq h
    constructor
    · intro hnewer _
      exact ⟨target, htarget, hnewer⟩
    · intro hversion
      obtain ⟨version, hforce, hnewer⟩ := hversion hmode
      rw [htarget] at hforce
      rw [Option.some.inj hforce]
      exact hnewer
  · rename_i hmode
    split at h
    · have hnewer := hostInstallTarget_newer h
      constructor
      · intro _ hkubernetes
        exact absurd hkubernetes hmode
      · intro _
        exact hnewer
    · cases (Plays.fail_iff.mp h).2

end UpdateService

def readyHost : UpdateState := { hostState with
  preflight := some
    { id := "p"
      taskId := none
      status := .passed
      targetVersion := "v1.1.0"
      deploymentMode := .compose
      expiresAt := some "2026-01-31T08:00:00.000Z"
      backupTargetId := some "b"
      migrationTargetId := some "m"
      imageDigests := none
      message := ""
      checks := [] }
  preflightSettingsFingerprint := some (hostService.settings.digest (some "v1.i.t.1")) }

def readyInstall : UpdateHandler (UpdateAnswer × String) :=
  hostService.installTarget ⟨true, none, some "p", some "b"⟩ "o" ⟨some sampleRelease, none, .ok (), ""⟩

theorem exists_plays {h : UpdateHandler (UpdateAnswer × String)} {s : UpdateState} {target : String}
    (hrun : (h.run s).1.map (·.2) = .ok target) :
    ∃ steps answer, Plays h steps (.ok (answer, target)) := by
  obtain ⟨steps, hplays⟩ := Plays.of_run h s
  cases hresult : (h.run s).1 with
  | error e =>
      rw [hresult] at hrun
      cases hrun
  | ok a =>
      rw [hresult] at hrun hplays
      obtain rfl := Except.ok.inj hrun
      exact ⟨steps, a.1, hplays⟩

theorem accepted_newer_iff_host : ∃ steps answer,
    Plays readyInstall steps (.ok (answer, "v1.1.0")) ∧
      (isNewerVersion "v1.1.0" hostService.runningVersion = true ↔
        (hostService.mode = .kubernetes →
          ∃ version, UpdateService.inForce steps = some version ∧
            isNewerVersion version hostService.runningVersion = true)) := by
  obtain ⟨steps, answer, hplays⟩ := @exists_plays readyInstall readyHost "v1.1.0"
    (by decide +kernel)
  exact ⟨steps, answer, hplays, UpdateService.accepted_newer_iff hplays⟩

def clusterService : UpdateService where
  mode := .kubernetes
  runningVersion := "v2.0.0"
  executorConfigured := false
  settings := { sampleSettings with
    crypto := { sampleSettings.crypto with sha256 := fun _ => sampleDigest } }
  queue := sampleQueueConfig
  newId := hostService.newId

def olderTask : Task where
  action := .preflight
  payload := { samplePayload with
    action := .preflight
    targetVersion := "v1.0.0"
    backupTargetId := "b"
    migrationTargetId := some "m"
    preflightChecks := some [] }
  signature := sampleDigest
  status := .succeeded
  phase := "completed"
  percent := some 100
  message := none
  claimedBy := some "w"
  leaseUntil := none
  attempt := 1
  createdAt := 1769845000000
  startedAt := none
  completedAt := none
  backupLocation := none
  backupBytes := none
  result := some ⟨some [⟨"a", .passed, ""⟩], none, none⟩
  resultSignature := some sampleDigest
  activeSlot := none

def clusterState : UpdateState := { hostState with
  queue := ⟨1769846000000, AList.insert "t" olderTask ∅, []⟩ }

def olderInstall : UpdateHandler (UpdateAnswer × String) :=
  clusterService.installTarget ⟨true, none, some "preflight", some "b"⟩ "o" ⟨none, none, .ok (), "u"⟩

theorem older_install_accepted :
    ¬∀ (service : UpdateService) (body : InstallRequest) (operator target : String)
      (outside : InstallAnswers) (answer : UpdateAnswer) (steps : List (UpdateState × UpdateState)),
      Plays (service.installTarget body operator outside) steps (.ok (answer, target)) →
        isNewerVersion target service.runningVersion = true := by
  intro h
  obtain ⟨steps, answer, hplays⟩ := @exists_plays olderInstall clusterState "v1.0.0"
    (by decide +kernel)
  have hnewer := h clusterService _ _ _ _ answer steps hplays
  exact absurd hnewer (by decide +kernel)

end KubeNova.Update
