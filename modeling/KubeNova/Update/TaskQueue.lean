import KubeNova.Common.Date
import KubeNova.Common.Exceptions
import KubeNova.Foundation.RelyGuarantee
import KubeNova.Foundation.Table

/-!
# The Kubernetes update task queue

`KubernetesUpdateTasksService`: one table of tasks that the API replicas fill and
the workers claim, renew and finish.  Every database call is one statement, and a
guard compares with the clock as the caller read it some time before the database
executes the update.
-/

namespace KubeNova.Update

open KubeNova.Common KubeNova.Foundation

inductive TaskAction where
  | install
  | rollback
  | preflight
  deriving Repr, DecidableEq

inductive CheckStatus where
  | passed
  | failed
  | skipped
  deriving Repr, DecidableEq

structure TaskCheck where
  name : String
  status : CheckStatus
  message : String
  deriving Repr, DecidableEq

inductive KubernetesComponent where
  | controlApi
  | runtimeGateway
  | frontend
  deriving Repr, DecidableEq

/-- `Record<KubernetesComponent, string>`. -/
abbrev Images := KubernetesComponent → String

structure TaskPayload where
  action : TaskAction
  targetVersion : String
  preflightId : String
  preflightExpiresAt : String
  backupTargetId : String
  migrationTargetId : Option String
  settingsFingerprint : Option String
  previousVersion : Option String
  rollbackTaskId : Option String
  preflightChecks : Option (List TaskCheck)
  images : Images
  operator : String

structure TaskResult where
  checks : Option (List TaskCheck)
  previousImages : Option Images
  previousVersion : Option String

inductive TaskStatus where
  | queued
  | running
  | succeeded
  | failed
  deriving Repr, DecidableEq

/-- A row of `KubernetesUpdateTask`. -/
structure Task where
  action : TaskAction
  payload : TaskPayload
  signature : String
  status : TaskStatus
  phase : String
  percent : Option Int
  message : Option String
  claimedBy : Option String
  leaseUntil : Option Nat
  attempt : Nat
  createdAt : Nat
  startedAt : Option Nat
  completedAt : Option Nat
  backupLocation : Option String
  backupBytes : Option Nat
  result : Option TaskResult
  resultSignature : Option String
  activeSlot : Option String

structure TaskRecord where
  id : String
  action : TaskAction
  payload : TaskPayload
  status : TaskStatus
  phase : String
  percent : Option Int
  message : Option String
  attempt : Nat
  createdAt : Nat
  startedAt : Option Nat
  completedAt : Option Nat
  backupLocation : Option String
  backupBytes : Option Nat
  result : Option TaskResult

/-- What happened to tasks, newest first in `Queue.log`. -/
inductive QueueEvent where
  | claimed (id worker : String)
  /-- A heartbeat, a backup record or a finish issued at `issuedAt` took effect on
  a row whose lease ran until `lease`. -/
  | owned (id worker : String) (issuedAt lease : Nat)
  deriving Repr, DecidableEq

structure Queue where
  now : Nat
  tasks : Table String Task
  log : List QueueEvent

abbrev QueueHandler (α : Type) := Async Exception Queue α

def Queue.updateTask (id : String) (f : Task → Task) (q : Queue) : Queue :=
  { q with tasks := q.tasks.update id f }

def Queue.record (event : QueueEvent) (q : Queue) : Queue := { q with log := event :: q.log }

/-- The keyed digests of `sign` and `signResult`: HMAC-SHA-256 under the key, in
hexadecimal, of the canonical JSON of a payload or of a result. -/
structure TaskMac where
  sign : String → TaskPayload → String
  signResult : String → TaskResult → String

/-- The secret `KUBENOVA_K8S_UPDATE_TASK_KEY` and the digests under it. -/
structure QueueConfig where
  taskKey : Option String
  mac : TaskMac

def LEASE_MS : Nat := 30000

def progressPhases : List String :=
  ["initializing", "backing-up", "migration-test", "updating", "rolling-back", "health-check"]

/-! ## Validation -/

def hexDigits (n : Nat) (lower : Bool) (cs : List Char) : Bool :=
  cs.length == n && cs.all fun c => if lower then Text.isLowerHex c else Text.isHex c

def isHexDigits (n : Nat) (lower : Bool) (value : String) : Bool := hexDigits n lower value.toList

/-- `ghcr.io/feize666/kubenova-<name>@sha256:` and 64 hexadecimal digits. -/
def isTrustedImage (name : String) (image : List Char) : Bool :=
  let pre := "ghcr.io/feize666/kubenova-".toList ++ name.toList ++ "@sha256:".toList
  pre.isPrefixOf image && hexDigits 64 true (image.drop pre.length)

def imageName : KubernetesComponent → String
  | .frontend => "frontend"
  | .controlApi => "control-api"
  | .runtimeGateway => "runtime-gateway"

/-- The key of a component in `trustedImages`. -/
def componentKey : KubernetesComponent → String
  | .frontend => "frontend"
  | .controlApi => "controlApi"
  | .runtimeGateway => "runtimeGateway"

/-- `/^v\d+\.\d+(?:\.\d+)?$/`. -/
def isVersionTag (value : String) : Bool :=
  match value.toList with
  | 'v' :: cs =>
      let parts := Text.split '.' (String.ofList cs)
      (parts.length == 2 || parts.length == 3) &&
        parts.all fun part => part ≠ "" && part.toList.all Text.isDigit
  | _ => false

/-- `value.trim() && value.length <= 128`. -/
def isReference (value : String) : Bool := Text.trim value ≠ "" && Text.length value ≤ 128

def check (c : Prop) [Decidable c] (message : String) : Except Exception Unit :=
  if c then .ok () else .error (.badRequest message)

theorem check_eq_ok_iff {c : Prop} [Decidable c] {message : String} :
    check c message = .ok () ↔ c := by
  rw [check]
  constructor
  · intro h
    by_contra hc
    rw [if_neg hc] at h
    cases h
  · intro hc
    rw [if_pos hc]

theorem check_bind_congr {α : Type} {c d : Prop} [Decidable c] [Decidable d] {message : String}
    {f g : Unit → Except Exception α} (h : c ↔ d) (hrest : c → f () = g ()) :
    (check c message >>= f) = (check d message >>= g) := by
  by_cases hc : c
  · rw [check, check, if_pos hc, if_pos (h.mp hc)]
    exact hrest hc
  · rw [check, check, if_neg hc, if_neg fun hd => hc (h.mpr hd)]
    rfl

theorem check_bind {α : Type} {c : Prop} [Decidable c] {message : String}
    {f : Unit → Except Exception α} (hc : c) : (check c message >>= f) = f () := by
  rw [check, if_pos hc]
  rfl

/-- `validateTaskPayload`; `now` is given where the preflight must be unexpired. -/
def validateTaskPayload (value : TaskPayload) (now : Option Nat) : Except Exception Unit := do
  check (isVersionTag value.targetVersion) "Kubernetes update task version is invalid"
  check (value.previousVersion.all isVersionTag) "Kubernetes previous update version is invalid"
  check (value.rollbackTaskId.all isReference) "Kubernetes rollback task reference is invalid"
  check (isHexDigits 64 false (value.settingsFingerprint.getD ""))
    "Kubernetes update settings fingerprint is invalid"
  check (value.preflightId ≠ "" ∧ Text.length value.preflightId ≤ 128)
    "Kubernetes update task preflight binding is invalid"
  check (isReference value.backupTargetId) "Kubernetes update backup target binding is invalid"
  check (value.action ≠ .preflight ∨ value.migrationTargetId.any (Text.trim · ≠ ""))
    "Kubernetes preflight migration target binding is invalid"
  check (value.action ≠ .preflight ∨ value.preflightChecks.any fun checks => checks.all (·.name ≠ ""))
    "Kubernetes preflight checks are invalid"
  check ((parseDate value.preflightExpiresAt).any fun expiry : Int =>
      now.all fun now : Nat => decide ((now : Int) < expiry))
    "Kubernetes update task preflight expiry is invalid"
  for component in [KubernetesComponent.frontend, .controlApi, .runtimeGateway] do
    check (isTrustedImage (imageName component) ((value.images component).toList.map Char.toLower))
      ("Kubernetes update task " ++ componentKey component ++
        " image must use a trusted immutable digest")
  check (isReference value.operator) "Kubernetes update task operator is invalid"

/-- Control characters other than tab and line ends are removed. -/
def isStripped (c : Char) : Bool :=
  let n := c.toNat
  n ≤ 8 || n == 0x0b || n == 0x0c || (0x0e ≤ n && n ≤ 0x1f)

def normalizeMessage (value : Option String) : Option String :=
  value.map fun message =>
    String.ofList (Text.takeUnits 1000 (message.toList.filter fun c => !isStripped c))

def isPercent (percent : Option Int) : Bool := percent.all fun p => 0 ≤ p && p ≤ 100

namespace Tasks

variable (config : QueueConfig)

/-- The key, refused when it is missing, malformed or one repeated character. -/
def key : Except Exception String :=
  let raw := Text.trim (config.taskKey.getD "")
  if isHexDigits 64 false raw && !raw.toList.all (some · == raw.toList.head?) then .ok raw
  else .error (.badRequest "KUBENOVA_K8S_UPDATE_TASK_KEY must be a distinct 256-bit hex secret")

def sign (payload : TaskPayload) : Except Exception String := do
  return config.mac.sign (← key config) payload

def signResult (result : TaskResult) : Except Exception String := do
  return config.mac.signResult (← key config) result

def verify (payload : TaskPayload) (signature : String) : Except Exception Bool := do
  if isHexDigits 64 true signature = false then return false
  return (← sign config payload) == signature

def publicTask (id : String) (row : Task) : TaskRecord where
  id := id
  action := row.action
  payload := row.payload
  status := row.status
  phase := row.phase
  percent := row.percent
  message := row.message
  attempt := row.attempt
  createdAt := row.createdAt
  startedAt := row.startedAt
  completedAt := row.completedAt
  backupLocation := row.backupLocation
  backupBytes := row.backupBytes
  result := row.result

def verifiedPublicTask (id : String) (row : Task) : Except Exception TaskRecord := do
  validateTaskPayload row.payload none
  let verified ← verify config row.payload row.signature
  check (verified = true) "Kubernetes update task signature verification failed"
  if let some result := row.result then
    let expected ← signResult config result
    check (row.resultSignature.any (isHexDigits 64 true) ∧ row.resultSignature = some expected)
      "Kubernetes update task result signature verification failed"
  return publicTask id row

/-- `kubernetesUpdateTask.create` under a fresh id; `activeSlot` is unique. -/
def create (id : String) (payload : TaskPayload) (signature : String) :
    StateT Queue (Except Exception) Task := fun q =>
  if id ∈ q.tasks ∨ (q.tasks.first? fun _ row => row.activeSlot == some "system-update").isSome then
    .error (.database "P2002")
  else
    let row : Task :=
      { action := payload.action
        payload := payload
        signature := signature
        status := .queued
        phase := "queued"
        percent := some 0
        message := none
        claimedBy := none
        leaseUntil := none
        attempt := 0
        createdAt := q.now
        startedAt := none
        completedAt := none
        backupLocation := none
        backupBytes := none
        result := none
        resultSignature := none
        activeSlot := some "system-update" }
    .ok (row, { q with tasks := AList.insert id row q.tasks })

def submit (id : String) (payload : TaskPayload) : QueueHandler TaskRecord := do
  let now ← Async.query (·.now)
  Async.ofExcept (validateTaskPayload payload (some now))
  let row ← (do
      let signature ← Async.ofExcept (sign config payload)
      Async.attempt (create id payload signature) : QueueHandler Task).tryCatch fun e =>
    if e = .database "P2002" then throw (.badRequest "已有 Kubernetes 更新或预检任务正在执行")
    else throw e
  return publicTask id row

def get (id : String) : QueueHandler (Option TaskRecord) := do
  match ← Async.query fun q => q.tasks.lookup id with
  | none => return none
  | some row => return some (← Async.ofExcept (verifiedPublicTask config id row))

/-- The update of `invalidateLatestPreflight`, and how many rows it changed. -/
def invalidate (id : String) (now : Nat) (message : String) (result : TaskResult)
    (signature : String) (q : Queue) : Nat × Queue :=
  match q.tasks.lookup id with
  | some row =>
      if row.action = .preflight ∧ row.status = .succeeded then
        (1, q.updateTask id fun row => { row with
          status := .failed
          phase := "failed"
          completedAt := some now
          message := normalizeMessage (some message)
          activeSlot := none
          result := some result
          resultSignature := some signature })
      else (0, q)
  | none => (0, q)

def invalidateLatestPreflight (checks : List TaskCheck) (message : String) : QueueHandler Unit := do
  Async.ensure (checks ≠ [] ∧ checks.all (·.name ≠ ""))
    (.badRequest "Kubernetes invalidation checks are invalid")
  match ← Async.query fun q => q.tasks.latest? (fun _ row => row.action == .preflight) (·.createdAt) with
  | none => return ()
  | some (id, _) => do
      let result : TaskResult := ⟨some checks, none, none⟩
      let signature ← Async.ofExcept (signResult config result)
      let now ← Async.query (·.now)
      let updated ← Async.exec (invalidate id now message result signature)
      if updated = 0 then return ()
      else do
        match ← Async.query fun q => q.tasks.lookup id with
        | some row => discard (Async.ofExcept (verifiedPublicTask config id row))
        | none => return ()

/-- `OR: [{ status: 'queued' }, { status: 'running', leaseUntil: { lt: now } }]`. -/
def isClaimable (now : Nat) (row : Task) : Bool :=
  row.status == .queued || (row.status == .running && row.leaseUntil.any (· < now))

def isUnchanged (now : Nat) (candidate row : Task) : Bool :=
  if candidate.status = .queued then row.status == .queued
  else row.status == .running && row.leaseUntil.any (· < now)

def verifyCandidate (startedAt now : Nat) (candidate : Task) : Except Exception Unit := do
  validateTaskPayload candidate.payload (some now)
  let verified ← verify config candidate.payload candidate.signature
  if verified = false then throw (.error "signature does not match task payload")
  if (parseDate candidate.payload.preflightExpiresAt).any
      fun expiry : Int => decide (expiry ≤ (startedAt : Int)) then
    throw (.error "bound preflight has expired")

def reject (id : String) (now : Nat) (candidate : Task) (e : Exception) (q : Queue) : Nat × Queue :=
  match q.tasks.lookup id with
  | some row =>
      if isUnchanged now candidate row then
        (1, q.updateTask id fun row => { row with
          status := .failed
          phase := "rejected"
          completedAt := some now
          activeSlot := none
          message := some (String.ofList (Text.takeUnits 1000 e.message.toList)) })
      else (0, q)
  | none => (0, q)

def claimRow (workerId : String) (now : Nat) (candidate row : Task) : Task :=
  { row with
    status := .running
    phase := "initializing"
    claimedBy := some workerId
    leaseUntil := some (now + LEASE_MS)
    attempt := row.attempt + 1
    startedAt := candidate.startedAt.or (some now)
    message := none }

def claim (id workerId : String) (now : Nat) (candidate : Task) (q : Queue) : Nat × Queue :=
  match q.tasks.lookup id with
  | some row =>
      if isUnchanged now candidate row then
        (1, (q.updateTask id (claimRow workerId now candidate)).record (.claimed id workerId))
      else (0, q)
  | none => (0, q)

/-- The loop of `claimNext`, with the number of invalid candidates still allowed. -/
def claimLoop (workerId : String) (now : Nat) : Nat → QueueHandler (Option TaskRecord)
  | 0 => return none
  | attempts + 1 => do
      match ← Async.query fun q => q.tasks.oldest? (fun _ row => isClaimable now row) (·.createdAt) with
      | none => return none
      | some (id, candidate) => do
          -- An invalid worker secret is an installation error, not a corrupt task.
          let _ ← Async.ofExcept (key config)
          let current ← Async.query (·.now)
          match verifyCandidate config now current candidate with
          | .error e => do
              let failed ← Async.exec (reject id now candidate e)
              if failed = 0 then return none else claimLoop workerId now attempts
          | .ok _ => do
              let claimed ← Async.exec (claim id workerId now candidate)
              if claimed = 0 then return none else get config id

def claimNext (workerId : String) : QueueHandler (Option TaskRecord) := do
  Async.ensure (isReference workerId) (.badRequest "Kubernetes update worker id is invalid")
  let now ← Async.query (·.now)
  claimLoop config workerId now 10

/-- `updateMany({ where: { id, status: 'running', claimedBy, leaseUntil: { gt: now } } })`. -/
def updateOwned (id workerId : String) (now : Nat) (f : Task → Task) (q : Queue) : Nat × Queue :=
  match q.tasks.lookup id with
  | some row =>
      match row.leaseUntil with
      | some lease =>
          if row.status = .running ∧ row.claimedBy = some workerId ∧ now < lease then
            (1, (q.updateTask id f).record (.owned id workerId now lease))
          else (0, q)
      | none => (0, q)
  | none => (0, q)

def leaseLost : Exception :=
  .badRequest "Kubernetes update task worker lease is not owned or has expired"

def heartbeat (id workerId phase : String) (percent : Option Int) (message : Option String) :
    QueueHandler Unit := do
  Async.ensure (progressPhases.contains phase)
    (.badRequest "Kubernetes update task phase is invalid")
  Async.ensure (isPercent percent) (.badRequest "Kubernetes update task progress is invalid")
  let now ← Async.query (·.now)
  let count ← Async.exec (updateOwned id workerId now fun row => { row with
    phase := phase
    percent := percent
    message := normalizeMessage message
    leaseUntil := some (now + LEASE_MS) })
  Async.ensure (count ≠ 0) leaseLost

/-- `status === 'succeeded' ? phase === 'completed' : ...`. -/
def isTerminalPhase (succeeded : Bool) (phase : String) : Bool :=
  if succeeded then phase == "completed" else phase == "failed" || phase == "rollback-incomplete"

def finishRow (succeeded : Bool) (phase : String) (percent : Option Int) (message : String)
    (taskResult : Option TaskResult) (signature : Option String) (now : Nat) (row : Task) : Task :=
  { row with
    status := if succeeded then .succeeded else .failed
    phase := phase
    percent := percent
    message := normalizeMessage (some message)
    result := taskResult.or row.result
    resultSignature := signature.or row.resultSignature
    activeSlot := none
    completedAt := some now
    leaseUntil := none }

def finish (id workerId : String) (succeeded : Bool) (phase : String) (percent : Option Int)
    (message : String) (taskResult : Option TaskResult) : QueueHandler Unit := do
  Async.ensure (isTerminalPhase succeeded phase)
    (.badRequest "Kubernetes update terminal phase is invalid")
  Async.ensure (isPercent percent) (.badRequest "Kubernetes update task progress is invalid")
  let signature ← Async.ofExcept (taskResult.mapM (signResult config))
  let now ← Async.query (·.now)
  let count ← Async.exec (updateOwned id workerId now
    (finishRow succeeded phase percent message taskResult signature now))
  Async.ensure (count ≠ 0) leaseLost

def recordBackup (id workerId location : String) (bytes : Nat) : QueueHandler Unit := do
  Async.ensure (location ≠ "" ∧ Text.length location ≤ 2048 ∧ 0 < bytes ∧ bytes < 2 ^ 53)
    (.badRequest "Kubernetes update backup result is invalid")
  let now ← Async.query (·.now)
  let count ← Async.exec (updateOwned id workerId now fun row => { row with
    backupLocation := some location
    backupBytes := some bytes })
  Async.ensure (count ≠ 0) leaseLost

end Tasks
end KubeNova.Update
