import KubeNova.Monitoring.State
import Mathlib.Algebra.Order.Ring.Int
import Mathlib.Data.String.Basic

/-!
# The notification worker

`NotificationWorker.runOnce` leases one due delivery, decides what to do with it and
records the outcome.  Every record is guarded by the number of attempts the lease
came with.
-/

namespace KubeNova.Monitoring

open KubeNova.Common KubeNova.Foundation

/-- What one run of the worker meets: which rows others have locked, which calls to
the database fail, and what the channel answers. -/
structure WorkerOutcomes where
  isLocked : String → Bool
  leaseError : Option Exception
  /-- One of the three reads of `Promise.all` fails. -/
  readError : Option Exception
  firingError : Option Exception
  returnError : Option Exception
  finishError : Option Exception
  recoverError : Option Exception
  /-- `sendNotification` throws, or reports whether it was successful. -/
  sendNotification : Except Exception Bool

/-- A delivery under the lease of this worker, as the lease found it. -/
structure Leased where
  id : String
  ticket : Nat
  delivery : NotificationDelivery

def unlessFails {α : Type} (error : Option Exception) (call : MonitoringHandler α) :
    MonitoringHandler α :=
  match error with
  | some e => .fail e
  | none => call

namespace NotificationWorker

/-! ## Statements -/

/-- The `WHERE` of the candidate. -/
def isDue (clusterId : String) (isLocked : String → Bool) (s : MonitoringState) (id : String)
    (row : NotificationDelivery) : Bool :=
  (s.alerts.lookup row.alertId).any (fun alert => alert.clusterId == some clusterId) &&
    ((row.status == .pending && row.nextAttemptAt ≤ s.now) ||
      (row.status == .sending && row.leaseUntil.any (· ≤ s.now))) &&
    !isLocked id

def ordered (a b : Sigma fun _ : String => NotificationDelivery) : Bool :=
  a.2.createdAt < b.2.createdAt || (a.2.createdAt == b.2.createdAt && decide (a.1 ≤ b.1))

def candidate (clusterId : String) (isLocked : String → Bool) (s : MonitoringState) :
    Option (String × NotificationDelivery) :=
  ((s.deliveries.entries.filter fun r =>
    isDue clusterId isLocked s r.1 r.2).mergeSort ordered).head?.map fun r => (r.1, r.2)

def leaseMs : Int := 30000

def lease (clusterId : String) (isLocked : String → Bool) (s : MonitoringState) :
    Option Leased × MonitoringState :=
  match candidate clusterId isLocked s with
  | none => (none, s)
  | some (id, row) =>
      let delivery := { row with
        status := .sending
        attempts := row.attempts + 1
        leaseUntil := some (s.now + leaseMs) }
      (some ⟨id, s.log.length, delivery⟩, { s with
        deliveries := s.deliveries.update id fun _ => delivery
        log := .leased id s.log.length delivery.attempts :: s.log })

/-- `updateMany({ where: { id, status: 'sending', attempts }, data })`. -/
def updateLeased (leased : Leased) (event : DeliveryEvent)
    (data : Int → NotificationDelivery → NotificationDelivery) (s : MonitoringState) :
    Unit × MonitoringState :=
  if (s.deliveries.lookup leased.id).any fun row =>
      row.status == .sending && row.attempts == leased.delivery.attempts then
    ((), { s with
      deliveries := s.deliveries.update leased.id (data s.now)
      log := event :: s.log })
  else ((), s)

def finishedRow (status : DeliveryStatus) (lastError : Option String) (delay now : Int)
    (row : NotificationDelivery) : NotificationDelivery :=
  { row with
    status := status
    lastError := lastError
    leaseUntil := none
    nextAttemptAt := now + delay }

def returnedRow (now : Int) (row : NotificationDelivery) : NotificationDelivery :=
  { row with
    status := .pending
    attempts := row.attempts - 1
    leaseUntil := none
    nextAttemptAt := now + 5000 }

/-- `finish(status, lastError, nextAttemptAt)`, with the delay of the next attempt. -/
def finish (error : Option Exception) (leased : Leased) (status : DeliveryStatus)
    (lastError : Option String) (delay : Int) : MonitoringHandler Unit :=
  unlessFails error (.exec (updateLeased leased (.finished leased.id leased.ticket)
    (finishedRow status lastError delay)))

/-- The firing delivery is still on its way: the attempt does not count. -/
def giveBack (error : Option Exception) (leased : Leased) : MonitoringHandler Unit :=
  unlessFails error (.exec (updateLeased leased (.returned leased.id leased.ticket) returnedRow))

/-- The call to the channel, whose answer is all the database will ever see of it. -/
def sendNotification (outcomes : WorkerOutcomes) (leased : Leased) : MonitoringHandler Bool :=
  .exec (fun s => (outcomes.sendNotification, { s with
    log := .sent leased.id leased.ticket leased.delivery.attempts leased.delivery.alertId
      leased.delivery.templateId leased.delivery.event :: s.log })) >>= .ofExcept

def afterFailure (leased : Leased) : DeliveryStatus :=
  if 5 ≤ leased.delivery.attempts then .failed else .pending

/-- `Math.min(300000, 5000 * 2 ** (delivery.attempts - 1))`. -/
def retryDelay (leased : Leased) : Int := min 300000 (5000 * 2 ^ (leased.delivery.attempts - 1))

def dispatch (outcomes : WorkerOutcomes) (leased : Leased) : MonitoringHandler Bool := do
  let success ← sendNotification outcomes leased
  finish outcomes.finishError leased (if success then .sent else afterFailure leased)
    (if success then none else some "通知渠道未确认投递成功")
    (if success then 0 else retryDelay leased)
  pure true

def dispatchResolved (outcomes : WorkerOutcomes) (leased : Leased) : MonitoringHandler Bool := do
  let firing ← unlessFails outcomes.firingError (.query fun s =>
    s.findDelivery leased.delivery.alertId leased.delivery.templateId .firing)
  match firing.map (·.2.status) with
  | none => do
      finish outcomes.finishError leased .cancelled none 0
      pure true
  | some status =>
      if status = .cancelled ∨ status = .failed ∨ status = .expired then do
        finish outcomes.finishError leased .cancelled none 0
        pure true
      else if status ≠ .sent then do
        giveBack outcomes.returnError leased
        pure true
      else dispatch outcomes leased

/-- The `try` block. -/
def deliver (outcomes : WorkerOutcomes) (clusterId : String) (leased : Leased) :
    MonitoringHandler Bool := do
  let now ← Async.query (·.now)
  if leased.delivery.expiresAt ≤ now then do
    finish outcomes.finishError leased .expired none 0
    pure true
  else if 5 < leased.delivery.attempts then do
    finish outcomes.finishError leased .failed (some "投递次数已耗尽") 0
    pure true
  else do
    let alert ← unlessFails outcomes.readError
      (.query fun s => s.alerts.lookup leased.delivery.alertId)
    let template ← Async.query fun s => s.templates.lookup leased.delivery.templateId
    let cluster ← Async.query (MonitoringState.hasCluster clusterId)
    match alert, template with
    | some alert, some template =>
        if !cluster || !template.enabled || template.clusterId ≠ some clusterId then do
          finish outcomes.finishError leased .cancelled none 0
          pure true
        else if leased.delivery.event = .firing ∧ alert.status = .resolved ∧
            leased.delivery.attempts = 1 then do
          finish outcomes.finishError leased .cancelled none 0
          pure true
        else if leased.delivery.event = .resolved then dispatchResolved outcomes leased
        else dispatch outcomes leased
    | _, _ => do
        finish outcomes.finishError leased .cancelled none 0
        pure true

/-- The `catch` block. -/
def recover (outcomes : WorkerOutcomes) (leased : Leased) : MonitoringHandler Bool := do
  finish outcomes.recoverError leased (afterFailure leased) (some "通知投递失败") 30000
  pure true

def runOnce (outcomes : WorkerOutcomes) (clusterId : String) : MonitoringHandler Bool := do
  let leased ← unlessFails outcomes.leaseError (.exec (lease clusterId outcomes.isLocked))
  match leased with
  | none => pure false
  | some leased => (deliver outcomes clusterId leased).tryCatch fun _ => recover outcomes leased

end NotificationWorker
end KubeNova.Monitoring
