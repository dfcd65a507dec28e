import KubeNova.Common.Exceptions
import KubeNova.Foundation.Table
import KubeNova.Foundation.Transaction

/-!
# The tables of the monitoring

Alerts, the notifications that are due for them, the receivers' credentials and the
notification templates.  The log at the end is not a table: it keeps what the
workers have done with the deliveries.
-/

namespace KubeNova.Monitoring

open KubeNova.Common KubeNova.Foundation

inductive AlertStatus where
  | firing
  | resolved
  deriving Repr, DecidableEq

structure MonitoringAlert where
  occurrenceKey : Option String
  clusterId : Option String
  «namespace» : Option String
  severity : String
  title : String
  message : String
  source : Option String
  status : AlertStatus
  firedAt : Int
  resolvedAt : Option Int
  labels : List (String × String)
  annotations : List (String × String)
  deriving DecidableEq

/-- A row of `MonitoringNotificationTemplate`. -/
structure NotificationTemplate where
  clusterId : Option String
  enabled : Bool
  deriving DecidableEq

structure AlertReceiverCredential where
  tokenHash : String
  enabled : Bool
  deriving DecidableEq

structure ClusterRegistry where
  deletedAt : Option Int
  status : String
  deriving DecidableEq

inductive DeliveryStatus where
  | pending
  | sending
  | sent
  | failed
  | expired
  | cancelled
  deriving Repr, DecidableEq

def DeliveryStatus.isTerminal : DeliveryStatus → Bool
  | pending => false
  | sending => false
  | sent => true
  | failed => true
  | expired => true
  | cancelled => true

structure NotificationDelivery where
  alertId : String
  templateId : String
  event : AlertStatus
  status : DeliveryStatus
  attempts : Nat
  nextAttemptAt : Int
  expiresAt : Int
  leaseUntil : Option Int
  lastError : Option String
  createdAt : Int
  deriving DecidableEq

/-- What a worker did with a delivery.  The tickets number the leases, so that one can
tell the leases of one delivery apart. -/
inductive DeliveryEvent where
  /-- A worker took the delivery for its attempt number `attempts`. -/
  | leased (id : String) (ticket attempts : Nat)
  /-- The worker recorded how the attempt ended. -/
  | finished (id : String) (ticket : Nat)
  /-- The worker gave the delivery back, and the attempt does not count. -/
  | returned (id : String) (ticket : Nat)
  /-- The worker sent the notification. -/
  | sent (id : String) (ticket attempts : Nat) (alertId templateId : String) (event : AlertStatus)
  deriving DecidableEq

structure MonitoringState where
  now : Int
  clusters : Table String ClusterRegistry
  credentials : Table String AlertReceiverCredential
  alerts : Table String MonitoringAlert
  templates : Table String NotificationTemplate
  deliveries : Table String NotificationDelivery
  /-- The ids alerts and deliveries have had so far; `cuid()` repeats none. -/
  issued : List String
  /-- The newest event first. -/
  log : List DeliveryEvent

abbrev MonitoringHandler (α : Type) := Async Exception MonitoringState α

/-- `clusterRegistry.findFirst({ id, deletedAt: null, status: { not: 'deleted' } })`. -/
def MonitoringState.hasCluster (clusterId : String) (s : MonitoringState) : Bool :=
  (s.clusters.lookup clusterId).any fun row => row.deletedAt.isNone && row.status != "deleted"

/-- The deliveries of an alert that announce the event, by the unique key
`(alertId, templateId, event)`. -/
def MonitoringState.findDelivery (alertId templateId : String) (event : AlertStatus)
    (s : MonitoringState) : Option (String × NotificationDelivery) :=
  s.deliveries.first? fun _ row =>
    row.alertId == alertId && row.templateId == templateId && row.event == event

end KubeNova.Monitoring
