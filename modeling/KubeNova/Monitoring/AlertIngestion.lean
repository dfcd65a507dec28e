import KubeNova.Common.Crypto
import KubeNova.Monitoring.AlertmanagerInput

/-!
# Ingestion of alerts

`AlertIngestionService.ingest`: a batch is stored by one transaction.  Its first
statement locks the receiver's row, which only takes away interleavings; nothing here
relies on it.
-/

namespace KubeNova.Monitoring

open KubeNova.Common KubeNova.Foundation

/-- `/^Bearer ([A-Za-z0-9_-]{43})$/.exec(authorization)?.[1]`. -/
def bearerToken (authorization : Option String) : Option String :=
  authorization.bind fun text =>
    if Text.startsWith "Bearer " text then
      let token := text.toList.drop 7
      if token.length = 43 ∧ token.all (fun c => c.isAlphanum || c == '_' || c == '-') then
        some (String.ofList token)
      else none
    else none

/-- `createHash('sha256').update(JSON.stringify([...])).digest('hex')`. -/
def occurrenceKey (crypto : Crypto) (clusterId fingerprint : String) (startsAt : Int) : String :=
  crypto.sha256 (Json.stringifyStrings [clusterId, fingerprint, toISOString startsAt])

def invalidCredential : Exception := .unauthorized "告警接收凭据无效"

/-! ## Writes -/

inductive Write where
  | createAlert (id : String) (alert : MonitoringAlert)
  | resolveAlert (id : String) (resolvedAt : Option Int)
  | createDeliveries (alertId : String) (event : AlertStatus) (expiresAt : Int)
      (channels : List (String × String))

def newDelivery (alertId templateId : String) (event : AlertStatus) (expiresAt now : Int) :
    NotificationDelivery where
  alertId := alertId
  templateId := templateId
  event := event
  status := .pending
  attempts := 0
  nextAttemptAt := now
  expiresAt := expiresAt
  leaseUntil := none
  lastError := none
  createdAt := now

/-- One row of `createMany({ skipDuplicates: true })`. -/
def insertDelivery (alertId : String) (event : AlertStatus) (expiresAt : Int)
    (channel : String × String) (s : MonitoringState) : Except Exception MonitoringState :=
  if s.alerts.lookup alertId = none then .error (.database "P2003")
  else if s.issued.contains channel.1 then .error (.database "P2002")
  else if (s.findDelivery alertId channel.2 event).isSome then .ok s
  else .ok { s with
    deliveries := AList.insert channel.1
      (newDelivery alertId channel.2 event expiresAt s.now) s.deliveries
    issued := channel.1 :: s.issued }

def Write.apply : Write → MonitoringState → Except Exception MonitoringState
  | createAlert id alert, s =>
      if s.issued.contains id then .error (.database "P2002")
      else if (s.alerts.first? fun _ row =>
          row.occurrenceKey.isSome && row.occurrenceKey == alert.occurrenceKey).isSome then
        .error (.database "P2002")
      else .ok { s with
        alerts := AList.insert id alert s.alerts
        issued := id :: s.issued }
  | resolveAlert id resolvedAt, s =>
      if s.alerts.lookup id = none then .error (.database "P2025")
      else .ok { s with
        alerts := s.alerts.update id fun row =>
          { row with status := .resolved, resolvedAt := resolvedAt } }
  | createDeliveries alertId event expiresAt channels, s =>
      applyAll (insertDelivery alertId event expiresAt) channels s

abbrev IngestTx (α : Type) := Tx Exception MonitoringState Write α

namespace AlertReceiverService

variable (crypto : Crypto)

/-- The two statements of `authenticate`, on the client that `query` stands for. -/
def authenticateWith {m : Type → Type} [Monad m] (query : {α : Type} → (MonitoringState → α) → m α)
    (ensure : Bool → m Unit) (clusterId : String) (authorization : Option String) : m Unit := do
  let token := (bearerToken authorization).getD ""
  ensure (decide (token ≠ "" ∧ clusterId ≠ "" ∧ Text.length clusterId ≤ 128))
  let credential ← query fun s => s.credentials.lookup clusterId
  let digest := fromHex (crypto.sha256 token)
  ensure (credential.any fun row => row.enabled && fromHex row.tokenHash == digest)
  let live ← query fun s => s.hasCluster clusterId
  ensure live

/-- `new AlertReceiverService(this.prisma).authenticate`. -/
def authenticate (clusterId : String) (authorization : Option String) : MonitoringHandler Unit :=
  authenticateWith crypto Async.query (fun c => Async.ensure (c = true) invalidCredential) clusterId
    authorization

/-- `new AlertReceiverService(tx).authenticate`. -/
def authenticateTx (clusterId : String) (authorization : Option String) : IngestTx Unit :=
  authenticateWith crypto (Tx.read Write.apply)
    (fun c => Tx.ensure (c = true) invalidCredential) clusterId authorization

end AlertReceiverService

namespace AlertIngestionService

variable (crypto : Crypto)

/-- The row of `monitoringAlert.create`. -/
def newAlert (key clusterId : String) (event : AlertmanagerEvent) : MonitoringAlert where
  occurrenceKey := some key
  clusterId := some clusterId
  «namespace» := event.namespace
  severity := event.severity
  title := event.title
  message := event.message
  source := some "prometheus"
  status := event.status
  firedAt := event.startsAt
  resolvedAt := event.endsAt
  labels := event.labels
  annotations := event.annotations

def storeAlert (id key clusterId : String) (event : AlertmanagerEvent)
    (existing : Option (String × MonitoringAlert)) : IngestTx String :=
  match existing with
  | some known => do
      Tx.write Write.apply (.resolveAlert known.1 event.endsAt)
      pure known.1
  | none => do
      Tx.write Write.apply (.createAlert id (newAlert key clusterId event))
      pure id

/-- The templates to notify: the enabled ones of the cluster, or those that a
firing notification of the alert exists for. -/
def channels (clusterId alertId : String) (event : AlertStatus) (s : MonitoringState) :
    List String :=
  match event with
  | .firing => (s.templates.entries.filter fun row =>
      row.2.clusterId == some clusterId && row.2.enabled).map (·.1)
  | .resolved => (s.deliveries.entries.filter fun row =>
      row.2.alertId == alertId && row.2.event == .firing).map (·.2.templateId)

def dayMs : Int := 24 * 60 * 60 * 1000

/-- Number the channels, and give each the id that `cuid` draws for it. -/
def withIds (cuid : Nat → String) (channels : List String) : List (String × String) :=
  channels.mapIdx fun i templateId => (cuid i, templateId)

def createDeliveries (cuid : Nat → String) (clusterId alertId : String) (event : AlertStatus) :
    IngestTx Unit := do
  let templates ← Tx.read Write.apply (channels clusterId alertId event)
  if templates = [] then pure ()
  else do
    let now ← Tx.read Write.apply (·.now)
    Tx.write Write.apply
      (.createDeliveries alertId event (now + dayMs) (withIds cuid templates))

/-- One pass of the loop; the answer tells whether the event changed anything. -/
def ingestEvent (cuid : Nat → String) (clusterId : String) (event : AlertmanagerEvent) :
    IngestTx Bool := do
  let key := occurrenceKey crypto clusterId event.fingerprint event.startsAt
  let existing ← Tx.read Write.apply fun s =>
    s.alerts.first? fun _ row => row.occurrenceKey == some key
  if existing.any (fun known => known.2.status ≠ .firing || event.status = .firing) then pure false
  else do
    let alertId ← storeAlert (cuid 0) key clusterId event existing
    if existing = none ∧ event.status = .resolved then pure true
    else do
      createDeliveries (fun i => cuid (i + 1)) clusterId alertId event.status
      pure true

def ingestEvents (cuid : Nat → Nat → String) (clusterId : String) :
    List AlertmanagerEvent → Nat → IngestTx Nat
  | [], changed => pure changed
  | event :: rest, changed => do
      let stored ← ingestEvent crypto (cuid rest.length) clusterId event
      ingestEvents cuid clusterId rest (if stored then changed + 1 else changed)

structure Ingested where
  accepted : Nat
  changed : Nat

/-- `ingest(clusterId, authorization, body)`; `cuid` gives the ids of new rows. -/
def ingest (cuid : Nat → Nat → String) (clusterId : String) (authorization : Option String)
    (body : Js) : MonitoringHandler Ingested := do
  AlertReceiverService.authenticate crypto clusterId authorization
  let events ← Async.ofExcept (parseAlertmanagerInput body)
  Tx.commit Write.apply do
    AlertReceiverService.authenticateTx crypto clusterId authorization
    let changed ← ingestEvents crypto cuid clusterId events 0
    pure ⟨events.length, changed⟩

end AlertIngestionService
end KubeNova.Monitoring
