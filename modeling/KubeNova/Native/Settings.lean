import KubeNova.Auth.State
import KubeNova.Common.Date
import KubeNova.Common.Url
import KubeNova.Foundation.JsValue
import KubeNova.Foundation.Transaction
import KubeNova.Native.Reconcile

/-!
# Saving the native access settings

`NativeSettingsService`: a save names the revision it was made from, and replaces the
row of the cluster while that is still the stored one.
-/

namespace KubeNova.Native

open KubeNova.Foundation KubeNova.Common KubeNova.Access

/-- The columns of a row of `NativeAccessConfig` that a synchronisation does not read. -/
structure NativeEndpoints where
  issuer : String
  audience : String
  jwksUri : String
  gatewayUrl : String
  updatedBy : String
  deriving Repr, DecidableEq

structure SettingsRow where
  config : NativeConfig
  endpoints : NativeEndpoints
  deriving Repr, DecidableEq

structure SettingsState where
  world : World
  endpoints : String → Option NativeEndpoints
  changes : List Auth.AuthorizationChange

abbrev SettingsHandler (α : Type) := Async Exception SettingsState α

namespace SettingsState

variable (s : SettingsState)

def setWorld (w : World) : SettingsState := { s with world := w }

/-- `nativeAccessConfig.findUnique`. -/
def row (clusterId : String) : Option SettingsRow :=
  match s.world.configs clusterId, s.endpoints clusterId with
  | some config, some endpoints => some ⟨config, endpoints⟩
  | _, _ => none

def setRow (clusterId : String) (row : SettingsRow) : SettingsState :=
  { s with
    world := { s.world with configs := Function.update s.world.configs clusterId (some row.config) }
    endpoints := Function.update s.endpoints clusterId (some row.endpoints) }

end SettingsState

/-- What `safeParse` makes of a valid body. -/
structure SettingsInput where
  enabled : Bool
  issuer : String
  audience : String
  jwksUri : String
  gatewayUrl : String
  revision : Nat
  deriving Repr, DecidableEq

def settingsKeys : List String :=
  ["enabled", "issuer", "audience", "jwksUri", "gatewayUrl", "revision"]

/-- `z.string().max(2048)`. -/
def endpointText (value : Js) : Option String :=
  value.text?.filter (Text.length · ≤ 2048)

/-- `z.string().trim().min(1).max(200)`. -/
def audienceText (value : Js) : Option String :=
  (value.text?.map Text.trim).filter fun text => 1 ≤ Text.length text ∧ Text.length text ≤ 200

/-- `z.number().int().min(0).max(2147483646)`. -/
def revisionNumber : Js → Option Nat
  | .number value => (Common.digitsValue value.text.toList).filter (· ≤ 2147483646)
  | _ => none

def enabledFlag : Js → Option Bool
  | .bool value => some value
  | _ => none

section Parse

variable (parseUrl : UrlParser)

/-- The refinement: three endpoints without a query, the keys at the issuer's origin. -/
def endpointsValid (issuer jwksUri gatewayUrl : String) : Bool :=
  match validatedEndpoint parseUrl issuer, validatedEndpoint parseUrl jwksUri,
    validatedEndpoint parseUrl gatewayUrl with
  | .ok issuer, .ok jwks, .ok gateway =>
      issuer.search == "" && jwks.search == "" && gateway.search == "" &&
        issuer.origin == jwks.origin && gateway.protocol == "https:"
  | _, _, _ => false

/-- `settings.safeParse(body)`, nothing where it does not succeed. -/
def parseSettings (body : Js) : Option SettingsInput := do
  match body with
  | .object fields =>
      if fields.all (fun field => settingsKeys.contains field.1) then
        let enabled ← enabledFlag (body.field "enabled")
        let issuer ← endpointText (body.field "issuer")
        let audience ← audienceText (body.field "audience")
        let jwksUri ← endpointText (body.field "jwksUri")
        let gatewayUrl ← endpointText (body.field "gatewayUrl")
        let revision ← revisionNumber (body.field "revision")
        if endpointsValid parseUrl issuer jwksUri gatewayUrl then
          some ⟨enabled, issuer, audience, jwksUri, gatewayUrl, revision⟩
        else none
      else none
  | _ => none

end Parse

def settingsChanged : Exception := .conflict "Native settings changed; reload before saving"

inductive SettingsWrite where
  | createConfig (clusterId : String) (row : SettingsRow)
  /-- `updateMany` on the cluster and the revision, which has to find the row. -/
  | updateConfig (clusterId : String) (revision : Nat) (row : SettingsRow)
  | createChange (change : Auth.AuthorizationChange)

def SettingsWrite.apply : SettingsWrite → SettingsState → Except Exception SettingsState
  | createConfig clusterId row, s =>
      if (s.world.configs clusterId).isSome then .error (.database "P2002")
      else .ok (s.setRow clusterId row)
  | updateConfig clusterId revision row, s =>
      if (s.world.configs clusterId).any (·.revision == revision) then .ok (s.setRow clusterId row)
      else .error settingsChanged
  | createChange change, s => .ok { s with changes := s.changes ++ [change] }

abbrev SettingsTx (α : Type) := Tx Exception SettingsState SettingsWrite α

/-- The row that replaces the settings: what was synchronised is no longer in force. -/
def SettingsInput.row (input : SettingsInput) (actorId : String) : SettingsRow where
  config := ⟨input.enabled, input.revision + 1, "pending", none, none, none⟩
  endpoints := ⟨input.issuer, input.audience, input.jwksUri, input.gatewayUrl, actorId⟩

def storeConfig (clusterId : String) (revision : Nat) (row : SettingsRow)
    (current : Option NativeConfig) : SettingsTx SettingsRow :=
  match current with
  | none => do
      Tx.write SettingsWrite.apply (.createConfig clusterId row)
      return row
  | some _ => do
      Tx.write SettingsWrite.apply (.updateConfig clusterId revision row)
      let saved ← Tx.read SettingsWrite.apply (·.row clusterId)
      Tx.ofExcept (match saved with
        | some row => .ok row
        | none => .error (.database "P2025"))

def saveBody (actorId clusterId : String) (input : SettingsInput) : SettingsTx SettingsRow := do
  let user ← Tx.read SettingsWrite.apply fun s =>
    s.world.directory.users.find? (·.id == actorId)
  Tx.ensure (user.any (·.isActive)) (.forbidden "Actor unavailable")
  Tx.ofExcept (assertAdministrationPermission (user.map (·.role)))
  let cluster ← Tx.read SettingsWrite.apply fun s => s.world.directory.clusters clusterId
  Tx.ensure (cluster.any ClusterRow.isLive) (.notFound "Cluster unavailable")
  let current ← Tx.read SettingsWrite.apply fun s => s.world.configs clusterId
  Tx.ensure ((current.map (·.revision)).getD 0 = input.revision) settingsChanged
  let saved ← storeConfig clusterId input.revision (input.row actorId) current
  Tx.write SettingsWrite.apply (.createChange ⟨actorId, none, input.revision + 1,
    "native-config-updated:" ++ clusterId⟩)
  return saved

/-- A unique index that was violated means that somebody else saved first. -/
def rethrowChanged {α : Type} (error : Exception) : SettingsHandler α :=
  Async.fail (if error = .database "P2002" then settingsChanged else error)

def save (parseUrl : UrlParser) (actor : Option Actor) (clusterId : String) (body : Js) :
    SettingsHandler SettingsRow := do
  Async.ofExcept (assertAdministrationPermission (actor.bind (·.role)))
  let actorId := (actor.bind (·.id)).getD ""
  Async.ensure (actorId ≠ "") (.forbidden "Actor identity required")
  Async.ensure (Text.trim clusterId ≠ "" ∧ Text.length clusterId ≤ 256)
    (.badRequest "Invalid cluster")
  let input ← Async.ofExcept (match parseSettings parseUrl body with
    | some input => .ok input
    | none => .error (.badRequest "Invalid native access settings"))
  Async.tryCatch (Tx.commit SettingsWrite.apply (saveBody actorId clusterId input)) rethrowChanged

/-- What a request was answered; a save with the cluster and the revision it named. -/
inductive SettingsResponse where
  | saved (clusterId : String) (expected : Option Nat) (row : SettingsRow)
  | reconciled (answer : ReconcileAnswer)

inductive IsSettingsHandler (crypto : Crypto) (parseUrl : UrlParser) :
    SettingsHandler SettingsResponse → Prop
  | save (actor : Option Actor) (clusterId : String) (body : Js) :
      IsSettingsHandler crypto parseUrl (save parseUrl actor clusterId body >>= fun row =>
        .done (.saved clusterId ((parseSettings parseUrl body).map (·.revision)) row))
  | reconcile (actor : Option Actor) (clusterId : String) :
      IsSettingsHandler crypto parseUrl
        ((reconcile crypto actor clusterId).zoom SettingsState.world (fun w s => s.setWorld w) >>=
          fun answer => .done (.reconciled answer))

def OutsideSettings (s t : SettingsState) : Prop :=
  t.world.configs = s.world.configs ∧ t.endpoints = s.endpoints

end KubeNova.Native
