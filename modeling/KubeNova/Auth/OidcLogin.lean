import KubeNova.Auth.Stores
import KubeNova.Common.Url
import KubeNova.Foundation.Payment

/-!
# Login through an OIDC provider

`OidcTransactionStore`, `OidcFlowService.begin` and `OidcProviderService`.  A login that was begun
waits in the key-value store, under its state and the binding of the browser, for the browser to
come back from the provider.  What the provider answers is a parameter of a request.
-/

namespace KubeNova.Auth

open KubeNova.Common KubeNova.Foundation

structure OidcConfig where
  issuer : String
  clientId : String
  redirectUri : String
  enabled : Bool

/-- Who has to log in again, and for what; undefined fields are `none`. -/
structure OidcActor where
  userId : String
  sessionId : String
  authzVersion : Int
  subject : String
  purpose : Option String
  targetUserId : Option String
  targetAuthzVersion : Option Int
  targetMfaVersion : Option Int
  deriving Repr, DecidableEq

structure OidcReauthentication extends OidcActor where
  requestedAt : Int

structure OidcTransaction where
  nonce : String
  codeVerifier : String
  issuer : String
  clientId : String
  redirectUri : String
  reauthentication : Option OidcReauthentication

inductive OidcEvent where
  | saved (key : String) (transaction : OidcTransaction) (time : Nat)
  | taken (key : String) (transaction : OidcTransaction) (time : Nat)

/-- The store, with what happened to it, newest first. -/
structure OidcWorld where
  now : Nat
  transactions : Table String (Expiring OidcTransaction)
  log : List OidcEvent

abbrev OidcHandler (α : Type) := Async Exception OidcWorld α

structure OidcIdentity where
  issuer : String
  subject : String

/-- `provider.serverMetadata()`; what is missing is empty. -/
structure ServerMetadata where
  authorizationEndpoint : String
  tokenEndpoint : String
  jwksUri : String

/-- The claims of a verified ID token; `authTime` is `none` unless it is a safe integer. -/
structure IdTokenClaims where
  sub : String
  iss : String
  authTime : Option Int

structure OidcAnswers where
  discovery : Except Exception ServerMetadata
  /-- `authorizationCodeGrant` with the expected state, the expected nonce and the code verifier. -/
  grant : String → String → String → Except Exception (Option IdTokenClaims)

structure OidcDraws where
  state : String
  nonce : String
  codeVerifier : String

structure OidcCallback where
  url : Url
  pathname : String
  /-- `searchParams.getAll('state')` -/
  states : List String

/-- `parseUrl` with the path beside it, and the base64url digest of a text. -/
structure OidcService where
  crypto : Crypto
  parseUrl : UrlParser
  pathname : String → String
  challenge : String → String

namespace OidcTransactionStore

variable (crypto : Crypto)

def key (state browserBinding : String) : Except Exception String :=
  if isToken state ∧ browserBinding ≠ "" then
    .ok ("kubenova:oidc:transaction:" ++ state ++ ":" ++ crypto.sha256 browserBinding)
  else .error (.unauthorized "Invalid OIDC login transaction")

def put (key : String) (transaction : OidcTransaction) (s : OidcWorld) : Bool × OidcWorld :=
  let (stored, transactions) := setNx s.now key transaction s.transactions
  (stored, { s with
    transactions := transactions
    log := if stored then .saved key transaction s.now :: s.log else s.log })

def take (key : String) (s : OidcWorld) : Option OidcTransaction × OidcWorld :=
  let (value, transactions) := getDel s.now key s.transactions
  (value, { s with
    transactions := transactions
    log := value.elim s.log fun transaction => .taken key transaction s.now :: s.log })

def save (state : String) (transaction : OidcTransaction) (browserBinding : String) :
    OidcHandler String := do
  let key ← Async.ofExcept (key crypto state browserBinding)
  let stored ← Async.exec (put key transaction)
  Async.ensure (stored = true)
    (.serviceUnavailable "OIDC login transaction storage unavailable")
  return state

def isComplete (transaction : OidcTransaction) : Bool :=
  [transaction.nonce, transaction.codeVerifier, transaction.issuer, transaction.clientId,
    transaction.redirectUri].all (· ≠ "")

def consume (state browserBinding : String) : OidcHandler OidcTransaction := do
  let key ← Async.ofExcept (key crypto state browserBinding)
  match ← Async.exec (take key) with
  | none => throw (.unauthorized "OIDC login transaction expired or already used")
  | some transaction =>
      Async.ensure (isComplete transaction = true) (.unauthorized "Invalid OIDC login transaction")
      return transaction

end OidcTransactionStore

variable (service : OidcService)

/-- `oidcConfigSchema.parse(input)` -/
def parseOidcConfig (input : OidcConfig) : Except Exception OidcConfig :=
  if (service.parseUrl input.issuer).isSome ∧ 1 ≤ Text.length input.clientId ∧
      Text.length input.clientId ≤ 200 ∧ (service.parseUrl input.redirectUri).isSome then .ok input
  else .error (.error "ZodError")

structure AuthorizationUrl where
  endpoint : String
  query : List (String × String)

namespace OidcFlowService

def createAuthorizationRequest (draws : OidcDraws) (input : OidcConfig)
    (authorizationEndpoint : String) : Except Exception AuthorizationUrl := do
  let config ← parseOidcConfig service input
  if !config.enabled then throw (.badRequest "OIDC 未启用")
  let _ ← validatedEndpoint service.parseUrl config.issuer
  let _ ← validatedEndpoint service.parseUrl authorizationEndpoint
  let _ ← validatedEndpoint service.parseUrl config.redirectUri
  return ⟨authorizationEndpoint, [("client_id", config.clientId),
    ("redirect_uri", config.redirectUri), ("response_type", "code"),
    ("scope", "openid profile email"), ("state", draws.state), ("nonce", draws.nonce),
    ("code_challenge", service.challenge draws.codeVerifier), ("code_challenge_method", "S256")]⟩

/-- `begin`; the state of the URL is the one the transaction is stored under. -/
def beginLogin (draws : OidcDraws) (input : OidcConfig) (authorizationEndpoint : String)
    (browserBinding : String) (reauthentication : Option OidcReauthentication) :
    OidcHandler AuthorizationUrl := do
  let request ← Async.ofExcept
    (createAuthorizationRequest service draws input authorizationEndpoint)
  let _ ← OidcTransactionStore.save service.crypto draws.state
    { nonce := draws.nonce, codeVerifier := draws.codeVerifier, issuer := input.issuer
      clientId := input.clientId, redirectUri := input.redirectUri
      reauthentication := reauthentication.map fun r =>
        { r with purpose := some (r.purpose.getD "enrollment") } } browserBinding
  return { request with query := request.query ++
    if reauthentication.isSome then [("prompt", "login"), ("max_age", "0")] else [] }

end OidcFlowService

namespace OidcProviderService

def discover (answers : OidcAnswers) (input : OidcConfig) : OidcHandler String := do
  let config ← Async.ofExcept (parseOidcConfig service input)
  Async.ensure (config.enabled = true) (.unauthorized "OIDC disabled")
  let _ ← Async.ofExcept (validatedEndpoint service.parseUrl config.issuer)
  let _ ← Async.ofExcept (validatedEndpoint service.parseUrl config.redirectUri)
  let answer ← Async.query fun _ => answers.discovery
  let metadata ← Async.ofExcept answer
  let _ ← Async.ofExcept ([metadata.authorizationEndpoint, metadata.tokenEndpoint,
    metadata.jwksUri].mapM fun endpoint =>
      if endpoint = "" then .error (.unauthorized "Incomplete OIDC provider metadata")
      else validatedEndpoint service.parseUrl endpoint)
  return metadata.authorizationEndpoint

def start (draws : OidcDraws) (answers : OidcAnswers) (input : OidcConfig)
    (browserBinding : String) : OidcHandler AuthorizationUrl := do
  let endpoint ← discover service answers input
  OidcFlowService.beginLogin service draws input endpoint browserBinding none

/-- The clock is in milliseconds, the times of the protocol are in seconds. -/
def validateReauthentication (now : Nat) (actor : OidcReauthentication) : Except Exception Unit :=
  let second : Int := (now / 1000 : Nat)
  if ¬([actor.userId, actor.sessionId, actor.subject].all fun value =>
        decide (0 < Text.length value ∧ Text.length value ≤ 1024)) = true ∨
      ¬isVersion actor.authzVersion ∨ ¬actor.requestedAt.natAbs < 2 ^ 53 ∨
      second < actor.requestedAt ∨ actor.requestedAt < second - 300 then
    .error (.unauthorized "Invalid reauthentication context")
  else if actor.purpose.getD "enrollment" = "mfa-reset" then
    if (actor.targetUserId.all fun id => id = "" ∨ 256 < Text.length id) ∨
        (actor.targetAuthzVersion.all fun version => ¬isVersion version) ∨
        (actor.targetMfaVersion.all fun version => ¬isVersion version) then
      .error (.unauthorized "Invalid reset target")
    else .ok ()
  else if actor.purpose.getD "enrollment" ≠ "enrollment" ∨ actor.targetUserId ≠ none ∨
      actor.targetAuthzVersion ≠ none ∨ actor.targetMfaVersion ≠ none then
    .error (.unauthorized "Invalid reauthentication purpose")
  else .ok ()

def startReauthentication (draws : OidcDraws) (answers : OidcAnswers) (input : OidcConfig)
    (browserBinding : String) (actor : OidcReauthentication) : OidcHandler AuthorizationUrl := do
  let now ← Async.query (·.now)
  Async.ofExcept (validateReauthentication now actor)
  let endpoint ← discover service answers input
  OidcFlowService.beginLogin service draws input endpoint browserBinding (some actor)

/-- An actor who comes back, perhaps with the time of the request. -/
abbrev Returning := OidcActor × Option Int

def isUnchanged : Option OidcReauthentication → Option Returning → Bool
  | none, none => true
  | some original, some (actor, requestedAt) =>
      original.toOidcActor = { actor with purpose := some (actor.purpose.getD "enrollment") } ∧
        requestedAt.all (original.requestedAt = ·)
  | _, _ => false

def checkPurpose (now : Nat) (original : Option OidcReauthentication)
    (actor : Option Returning) : Except Exception Unit := do
  if let some original := original then
    validateReauthentication now original
    if let some actor := actor then
      validateReauthentication now { actor.1 with requestedAt := original.requestedAt }
  if isUnchanged original actor then .ok ()
  else .error (.unauthorized "OIDC transaction purpose or identity changed")

def identityOf (now : Nat) (transaction : OidcTransaction) (actor : Option Returning)
    (claims : Option IdTokenClaims) : Except Exception OidcIdentity :=
  match claims with
  | none => .error (.error "Invalid identity")
  | some claims =>
      if claims.sub = "" ∨ claims.iss ≠ transaction.issuer then
        .error (.error "Invalid identity")
      else if actor.any fun actor => claims.sub ≠ actor.1.subject ∨
          ¬(transaction.reauthentication.any fun original => claims.authTime.any fun time =>
            original.requestedAt - 30 ≤ time ∧ time ≤ ((now / 1000 : Nat) : Int) + 30) then
        .error (.error "Fresh authentication required")
      else .ok ⟨claims.iss, claims.sub⟩

def exchange (answers : OidcAnswers) (input : OidcConfig) (callback : OidcCallback)
    (browserBinding : String) (actor : Option Returning) : OidcHandler OidcIdentity := do
  let redirect ← Async.ofExcept (validatedEndpoint service.parseUrl input.redirectUri)
  Async.ensure (callback.url.origin = redirect.origin ∧
      callback.pathname = service.pathname input.redirectUri ∧ callback.url.hash = "" ∧
      callback.url.username = "" ∧ callback.url.password = "" ∧ callback.states.length = 1)
    (.unauthorized "Invalid OIDC callback")
  let state := callback.states.headD ""
  let transaction ← OidcTransactionStore.consume service.crypto state browserBinding
  let now ← Async.query (·.now)
  Async.ofExcept (checkPurpose now transaction.reauthentication actor)
  Async.ensure (transaction.issuer = input.issuer ∧ transaction.clientId = input.clientId ∧
    transaction.redirectUri = input.redirectUri) (.unauthorized "OIDC configuration changed")
  tryCatch (do
      let _ ← discover service answers input
      let answer ← Async.query fun _ =>
        answers.grant state transaction.nonce transaction.codeVerifier
      let claims ← Async.ofExcept answer
      let now ← Async.query (·.now)
      Async.ofExcept (identityOf now transaction actor claims))
    fun _ => throw (.unauthorized "OIDC authentication failed")

def complete (answers : OidcAnswers) (input : OidcConfig) (callback : OidcCallback)
    (browserBinding : String) : OidcHandler OidcIdentity :=
  exchange service answers input callback browserBinding none

def completeReauthentication (answers : OidcAnswers) (input : OidcConfig) (callback : OidcCallback)
    (browserBinding : String) (actor : Returning) : OidcHandler OidcIdentity :=
  exchange service answers input callback browserBinding (some actor)

end OidcProviderService

/-! ## What an answer rests on -/

/-- A completed login: the request, what the provider answered, and who has logged in. -/
structure OidcCompletion where
  answers : OidcAnswers
  input : OidcConfig
  state : String
  browserBinding : String
  actor : Option OidcProviderService.Returning
  identity : OidcIdentity

inductive OidcAnswer where
  | started (url : AuthorizationUrl)
  | completed (login : OidcCompletion)

def completion (answers : OidcAnswers) (input : OidcConfig) (callback : OidcCallback)
    (browserBinding : String) (actor : Option OidcProviderService.Returning)
    (identity : OidcIdentity) : OidcAnswer :=
  .completed ⟨answers, input, callback.states.headD "", browserBinding, actor, identity⟩

/-- The requests that begin a login or a reauthentication, and those of browsers that come back. -/
inductive IsOidcRequest : OidcHandler OidcAnswer → Prop
  | start draws answers input browserBinding : IsOidcRequest do
      return .started (← OidcProviderService.start service draws answers input browserBinding)
  | startReauthentication draws answers input browserBinding actor : IsOidcRequest do
      return .started (← OidcProviderService.startReauthentication service draws answers input
        browserBinding actor)
  | complete answers input callback browserBinding : IsOidcRequest do
      return completion answers input callback browserBinding none
        (← OidcProviderService.complete service answers input callback browserBinding)
  | completeReauthentication answers input callback browserBinding actor : IsOidcRequest do
      return completion answers input callback browserBinding (some actor)
        (← OidcProviderService.completeReauthentication service answers input callback
          browserBinding actor)

inductive OidcStep (s : OidcWorld) : OidcWorld → Prop
  | clock (now : Nat) : OidcStep s { s with now := now }
  | put (key : String) (transaction : OidcTransaction) :
      OidcStep s (OidcTransactionStore.put key transaction s).2
  | take (key : String) : OidcStep s (OidcTransactionStore.take key s).2

def OidcEvent.key : OidcEvent → String
  | .saved key _ _ => key
  | .taken key _ _ => key

def OidcEvent.isTaken (key : String) : OidcEvent → Bool
  | .saved _ _ _ => false
  | .taken k _ _ => k == key

/-- The last that happened under the key is that the transaction was saved, at this time. -/
def LastSaved (key : String) (transaction : OidcTransaction) (time : Nat) : List OidcEvent → Prop
  | [] => False
  | e :: past => e = .saved key transaction time ∨
      (e.key ≠ key ∧ LastSaved key transaction time past)

/-- What is taken has been saved less than five minutes before, and not been taken since. -/
def TakenOnce : List OidcEvent → Prop
  | [] => True
  | .saved _ _ _ :: past => TakenOnce past
  | .taken key transaction time :: past =>
      (∃ savedAt, LastSaved key transaction savedAt past ∧ time < savedAt + 300000) ∧
        TakenOnce past

structure OidcWorld.Consistent (s : OidcWorld) : Prop where
  waiting : ∀ key e, s.transactions.lookup key = some e →
    ∃ time, LastSaved key e.value time s.log ∧ e.expiresAt = time + 300000
  taken : TakenOnce s.log

namespace OidcTransactionStore

theorem put_cases (key : String) (transaction : OidcTransaction) (s : OidcWorld) :
    (put key transaction s).2 = s ∨ (put key transaction s).2 =
      { s with
        transactions := AList.insert key ⟨transaction, s.now + 300000⟩ s.transactions
        log := .saved key transaction s.now :: s.log } := by
  unfold put setNx
  cases s.transactions.lookup key with
  | none => exact .inr rfl
  | some e =>
      by_cases hlive : s.now < e.expiresAt
      · exact .inl (by simp only [if_pos hlive]; rfl)
      · exact .inr (by simp only [if_neg hlive]; rfl)

theorem take_cases (key : String) (s : OidcWorld) :
    take key s = (none, { s with transactions := s.transactions.erase key }) ∨
      ∃ e, s.transactions.lookup key = some e ∧ s.now < e.expiresAt ∧ take key s =
        (some e.value, { s with
          transactions := s.transactions.erase key
          log := .taken key e.value s.now :: s.log }) := by
  unfold take getDel
  cases hfound : s.transactions.lookup key with
  | none => exact .inl rfl
  | some e =>
      by_cases hlive : s.now < e.expiresAt
      · exact .inr ⟨e, rfl, hlive, by simp only [if_pos hlive, Option.elim_some]⟩
      · exact .inl (by simp only [if_neg hlive, Option.elim_none])

end OidcTransactionStore

open OidcTransactionStore

theorem OidcWorld.Consistent.step {s t : OidcWorld} (h : s.Consistent) (hstep : OidcStep s t) :
    t.Consistent := by
  cases hstep with
  | clock now => exact ⟨h.waiting, h.taken⟩
  | put key transaction =>
      rcases put_cases key transaction s with hsame | hstored
      · rw [hsame]
        exact h
      rw [hstored]
      refine ⟨fun k e he => ?_, h.taken⟩
      by_cases hk : k = key
      · subst hk
        obtain rfl := Option.some.inj ((AList.lookup_insert _).symm.trans he)
        exact ⟨s.now, .inl rfl, rfl⟩
      · obtain ⟨time, hlast, hexpires⟩ := h.waiting k e ((AList.lookup_insert_ne hk).symm.trans he)
        exact ⟨time, .inr ⟨Ne.symm hk, hlast⟩, hexpires⟩
  | take key =>
      have hothers : ∀ k e, (s.transactions.erase key).lookup k = some e →
          k ≠ key ∧ s.transactions.lookup k = some e := by
        intro k e he
        by_cases hk : k = key
        · subst hk
          rw [AList.lookup_erase] at he
          cases he
        · exact ⟨hk, (AList.lookup_erase_ne hk).symm.trans he⟩
      rcases take_cases key s with hnone | ⟨e, he, hlive, htaken⟩
      · rw [hnone]
        exact ⟨fun k e he => h.waiting k e (hothers k e he).2, h.taken⟩
      · rw [htaken]
        obtain ⟨time, hlast, hexpires⟩ := h.waiting key e he
        refine ⟨fun k e' he' => ?_, ⟨⟨time, hlast, hexpires ▸ hlive⟩, h.taken⟩⟩
        obtain ⟨hk, he'⟩ := hothers k e' he'
        obtain ⟨time', hlast', hexpires'⟩ := h.waiting k e' he'
        exact ⟨time', .inr ⟨Ne.symm hk, hlast'⟩, hexpires'⟩

def oidcProtocol : Protocol OidcWorld where
  inv := OidcWorld.Consistent
  guar := OidcStep
  refl s := .clock s.now
  preserves := OidcWorld.Consistent.step

theorem OidcStep.log_suffix {s t : OidcWorld} (hstep : OidcStep s t) : s.log <:+ t.log := by
  cases hstep with
  | clock now => exact List.suffix_refl _
  | put key transaction =>
      rcases put_cases key transaction s with h | h
      · exact ⟨[], by rw [h, List.nil_append]⟩
      · rw [h]
        exact List.suffix_cons _ _
  | take key =>
      rcases take_cases key s with h | ⟨e, -, -, h⟩
      · exact h ▸ List.suffix_refl _
      · exact h ▸ List.suffix_cons _ _

theorem returns_beginLogin (draws : OidcDraws) (input : OidcConfig)
    (endpoint browserBinding : String) (actor : Option OidcReauthentication) :
    Returns oidcProtocol.contract (fun _ => True)
      (OidcFlowService.beginLogin service draws input endpoint browserBinding actor)
      fun _ _ => True := by
  refine .ofExcept_bind Stable.true fun _ _ => .bind (S := fun _ _ => True) ?_ fun _ =>
    .done Stable.true fun _ _ => trivial
  refine .ofExcept_bind Stable.true fun _ _ => Triple.exec_bind Stable.true fun s _ _ =>
    ⟨.put _ _, Returns.guards (p := fun _ => True) ?_ trivial⟩
  exact .ensure_bind Stable.true fun _ => .done Stable.true fun _ _ => trivial

/-- Discovery changes nothing. -/
theorem returns_discover {p : OidcWorld → Prop} (hp : Stable oidcProtocol.contract p)
    (answers : OidcAnswers) (input : OidcConfig) : Returns oidcProtocol.contract p
      (OidcProviderService.discover service answers input) fun _ => p :=
  .ofExcept_bind hp fun _ _ => .ensure_bind hp fun _ => .ofExcept_bind hp fun _ _ =>
    .ofExcept_bind hp fun _ _ => .read_bind hp fun _ => .ofExcept_bind hp fun _ _ =>
    .ofExcept_bind hp fun _ _ => .done hp fun _ h => h

/-- The transaction has waited in the store under this state and binding. -/
def WasTaken (state browserBinding : String) (transaction : OidcTransaction) (s : OidcWorld) :
    Prop :=
  ∃ key time, OidcTransactionStore.key service.crypto state browserBinding = .ok key ∧
    .taken key transaction time ∈ s.log

theorem stable_wasTaken (state browserBinding : String) (transaction : OidcTransaction) :
    Stable oidcProtocol.contract (WasTaken service state browserBinding transaction) :=
  fun _ _ ⟨key, time, hkey, hmem⟩ hstep => ⟨key, time, hkey, hstep.2.log_suffix.mem hmem⟩

theorem returns_consume (state browserBinding : String) :
    Returns oidcProtocol.contract (fun _ => True)
      (OidcTransactionStore.consume service.crypto state browserBinding)
      (WasTaken service state browserBinding) := by
  refine .ofExcept_bind Stable.true fun key hkey => Triple.exec_bind Stable.true fun s _ _ =>
    ⟨.take key, ?_⟩
  rcases take_cases key s with h | ⟨e, -, -, h⟩
  · rw [h]
    exact (Returns.fail Stable.true).guards trivial
  · rw [h]
    have hstable := stable_wasTaken service state browserBinding e.value
    have hrest : Returns oidcProtocol.contract (WasTaken service state browserBinding e.value)
        (Async.ensure (isComplete e.value = true)
          (Exception.unauthorized "Invalid OIDC login transaction") >>= fun _ => .done e.value)
        (WasTaken service state browserBinding) :=
      .ensure_bind hstable fun _ => .done hstable fun _ h => h
    exact hrest.guards ⟨key, s.now, hkey, List.mem_cons_self⟩

/-- The login rests on the transaction: the provider has granted its identity for the nonce and the
code verifier of the transaction. -/
structure OidcCompletion.IsOf (login : OidcCompletion) (transaction : OidcTransaction) : Prop where
  config : transaction.issuer = login.input.issuer ∧ transaction.clientId = login.input.clientId ∧
    transaction.redirectUri = login.input.redirectUri
  unchanged : OidcProviderService.isUnchanged transaction.reauthentication login.actor = true
  granted : ∃ claims, login.answers.grant login.state transaction.nonce transaction.codeVerifier =
    .ok (some claims) ∧ login.identity = ⟨transaction.issuer, claims.sub⟩ ∧
      ∀ actor ∈ login.actor, claims.sub = actor.1.subject

def OidcCompletion.IsBegun (login : OidcCompletion) (s : OidcWorld) : Prop :=
  ∃ transaction, WasTaken service login.state login.browserBinding transaction s ∧
    login.IsOf transaction

namespace OidcProviderService

theorem checkPurpose_ok {now : Nat} {original : Option OidcReauthentication}
    {actor : Option Returning} (h : checkPurpose now original actor = .ok ()) :
    isUnchanged original actor = true := by
  by_contra hchanged
  unfold checkPurpose at h
  simp only [hchanged] at h
  cases original with
  | none => cases h
  | some original =>
      obtain ⟨_, -, h⟩ := exists_of_bind_eq_ok h
      cases actor with
      | none => cases h
      | some actor =>
          obtain ⟨_, -, h⟩ := exists_of_bind_eq_ok h
          cases h

theorem identityOf_ok {now : Nat} {transaction : OidcTransaction} {actor : Option Returning}
    {answer : Option IdTokenClaims} {identity : OidcIdentity}
    (h : identityOf now transaction actor answer = .ok identity) :
    ∃ claims, answer = some claims ∧ identity = ⟨transaction.issuer, claims.sub⟩ ∧
      ∀ a ∈ actor, claims.sub = a.1.subject := by
  cases answer with
  | none => cases h
  | some claims =>
      simp only [identityOf] at h
      split_ifs at h with hissuer hsubject
      push Not at hissuer
      obtain rfl := Except.ok.inj h
      refine ⟨claims, rfl, by rw [hissuer.2], fun a ha => by_contra fun hne => hsubject ?_⟩
      rw [Option.mem_def] at ha
      subst ha
      simp [hne]

theorem returns_exchange (answers : OidcAnswers) (input : OidcConfig) (callback : OidcCallback)
    (browserBinding : String) (actor : Option Returning) :
    Returns oidcProtocol.contract (fun _ => True)
      (exchange service answers input callback browserBinding actor) fun identity =>
        OidcCompletion.IsBegun service
          ⟨answers, input, callback.states.headD "", browserBinding, actor, identity⟩ := by
  unfold exchange
  refine .ofExcept_bind Stable.true fun redirect _ => .ensure_bind Stable.true fun _ =>
    .bind (returns_consume service _ _) fun transaction => ?_
  have hstable := stable_wasTaken service (callback.states.headD "") browserBinding transaction
  refine .read_bind hstable fun now => .ofExcept_bind hstable fun _ hpurpose =>
    .ensure_bind hstable fun hconfig => .tryCatch ?_ fun _ => .fail Stable.true
  refine .bind (returns_discover service hstable answers input) fun _ => .query_bind hstable
    fun _ htaken _ => ⟨_, htaken, .ofExcept_bind hstable fun claims hgrant =>
      .read_bind hstable fun now => ?_⟩
  cases hidentity : identityOf now transaction actor claims with
  | error e => exact .fail hstable
  | ok identity =>
      obtain ⟨claims, rfl, hgranted⟩ := identityOf_ok hidentity
      exact .done hstable fun _ htaken => ⟨transaction, htaken, hconfig, checkPurpose_ok hpurpose,
        claims, hgrant, hgranted⟩

end OidcProviderService

def OidcWorld.takenCount (key : String) (s : OidcWorld) : Nat := s.log.countP (·.isTaken key)

def OidcAnswer.completes (key : String) : OidcAnswer → Bool
  | .started _ => false
  | .completed login =>
      match OidcTransactionStore.key service.crypto login.state login.browserBinding with
      | .ok k => k == key
      | .error _ => false

theorem pays_consume {state browserBinding key : String}
    (hkey : OidcTransactionStore.key service.crypto state browserBinding = .ok key) :
    Pays (OidcWorld.takenCount key) (fun _ => true)
      (OidcTransactionStore.consume service.crypto state browserBinding) := by
  unfold OidcTransactionStore.consume
  rw [hkey]
  refine Pays.exec_bind fun s => ?_
  rcases take_cases key s with h | ⟨e, -, -, h⟩
  · rw [h]
    exact .inr trivial
  · rw [h]
    refine .inl ?_
    have htaken : (OidcEvent.taken key e.value s.now).isTaken key = true := beq_self_eq_true key
    simp only [OidcWorld.takenCount, List.countP_cons, htaken, if_true]
    omega

theorem pays_exchange (key : String) (answers : OidcAnswers) (input : OidcConfig)
    (callback : OidcCallback) (browserBinding : String)
    (actor : Option OidcProviderService.Returning) :
    Pays (OidcWorld.takenCount key) (OidcAnswer.completes service key)
      (OidcProviderService.exchange service answers input callback browserBinding actor >>=
        fun identity => .done (completion answers input callback browserBinding actor identity)) := by
  by_cases hkey : OidcTransactionStore.key service.crypto (callback.states.headD "")
      browserBinding = .ok key
  · exact .bind (.of_bind fun _ => .of_bind fun _ => .bind (pays_consume service hkey))
  · refine .of_bind fun identity => ?_
    simp only [Pays, completion, OidcAnswer.completes]
    split
    · rename_i k hk
      exact beq_eq_false_iff_ne.mpr fun heq => hkey (heq ▸ hk)
    · rfl

theorem IsOidcRequest.pays {h : OidcHandler OidcAnswer} (hh : IsOidcRequest service h)
    (key : String) : Pays (OidcWorld.takenCount key) (OidcAnswer.completes service key) h := by
  cases hh with
  | start => exact .of_bind fun _ => rfl
  | startReauthentication => exact .of_bind fun _ => rfl
  | complete => exact pays_exchange service key _ _ _ _ _
  | completeReauthentication => exact pays_exchange service key _ _ _ _ _

/-- What a request has answered, the store bears out. -/
def OidcAnswer.IsBorneOut (s : OidcWorld) : OidcAnswer → Prop
  | .started _ => True
  | .completed login => login.IsBegun service s

theorem returns_completion (answers : OidcAnswers) (input : OidcConfig) (callback : OidcCallback)
    (browserBinding : String) (actor : Option OidcProviderService.Returning) :
    Returns oidcProtocol.contract (fun _ => True)
      (OidcProviderService.exchange service answers input callback browserBinding actor >>=
        fun identity => .done (completion answers input callback browserBinding actor identity))
      fun a s => a.IsBorneOut service s := by
  refine .bind (OidcProviderService.returns_exchange service _ _ _ _ _) fun identity => .done ?_
    fun _ h => h
  rintro s t ⟨transaction, htaken, hrest⟩ hstep
  exact ⟨transaction, stable_wasTaken service _ _ _ s t htaken hstep, hrest⟩

theorem IsOidcRequest.returns {h : OidcHandler OidcAnswer} (hh : IsOidcRequest service h) :
    Returns oidcProtocol.contract (fun _ => True) h fun a s => a.IsBorneOut service s := by
  cases hh with
  | start draws answers input browserBinding =>
      exact .bind (S := fun _ _ => True)
        (.bind (returns_discover service Stable.true answers input) fun _ =>
          returns_beginLogin service _ _ _ _ _)
        fun _ => .done Stable.true fun _ _ => trivial
  | startReauthentication draws answers input browserBinding actor =>
      exact .bind (S := fun _ _ => True)
        (.read_bind Stable.true fun _ => .ofExcept_bind Stable.true fun _ _ =>
          .bind (returns_discover service Stable.true answers input) fun _ =>
            returns_beginLogin service _ _ _ _ _)
        fun _ => .done Stable.true fun _ _ => trivial
  | complete => exact returns_completion service _ _ _ _ _
  | completeReauthentication => exact returns_completion service _ _ _ _ _

/-- What holds of the logins while the requests of any number of browsers are served together. -/
structure LoginsOnce (c : Pool Exception OidcWorld OidcAnswer) : Prop where
  taken : TakenOnce c.shared.log
  begun : ∀ login, .done (.completed login) ∈ c.handlers → login.IsBegun service c.shared
  once : ∀ key, c.handlers.countP (·.counted (OidcAnswer.completes service key)) ≤
    c.shared.takenCount key

def clockTurns (s t : OidcWorld) : Prop := ∃ now, t = { s with now := now }

/-- However the requests overlap and whatever the clocks show, a login is completed only where it
was begun, less than five minutes before it is taken up, and at most once. -/
theorem oidc_logins_once {now : Nat} {c : Pool Exception OidcWorld OidcAnswer}
    (hc : Reach (IsOidcRequest service) clockTurns ⟨now, ∅, []⟩ c) : LoginsOnce service c := by
  have hinit : oidcProtocol.inv ⟨now, ∅, []⟩ := ⟨fun _ _ h => (by cases h), trivial⟩
  have hstart : ∀ h s, IsOidcRequest service h → oidcProtocol.inv s →
      Guards oidcProtocol.contract
        (fun r s => ∀ a, r = .ok a → OidcAnswer.IsBorneOut service s a) h s :=
    fun _ _ hh _ => (hh.returns service).guards trivial
  have henv : ∀ s t, oidcProtocol.inv s → clockTurns s t → oidcProtocol.guar s t := by
    rintro s _ - ⟨now, rfl⟩
    exact .clock now
  have hsafe := (Protocol.reachable hstart henv hinit hc).1
  refine ⟨hsafe.inv.taken, fun login hlogin => ?_, fun key => ?_⟩
  · exact Guards.done_iff.mp (hsafe.handlers _ hlogin) _ .refl _ rfl
  · exact Protocol.answers_le_paid hstart henv
      (fun _ _ _ hstep => hstep.log_suffix.sublist.countP_le) (fun _ hh => hh.pays service key)
      hinit hc

def sampleOidc : OidcService :=
  ⟨.ofDigests [], fun _ => some ⟨"https:", "idp", "", "", "", "", "https://idp"⟩, id, id⟩

def sampleCallback (origin : String) : OidcCallback :=
  ⟨⟨"https:", "idp", "", "", "", "", origin⟩, "cb", [String.ofList (List.replicate 43 'a')]⟩

/-- A browser comes back twice with one login, and both requests are served at the same time. -/
def repeatedLogin : Pool Exception OidcWorld OidcAnswer :=
  let input : OidcConfig := ⟨"idp", "app", "cb", true⟩
  let answers : OidcAnswers := ⟨.ok ⟨"a", "t", "k"⟩, fun _ _ _ => .ok (some ⟨"ann", "idp", none⟩)⟩
  let comeBack : OidcHandler OidcAnswer := do
    return completion answers input (sampleCallback "https://idp") "b" none
      (← OidcProviderService.complete sampleOidc answers input (sampleCallback "https://idp") "b")
  let start : OidcHandler OidcAnswer := do
    return .started (← OidcProviderService.start sampleOidc
      ⟨String.ofList (List.replicate 43 'a'), "n", "v"⟩ answers input "b")
  (⟨⟨0, ∅, []⟩, [start, comeBack, comeBack]⟩ : Pool Exception OidcWorld OidcAnswer).play
    [0, 0, 1, 2, 1, 1, 1, 1]

theorem repeatedLogin_once : repeatedLogin.handlers.countP (·.counted fun
      | .completed _ => true
      | .started _ => false) = 1 ∧ LoginsOnce sampleOidc repeatedLogin := by
  refine ⟨by decide +kernel, @oidc_logins_once sampleOidc 0 _ ?_⟩
  exact Reach.play (Reach.arrive_all .refl _ (by
    simp only [List.mem_cons, List.not_mem_nil, or_false]
    rintro h (rfl | rfl | rfl)
    · exact .start _ _ _ _
    · exact .complete _ _ _ _
    · exact .complete _ _ _ _)) _

end KubeNova.Auth
