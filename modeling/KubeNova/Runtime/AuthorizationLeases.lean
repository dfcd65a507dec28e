import KubeNova.Access.ClusterAccess
import KubeNova.Foundation.RelyGuarantee
import KubeNova.Native.Gateway
import KubeNova.Runtime.RuntimeTokens

/-!
# Leases of authorized streams

A stream stays open after the request that authorized it.  It holds a lease: a registration at
`AuthorizationInvalidation`, which listens to the database and aborts the streams of a user whose
authorization changed.  `createRuntimeAuthorizationLease` and `openNativeRead` register between two
checks.  Times are milliseconds.
-/

namespace KubeNova.Runtime

open KubeNova.Foundation KubeNova.Common KubeNova.Access KubeNova.Native

/-! ## The listener -/

/-- A message of the LISTEN connection, its payload as `JSON.parse` reads it. -/
structure Notification where
  channel : String
  event : Option Js

/-- A controller that is not aborted, and when its timer is due. -/
structure LeaseStream where
  id : Nat
  userId : String
  dueAt : Nat
  deriving Repr, DecidableEq

structure AuthorizationInvalidation where
  schema : String
  ready : Bool
  streams : List LeaseStream
  next : Nat

namespace AuthorizationInvalidation

variable (l : AuthorizationInvalidation)

def abortWhere (aborts : LeaseStream → Bool) : AuthorizationInvalidation :=
  { l with streams := l.streams.filter fun stream => !aborts stream }

def invalidateAll : AuthorizationInvalidation :=
  { l.abortWhere fun _ => true with ready := false }

def close (id : Nat) : AuthorizationInvalidation := l.abortWhere (·.id == id)

def runTimers (now : Nat) : AuthorizationInvalidation :=
  l.abortWhere fun stream => decide (stream.dueAt ≤ now)

/-- The schema and the user of an event; `none` inside for all users, outside for a malformed one. -/
def readEvent : Option Js → Option (String × Option String)
  | some (.object fields) => match fields.lookup "schema", fields.lookup "userId" with
      | some (.string schema), some .null => some (schema, none)
      | some (.string schema), some (.string userId) => some (schema, some userId)
      | _, _ => none
  | _ => none

def onNotification (message : Notification) : AuthorizationInvalidation :=
  if message.channel ≠ "kubenova_authorization" then l
  else match readEvent message.event with
    | none => l.invalidateAll
    | some (schema, userId) =>
        if schema ≠ l.schema then l
        else l.abortWhere fun stream => userId.all (· == stream.userId)

def register (now : Nat) (userId : String) (expiresAt : Nat) :
    Except Exception Nat × AuthorizationInvalidation :=
  if l.ready = false ∨ userId = "" ∨ expiresAt ≤ now then
    (.error (.error "Authorization stream unavailable"), l)
  else
    -- Fail early instead of overflowing the timer range for a malformed long lease.
    (.ok l.next, { l with
      next := l.next + 1
      streams := l.streams ++ [⟨l.next, userId, now + min (expiresAt - now) 2147483647⟩] })

def isAborted (id : Nat) : Bool := !l.streams.any (·.id == id)

end AuthorizationInvalidation

structure RuntimeSession where
  authzVersion : Option Nat
  userId : Option String
  type : String
  clusterId : String
  «namespace» : String
  pod : String
  container : String
  expiresAt : Nat
  closedAt : Option Nat
  deriving Repr, DecidableEq

/-- `timersAt` is when the timers last ran.  `inFlight` are the notifications the database has sent
and the listener has not handled; `deleted` are the users that were deleted. -/
structure LeaseWorld where
  now : Nat
  timersAt : Nat
  users : String → Option UserRow
  deleted : List String
  sessions : String → Option RuntimeSession
  tables : AccessTables
  readNamespace : String → String → Option String
  listener : AuthorizationInvalidation
  inFlight : List Notification

abbrev LeaseHandler (α : Type) := Async Exception LeaseWorld α

def check {α : Type} (read : LeaseWorld → Except Exception α) : LeaseHandler α :=
  .query read >>= .ofExcept

def LeaseWorld.findSessionById (w : LeaseWorld) (id : String) :
    Option (RuntimeSession × UserRow) := do
  let session ← w.sessions id
  let user ← session.userId.bind w.users
  if user.isActive ∧ session.authzVersion = some user.authzVersion then some (session, user)
  else none

/-! ## The check of a session's token -/

inductive RuntimeSessionValidationCode where
  | tokenFormatInvalid
  | tokenSignatureInvalid
  | tokenPayloadInvalid
  | tokenExpired
  | tokenSessionMismatch
  | tokenPathMismatch
  | sessionNotFound
  | sessionClosed
  | sessionAccessRevoked
  | sessionExpired
  deriving Repr, DecidableEq

structure RuntimeConfig where
  mac : TokenMac
  runtimeTokenSecret : String
  /-- `KUBENOVA_AUTHZ_ENFORCE`. -/
  enforce : Bool

structure ValidateRuntimeSessionTokenInput where
  sessionId : String
  runtimeToken : Option RuntimeToken
  expectedPath : String

structure ValidatedToken where
  userId : String
  exp : Int
  authzVersion : Nat
  deriving Repr, DecidableEq

abbrev Claims := List (String × ClaimValue)

def verifyRuntimeToken (c : RuntimeConfig) (token : Option RuntimeToken) (now : Nat) :
    Except RuntimeSessionValidationCode (Claims × Int) :=
  match token with
  | none => .error .tokenFormatInvalid
  | some token =>
      if token.signature ≠ some (c.mac c.runtimeTokenSecret token.header token.payload) then
        .error .tokenSignatureInvalid
      else match token.payload with
        | none => .error .tokenPayloadInvalid
        | some claims => match claims.lookup "exp" with
            | some (.number (.digits exp)) =>
                if exp ≤ (now / 1000 : Nat) then .error .tokenExpired else .ok (claims, exp)
            | _ => .error .tokenPayloadInvalid

def RuntimeSession.owner (session : RuntimeSession) : String := session.userId.getD ""

def RuntimeSession.matchesClaims (session : RuntimeSession) (claims : Claims) : Bool :=
  [("userId", session.owner), ("type", session.type), ("clusterId", session.clusterId),
    ("namespace", session.namespace), ("pod", session.pod), ("container", session.container)].all
    fun field => claims.lookup field.1 == some (.string field.2)

/-- A refusal that another rule may still make up for; other errors are passed on. -/
def isRefusal : Exception → Bool
  | .forbidden _ => true
  | .notFound _ => true
  | _ => false

def RuntimeSession.assertAccess (session : RuntimeSession) (user : UserRow) (w : LeaseWorld) :
    Except Exception ClusterAccessContext :=
  let subject : ClusterAccessSubject := ⟨some user.id, none, some user.role⟩
  if session.type = "logs" then w.tables.assertCanRead w.now subject session.clusterId
  else w.tables.assertCanMutate w.now subject session.clusterId

def RuntimeSession.request (session : RuntimeSession) (uid : String) : AuthorizationRequest :=
  ⟨session.owner, session.clusterId, some uid, some (if session.type = "logs" then .logs else .exec), false⟩

def limitExpiry (exp : Int) : Option Nat → Int
  | none => exp
  | some stop => min exp (stop / 1000 : Nat)

def RuntimeSession.grantedUntil (session : RuntimeSession) (exp : Int) :
    LeaseHandler (Option Int) :=
  .query (fun w => resolveNamespace w.readNamespace session.clusterId session.namespace) >>=
    fun resolved => match resolved with
      | .error e => if isRefusal e then .done none else .fail e
      | .ok uid =>
          .query (fun w => w.tables.directory.authorize (session.request uid) w.now) >>=
            fun decision =>
              .done (if decision.allowed then some (limitExpiry exp decision.expiresAt) else none)

/-- The part of `validateSessionTokenDetailed` after the session was found. -/
def RuntimeSession.validUntil (c : RuntimeConfig) (session : RuntimeSession) (user : UserRow)
    (claims : Claims) (exp : Int) : LeaseHandler (Except RuntimeSessionValidationCode Int) :=
  if session.owner = "" ∨ session.matchesClaims claims = false then
    .done (.error .tokenSessionMismatch)
  else if session.closedAt.isSome then .done (.error .sessionClosed)
  else .query (fun w => decide (session.expiresAt ≤ w.now)) >>= fun expired =>
    if expired then .done (.error .sessionExpired)
    else .query (session.assertAccess user) >>= fun access =>
      let exp := limitExpiry exp (some session.expiresAt)
      match access with
      | .ok context =>
          if c.enforce ∨ context.source = "access-grant" then
            session.grantedUntil exp >>= fun granted =>
              .done (granted.elim (.error .sessionAccessRevoked) .ok)
          else .done (.ok exp)
      | .error e =>
          if isRefusal e then session.grantedUntil exp >>= fun granted =>
            .done (granted.elim (.error .sessionAccessRevoked) .ok)
          else .fail e

def validateSessionTokenDetailed (c : RuntimeConfig) (input : ValidateRuntimeSessionTokenInput) :
    LeaseHandler (Except RuntimeSessionValidationCode ValidatedToken) :=
  .query (fun w => verifyRuntimeToken c input.runtimeToken w.now) >>= fun verified =>
    match verified with
    | .error code => .done (.error code)
    | .ok (claims, exp) =>
        if claims.lookup "sessionId" ≠ some (.string input.sessionId) then
          .done (.error .tokenSessionMismatch)
        else if claims.lookup "path" ≠ some (.string input.expectedPath) then
          .done (.error .tokenPathMismatch)
        else .query (·.findSessionById input.sessionId) >>= fun found =>
          match found with
          | none => .done (.error .sessionNotFound)
          | some (session, user) =>
              session.validUntil c user claims exp >>= fun valid =>
                .done (valid.map fun exp => ⟨session.owner, exp, user.authzVersion⟩)

/-- The controller, what it was registered with, and the version of the user in the last check. -/
structure AuthorizationLease where
  id : Nat
  userId : String
  expiresAt : Nat
  authzVersion : Nat
  deriving Repr, DecidableEq

def registerStream (userId : String) (expiresAt : Nat) : LeaseHandler Nat :=
  .exec (fun w => let registered := w.listener.register w.now userId expiresAt
    (registered.1, { w with listener := registered.2 })) >>= .ofExcept

def closeStream (id : Nat) : LeaseHandler Unit :=
  .exec fun w => ((), { w with listener := w.listener.close id })

def orClose {α : Type} (id : Nat) (body : LeaseHandler α) : LeaseHandler α :=
  body.tryCatch fun e => closeStream id >>= fun _ => .fail e

/-- Register first, then recheck: a revoke between initial validation and registration must not
leave a live connection with stale authorization. -/
def createRuntimeAuthorizationLease (c : RuntimeConfig) (input : ValidateRuntimeSessionTokenInput) :
    LeaseHandler AuthorizationLease :=
  validateSessionTokenDetailed c input >>= fun validated =>
    match validated with
    | .error _ => .fail (.forbidden "Runtime access denied")
    | .ok initial =>
        registerStream initial.userId (initial.exp * 1000).toNat >>= fun id =>
          orClose id (validateSessionTokenDetailed c input >>= fun validated =>
            .query (·.listener.isAborted id) >>= fun aborted =>
              match validated with
              | .error _ => .fail (.forbidden "Runtime access revoked")
              | .ok final =>
                  if aborted ∨ final.userId ≠ initial.userId ∨ final.exp < initial.exp then
                    .fail (.forbidden "Runtime access revoked")
                  else .done ⟨id, initial.userId, (initial.exp * 1000).toNat, final.authzVersion⟩)

/-- What `openNativeRead` is given.  `forward` reports whether the response was destroyed. -/
structure NativeRead where
  clusterId : String
  target : String
  isCancelled : LeaseWorld → Bool
  authenticate : LeaseWorld → Except Exception NativeActor
  assertReady : NativeDecision → LeaseWorld → Except Exception Unit
  forward : NativeDecision → LeaseWorld → Except Exception Bool

/-- Nothing that the stream rests on has changed between the two checks. -/
def sameAuthorization (final initial : NativeDecision) : Bool :=
  final.userId == initial.userId && final.authzVersion == initial.authzVersion &&
    final.namespaceUid == initial.namespaceUid && decide (initial.expiresAt ≤ final.expiresAt) &&
    final.grantIds.isPerm initial.grantIds

def NativeRead.authorized (r : NativeRead) : LeaseHandler NativeDecision :=
  check r.authenticate >>= fun actor =>
    check (fun w => authorizeNativeRequest w.tables.directory w.readNamespace actor r.clusterId
      "GET" r.target w.now w.now) >>= fun decision =>
      check (r.assertReady decision) >>= fun _ => .done decision

def NativeRead.isOver (r : NativeRead) (id : Nat) (w : LeaseWorld) : Bool :=
  r.isCancelled w || w.listener.isAborted id

def openNativeRead (r : NativeRead) : LeaseHandler AuthorizationLease :=
  .query r.isCancelled >>= fun cancelled =>
    if cancelled then .fail (.error "AbortError")
    else r.authorized >>= fun initial =>
      registerStream initial.userId initial.expiresAt >>= fun id =>
        orClose id (r.authorized >>= fun final =>
          .query (r.isOver id) >>= fun ended =>
            if ended ∨ sameAuthorization final initial = false then
              .fail (.forbidden "Native authorization changed")
            else check (r.forward final) >>= fun destroyed =>
              .query (r.isOver id) >>= fun ended =>
                if ended ∨ destroyed then .fail (.forbidden "Native authorization ended")
                else .done ⟨id, initial.userId, initial.expiresAt, final.authzVersion⟩)

end KubeNova.Runtime
