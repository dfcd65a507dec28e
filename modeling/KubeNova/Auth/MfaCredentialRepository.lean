import KubeNova.Auth.Stores
import KubeNova.Common.Governance

/-!
# Second-factor credentials

`MfaCredentialRepository`: confirming and resetting an enrollment, redeeming a
code, and the sessions that carry the second factor.  Each `$transaction` is one
atomic statement whose body is written as the source writes it.
-/

namespace KubeNova.Auth

open KubeNova.Common KubeNova.Foundation

inductive Method where
  | totp
  | recovery
  deriving Repr, DecidableEq

/-- What `redeem` reports for an accepted code. -/
structure Assurance where
  mfaVersion : Int
  mfaVerifiedAt : Nat
  deriving Repr, DecidableEq

structure CreateSessionInput where
  authzVersion : Int
  userId : String
  refreshTokenHash : String
  expiresAt : Nat
  refreshExpiresAt : Nat
  deriving Repr, DecidableEq

structure SessionTokens where
  refreshTokenHash : String
  expiresAt : Nat
  refreshExpiresAt : Nat
  deriving Repr, DecidableEq

structure Rotation where
  authzVersion : Int
  sessionId : String
  userId : String
  currentRefreshTokenHash : String
  nextRefreshTokenHash : String
  expiresAt : Nat
  refreshExpiresAt : Nat
  deriving Repr, DecidableEq

/-- `session.create`: a second factor is never part of it. -/
def createSession (sessionId : String) (input : CreateSessionInput) : Statement Session := fun s =>
  if sessionId ∈ s.sessions then .error (.database "P2002")
  else if input.userId ∉ s.users then .error (.database "P2003")
  else
    let session : Session :=
      { userId := input.userId
        refreshTokenHash := input.refreshTokenHash
        expiresAt := input.expiresAt
        refreshExpiresAt := input.refreshExpiresAt
        revokedAt := none
        authzVersion := input.authzVersion
        mfaVersion := none
        mfaVerifiedAt := none }
    .ok (session, { s with sessions := AList.insert sessionId session s.sessions })

/-- `UPDATE "Session" SET "revokedAt" = at WHERE id = sessionId AND p`, with the row it revoked. -/
def revokeSession (sessionId : String) (revokedAt : State → Nat) (p : State → Session → Bool)
    (s : State) : Option Session × State :=
  match s.sessions.lookup sessionId with
  | some session =>
      if session.revokedAt.isNone && p s session then
        (some session, s.updateSessions (fun id _ => id == sessionId) fun row =>
          { row with revokedAt := some (revokedAt s) })
      else (none, s)
  | none => (none, s)

/-- `session.updateMany({ where: { userId, revokedAt: null }, data: { revokedAt: now } })`. -/
def revokeUserSessions (userId : String) (s : State) : Unit × State :=
  ((), s.updateSessions (fun _ session => session.userId == userId && session.revokedAt.isNone)
    fun session => { session with revokedAt := some s.now })

def createAuthorizationChange (change : AuthorizationChange) (s : State) : Unit × State :=
  ((), { s with authorizationChanges := s.authorizationChanges ++ [change] })

namespace MfaCredentialRepository

def validInput (challenge : MfaChallenge) (code : String) : Bool :=
  Text.trim challenge.userId ≠ "" ∧ challenge.userId = Text.trim challenge.userId ∧
    isVersion challenge.authzVersion ∧ isVersion challenge.enrollmentVersion ∧
    0 < Text.length code ∧ Text.length code ≤ 128

def isChallenged (challenge : MfaChallenge) (user : User) : Bool :=
  user.isActive && user.mfaEnabled && user.authzVersion == challenge.authzVersion

def challengedCredential (challenge : MfaChallenge) (s : State) : Option MfaCredential :=
  match s.credentials.lookup challenge.userId, s.users.lookup challenge.userId with
  | some credential, some user =>
      if credential.version = challenge.enrollmentVersion ∧ isChallenged challenge user then
        some credential
      else none
  | _, _ => none

/-- `UPDATE "MfaCredential" SET "lastTotpCounter" = counter ...`, and how many rows it changed. -/
def acceptCounter (challenge : MfaChallenge) (counter matchedAt : Nat) (s : State) : Nat × State :=
  match challengedCredential challenge s with
  | some credential =>
      if credential.lastTotpCounter.all (· < counter) then
        (1, (s.updateCredential challenge.userId fun c =>
          { c with lastTotpCounter := some counter }).record
            (.accepted challenge.userId counter matchedAt))
      else (0, s)
  | none => (0, s)

/-- `UPDATE "MfaCredential" SET "recoveryCodeHashes" = array_remove(...) ...`. -/
def acceptRecovery (challenge : MfaChallenge) (hash : String) (s : State) : Nat × State :=
  match challengedCredential challenge s with
  | some credential =>
      if hash ∈ credential.recoveryCodeHashes then
        (1, (s.updateCredential challenge.userId fun c =>
          { c with recoveryCodeHashes := c.recoveryCodeHashes.filter (· ≠ hash) }).record
            (.recovered challenge.userId hash))
      else (0, s)
  | none => (0, s)

def matchSealed (crypto : Crypto) (config : Config) (encryptedSecret code : String) (now : Nat) :
    Except Exception (Option Nat) := do
  let secret ← decryptMfaSecret crypto encryptedSecret config.encryptionKey
  matchTotpCounter crypto secret code now

def assurance (credential : MfaCredential) (changed : Nat) : Handler (Option Assurance) := do
  if changed = 1 then
    let now ← Async.query (·.now)
    return some ⟨credential.version, now⟩
  else return none

def redeem (crypto : Crypto) (config : Config) (challenge : MfaChallenge) (code : String)
    (method : Method) : Handler (Option Assurance) := do
  if validInput challenge code = false then
    return none
  else
    let credential ← Async.query (challengedCredential challenge)
    match credential, method with
    | none, _ => return none
    | some credential, .totp => do
        let now ← Async.query (·.now)
        match matchSealed crypto config credential.encryptedSecret code now with
        | .error _ => throw (.serviceUnavailable "MFA verification unavailable")
        | .ok none => return none
        | .ok (some counter) => do
            let changed ← Async.exec (acceptCounter challenge counter now)
            assurance credential changed
    | some credential, .recovery => do
        let changed ← Async.exec (acceptRecovery challenge (hashRecoveryCode crypto code))
        assurance credential changed

def markRedeemed (sessionId userId : String) (mfaVersion : Int) (s : State) : Unit × State :=
  ((), (s.updateSessions (fun id _ => id == sessionId) fun session =>
    { session with mfaVersion := some mfaVersion, mfaVerifiedAt := some s.dbNow }).record
      (.redeemed userId sessionId))

/-- The body of the transaction of `redeemAndCreateSession`. -/
def redeemAndCreateSessionBody (crypto : Crypto) (config : Config) (sessionId : String)
    (challenge : MfaChallenge) (code : String) (method : Method) (input : SessionTokens) :
    Handler (Option (String × Session × User)) := do
  -- Serialize account reset/disable against redemption and session issuance.
  let user ← Async.query fun s => (s.users.lookup challenge.userId).filter (isChallenged challenge)
  match user with
  | none => return none
  | some user => do
      match ← redeem crypto config challenge code method with
      | none => return none
      | some assurance => do
          let session ← Async.attempt (createSession sessionId
            ⟨user.authzVersion, challenge.userId, input.refreshTokenHash, input.expiresAt,
              input.refreshExpiresAt⟩)
          Async.exec (markRedeemed sessionId challenge.userId assurance.mfaVersion)
          return some (sessionId, session, user)

def redeemAndCreateSession (crypto : Crypto) (config : Config) (draws : Draws)
    (challenge : MfaChallenge) (code : String) (method : Method) (input : SessionTokens) :
    Handler (Option (String × Session × User)) := do
  let now ← Async.query (·.now)
  if validInput challenge code = false ∨ input.refreshTokenHash = "" ∨ input.expiresAt ≤ now ∨
      input.refreshExpiresAt < input.expiresAt then
    return none
  else
    Async.transaction draws.abort
      (redeemAndCreateSessionBody crypto config draws.sessionId challenge code method input)

def prepareChallenge (userId : String) (authzVersion : Int) : Handler (Option MfaChallenge) := do
  if Text.trim userId = "" ∨ userId ≠ Text.trim userId ∨ isVersion authzVersion = false then
    return none
  else
    Async.query fun s =>
      match s.users.lookup userId, s.credentials.lookup userId with
      | some user, some credential =>
          if user.authzVersion = authzVersion ∧ user.isActive ∧ user.mfaEnabled ∧
              credential.confirmedAt ≤ s.dbNow then
            some ⟨userId, user.authzVersion, credential.version⟩
          else none
      | _, _ => none

/-! ## Enrollment -/

def recoveryCodes (draws : Draws) : List String := List.ofFn fun i => toHex (draws.recoveryBytes i)

/-- `mfaCredential.create` with the counter that confirmed it. -/
def createCredential (userId encryptedSecret : String) (counter matchedAt : Nat)
    (hashes : List String) : Statement Unit := fun s =>
  let credential : MfaCredential :=
    { encryptedSecret := encryptedSecret
      version := 1
      confirmedAt := s.now
      lastTotpCounter := some counter
      recoveryCodeHashes := hashes }
  if userId ∈ s.credentials then .error (.database "P2002")
  else .ok ((), State.record (.enrolled userId counter matchedAt hashes)
    { s with credentials := AList.insert userId credential s.credentials })

/-- `user.update({ data: { mfaEnabled, authzVersion: { increment: 1 } } })`. -/
def setMfaEnabled (userId : String) (mfaEnabled : Bool) : Statement Unit := fun s =>
  if userId ∈ s.users then
    .ok ((), s.updateUser userId fun user =>
      { user with mfaEnabled := mfaEnabled, authzVersion := user.authzVersion + 1 })
  else .error (.database "P2025")

/-- The body of the transaction of `confirmEnrollment`. -/
def confirmEnrollmentBody (crypto : Crypto) (identity : EnrollmentIdentity)
    (encryptedSecret : String) (counter matchedAt : Nat) (recoveryCodes : List String) :
    Handler (Option (List String)) := do
  let user ← Async.query fun s => (s.users.lookup identity.userId).filter fun user =>
    user.isActive && !user.mfaEnabled && user.authzVersion == identity.authzVersion
  if user.isNone then
    return none
  else
    let session ← Async.query fun s => (s.sessions.lookup identity.sessionId).filter fun session =>
      session.userId == identity.userId && session.authzVersion == identity.authzVersion &&
        session.revokedAt.isNone && s.now < session.expiresAt
    let credential ← Async.query fun s => s.credentials.lookup identity.userId
    if session.isNone ∨ credential.isSome then
      return none
    else
      Async.attempt (createCredential identity.userId encryptedSecret counter matchedAt
        (recoveryCodes.map (hashRecoveryCode crypto)))
      Async.attempt (setMfaEnabled identity.userId true)
      Async.exec (revokeUserSessions identity.userId)
      Async.exec (createAuthorizationChange
        ⟨identity.userId, some identity.userId, identity.authzVersion + 1, "mfa-enrolled"⟩)
      return some recoveryCodes

/-- `/^[A-Z2-7]{32}$/`. -/
def isSecret (secret : String) : Bool :=
  secret.toList.length == 32 && secret.toList.all fun c => (base32Index c).isSome

def confirmEnrollment (crypto : Crypto) (config : Config) (draws : Draws)
    (identity : EnrollmentIdentity) (secret code : String) : Handler (Option (List String)) := do
  if MfaEnrollmentStore.validIdentity identity = false ∨ isSecret secret = false ∨
      isCode code = false then
    return none
  else
    let now ← Async.query (·.now)
    match ← Async.ofExcept (matchTotpCounter crypto secret code now) with
    | none => return none
    | some counter => do
        Async.ensure (Text.trim config.encryptionKey ≠ "")
          (.serviceUnavailable "MFA enrollment unavailable")
        let encryptedSecret ← Async.ofExcept
          (encryptMfaSecret crypto draws.iv secret config.encryptionKey)
        Async.transaction draws.abort (confirmEnrollmentBody crypto identity encryptedSecret
          counter now (recoveryCodes draws))

def deleteCredential (userId : String) : Statement Unit := fun s =>
  if userId ∈ s.credentials then
    .ok ((), State.record (.reset userId) { s with credentials := s.credentials.erase userId })
  else .error (.database "P2025")

def carriesFactor (session : Session) (credential : MfaCredential) (now : Nat) : Bool :=
  session.mfaVersion == some credential.version &&
    session.mfaVerifiedAt.any fun verifiedAt =>
      credential.confirmedAt ≤ verifiedAt && verifiedAt ≤ now

/-- The body of the transaction of `reset`. -/
def resetBody (proof : MfaResetProof) : Handler (Option String) := do
  let actor ← Async.query fun s => s.users.lookup proof.actorUserId
  let actorCredential ← Async.query fun s => s.credentials.lookup proof.actorUserId
  let target ← Async.query fun s => s.users.lookup proof.targetUserId
  let targetCredential ← Async.query fun s => s.credentials.lookup proof.targetUserId
  let now ← Async.query (·.now)
  match actor, target with
  | some actor, some target =>
      if proof.expiresAt ≤ now ∨ actor.isActive = false ∨ isAdministratorRole actor.role = false ∨
          actor.authzVersion ≠ proof.actorAuthzVersion ∨ target.mfaEnabled = false ∨
          target.authzVersion ≠ proof.targetAuthzVersion ∨
          targetCredential.map (·.version) ≠ some proof.targetMfaVersion then
        return none
      else
        let session ← Async.query fun s => (s.sessions.lookup proof.actorSessionId).filter
          fun session => session.userId == proof.actorUserId &&
            session.authzVersion == proof.actorAuthzVersion &&
            session.revokedAt.isNone && now < session.expiresAt
        match session with
        | none => return none
        | some session =>
            if actor.mfaEnabled && !actorCredential.any (carriesFactor session · now) then
              return none
            else
              Async.attempt (deleteCredential proof.targetUserId)
              Async.attempt (setMfaEnabled proof.targetUserId false)
              Async.exec (revokeUserSessions proof.targetUserId)
              Async.exec (createAuthorizationChange ⟨proof.actorUserId, some proof.targetUserId,
                target.authzVersion + 1, "mfa-reset"⟩)
              return some proof.targetUserId
  | _, _ => return none

def reset (config : Config) (draws : Draws) (proof : MfaResetProof) : Handler (Option String) := do
  let now ← Async.query (·.now)
  if proof.action ≠ "mfa-reset" ∨
      MfaResetStore.validIdentity proof.toMfaResetIdentity = false ∨
      isVersion proof.expiresAt = false ∨ proof.expiresAt ≤ now ∨ now + 300000 < proof.expiresAt ∨
      some proof.actorUserId ≠ config.superadminUserId then
    return none
  else
    Async.transaction draws.abort (resetBody proof)

def copyFactor (userId old new : String) (factor : Session) (s : State) : Unit × State :=
  ((), (s.updateSessions (fun id _ => id == new) fun session =>
    { session with mfaVersion := factor.mfaVersion, mfaVerifiedAt := factor.mfaVerifiedAt }).record
      (.rotated userId old new))

/-- The body of the transaction of `rotateSession`. -/
def rotateSessionBody (sessionId : String) (input : Rotation) :
    Handler (Option (String × Session)) := do
  let user ← Async.query fun s => (s.users.lookup input.userId).filter fun user =>
    user.isActive && user.mfaEnabled && user.authzVersion == input.authzVersion
  if user.isNone then
    return none
  else
    let old ← Async.exec (revokeSession input.sessionId (·.dbNow) fun s session =>
      session.userId == input.userId && session.authzVersion == input.authzVersion &&
        session.refreshTokenHash == input.currentRefreshTokenHash &&
        s.dbNow < session.refreshExpiresAt &&
        (s.credentials.lookup session.userId).any (carriesFactor session · s.dbNow))
    match old with
    | none => return none
    | some old => do
        let session ← Async.attempt (createSession sessionId
          ⟨input.authzVersion, input.userId, input.nextRefreshTokenHash,
            min input.expiresAt old.refreshExpiresAt, old.refreshExpiresAt⟩)
        Async.exec (copyFactor input.userId input.sessionId sessionId old)
        return some (sessionId, session)

def rotateSession (draws : Draws) (input : Rotation) : Handler (Option (String × Session)) :=
  Async.transaction draws.abort (rotateSessionBody draws.sessionId input)

/-- The rows `hasSessionAssurance` selects, as a predicate of the state. -/
def assured (sessionId userId : String) (authzVersion : Int) (s : State) : Bool :=
  (s.sessions.lookup sessionId).any fun session =>
    (s.users.lookup userId).any fun user =>
      (s.credentials.lookup userId).any fun credential =>
        session.userId == userId && user.isActive && user.mfaEnabled &&
          user.authzVersion == authzVersion && session.authzVersion == user.authzVersion &&
          session.revokedAt.isNone && s.dbNow < session.expiresAt &&
          carriesFactor session credential s.dbNow

def hasSessionAssurance (sessionId userId : String) (authzVersion : Int) : Handler Bool :=
  Async.query (assured sessionId userId authzVersion)

end MfaCredentialRepository
end KubeNova.Auth
