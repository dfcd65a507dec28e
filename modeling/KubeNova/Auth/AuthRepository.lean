import KubeNova.Auth.MfaCredentialRepository

/-!
# Accounts and sessions

`AuthRepository`: the queries behind login and validation, and the sessions
without a second factor.
-/

namespace KubeNova.Auth.AuthRepository

open KubeNova.Common KubeNova.Foundation

structure SessionWithUser where
  id : String
  session : Session
  user : User
  deriving Repr, DecidableEq

/-- The id, version and credential version `findMfaResetTarget` selects. -/
structure ResetTarget where
  id : String
  authzVersion : Int
  mfaEnabled : Bool
  mfaVersion : Option Int
  deriving Repr, DecidableEq

def findMfaResetTarget (id : String) : Handler (Option ResetTarget) :=
  Async.query fun s => (s.users.lookup id).map fun user =>
    ⟨id, user.authzVersion, user.mfaEnabled, (s.credentials.lookup id).map (·.version)⟩

def findActiveUserByUsername (username : String) : Handler (Option (String × User)) :=
  let normalized := Text.trim username
  Async.query fun s => s.users.first? fun _ user =>
    user.isActive && (user.email == normalized || user.name == some normalized)

def validSession (sessionId : String) (s : State) : Option SessionWithUser :=
  match s.sessions.lookup sessionId with
  | some session =>
      match s.users.lookup session.userId with
      | some user =>
          if session.revokedAt = none ∧ s.now < session.expiresAt ∧ user.isActive then
            some ⟨sessionId, session, user⟩
          else none
      | none => none
  | none => none

def findValidSessionById (sessionId : String) : Handler (Option SessionWithUser) :=
  Async.query (validSession sessionId)

def findValidSessionByRefreshTokenHash (refreshTokenHash : String) :
    Handler (Option SessionWithUser) :=
  Async.query fun s =>
    (s.sessions.first? fun _ session =>
      session.refreshTokenHash == refreshTokenHash && session.revokedAt.isNone &&
        s.now < session.refreshExpiresAt &&
        (s.users.lookup session.userId).any (·.isActive)).bind fun (id, session) =>
      (s.users.lookup session.userId).map fun user => ⟨id, session, user⟩

def revokeSessionById (sessionId : String) : Handler Unit :=
  discard (Async.exec (revokeSession sessionId (·.now) fun _ _ => true))

/-- The body of the transaction of `rotateSession`. -/
def rotateSessionBody (sessionId : String) (input : Rotation) :
    Handler (Option (String × Session)) := do
  let revoked ← Async.exec (revokeSession input.sessionId (·.now) fun s session =>
    session.authzVersion == input.authzVersion &&
      (s.users.lookup session.userId).any (fun user =>
        user.isActive && user.authzVersion == input.authzVersion) &&
      session.refreshTokenHash == input.currentRefreshTokenHash &&
      s.now < session.refreshExpiresAt)
  if revoked.isNone then
    return none
  else
    let session ← Async.attempt (createSession sessionId
      ⟨input.authzVersion, input.userId, input.nextRefreshTokenHash,
        min input.expiresAt input.refreshExpiresAt, input.refreshExpiresAt⟩)
    return some (sessionId, session)

def rotateSession (draws : Draws) (input : Rotation) : Handler (Option (String × Session)) :=
  Async.transaction draws.abort (rotateSessionBody draws.sessionId input)

end KubeNova.Auth.AuthRepository
