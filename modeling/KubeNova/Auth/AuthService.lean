import KubeNova.Auth.AuthRepository

/-!
# Login, refresh and validation

`AuthService`.  What the platform draws at random is an argument of each
operation, and so is the identity an external provider vouches for.
-/

namespace KubeNova.Auth

open KubeNova.Common KubeNova.Foundation AuthRepository

structure AuthUser where
  id : String
  username : String
  displayName : String
  role : String
  deriving Repr, DecidableEq

structure AuthSession where
  token : String
  refreshToken : String
  user : AuthUser
  expiresAt : Nat
  deriving Repr, DecidableEq

inductive AuthLoginResult where
  | session (session : AuthSession)
  | mfaRequired (challengeToken : String) (expiresIn : Nat)
  deriving Repr, DecidableEq

structure ValidatedSession where
  authzVersion : Int
  token : String
  user : AuthUser
  expiresAt : Nat
  deriving Repr, DecidableEq

structure ResetFactor where
  code : String
  method : Method
  deriving Repr, DecidableEq

def mapUser (id : String) (user : User) : AuthUser where
  id := id
  username := user.email
  displayName := user.name.getD user.email
  role := user.role

namespace AuthService

variable (crypto : Crypto) (config : Config)

def issueSession (draws : Draws) (userId : String) (userRecord : User) :
    Handler (Option AuthLoginResult) := do
  if userRecord.isActive = false ∨ isVersion userRecord.authzVersion = false then
    return none
  else if userRecord.mfaEnabled then
    match ← MfaCredentialRepository.prepareChallenge userId userRecord.authzVersion with
    | none => return none
    | some challenge => do
        let challengeToken ← MfaChallengeStore.save crypto draws challenge
        return some (.mfaRequired challengeToken 300)
  else
    let now ← Async.query (·.now)
    let session ← Async.attempt (createSession draws.sessionId
      ⟨userRecord.authzVersion, userId, TokenService.hashToken crypto draws.refreshToken,
        TokenService.resolveAccessTokenExpiry config now,
        TokenService.resolveRefreshTokenExpiry config now⟩)
    return some (.session
      { token := TokenService.createAccessToken draws.sessionId
        refreshToken := draws.refreshToken
        user := mapUser userId userRecord
        expiresAt := session.expiresAt })

def login (draws : Draws) (username password : String) : Handler (Option AuthLoginResult) := do
  let userRecord ← findActiveUserByUsername username
  LoginAttemptLimiter.consumeAccount crypto (match userRecord with
    | some (id, _) => "user:" ++ id
    | none => "name:" ++ Text.trim username)
  match userRecord with
  | some (id, user) =>
      if crypto.verifyPassword password user.passwordHash then
        issueSession crypto config draws id user
      else return none
  | none => return none

/-- The caller must validate the provider token before passing its issuer/subject. -/
def loginExternal (draws : Draws) (issuer subject : String) : Handler (Option AuthLoginResult) := do
  let (id, user) ← OidcIdentityRepository.resolve issuer subject
  issueSession crypto config draws id user

def completeMfa (draws : Draws) (challengeToken code : String) (method : Method) :
    Handler (Option AuthSession) := do
  let challenge ← MfaChallengeStore.consume crypto challengeToken
  let now ← Async.query (·.now)
  match ← MfaCredentialRepository.redeemAndCreateSession crypto config draws challenge code method
    ⟨TokenService.hashToken crypto draws.refreshToken,
      TokenService.resolveAccessTokenExpiry config now,
      TokenService.resolveRefreshTokenExpiry config now⟩ with
  | none => return none
  | some (sessionId, session, user) =>
      return some
        { token := TokenService.createAccessToken sessionId
          refreshToken := draws.refreshToken
          user := mapUser challenge.userId user
          expiresAt := session.expiresAt }

def refresh (draws : Draws) (refreshToken : String) : Handler (Option AuthSession) := do
  let refreshTokenHash := TokenService.hashToken crypto refreshToken
  match ← findValidSessionByRefreshTokenHash refreshTokenHash with
  | none => return none
  | some current =>
      if isVersion current.session.authzVersion = false ∨
          current.session.authzVersion ≠ current.user.authzVersion then
        return none
      else
        let now ← Async.query (·.now)
        let rotation : Rotation :=
          { authzVersion := current.session.authzVersion
            sessionId := current.id
            userId := current.session.userId
            currentRefreshTokenHash := refreshTokenHash
            nextRefreshTokenHash := TokenService.hashToken crypto draws.refreshToken
            expiresAt := TokenService.resolveAccessTokenExpiry config now
            refreshExpiresAt := current.session.refreshExpiresAt }
        let next ← if current.user.mfaEnabled then
            MfaCredentialRepository.rotateSession draws rotation
          else AuthRepository.rotateSession draws rotation
        match next with
        | none => return none
        | some (sessionId, session) =>
            return some
              { token := TokenService.createAccessToken sessionId
                refreshToken := draws.refreshToken
                user := mapUser current.session.userId current.user
                expiresAt := session.expiresAt }

def validate (accessToken : String) : Handler (Option ValidatedSession) := do
  match TokenService.resolveSessionId accessToken with
  | none => return none
  | some sessionId => do
      match ← findValidSessionById sessionId with
      | none => return none
      | some current => do
          let assured ← if current.user.mfaEnabled then
              MfaCredentialRepository.hasSessionAssurance current.id current.session.userId
                current.session.authzVersion
            else pure true
          if assured = false ∨ isVersion current.session.authzVersion = false ∨
              current.session.authzVersion ≠ current.user.authzVersion then
            return none
          else
            return some
              { authzVersion := current.session.authzVersion
                token := accessToken
                user := mapUser current.session.userId current.user
                expiresAt := current.session.expiresAt }

def logout (accessToken : String) : Handler Unit := do
  match TokenService.resolveSessionId accessToken with
  | none => return ()
  | some sessionId => revokeSessionById sessionId

def enrollmentIdentity (actor : ValidatedSession) : Handler EnrollmentIdentity := do
  match ← findValidSessionById actor.token with
  | none => throw (.unauthorized "MFA enrollment unavailable for this session")
  | some current =>
      Async.ensure (current.session.userId = actor.user.id ∧ current.user.mfaEnabled = false ∧
        current.session.authzVersion = actor.authzVersion ∧
        current.user.authzVersion = actor.authzVersion)
        (.unauthorized "MFA enrollment unavailable for this session")
      return ⟨current.session.userId, current.id, current.session.authzVersion⟩

def oidcEnrollmentContext (actor : ValidatedSession) (issuer : String) (starting : Bool) :
    Handler (EnrollmentIdentity × String) := do
  let identity ← enrollmentIdentity actor
  if starting then
    LoginAttemptLimiter.consumeAccount crypto ("user:" ++ identity.userId)
  let subject ← OidcIdentityRepository.subjectForUser issuer identity.userId
  return (identity, subject)

def finishOidcEnrollment (draws : Draws) (actor : ValidatedSession) (issuer : String)
    (original : EnrollmentIdentity × String) : Handler (String × String) := do
  let current ← oidcEnrollmentContext crypto actor issuer false
  Async.ensure (current = original) (.unauthorized "OIDC identity changed")
  MfaEnrollmentStore.save crypto config draws current.1

def beginMfaEnrollment (draws : Draws) (actor : ValidatedSession) (password : String) :
    Handler (String × String) := do
  let identity ← enrollmentIdentity actor
  LoginAttemptLimiter.consumeAccount crypto ("user:" ++ identity.userId)
  let session ← findValidSessionById identity.sessionId
  Async.ensure (session.any fun current => current.session.userId == identity.userId &&
      current.user.authzVersion == identity.authzVersion && password ≠ "" &&
      Text.length password ≤ 1024 && crypto.verifyPassword password current.user.passwordHash)
    (.unauthorized "重新验证身份失败")
  MfaEnrollmentStore.save crypto config draws identity

def confirmMfaEnrollment (draws : Draws) (actor : ValidatedSession) (token code : String) :
    Handler (List String) := do
  let identity ← enrollmentIdentity actor
  let secret ← MfaEnrollmentStore.consume crypto config token identity
  match ← MfaCredentialRepository.confirmEnrollment crypto config draws identity secret code with
  | some recoveryCodes => return recoveryCodes
  | none => throw (.unauthorized "MFA enrollment failed; start again")

def resetContext (actor : ValidatedSession) (targetUserId : String) :
    Handler (MfaResetIdentity × SessionWithUser) := do
  Async.ensure (config.superadminUserId ≠ none ∧ config.superadminUserId ≠ some "" ∧
    some actor.user.id = config.superadminUserId ∧ isVersion actor.authzVersion ∧
    isIdentifier targetUserId) (.unauthorized "MFA reset unavailable")
  match ← findValidSessionById actor.token with
  | none => throw (.unauthorized "Invalid session")
  | some current => do
      Async.ensure (current.session.userId = actor.user.id ∧ current.user.isActive ∧
        current.session.authzVersion = actor.authzVersion ∧
        current.user.authzVersion = actor.authzVersion ∧ isAdministratorRole current.user.role)
        (.unauthorized "Invalid session")
      match ← findMfaResetTarget targetUserId with
      | some ⟨targetId, targetAuthzVersion, true, some targetMfaVersion⟩ => do
          Async.ensure (isVersion targetAuthzVersion ∧ isVersion targetMfaVersion)
            (.unauthorized "MFA reset unavailable")
          return ({ actorUserId := current.session.userId
                    actorSessionId := current.id
                    actorAuthzVersion := current.session.authzVersion
                    targetUserId := targetId
                    targetAuthzVersion := targetAuthzVersion
                    targetMfaVersion := targetMfaVersion }, current)
      | _ => throw (.unauthorized "MFA reset unavailable")

def stepUp (original : MfaResetIdentity × SessionWithUser) (factor : Option ResetFactor) :
    Handler Unit := do
  if original.2.user.mfaEnabled then
    match factor with
    | none => throw (.unauthorized "Fresh MFA verification required")
    | some factor => do
        Async.ensure (factor.code ≠ "" ∧ Text.length factor.code ≤ 128)
          (.unauthorized "Fresh MFA verification required")
        match ← MfaCredentialRepository.prepareChallenge original.1.actorUserId
          original.1.actorAuthzVersion with
        | none => throw (.unauthorized "Fresh MFA verification failed")
        | some challenge => do
            let redeemed ← MfaCredentialRepository.redeem crypto config challenge factor.code
              factor.method
            Async.ensure redeemed.isSome (.unauthorized "Fresh MFA verification failed")
  else return ()

def finishResetStepUp (draws : Draws) (actor : ValidatedSession)
    (original : MfaResetIdentity × SessionWithUser) (factor : Option ResetFactor) :
    Handler String := do
  stepUp crypto config original factor
  let current ← resetContext config actor original.1.targetUserId
  Async.ensure (current.1 = original.1 ∧
    current.2.user.mfaEnabled = original.2.user.mfaEnabled ∧
    current.2.user.passwordHash = original.2.user.passwordHash)
    (.unauthorized "Reset identity changed")
  MfaResetStore.save crypto draws current.1

def prepareMfaReset (draws : Draws) (actor : ValidatedSession) (targetUserId password : String)
    (factor : Option ResetFactor) : Handler String := do
  let context ← resetContext config actor targetUserId
  LoginAttemptLimiter.consumeAccount crypto ("user:" ++ context.1.actorUserId)
  Async.ensure (password ≠ "" ∧ Text.length password ≤ 1024 ∧
    crypto.verifyPassword password context.2.user.passwordHash)
    (.unauthorized "Reauthentication failed")
  finishResetStepUp crypto config draws actor context factor

def oidcMfaResetContext (actor : ValidatedSession) (targetUserId issuer : String)
    (starting : Bool) : Handler (MfaResetIdentity × String) := do
  let context ← resetContext config actor targetUserId
  if starting then
    LoginAttemptLimiter.consumeAccount crypto ("user:" ++ context.1.actorUserId)
  let subject ← OidcIdentityRepository.subjectForUser issuer context.1.actorUserId
  return (context.1, subject)

/-- `verified` is the issuer and the subject the provider exchange established. -/
def finishOidcMfaReset (draws : Draws) (actor : ValidatedSession) (targetUserId issuer : String)
    (verified : Except Exception (String × String)) (factor : Option ResetFactor) :
    Handler String := do
  let original ← resetContext config actor targetUserId
  let context ← oidcMfaResetContext crypto config actor targetUserId issuer true
  let verified ← Async.ofExcept verified
  Async.ensure (verified = (issuer, context.2)) (.unauthorized "OIDC identity changed")
  let current ← oidcMfaResetContext crypto config actor targetUserId issuer false
  Async.ensure (current = context) (.unauthorized "OIDC identity changed")
  finishResetStepUp crypto config draws actor original factor

def confirmMfaReset (draws : Draws) (actor : ValidatedSession) (targetUserId token : String) :
    Handler String := do
  let current ← resetContext config actor targetUserId
  let proof ← MfaResetStore.consume crypto token current.1
  match ← MfaCredentialRepository.reset config draws proof with
  | some userId => return userId
  | none => throw (.unauthorized "MFA reset failed; start again")

end AuthService
end KubeNova.Auth
