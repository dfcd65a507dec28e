import KubeNova.Auth.MfaTotp
import KubeNova.Auth.State
import KubeNova.Common.Config

/-!
# Short-lived entries

The stores of challenges, enrollments and reset proofs, the login limiter, the
token service and the lookup of external identities.
-/

namespace KubeNova.Auth

open KubeNova.Common KubeNova.Foundation

/-- What the platform supplies to one request: fresh identifiers, random values,
and whether the commit of its transaction is refused. -/
structure Draws where
  sessionId : String
  refreshToken : String
  token : String
  secretBytes : List UInt8
  iv : String
  recoveryBytes : Fin 10 → List UInt8
  abort : Option Exception

/-- `Number.isSafeInteger(value) && value > 0`. -/
def isVersion (value : Int) : Bool := 0 < value ∧ value < 2 ^ 53

/-- `id.length > 0 && id.length <= 256 && id.trim() === id`. -/
def isIdentifier (id : String) : Bool :=
  0 < Text.length id ∧ Text.length id ≤ 256 ∧ Text.trim id = id

/-- `/^[A-Za-z0-9_-]{43}$/`. -/
def isToken (token : String) : Bool :=
  token.toList.length == 43 &&
    token.toList.all fun c => Text.isDigit c || ('a' ≤ c && c ≤ 'z') || ('A' ≤ c && c ≤ 'Z') ||
      c == '_' || c == '-'

def storeKey (crypto : Crypto) (name message token : String) : Except Exception String :=
  if isToken token then .ok ("kubenova:mfa:" ++ name ++ ":" ++ crypto.sha256 token)
  else .error (.unauthorized message)

namespace MfaChallengeStore

def key (crypto : Crypto) (token : String) : Except Exception String :=
  storeKey crypto "challenge" "Invalid MFA challenge" token

def isValid (challenge : MfaChallenge) : Bool :=
  challenge.userId ≠ "" ∧ Text.trim challenge.userId = challenge.userId ∧
    isVersion challenge.authzVersion ∧ isVersion challenge.enrollmentVersion

def validate (challenge : MfaChallenge) : Except Exception MfaChallenge :=
  if isValid challenge then .ok challenge else .error (.unauthorized "Invalid MFA challenge")

def save (crypto : Crypto) (draws : Draws) (challenge : MfaChallenge) : Handler String := do
  let payload ← Async.ofExcept (validate challenge)
  let key ← Async.ofExcept (key crypto draws.token)
  let stored ← Async.exec fun s =>
    let (stored, challenges) := setNx s.now key payload s.challenges
    (stored, { s with challenges := challenges })
  Async.ensure (stored = true) (.serviceUnavailable "MFA challenge storage unavailable")
  return draws.token

def consume (crypto : Crypto) (token : String) : Handler MfaChallenge := do
  let key ← Async.ofExcept (key crypto token)
  -- Consume before verification: a failed code requires password authentication again.
  let value ← Async.exec fun s =>
    let (value, challenges) := getDel s.now key s.challenges
    (value, { s with challenges := challenges })
  match value with
  | some challenge => Async.ofExcept (validate challenge)
  | none => throw (.unauthorized "Invalid MFA challenge")

end MfaChallengeStore

/-! ## Enrollments -/

def base32Char (n : Nat) : Char := if n < 26 then Char.ofNat (65 + n) else Char.ofNat (24 + n)

/-- `generateTotpSecret` on the given random bytes. -/
def generateTotpSecret (bytes : List UInt8) : String :=
  let value := bytes.foldl (fun acc b => acc * 256 + b.toNat) 0
  let bits := 8 * bytes.length
  let groups := (bits + 4) / 5
  String.ofList ((List.range groups).map fun i =>
    base32Char (value * 2 ^ (5 * groups - bits) / 32 ^ (groups - 1 - i) % 32))

namespace MfaEnrollmentStore

def validIdentity (identity : EnrollmentIdentity) : Bool :=
  isIdentifier identity.userId ∧ isIdentifier identity.sessionId ∧ isVersion identity.authzVersion

def key (crypto : Crypto) (token : String) : Except Exception String :=
  storeKey crypto "enrollment" "Invalid MFA enrollment" token

def save (crypto : Crypto) (config : Config) (draws : Draws) (identity : EnrollmentIdentity) :
    Handler (String × String) := do
  Async.ensure (validIdentity identity) (.unauthorized "Invalid MFA enrollment")
  Async.ensure (Text.trim config.encryptionKey ≠ "")
    (.serviceUnavailable "MFA enrollment unavailable")
  let secret := generateTotpSecret draws.secretBytes
  let encryptedSecret ← Async.ofExcept (encryptMfaSecret crypto draws.iv secret config.encryptionKey)
  let key ← Async.ofExcept (key crypto draws.token)
  let stored ← Async.exec fun s =>
    let (stored, enrollments) := setNx s.now key ⟨identity, encryptedSecret⟩ s.enrollments
    (stored, { s with enrollments := enrollments })
  Async.ensure (stored = true) (.serviceUnavailable "MFA enrollment unavailable")
  return (draws.token, secret)

def consume (crypto : Crypto) (config : Config) (token : String) (identity : EnrollmentIdentity) :
    Handler String := do
  Async.ensure (validIdentity identity) (.unauthorized "Invalid MFA enrollment")
  let key ← Async.ofExcept (key crypto token)
  let value ← Async.exec fun s =>
    let (value, enrollments) := getDel s.now key s.enrollments
    (value, { s with enrollments := enrollments })
  match value with
  | none => throw (.unauthorized "Invalid MFA enrollment")
  | some payload =>
      if payload.toEnrollmentIdentity ≠ identity then
        throw (.unauthorized "Invalid MFA enrollment")
      else match decryptMfaSecret crypto payload.encryptedSecret config.encryptionKey with
        | .ok secret => return secret
        | .error _ => throw (.unauthorized "Invalid MFA enrollment")

end MfaEnrollmentStore

namespace MfaResetStore

def validIdentity (identity : MfaResetIdentity) : Bool :=
  isIdentifier identity.actorUserId ∧ isIdentifier identity.actorSessionId ∧
    isIdentifier identity.targetUserId ∧ isVersion identity.actorAuthzVersion ∧
    isVersion identity.targetAuthzVersion ∧ isVersion identity.targetMfaVersion

def key (crypto : Crypto) (token : String) : Except Exception String :=
  storeKey crypto "reset" "Invalid MFA reset" token

def save (crypto : Crypto) (draws : Draws) (identity : MfaResetIdentity) : Handler String := do
  Async.ensure (validIdentity identity) (.unauthorized "Invalid MFA reset")
  let key ← Async.ofExcept (key crypto draws.token)
  let stored ← Async.exec fun s =>
    let proof : MfaResetProof := ⟨identity, "mfa-reset", s.now + 300000⟩
    let (stored, resets) := setNx s.now key proof s.resets
    (stored, { s with resets := resets })
  Async.ensure (stored = true) (.serviceUnavailable "MFA reset unavailable")
  return draws.token

def consume (crypto : Crypto) (token : String) (identity : MfaResetIdentity) :
    Handler MfaResetProof := do
  Async.ensure (validIdentity identity) (.unauthorized "Invalid MFA reset")
  let key ← Async.ofExcept (key crypto token)
  let value ← Async.exec fun s =>
    let (value, resets) := getDel s.now key s.resets
    (value, { s with resets := resets })
  let now ← Async.query (·.now)
  match value with
  | none => throw (.unauthorized "Invalid MFA reset")
  | some payload =>
      Async.ensure (validIdentity payload.toMfaResetIdentity ∧ payload.action = "mfa-reset" ∧
        (now : Int) < payload.expiresAt ∧ payload.expiresAt ≤ now + 300000 ∧
        payload.toMfaResetIdentity = identity) (.unauthorized "Invalid MFA reset")
      return payload

end MfaResetStore

namespace LoginAttemptLimiter

/-- The script: count the attempt, and start the window with the first one. -/
def increment (key : String) (s : State) : Nat × State :=
  let entry : Expiring Nat := match s.loginAttempts.lookup key with
    | some e => if s.now < e.expiresAt then ⟨e.value + 1, e.expiresAt⟩ else ⟨1, s.now + 300000⟩
    | none => ⟨1, s.now + 300000⟩
  (entry.value, { s with loginAttempts := AList.insert key entry s.loginAttempts })

def consume (crypto : Crypto) (scope identifier : String) (limit : Nat) : Handler Unit := do
  Async.ensure (Text.trim identifier ≠ "" ∧ identifier.utf8ByteSize ≤ 1024)
    (.badRequest "Invalid login identifier")
  let count ← Async.exec (increment ("kubenova:login:" ++ scope ++ ":" ++ crypto.sha256 identifier))
  Async.ensure (count ≤ limit) (.tooManyRequests "Too many login attempts")

def consumeAccount (crypto : Crypto) (id : String) : Handler Unit :=
  consume crypto "account" id 10

end LoginAttemptLimiter

namespace TokenService

def createAccessToken (sessionId : String) : String := sessionId

def resolveSessionId (accessToken : String) : Option String :=
  let sessionId := Text.trim accessToken
  if sessionId = "" then none else some sessionId

def hashToken (crypto : Crypto) (token : String) : String := crypto.sha256 token

def unitMs (c : Char) : Option Nat :=
  match c.toLower with
  | 's' => some 1000
  | 'm' => some (60 * 1000)
  | 'h' => some (60 * 60 * 1000)
  | 'd' => some (24 * 60 * 60 * 1000)
  | _ => none

def parseDurationToMs (input : String) : Nat :=
  let cs := (Text.trim input).toList
  let digits := cs.dropLast
  match cs.getLast?.bind unitMs with
  | some ms =>
      if digits ≠ [] ∧ digits.all Text.isDigit then
        digits.foldl (fun acc c => acc * 10 + (c.toNat - 48)) 0 * ms
      else 30 * 60 * 1000
  | none => 30 * 60 * 1000

def resolveAccessTokenExpiry (config : Config) (now : Nat) : Nat :=
  now + parseDurationToMs (config.jwtExpiresIn.getD "30m")

def resolveRefreshTokenExpiry (config : Config) (now : Nat) : Nat :=
  now + parseDurationToMs (config.refreshTokenExpiresIn.getD "7d")

end TokenService

namespace OidcIdentityRepository

def subjectForUser (issuer userId : String) : Handler String := do
  let identities ← Async.query fun s => s.externalIdentities.entries.filter fun identity =>
    identity.1.1 == issuer && identity.2 == userId && (s.users.lookup userId).any (·.isActive)
  match identities with
  | [identity] => return identity.1.2
  | _ => throw (.unauthorized "OIDC identity unavailable")

def resolve (issuer subject : String) : Handler (String × User) := do
  Async.ensure (issuer ≠ "" ∧ subject ≠ "") (.unauthorized "OIDC identity unavailable")
  let identity ← Async.query fun s => (s.externalIdentities.lookup (issuer, subject)).bind fun id =>
    (s.users.lookup id).map fun user => (id, user)
  match identity with
  | some (id, user) =>
      if user.isActive then return (id, user)
      else throw (.unauthorized "OIDC identity unavailable")
  | none => throw (.unauthorized "OIDC identity unavailable")

end OidcIdentityRepository
end KubeNova.Auth
