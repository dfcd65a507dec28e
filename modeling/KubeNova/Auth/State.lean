import KubeNova.Common.Exceptions
import KubeNova.Foundation.RelyGuarantee
import KubeNova.Foundation.Table

/-!
# The state behind authentication

The rows of the account tables, the short-lived entries of the key-value store,
and the history of what was accepted.  Times are milliseconds since the epoch.
-/

namespace KubeNova.Auth

open KubeNova.Common KubeNova.Foundation

structure User where
  email : String
  name : Option String
  passwordHash : Option String
  role : String
  isActive : Bool
  authzVersion : Int
  mfaEnabled : Bool
  deriving Repr, DecidableEq

structure Session where
  userId : String
  refreshTokenHash : String
  expiresAt : Nat
  refreshExpiresAt : Nat
  revokedAt : Option Nat
  authzVersion : Int
  mfaVersion : Option Int
  mfaVerifiedAt : Option Nat
  deriving Repr, DecidableEq

structure MfaCredential where
  encryptedSecret : String
  version : Int
  confirmedAt : Nat
  lastTotpCounter : Option Nat
  recoveryCodeHashes : List String
  deriving Repr, DecidableEq

structure AuthorizationChange where
  actorUserId : String
  affectedUserId : Option String
  version : Int
  reason : String
  deriving Repr, DecidableEq

structure MfaChallenge where
  userId : String
  authzVersion : Int
  enrollmentVersion : Int
  deriving Repr, DecidableEq

structure EnrollmentIdentity where
  userId : String
  sessionId : String
  authzVersion : Int
  deriving Repr, DecidableEq

structure EnrollmentEntry extends EnrollmentIdentity where
  encryptedSecret : String
  deriving Repr, DecidableEq

structure MfaResetIdentity where
  actorUserId : String
  actorSessionId : String
  actorAuthzVersion : Int
  targetUserId : String
  targetAuthzVersion : Int
  targetMfaVersion : Int
  deriving Repr, DecidableEq

structure MfaResetProof extends MfaResetIdentity where
  action : String
  expiresAt : Int
  deriving Repr, DecidableEq

/-- What happened to second factors, newest first in `State.log`.  The tables do
not keep it; statements below are about it. -/
inductive Event where
  /-- An enrollment was confirmed with the code of this counter, checked at the
  clock reading `at`, and issued these recovery codes. -/
  | enrolled (userId : String) (counter matchedAt : Nat) (hashes : List String)
  | reset (userId : String)
  /-- The code of this counter was accepted, checked at the clock reading `matchedAt`. -/
  | accepted (userId : String) (counter matchedAt : Nat)
  | recovered (userId hash : String)
  /-- `redeemAndCreateSession` created this session. -/
  | redeemed (userId sessionId : String)
  /-- `MfaCredentialRepository.rotateSession` replaced the old session by the new one. -/
  | rotated (userId old new : String)
  deriving Repr, DecidableEq

structure Expiring (α : Type) where
  value : α
  expiresAt : Nat
  deriving Repr, DecidableEq

structure State where
  /-- The clock of the application. -/
  now : Nat
  /-- The clock of the database server. -/
  dbNow : Nat
  users : Table String User
  sessions : Table String Session
  credentials : Table String MfaCredential
  /-- `ExternalIdentity`: the user of an issuer and a subject. -/
  externalIdentities : Table (String × String) String
  authorizationChanges : List AuthorizationChange
  challenges : Table String (Expiring MfaChallenge)
  enrollments : Table String (Expiring EnrollmentEntry)
  resets : Table String (Expiring MfaResetProof)
  loginAttempts : Table String (Expiring Nat)
  log : List Event

abbrev Handler (α : Type) := Async Exception State α

abbrev Statement (α : Type) := StateT State (Except Exception) α

/-- Both clocks may show anything: replicas are not synchronised. -/
def clockMoves (s t : State) : Prop := ∃ now dbNow, t = { s with now := now, dbNow := dbNow }

def emptyState : State where
  now := 0
  dbNow := 0
  users := ∅
  sessions := ∅
  credentials := ∅
  externalIdentities := ∅
  authorizationChanges := []
  challenges := ∅
  enrollments := ∅
  resets := ∅
  loginAttempts := ∅
  log := []

namespace State

def updateUser (id : String) (f : User → User) (s : State) : State :=
  { s with users := s.users.update id f }

def updateCredential (id : String) (f : MfaCredential → MfaCredential) (s : State) : State :=
  { s with credentials := s.credentials.update id f }

def updateSessions (p : String → Session → Bool) (f : Session → Session) (s : State) : State :=
  { s with sessions := s.sessions.updateWhere p f }

def record (e : Event) (s : State) : State := { s with log := e :: s.log }

end State

/-- `SET key value EX 300 NX`: refused while a live entry is there. -/
def setNx {α : Type} (now : Nat) (key : String) (value : α) (store : Table String (Expiring α)) :
    Bool × Table String (Expiring α) :=
  match store.lookup key with
  | some e => if now < e.expiresAt then (false, store)
      else (true, AList.insert key ⟨value, now + 300000⟩ store)
  | none => (true, AList.insert key ⟨value, now + 300000⟩ store)

def getDel {α : Type} (now : Nat) (key : String) (store : Table String (Expiring α)) :
    Option α × Table String (Expiring α) :=
  (match store.lookup key with
    | some e => if now < e.expiresAt then some e.value else none
    | none => none,
   store.erase key)

end KubeNova.Auth
