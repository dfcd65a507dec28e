import KubeNova.Auth.MfaTotp
import KubeNova.Auth.State
import Mathlib.Logic.Function.Basic

/-!
# The accounts in the abstract

What authentication is about: who the users are, which sessions they hold, which
second factors are enrolled, and what was accepted so far.  `Move` lists the
changes an account may undergo; everything below about sessions and second
factors follows from these moves alone.
-/

namespace KubeNova.Auth

open KubeNova.Foundation Function

structure Accounts where
  user : String → Option User
  session : String → Option Session
  credential : String → Option MfaCredential
  log : List Event

def State.accounts (s : State) : Accounts where
  user := (s.users.lookup ·)
  session := (s.sessions.lookup ·)
  credential := (s.credentials.lookup ·)
  log := s.log

namespace Accounts

variable (a : Accounts)

def setUser (id : String) (user : User) : Accounts :=
  { a with user := update a.user id (some user) }

def setSession (id : String) (session : Session) : Accounts :=
  { a with session := update a.session id (some session) }

def setCredential (id : String) (credential : Option MfaCredential) : Accounts :=
  { a with credential := update a.credential id credential }

def mapSessions (f : String → Session → Session) : Accounts :=
  { a with session := fun id => (a.session id).map (f id) }

def record (e : Event) : Accounts := { a with log := e :: a.log }

@[simp] theorem user_setUser (id : String) (user : User) :
    (a.setUser id user).user = update a.user id (some user) := rfl

@[simp] theorem session_setUser (id : String) (user : User) :
    (a.setUser id user).session = a.session := rfl

@[simp] theorem credential_setUser (id : String) (user : User) :
    (a.setUser id user).credential = a.credential := rfl

@[simp] theorem log_setUser (id : String) (user : User) : (a.setUser id user).log = a.log := rfl

@[simp] theorem user_setSession (id : String) (session : Session) :
    (a.setSession id session).user = a.user := rfl

@[simp] theorem session_setSession (id : String) (session : Session) :
    (a.setSession id session).session = update a.session id (some session) := rfl

@[simp] theorem credential_setSession (id : String) (session : Session) :
    (a.setSession id session).credential = a.credential := rfl

@[simp] theorem log_setSession (id : String) (session : Session) :
    (a.setSession id session).log = a.log := rfl

@[simp] theorem user_setCredential (id : String) (credential : Option MfaCredential) :
    (a.setCredential id credential).user = a.user := rfl

@[simp] theorem session_setCredential (id : String) (credential : Option MfaCredential) :
    (a.setCredential id credential).session = a.session := rfl

@[simp] theorem credential_setCredential (id : String) (credential : Option MfaCredential) :
    (a.setCredential id credential).credential = update a.credential id credential := rfl

@[simp] theorem log_setCredential (id : String) (credential : Option MfaCredential) :
    (a.setCredential id credential).log = a.log := rfl

@[simp] theorem user_mapSessions (f : String → Session → Session) :
    (a.mapSessions f).user = a.user := rfl

@[simp] theorem session_mapSessions (f : String → Session → Session) (id : String) :
    (a.mapSessions f).session id = (a.session id).map (f id) := rfl

@[simp] theorem credential_mapSessions (f : String → Session → Session) :
    (a.mapSessions f).credential = a.credential := rfl

@[simp] theorem log_mapSessions (f : String → Session → Session) :
    (a.mapSessions f).log = a.log := rfl

@[simp] theorem user_record (e : Event) : (a.record e).user = a.user := rfl

@[simp] theorem session_record (e : Event) : (a.record e).session = a.session := rfl

@[simp] theorem credential_record (e : Event) : (a.record e).credential = a.credential := rfl

@[simp] theorem log_record (e : Event) : (a.record e).log = e :: a.log := rfl

/-- Writing a session twice is writing it once. -/
@[simp] theorem setSession_setSession (id : String) (session session' : Session) :
    (a.setSession id session).setSession id session' = a.setSession id session' := by
  simp [setSession]

theorem mapSessions_eq_setSession {id : String} {session : Session} {f : Session → Session}
    (h : a.session id = some session) :
    (a.mapSessions fun k row => if k = id then f row else row) = a.setSession id (f session) := by
  simp only [mapSessions, setSession, mk.injEq, and_true, true_and]
  funext k
  by_cases hk : k = id
  · subst hk
    simp [h]
  · simp [hk]

end Accounts

inductive Move (a : Accounts) : Accounts → Prop
  /-- Profile, activity and role of a user: versions do not go back, and the
  enrollment stays as it is. -/
  | user {id : String} {old : User} (new : User) (hold : a.user id = some old)
      (hversion : old.authzVersion ≤ new.authzVersion) (henrolled : new.mfaEnabled = old.mfaEnabled) :
      Move a (a.setUser id new)
  /-- Sessions are revoked. -/
  | revoke (revokedAt : String → Session → Option Nat) :
      Move a (a.mapSessions fun id session => { session with revokedAt := revokedAt id session })
  /-- A session without second factor. -/
  | issue {id : String} {session : Session} (hfresh : a.session id = none)
      (hplain : session.mfaVersion = none) : Move a (a.setSession id session)
  | accept {userId : String} {credential : MfaCredential} {counter matchedAt : Nat}
      (hcredential : a.credential userId = some credential)
      (hnewer : ∀ last, credential.lastTotpCounter = some last → last < counter)
      (hwindow : withinSteps 1 counter matchedAt) :
      Move a ((a.setCredential userId (some { credential with
        lastTotpCounter := some counter })).record (.accepted userId counter matchedAt))
  | recover {userId : String} {credential : MfaCredential} {hash : String}
      (hcredential : a.credential userId = some credential)
      (hunspent : hash ∈ credential.recoveryCodeHashes) :
      Move a ((a.setCredential userId (some { credential with
        recoveryCodeHashes := credential.recoveryCodeHashes.filter (· ≠ hash) })).record
          (.recovered userId hash))
  /-- A session issued for a redeemed code of the user's credential. -/
  | redeem {id : String} {session : Session} {user : User} {credential : MfaCredential}
      (hfresh : a.session id = none) (huser : a.user session.userId = some user)
      (hversion : session.authzVersion = user.authzVersion)
      (hcredential : a.credential session.userId = some credential)
      (hfactor : session.mfaVersion = some credential.version) :
      Move a ((a.setSession id session).record (.redeemed session.userId id))
  /-- The successor of a session that carries the second factor. -/
  | rotate {old new : String} {oldSession session : Session} {user : User}
      (hold : a.session old = some oldSession) (hfactor : oldSession.mfaVersion ≠ none)
      (hfresh : a.session new = none) (hsame : session.userId = oldSession.userId)
      (huser : a.user session.userId = some user)
      (hversion : session.authzVersion = user.authzVersion)
      (holdVersion : oldSession.authzVersion = user.authzVersion) :
      Move a ((a.setSession new session).record (.rotated session.userId old new))
  | enroll {userId : String} {user : User} {credential : MfaCredential} {counter matchedAt : Nat}
      (huser : a.user userId = some user) (hnone : a.credential userId = none)
      (hcounter : credential.lastTotpCounter = some counter)
      (hwindow : withinSteps 1 counter matchedAt) :
      Move a (((a.setCredential userId (some credential)).record
        (.enrolled userId counter matchedAt credential.recoveryCodeHashes)).setUser userId
          { user with mfaEnabled := true, authzVersion := user.authzVersion + 1 })
  | reset {userId : String} {user : User} (huser : a.user userId = some user) :
      Move a (((a.setCredential userId none).record (.reset userId)).setUser userId
        { user with mfaEnabled := false, authzVersion := user.authzVersion + 1 })

abbrev Moves : Accounts → Accounts → Prop := Relation.ReflTransGen Move

theorem Moves.induction {I : Accounts → Prop} (hmove : ∀ {a b}, I a → Move a b → I b)
    {a b : Accounts} (h : Moves a b) (ha : I a) : I b := by
  induction h with
  | refl => exact ha
  | tail _ hlast ih => exact hmove ih hlast

theorem accounts_updateUser {s : State} {id : String} {f : User → User} {user : User}
    (h : s.accounts.user id = some user) :
    (s.updateUser id f).accounts = s.accounts.setUser id (f user) := by
  simp only [State.accounts, State.updateUser, Accounts.setUser, Accounts.mk.injEq, and_true] at h ⊢
  funext k
  by_cases hk : k = id
  · subst hk
    simp [h]
  · simp [Table.lookup_update_ne _ _ hk, update_of_ne hk]

theorem accounts_updateCredential {s : State} {id : String} {f : MfaCredential → MfaCredential}
    {credential : MfaCredential} (h : s.accounts.credential id = some credential) :
    (s.updateCredential id f).accounts = s.accounts.setCredential id (some (f credential)) := by
  simp only [State.accounts, State.updateCredential, Accounts.setCredential, Accounts.mk.injEq,
    and_true, true_and] at h ⊢
  funext k
  by_cases hk : k = id
  · subst hk
    simp [h]
  · simp [Table.lookup_update_ne _ _ hk, update_of_ne hk]

theorem accounts_updateSessions (s : State) (p : String → Session → Bool) (f : Session → Session) :
    (s.updateSessions p f).accounts =
      s.accounts.mapSessions fun id session => if p id session then f session else session := by
  simp only [State.accounts, State.updateSessions, Accounts.mapSessions, Accounts.mk.injEq, and_true,
    true_and]
  exact funext fun k => Table.lookup_updateWhere _ _ _ _

theorem accounts_updateSession {s : State} {id : String} {session : Session} (f : Session → Session)
    (h : s.accounts.session id = some session) :
    (s.updateSessions (fun k _ => k == id) f).accounts =
      s.accounts.setSession id (f session) := by
  rw [accounts_updateSessions, ← Accounts.mapSessions_eq_setSession _ h]
  simp

theorem accounts_insertSession (s : State) (id : String) (session : Session) :
    State.accounts { s with sessions := AList.insert id session s.sessions } =
      s.accounts.setSession id session := by
  simp only [State.accounts, Accounts.setSession, Accounts.mk.injEq, and_true, true_and]
  funext k
  simp [Table.lookup_insert, update_apply]

theorem accounts_insertCredential (s : State) (id : String) (credential : MfaCredential) :
    State.accounts { s with credentials := AList.insert id credential s.credentials } =
      s.accounts.setCredential id (some credential) := by
  simp only [State.accounts, Accounts.setCredential, Accounts.mk.injEq, and_true, true_and]
  funext k
  simp [Table.lookup_insert, update_apply]

theorem accounts_eraseCredential (s : State) (id : String) :
    State.accounts { s with credentials := s.credentials.erase id } =
      s.accounts.setCredential id none := by
  simp only [State.accounts, Accounts.setCredential, Accounts.mk.injEq, and_true, true_and]
  funext k
  by_cases hk : k = id
  · subst hk
    simp
  · simp [AList.lookup_erase_ne hk, update_of_ne hk]

@[simp] theorem accounts_record (s : State) (e : Event) :
    (s.record e).accounts = s.accounts.record e := rfl

end KubeNova.Auth
