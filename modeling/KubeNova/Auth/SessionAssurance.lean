import KubeNova.Auth.AccountsRefinement

/-!
# Sessions and their second factor

A session that carries a second factor got it from a redeemed code, or from a
session it replaced.  Enrolling and resetting a factor raise the user's version,
so a session of an earlier enrollment is never at the current version again.
-/

namespace KubeNova.Auth

open KubeNova.Common KubeNova.Foundation Function

def Event.changesFactor (userId : String) : Event → Prop
  | .enrolled u _ _ _ => u = userId
  | .reset u => u = userId
  | _ => False

/-- In this history, newest first, the session was created by
`redeemAndCreateSession` for the user's present enrollment, or replaced such a
session by `rotateSession`, possibly several times. -/
inductive Assured (userId : String) : List Event → String → Prop
  | redeemed {past : List Event} {sessionId : String} :
      Assured userId (.redeemed userId sessionId :: past) sessionId
  | rotated {past : List Event} {old new : String} (hold : Assured userId past old) :
      Assured userId (.rotated userId old new :: past) new
  | later {past : List Event} {sessionId : String} {e : Event} (he : ¬e.changesFactor userId)
      (h : Assured userId past sessionId) : Assured userId (e :: past) sessionId

/-- A session with a second factor is not ahead of its user, and one at the
user's version is assured. -/
def FactorsAssured (a : Accounts) : Prop :=
  ∀ id session user, a.session id = some session → session.mfaVersion ≠ none →
    a.user session.userId = some user →
    session.authzVersion ≤ user.authzVersion ∧
      (session.authzVersion = user.authzVersion → Assured session.userId a.log id)

namespace FactorsAssured

variable {a : Accounts}

theorem record (h : FactorsAssured a) {e : Event} (he : ∀ userId, ¬e.changesFactor userId) :
    FactorsAssured (a.record e) := by
  intro id session user hsession hfactor huser
  obtain ⟨hle, hassured⟩ := h id session user hsession hfactor huser
  exact ⟨hle, fun heq => .later (he _) (hassured heq)⟩

theorem setCredential (h : FactorsAssured a) (userId : String)
    (credential : Option MfaCredential) : FactorsAssured (a.setCredential userId credential) := h

theorem setUser (h : FactorsAssured a) {id : String} {old new : User}
    (hold : a.user id = some old) (hversion : old.authzVersion ≤ new.authzVersion) :
    FactorsAssured (a.setUser id new) := by
  intro sid session user hsession hfactor huser
  by_cases hid : session.userId = id
  · obtain rfl : new = user := by simpa [hid] using huser
    obtain ⟨hle, hassured⟩ := h sid session old hsession hfactor (hid ▸ hold)
    exact ⟨Int.le_trans hle hversion, fun heq => hassured (by omega)⟩
  · exact h sid session user hsession hfactor (by simpa [hid] using huser)

/-- The step that enrolls or resets: the user's version moves on, so none of the
user's sessions is at it. -/
theorem changeFactor (h : FactorsAssured a) {userId : String} {user : User}
    (huser : a.user userId = some user) (credential : Option MfaCredential) {e : Event}
    (he : ∀ u, e.changesFactor u → u = userId) (mfaEnabled : Bool) :
    FactorsAssured (((a.setCredential userId credential).record e).setUser userId
      { user with mfaEnabled := mfaEnabled, authzVersion := user.authzVersion + 1 }) := by
  intro sid session current hsession hfactor hcurrent
  by_cases hid : session.userId = userId
  · obtain rfl : _ = current := by simpa [hid] using hcurrent
    obtain ⟨hle, -⟩ := h sid session user hsession hfactor (hid ▸ huser)
    refine ⟨by simp only; omega, fun heq => ?_⟩
    simp only at heq
    omega
  · obtain ⟨hle, hassured⟩ := h sid session current hsession hfactor (by simpa [hid] using hcurrent)
    exact ⟨hle, fun heq => .later (fun hchanges => hid (he _ hchanges)) (hassured heq)⟩

theorem setSession (h : FactorsAssured a) {id : String} {session : Session} {user : User} {e : Event}
    (huser : a.user session.userId = some user) (hversion : session.authzVersion = user.authzVersion)
    (he : ∀ userId, ¬e.changesFactor userId)
    (hassured : Assured session.userId (e :: a.log) id) :
    FactorsAssured ((a.setSession id session).record e) := by
  intro sid row current hrow hfactor hcurrent
  by_cases hid : sid = id
  · subst hid
    obtain rfl : session = row := by simpa using hrow
    obtain rfl : user = current := Option.some.inj (huser.symm.trans hcurrent)
    exact ⟨Int.le_of_eq hversion, fun _ => hassured⟩
  · exact h.record he sid row current (by simpa [hid] using hrow) hfactor hcurrent

end FactorsAssured

theorem FactorsAssured.move {a b : Accounts} (h : FactorsAssured a) (hmove : Move a b) :
    FactorsAssured b := by
  cases hmove with
  | user new hold hversion henrolled => exact h.setUser hold hversion
  | revoke revokedAt =>
      intro id session user hsession hfactor huser
      obtain ⟨row, hrow, rfl⟩ := Option.map_eq_some_iff.mp hsession
      exact h id row user hrow hfactor huser
  | @issue id session hfresh hplain =>
      intro sid row user hrow hfactor huser
      by_cases hid : sid = id
      · subst hid
        obtain rfl : session = row := by simpa using hrow
        exact absurd hplain hfactor
      · exact h sid row user (by simpa [hid] using hrow) hfactor huser
  | accept => exact (h.setCredential _ _).record fun _ => id
  | recover => exact (h.setCredential _ _).record fun _ => id
  | redeem hfresh huser hversion hcredential hfactor =>
      exact h.setSession huser hversion (fun _ => id) .redeemed
  | rotate hold hfactor hfresh hsame huser hversion holdVersion =>
      have hassured := (h _ _ _ hold hfactor (hsame ▸ huser)).2 holdVersion
      exact h.setSession huser hversion (fun _ => id) (.rotated (hsame ▸ hassured))
  | enroll huser hnone hcounter hwindow =>
      refine h.changeFactor huser _ ?_ true
      exact fun u (heq : _ = u) => heq.symm
  | reset huser =>
      refine h.changeFactor huser none ?_ false
      exact fun u (heq : _ = u) => heq.symm

/-- A state before anything was accepted: any users, credentials and sessions,
but no session carries a second factor yet. -/
structure Initial (s : State) : Prop where
  log : s.log = []
  plain : ∀ id session, s.sessions.lookup id = some session → session.mfaVersion = none

theorem Initial.factorsAssured {s : State} (h : Initial s) : FactorsAssured s.accounts :=
  fun id session _ hsession hfactor _ => absurd (h.plain id session hsession) hfactor

/-- What a successful validation means for the session behind the token. -/
def SessionValid (s : State) (sessionId : String) : Prop :=
  ∃ session user,
    s.sessions.lookup sessionId = some session ∧ s.users.lookup session.userId = some user ∧
    user.isActive = true ∧ session.revokedAt = none ∧ s.now < session.expiresAt ∧
    session.authzVersion = user.authzVersion ∧
    (user.mfaEnabled = true →
      (∃ credential, s.credentials.lookup session.userId = some credential ∧
        session.mfaVersion = some credential.version) ∧
      Assured session.userId s.log sessionId)

theorem validSession_eq_some {sessionId : String} {s : State}
    {current : AuthRepository.SessionWithUser}
    (h : AuthRepository.validSession sessionId s = some current) :
    current.id = sessionId ∧ s.sessions.lookup sessionId = some current.session ∧
      s.users.lookup current.session.userId = some current.user ∧
      current.session.revokedAt = none ∧ s.now < current.session.expiresAt ∧
      current.user.isActive = true := by
  unfold AuthRepository.validSession at h
  split at h
  · rename_i session hsession
    split at h
    · rename_i user huser
      split at h
      · rename_i hvalid
        obtain rfl := Option.some.inj h
        exact ⟨rfl, hsession, huser, hvalid⟩
      · simp at h
    · simp at h
  · simp at h

theorem assured_eq_true {sessionId userId : String} {authzVersion : Int} {s : State}
    {session : Session} (hsession : s.sessions.lookup sessionId = some session)
    (h : MfaCredentialRepository.assured sessionId userId authzVersion s = true) :
    ∃ credential, s.credentials.lookup userId = some credential ∧
      session.mfaVersion = some credential.version := by
  simp only [MfaCredentialRepository.assured, hsession, Option.any_some] at h
  obtain ⟨user, -, h⟩ := (Option.any_eq_true _ _).mp h
  obtain ⟨credential, hcredential, h⟩ := (Option.any_eq_true _ _).mp h
  simp only [Bool.and_eq_true] at h
  exact ⟨credential, hcredential, MfaCredentialRepository.carriesFactor_mfaVersion h.2⟩

theorem validate_run_eq_some {accessToken : String} {s t : State} {validated : ValidatedSession}
    (h : (AuthService.validate accessToken).run s = (.ok (some validated), t)) :
    ∃ session user, s.sessions.lookup (Text.trim accessToken) = some session ∧
      s.users.lookup session.userId = some user ∧ user.isActive = true ∧
      session.revokedAt = none ∧ s.now < session.expiresAt ∧
      session.authzVersion = user.authzVersion ∧
      (user.mfaEnabled = true → ∃ credential, s.credentials.lookup session.userId = some credential ∧
        session.mfaVersion = some credential.version) := by
  unfold AuthService.validate TokenService.resolveSessionId at h
  by_cases hblank : Text.trim accessToken = ""
  · simp [hblank] at h
  simp only [hblank, if_false, AuthRepository.findValidSessionById, Async.run_query_bind] at h
  cases hvalid : AuthRepository.validSession (Text.trim accessToken) s with
  | none => simp [hvalid] at h
  | some current =>
      obtain ⟨hid, hsession, huser, hrevoked, hexpires, hactive⟩ := validSession_eq_some hvalid
      refine ⟨current.session, current.user, hsession, huser, hactive, hrevoked, hexpires, ?_⟩
      simp only [hvalid] at h
      split at h
      · rename_i henabled
        simp only [MfaCredentialRepository.hasSessionAssurance, Async.run_query_bind] at h
        split at h
        · simp at h
        · rename_i hpass
          push Not at hpass
          have hpassed : MfaCredentialRepository.assured current.id current.session.userId
              current.session.authzVersion s = true := by simpa using hpass.1
          exact ⟨hpass.2.2, fun _ => assured_eq_true hsession (hid ▸ hpassed)⟩
      · rename_i hdisabled
        simp only [Async.pure_eq, Async.done_bind] at h
        split at h
        · simp at h
        · rename_i hpass
          push Not at hpass
          exact ⟨hpass.2.2, fun henabled => absurd henabled hdisabled⟩

/-- In every reachable state, a token that `validate` accepts is an active user's
live session at the user's current version, and for an enrolled user it went
through the second factor of the present enrollment. -/
theorem validate_sound {crypto : Crypto} {config : Config} {init : State}
    {c : Pool Exception State Unit} {accessToken : String} {validated : ValidatedSession}
    {t : State} (hinit : Initial init)
    (hc : Reach (isAccountHandler crypto config) clockMoves init c)
    (hvalidate : (AuthService.validate accessToken).run c.shared = (.ok (some validated), t)) :
    SessionValid c.shared (Text.trim accessToken) := by
  have hassured : FactorsAssured c.shared.accounts :=
    Moves.induction FactorsAssured.move (accounts_refine hc) hinit.factorsAssured
  obtain ⟨session, user, hsession, huser, hactive, hrevoked, hexpires, hversion, hfactor⟩ :=
    validate_run_eq_some hvalidate
  refine ⟨session, user, hsession, huser, hactive, hrevoked, hexpires, hversion,
    fun henabled => ⟨hfactor henabled, ?_⟩⟩
  obtain ⟨credential, -, hmfa⟩ := hfactor henabled
  exact (hassured _ session user hsession (by simp [hmfa]) huser).2 hversion

theorem redeemed_session_valid : SessionValid redeemedPool.shared "session-1" := by
  have hinit : Initial enrolledState := by
    refine ⟨rfl, fun id session h => ?_⟩
    simp [enrolledState, emptyState] at h
  show SessionValid _ (Text.trim "session-1")
  exact validate_sound hinit redeemedPool_reachable rfl

end KubeNova.Auth
