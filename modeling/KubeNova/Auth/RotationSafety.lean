import KubeNova.Auth.AccountsRefinement
import KubeNova.Auth.Rotation

/-!
# Rotation of refresh tokens

Logins, refreshes and logouts change the sessions by the steps of
`SessionStep`, in the company of anything that revokes sessions.  Both
implementations of `rotateSession` exchange the presented session or change
nothing.
-/

namespace KubeNova.Auth

open KubeNova.Common KubeNova.Foundation Function Relation

def rotationProtocol (issued : String → String → Prop) : Protocol State where
  inv _ := True
  guar s t := SessionStep issued s.accounts.session t.accounts.session
  refl _ := .revoke fun _ => .inl rfl
  preserves _ _ := trivial

/-- Other parties may change everything, but of the sessions they only revoke some. -/
def revokesAtMost (s t : State) : Prop :=
  ∀ id, OnlyRevoked (s.accounts.session id) (t.accounts.session id)

variable {issued : String → String → Prop}

theorem rotationProtocol_allowsOthers : AllowsOthers (rotationProtocol issued) := by
  intro s t h
  refine .revoke fun id => .inl ?_
  rw [h]

theorem createSession_row {id : String} {input : CreateSessionInput} {s t : State}
    {session : Session} (h : createSession id input s = .ok (session, t)) :
    session.revokedAt = none ∧ session.refreshTokenHash = input.refreshTokenHash ∧
      session.expiresAt = input.expiresAt ∧ session.refreshExpiresAt = input.refreshExpiresAt := by
  unfold createSession at h
  split at h
  · simp at h
  split at h
  · simp at h
  · obtain ⟨rfl, -⟩ := Prod.mk.inj (Except.ok.inj h)
    exact ⟨rfl, rfl, rfl, rfl⟩

theorem createSession_step {id : String} {input : CreateSessionInput} {s t : State}
    {session : Session} (hissued : issued id input.refreshTokenHash)
    (h : createSession id input s = .ok (session, t)) :
    (rotationProtocol issued).guar s t := by
  obtain ⟨hfresh, -, -, -, ht⟩ := createSession_eq_ok h
  obtain ⟨hlive, hhash, -, -⟩ := createSession_row h
  exact .login hfresh hlive (hhash ▸ hissued) (congrArg Accounts.session ht)

theorem revokeSession_live {id : String} {revokedAt : State → Nat} {p : State → Session → Bool}
    {s : State} {session : Session} (h : (revokeSession id revokedAt p s).1 = some session) :
    session.revokedAt = none := by
  unfold revokeSession at h
  split at h
  · split at h
    · rename_i row hrow hp
      obtain rfl : row = session := Option.some.inj h
      rw [Bool.and_eq_true, Option.isNone_iff_eq_none] at hp
      exact hp.1
    · cases h
  · cases h

theorem revokeSession_step (id : String) (revokedAt : State → Nat) (p : State → Session → Bool)
    (s : State) : (rotationProtocol issued).guar s (revokeSession id revokedAt p s).2 := by
  cases h : (revokeSession id revokedAt p s).1 with
  | none =>
      rw [revokeSession_eq_none h]
      exact (rotationProtocol issued).refl s
  | some session =>
      obtain ⟨hrow, -, ht⟩ := revokeSession_eq_some h
      refine .revoke fun k => ?_
      rw [ht, Accounts.session_setSession]
      by_cases hk : k = id
      · subst hk
        rw [update_self]
        exact .inr ⟨session, revokedAt s, hrow, revokeSession_live h, rfl⟩
      · rw [update_of_ne hk]
        exact .inl rfl

/-! ## The two rotations -/

/-- The rotation of `input` took the sessions from `s` to `t`: the presented
session `old` is revoked, and `row` is its successor. -/
structure Rotated (input : Rotation) (sessionId : String) (s t : State) (old row : Session) :
    Prop where
  found : s.accounts.session input.sessionId = some old
  live : old.revokedAt = none
  presented : old.refreshTokenHash = input.currentRefreshTokenHash
  fresh : s.accounts.session sessionId = none
  successorLive : row.revokedAt = none
  next : row.refreshTokenHash = input.nextRefreshTokenHash
  expires : row.expiresAt ≤ row.refreshExpiresAt
  sessions : ∃ revokedAt, t.accounts.session = update (update s.accounts.session input.sessionId
    (some { old with revokedAt := some revokedAt })) sessionId (some row)

namespace Rotated

variable {input : Rotation} {sessionId : String} {s t : State} {old row : Session}

theorem ne (h : Rotated input sessionId s t old row) : input.sessionId ≠ sessionId := by
  intro hsame
  have hfresh := h.fresh
  rw [← hsame, h.found] at hfresh
  cases hfresh

theorem exchanged (h : Rotated input sessionId s t old row) :
    Exchanged s.accounts.session t.accounts.session input.sessionId sessionId := by
  obtain ⟨revokedAt, ht⟩ := h.sessions
  refine ⟨⟨old, h.found, h.live⟩, ⟨{ old with revokedAt := some revokedAt }, ?_, by simp⟩, h.fresh,
    row, by rw [ht, update_self]⟩
  rw [ht, update_of_ne h.ne, update_self]

theorem step (h : Rotated input sessionId s t old row)
    (hissued : issued sessionId input.nextRefreshTokenHash)
    (hcap : row.refreshExpiresAt = old.refreshExpiresAt) :
    (rotationProtocol issued).guar s t := by
  obtain ⟨revokedAt, ht⟩ := h.sessions
  exact .rotate h.found h.live h.fresh h.successorLive (h.next ▸ hissued) hcap h.expires ht

end Rotated

theorem rotated_of_statements {input : Rotation} {sessionId : String} {revokedAt : State → Nat}
    {p : State → Session → Bool} {s u : State} {old row : Session} {next : CreateSessionInput}
    (hrevoke : (revokeSession input.sessionId revokedAt p s).1 = some old)
    (hpresented : old.refreshTokenHash = input.currentRefreshTokenHash)
    (hnext : next.refreshTokenHash = input.nextRefreshTokenHash)
    (hexpires : next.expiresAt ≤ next.refreshExpiresAt)
    (hcreate : createSession sessionId next (revokeSession input.sessionId revokedAt p s).2 =
      .ok (row, u)) : Rotated input sessionId s u old row := by
  obtain ⟨hold, -, ht⟩ := revokeSession_eq_some hrevoke
  obtain ⟨hfresh, -, -, -, hu⟩ := createSession_eq_ok hcreate
  obtain ⟨hlive, hhash, hrowExpires, hcap⟩ := createSession_row hcreate
  rw [ht, Accounts.session_setSession] at hfresh
  have hne : sessionId ≠ input.sessionId := by
    rintro rfl
    rw [update_self] at hfresh
    cases hfresh
  rw [update_of_ne hne] at hfresh
  refine ⟨hold, revokeSession_live hrevoke, hpresented, hfresh, hlive, hhash.trans hnext, ?_,
    revokedAt s, ?_⟩
  · rw [hrowExpires, hcap]
    exact hexpires
  · rw [hu, ht]
    rfl

theorem AuthRepository.rotateSessionBody_eq_ok {sessionId : String} {input : Rotation} {s t : State}
    {result : Option (String × Session)}
    (h : (rotateSessionBody sessionId input).run s = (.ok result, t)) :
    (result = none ∧ t = s) ∨ ∃ session old row, result = some (sessionId, session) ∧
      Rotated input sessionId s t old row ∧ row.refreshExpiresAt = input.refreshExpiresAt := by
  unfold rotateSessionBody at h
  rw [Async.run_exec_bind] at h
  split at h
  · rename_i hnone
    obtain ⟨hresult, ht⟩ := Prod.mk.inj h
    have hsame := revokeSession_eq_none (Option.isNone_iff_eq_none.mp hnone)
    exact .inl ⟨(Except.ok.inj hresult).symm, ht.symm.trans hsame⟩
  · rename_i hsome
    obtain ⟨old, hold⟩ := Option.ne_none_iff_exists'.mp fun hnone =>
      hsome (Option.isNone_iff_eq_none.mpr hnone)
    have htest := (revokeSession_eq_some hold).2.1
    simp only [Bool.and_eq_true, beq_iff_eq] at htest
    obtain ⟨session, u, hcreate, h⟩ := Async.run_attempt_bind_eq_ok h
    obtain ⟨hresult, rfl⟩ := Prod.mk.inj h
    refine .inr ⟨session, old, session, (Except.ok.inj hresult).symm,
      rotated_of_statements hold htest.1.2 rfl (Nat.min_le_right _ _) hcreate, ?_⟩
    exact (createSession_row hcreate).2.2.2

theorem MfaCredentialRepository.rotateSessionBody_eq_ok {sessionId : String} {input : Rotation}
    {s t : State} {result : Option (String × Session)}
    (h : (rotateSessionBody sessionId input).run s = (.ok result, t)) :
    (result = none ∧ t = s) ∨ ∃ session old row, result = some (sessionId, session) ∧
      Rotated input sessionId s t old row ∧ row.refreshExpiresAt = old.refreshExpiresAt := by
  unfold rotateSessionBody at h
  rw [Async.run_query_bind] at h
  split at h
  · obtain ⟨hresult, ht⟩ := Prod.mk.inj h
    exact .inl ⟨(Except.ok.inj hresult).symm, ht.symm⟩
  rw [Async.run_exec_bind] at h
  split at h
  · rename_i hnone
    obtain ⟨hresult, ht⟩ := Prod.mk.inj h
    exact .inl ⟨(Except.ok.inj hresult).symm, ht.symm.trans (revokeSession_eq_none hnone)⟩
  · rename_i old hold
    have htest := (revokeSession_eq_some hold).2.1
    simp only [Bool.and_eq_true, beq_iff_eq] at htest
    obtain ⟨session, u, hcreate, h⟩ := Async.run_attempt_bind_eq_ok h
    have hrotated := rotated_of_statements hold htest.1.1.2 rfl (Nat.min_le_right _ _) hcreate
    have hcap := (createSession_row hcreate).2.2.2
    rw [Async.run_exec_bind] at h
    obtain ⟨hresult, rfl⟩ := Prod.mk.inj h
    obtain ⟨revokedAt, hu⟩ := hrotated.sessions
    have hnew : u.accounts.session sessionId = some session := by rw [hu, update_self]
    -- The second factor is copied onto the row that was just created.
    refine .inr ⟨session, old, { session with
      mfaVersion := old.mfaVersion, mfaVerifiedAt := old.mfaVerifiedAt },
      (Except.ok.inj hresult).symm, { hrotated with sessions := ⟨revokedAt, ?_⟩ }, hcap⟩
    rw [copyFactor, accounts_record, accounts_updateSession _ hnew]
    show update u.accounts.session sessionId _ = _
    rw [hu, update_idem]

/-- What the answer of a rotation says about the sessions: a successor is the
presented session exchanged, anything else leaves all as it was. -/
def RotationAnswer (input : Rotation) (s : State) :
    Except Exception (Option (String × Session)) → State → Prop
  | .ok (some (new, _)), t =>
      Exchanged s.accounts.session t.accounts.session input.sessionId new ∧
        ∃ old row, s.accounts.session input.sessionId = some old ∧
          t.accounts.session new = some row ∧
          old.refreshTokenHash = input.currentRefreshTokenHash ∧
          row.refreshTokenHash = input.nextRefreshTokenHash
  | _, t => t = s

theorem rotationAnswer_of_body {sessionId : String} {input : Rotation} {s : State}
    {abort : Option Exception} {body : Handler (Option (String × Session))}
    (hbody : ∀ result t, body.run s = (.ok result, t) → (result = none ∧ t = s) ∨
      ∃ session old row, result = some (sessionId, session) ∧ Rotated input sessionId s t old row) :
    RotationAnswer input s ((Async.transaction abort body).run s).1
      ((Async.transaction abort body).run s).2 := by
  cases hrun : (Async.transaction abort body).run s with
  | mk answer t =>
      cases answer with
      | error e => exact Async.run_transaction_eq_error hrun
      | ok result =>
          rcases hbody result t (Async.run_transaction_eq_ok hrun) with ⟨rfl, hsame⟩ | hrotated
          · exact hsame
          · obtain ⟨session, old, row, rfl, hrotated⟩ := hrotated
            obtain ⟨revokedAt, ht⟩ := hrotated.sessions
            exact ⟨hrotated.exchanged, old, row, hrotated.found, by rw [ht, update_self],
              hrotated.presented, hrotated.next⟩

theorem AuthRepository.rotateSession_answer (draws : Draws) (input : Rotation) (s : State) :
    RotationAnswer input s ((rotateSession draws input).run s).1
      ((rotateSession draws input).run s).2 := by
  refine @rotationAnswer_of_body draws.sessionId _ _ _ _ fun result t hrun => ?_
  rcases rotateSessionBody_eq_ok hrun with hnone | ⟨session, old, row, hresult, hrotated, -⟩
  · exact .inl hnone
  · exact .inr ⟨session, old, row, hresult, hrotated⟩

theorem MfaCredentialRepository.rotateSession_answer (draws : Draws) (input : Rotation)
    (s : State) : RotationAnswer input s ((rotateSession draws input).run s).1
      ((rotateSession draws input).run s).2 := by
  refine @rotationAnswer_of_body draws.sessionId _ _ _ _ fun result t hrun => ?_
  rcases rotateSessionBody_eq_ok hrun with hnone | ⟨session, old, row, hresult, hrotated, -⟩
  · exact .inl hnone
  · exact .inr ⟨session, old, row, hresult, hrotated⟩

section Requests

variable {crypto : Crypto} {config : Config} {draws : Draws}
  (hdrawn : issued draws.sessionId (TokenService.hashToken crypto draws.refreshToken))

theorem redeem_run_session {challenge : MfaChallenge} {code : String} {method : Method}
    {s t : State} {result : Except Exception (Option Assurance)}
    (h : (MfaCredentialRepository.redeem crypto config challenge code method).run s =
      (result, t)) : t.accounts.session = s.accounts.session := by
  let sameSessions : Protocol State := ⟨fun _ => True,
    fun s t => t.accounts.session = s.accounts.session, fun _ => rfl, fun _ _ => trivial⟩
  have hobeys : Obeys sameSessions
      (MfaCredentialRepository.redeem crypto config challenge code method) :=
    MfaCredentialRepository.obeys_redeem crypto config (fun _ _ hredeemed => hredeemed.session)
      code method
  have hrely : sameSessions.rely s t := by
    have hrun := hobeys.run (s := s) trivial
    rwa [h] at hrun
  clear h
  induction hrely with
  | refl => rfl
  | tail _ hmove ih => exact hmove.trans ih

include hdrawn

theorem login_step {challenge : MfaChallenge} {code : String} {method : Method}
    {input : SessionTokens}
    (hinput : input.refreshTokenHash = TokenService.hashToken crypto draws.refreshToken)
    {s t : State} {result : Option (String × Session × User)}
    (h : (MfaCredentialRepository.redeemAndCreateSessionBody crypto config draws.sessionId challenge
      code method input).run s = (.ok result, t)) : (rotationProtocol issued).guar s t := by
  unfold MfaCredentialRepository.redeemAndCreateSessionBody at h
  rw [Async.run_query_bind] at h
  split at h
  · obtain ⟨-, rfl⟩ := Prod.mk.inj h
    exact (rotationProtocol issued).refl s
  obtain ⟨found, u, hredeem, h⟩ := Async.run_bind_eq_ok h
  have hsame := redeem_run_session hredeem
  cases found with
  | none =>
      obtain ⟨-, rfl⟩ := Prod.mk.inj h
      exact .revoke fun id => .inl (congrFun hsame id)
  | some assurance =>
    obtain ⟨session, v, hcreate, h⟩ := Async.run_attempt_bind_eq_ok h
    rw [Async.run_exec_bind] at h
    obtain ⟨-, rfl⟩ := Prod.mk.inj h
    obtain ⟨hfresh, -, -, -, hv⟩ := createSession_eq_ok hcreate
    obtain ⟨hlive, hhash, -, -⟩ := createSession_row hcreate
    have hrow : v.accounts.session draws.sessionId = some session := by rw [hv]; exact update_self ..
    rw [hsame] at hfresh
    have hissued : issued draws.sessionId session.refreshTokenHash := by
      rw [hhash, hinput]
      exact hdrawn
    have ht : (MfaCredentialRepository.markRedeemed draws.sessionId challenge.userId
        assurance.mfaVersion v).2.accounts.session = update s.accounts.session draws.sessionId
          (some { session with
            mfaVersion := some assurance.mfaVersion, mfaVerifiedAt := some v.dbNow }) := by
      rw [MfaCredentialRepository.markRedeemed, accounts_record, accounts_updateSession _ hrow, hv,
        Accounts.setSession_setSession, Accounts.session_record, Accounts.session_setSession, hsame]
    refine .login hfresh ?_ ?_ ht
    · exact hlive
    · exact hissued

def HasExpiry (id : String) (refreshExpiresAt : Nat) (s : State) : Prop :=
  ∃ row, s.accounts.session id = some row ∧ row.refreshExpiresAt = refreshExpiresAt

omit hdrawn in
theorem hasExpiry_stable (id : String) (refreshExpiresAt : Nat) :
    Stable (rotationProtocol issued).contract (HasExpiry id refreshExpiresAt) := by
  rintro s t ⟨row, hrow, hexpiry⟩ ⟨-, hstep⟩
  obtain ⟨revokedAt, hkept, -⟩ := hstep.row hrow
  exact ⟨_, hkept, hexpiry⟩

omit hdrawn in
theorem findValidSession_eq_some {refreshTokenHash : String} {s : State}
    {current : AuthRepository.SessionWithUser}
    (h : ((AuthRepository.findValidSessionByRefreshTokenHash refreshTokenHash).run s).1 =
      .ok (some current)) : HasExpiry current.id current.session.refreshExpiresAt s := by
  simp only [AuthRepository.findValidSessionByRefreshTokenHash, Async.run_query, Except.ok.injEq,
    Option.bind_eq_some_iff, Option.map_eq_some_iff] at h
  obtain ⟨⟨id, session⟩, hfirst, user, -, rfl⟩ := h
  exact ⟨session, (Table.first?_eq_some hfirst).1, rfl⟩

theorem returns_refresh (refreshToken : String) :
    Returns (rotationProtocol issued).contract (fun _ => True)
      (AuthService.refresh crypto config draws refreshToken) fun _ _ => True := by
  refine .query_bind Stable.true fun s _ _ => ?_
  split
  · exact ⟨_, trivial, .done Stable.true fun _ _ => trivial⟩
  rename_i current hfound
  have hcurrent : HasExpiry current.id current.session.refreshExpiresAt s :=
    findValidSession_eq_some (congrArg Except.ok hfound)
  have hstable := @hasExpiry_stable issued current.id current.session.refreshExpiresAt
  refine ⟨_, hcurrent, .ite (fun _ => .done hstable fun _ _ => trivial) fun _ =>
    .query_bind hstable fun u hu _ => ⟨_, hu, ?_⟩⟩
  refine .ite (fun _ => ?_) fun _ => ?_
  · refine .bind (S := fun _ _ => True) (.attempt hstable (fun t result v _ _ hcommit =>
      ⟨?_, trivial⟩) fun _ => Stable.true) fun next => ?_
    · rcases MfaCredentialRepository.rotateSessionBody_eq_ok (Async.commit_eq_ok hcommit) with
        ⟨-, rfl⟩ | ⟨session, old, row, -, hrotated, hcap⟩
      · exact (rotationProtocol issued).refl v
      · exact hrotated.step hdrawn hcap
    · cases next <;> exact .done Stable.true fun _ _ => trivial
  · refine .bind (S := fun _ _ => True) (.attempt hstable (fun t result v ht _ hcommit =>
      ⟨?_, trivial⟩) fun _ => Stable.true) fun next => ?_
    · rcases AuthRepository.rotateSessionBody_eq_ok (Async.commit_eq_ok hcommit) with
        ⟨-, rfl⟩ | ⟨session, old, row, -, hrotated, hcap⟩
      · exact (rotationProtocol issued).refl v
      · -- The expiry passed to the rotation is still the one of the row it revokes.
        obtain ⟨read, hread, hexpiry⟩ := ht
        obtain rfl := Option.some.inj (hread.symm.trans hrotated.found)
        exact hrotated.step hdrawn (hcap.trans hexpiry.symm)
    · cases next <;> exact .done Stable.true fun _ _ => trivial

end Requests

inductive IsSessionRequest : AccountRequest → Prop
  | login (username password : String) : IsSessionRequest (.login username password)
  | loginExternal (issuer subject : String) : IsSessionRequest (.loginExternal issuer subject)
  | completeMfa (challengeToken code : String) (method : Method) :
      IsSessionRequest (.completeMfa challengeToken code method)
  | refresh (refreshToken : String) : IsSessionRequest (.refresh refreshToken)
  | validate (accessToken : String) : IsSessionRequest (.validate accessToken)
  | logout (accessToken : String) : IsSessionRequest (.logout accessToken)

def isSessionHandler (crypto : Crypto) (config : Config) (issued : String → String → Prop)
    (h : Handler Unit) : Prop :=
  ∃ draws request, IsSessionRequest request ∧
    issued draws.sessionId (TokenService.hashToken crypto draws.refreshToken) ∧
    h = serve crypto config draws request

theorem guards_sessionHandler {crypto : Crypto} {config : Config} {h : Handler Unit} {s : State}
    (hh : isSessionHandler crypto config issued h) :
    Guards (rotationProtocol issued).contract (fun _ _ => True) h s := by
  obtain ⟨draws, request, hrequest, hdrawn, rfl⟩ := hh
  have hlogin : AllowsLogin (rotationProtocol issued) crypto draws := by
    intro input hinput
    refine .attempt fun t _ session u hcreate => createSession_step ?_ hcreate
    rw [hinput]
    exact hdrawn
  have hothers := @rotationProtocol_allowsOthers issued
  cases hrequest with
  | login => exact (obeys_discard (obeys_login _ _ _ hothers hlogin _ _)).guards trivial
  | loginExternal =>
      exact (obeys_discard (obeys_loginExternal _ _ _ hothers hlogin _ _)).guards trivial
  | completeMfa =>
      refine (obeys_discard (obeys_completeMfa _ _ _ hothers ?_ _ _ _)).guards trivial
      intro challenge code method input hinput
      exact .bind (.query _) fun _ => .ite (.done _)
        (.transaction fun _ _ _ _ hrun => login_step hdrawn hinput hrun)
  | refresh refreshToken =>
      have hrefresh : Returns (rotationProtocol issued).contract (fun _ => True)
          (serve crypto config draws (.refresh refreshToken)) fun _ _ => True :=
        .bind (returns_refresh hdrawn refreshToken) fun _ => .done Stable.true fun _ _ => trivial
      exact (hrefresh.guards (s := s) trivial).mono fun _ _ _ => trivial
  | validate => exact (obeys_discard (obeys_validate _)).guards trivial
  | logout accessToken =>
      refine Obeys.guards ?_ trivial
      show Obeys _ (AuthService.logout accessToken)
      unfold AuthService.logout
      cases TokenService.resolveSessionId accessToken with
      | none => exact .done _
      | some sessionId =>
          exact .bind (.exec fun t _ => revokeSession_step _ _ _ t) fun _ => .done _

def History.observeStates (h : History) (s t : State) : History :=
  h.observe s.accounts.session t.accounts.session

/-- Rotation is safe in every run of logins, refreshes and logouts among parties
that revoke sessions, and a rotation that does not answer with a successor has
changed nothing. -/
theorem rotation_safe {crypto : Crypto} {config : Config} {init : State}
    {c : Pool Exception State Unit} {h : History}
    (hissued : ∀ id id' hash, issued id hash → issued id' hash → id = id')
    (hinit : ∀ id row, init.sessions.lookup id = some row → issued id row.refreshTokenHash)
    (hc : Recorded (isSessionHandler crypto config issued) revokesAtMost History.observeStates
      (.start init.accounts.session) init h c) :
    RotationSafe h c.shared.accounts.session ∧
      ∀ draws input s,
        RotationAnswer input s ((AuthRepository.rotateSession draws input).run s).1
          ((AuthRepository.rotateSession draws input).run s).2 ∧
        RotationAnswer input s ((MfaCredentialRepository.rotateSession draws input).run s).1
          ((MfaCredentialRepository.rotateSession draws input).run s).2 := by
  have hagrees : Agrees issued h c.shared.accounts.session := by
    refine Protocol.recorded (P := rotationProtocol issued) (R := fun _ _ => True)
      (J := fun h s => Agrees issued h s.accounts.session) ?_ ?_ ?_ trivial (.start hinit) hc
    · exact fun h s hh _ => guards_sessionHandler hh
    · exact fun s t _ henv => .revoke henv
    · exact fun h s t _ hstep hagrees => hagrees.observe hstep
  exact ⟨hagrees.rotationSafe hissued, fun draws input s =>
    ⟨AuthRepository.rotateSession_answer draws input s,
      MfaCredentialRepository.rotateSession_answer draws input s⟩⟩

def refreshCrypto : Crypto :=
  { sampleCrypto with
    sha256 := fun token =>
      if token = "refresh-0" then "47a07fe72c52e0361b80d253f57f3a288b37c67c516a51a6a3adcda2bbad5b2e"
      else if token = "refresh-1" then
        "bd473e5dcdce2510c2df4f0c5a54a605fa3647fe74afae20a8cdb8b91b1a1f63"
      else if token = "refresh-2" then
        "f865a88f563b9fbc4c224f6fbabd2ec9f810efefc61b212bda20ee64a6fb2840"
      else "" }

abbrev refreshIssued (id hash : String) : Prop :=
  (id, hash) ∈ [("session-0", refreshCrypto.sha256 "refresh-0"),
    ("session-1", refreshCrypto.sha256 "refresh-1"),
    ("session-2", refreshCrypto.sha256 "refresh-2")]

def signedInState : State :=
  { emptyState with
    users := List.toAList [⟨"u", ⟨"ann", none, none, "user", true, 3, false⟩⟩]
    sessions := AList.insert "session-0"
      ⟨"u", refreshCrypto.sha256 "refresh-0", 10, 20, none, 3, none, none⟩ ∅ }

def contendedPool : Pool Exception State Unit :=
  Pool.play ⟨signedInState, [
    serve refreshCrypto sampleConfig sampleDraws (.refresh "refresh-0"),
    serve refreshCrypto sampleConfig
      { sampleDraws with sessionId := "session-2", refreshToken := "refresh-2" }
      (.refresh "refresh-0")]⟩ [0, 1, 0, 1, 0, 1]

theorem contendedPool_reachable :
    Reach (isSessionHandler refreshCrypto sampleConfig refreshIssued) revokesAtMost signedInState
      contendedPool := by
  refine Reach.play (Reach.arrive_all (c := ⟨signedInState, []⟩) .refl _ fun h hh => ?_) _
  simp only [List.mem_cons, List.not_mem_nil, or_false] at hh
  rcases hh with rfl | rfl
  · exact ⟨_, .refresh "refresh-0", .refresh _, by decide, rfl⟩
  · exact ⟨_, .refresh "refresh-0", .refresh _, by decide, rfl⟩

/-- The first to come gets the successor; the chain has no other live session. -/
theorem contended_rotation_safe :
    (∃ h, RotationSafe h contendedPool.shared.accounts.session) ∧
      (contendedPool.shared.sessions.lookup "session-0").map (·.revokedAt) = some (some 0) ∧
      (contendedPool.shared.sessions.lookup "session-1").map (·.refreshExpiresAt) = some 20 ∧
      contendedPool.shared.sessions.lookup "session-2" = none := by
  obtain ⟨h, hh⟩ := Recorded.of_reach contendedPool_reachable History.observeStates
    (.start signedInState.accounts.session)
  refine ⟨⟨h, (rotation_safe ?_ ?_ hh).1⟩, by decide +kernel, by decide +kernel, by decide +kernel⟩
  · intro id id' hash hid hid'
    simp only [refreshIssued, List.mem_cons, Prod.mk.injEq, List.not_mem_nil, or_false] at hid hid'
    rcases hid with ⟨rfl, rfl⟩ | ⟨rfl, rfl⟩ | ⟨rfl, rfl⟩ <;>
      rcases hid' with ⟨rfl, hhash⟩ | ⟨rfl, hhash⟩ | ⟨rfl, hhash⟩ <;>
      first | rfl | exact absurd hhash (by decide)
  · intro id row hrow
    rw [signedInState, Table.lookup_insert] at hrow
    split at hrow
    · rename_i hid
      obtain rfl := Option.some.inj hrow
      simp [refreshIssued, hid]
    · cases hrow

end KubeNova.Auth
