import KubeNova.Auth.Accounts
import KubeNova.Auth.AuthService
import KubeNova.Users.Administrators

/-!
# The services only make moves

Every statement of every account operation changes the accounts by moves, and a
transaction by the moves of its body.  So any run of any number of requests is,
seen from the accounts, a sequence of moves (`accounts_refine`).
-/

namespace KubeNova.Auth

open KubeNova.Common KubeNova.Foundation KubeNova.Users Function

def accountsProtocol : Protocol State where
  inv _ := True
  guar s t := Moves s.accounts t.accounts
  refl _ := .refl
  preserves _ _ := trivial

/-- The protocol leaves the stores, the clocks and the login attempts to themselves. -/
def AllowsOthers (P : Protocol State) : Prop := ∀ s t, t.accounts = s.accounts → P.guar s t

theorem accountsProtocol_allowsOthers : AllowsOthers accountsProtocol := by
  intro s t h
  show Moves s.accounts t.accounts
  rw [h]

theorem accountsProtocol_rely {s t : State} (h : accountsProtocol.rely s t) :
    Moves s.accounts t.accounts := by
  induction h with
  | refl => exact .refl
  | tail _ hstep ih => exact ih.trans hstep

/-! ## The statements -/

theorem createSession_eq_ok {id : String} {input : CreateSessionInput} {s t : State}
    {session : Session} (h : createSession id input s = .ok (session, t)) :
    s.accounts.session id = none ∧ session.userId = input.userId ∧
      session.authzVersion = input.authzVersion ∧ session.mfaVersion = none ∧
      t.accounts = s.accounts.setSession id session := by
  unfold createSession at h
  split at h
  · simp at h
  rename_i hfresh
  split at h
  · simp at h
  · obtain ⟨rfl, rfl⟩ := Prod.mk.inj (Except.ok.inj h)
    exact ⟨AList.lookup_eq_none.mpr hfresh, rfl, rfl, rfl, accounts_insertSession _ _ _⟩

theorem createSession_moves {id : String} {input : CreateSessionInput} {s t : State}
    {session : Session} (h : createSession id input s = .ok (session, t)) :
    Moves s.accounts t.accounts := by
  obtain ⟨hfresh, -, -, hplain, ht⟩ := createSession_eq_ok h
  rw [ht]
  exact .single (.issue hfresh hplain)

theorem revokeSession_eq_some {id : String} {revokedAt : State → Nat}
    {p : State → Session → Bool} {s : State} {session : Session}
    (h : (revokeSession id revokedAt p s).1 = some session) :
    s.accounts.session id = some session ∧ p s session = true ∧
      (revokeSession id revokedAt p s).2.accounts =
        s.accounts.setSession id { session with revokedAt := some (revokedAt s) } := by
  unfold revokeSession at h ⊢
  cases hrow : s.sessions.lookup id with
  | none => simp [hrow] at h
  | some row =>
      simp only [hrow] at h ⊢
      split at h
      · rename_i hp
        obtain rfl : row = session := by simpa using h
        rw [if_pos hp]
        exact ⟨hrow, (Bool.and_eq_true _ _ ▸ hp).2, accounts_updateSession _ hrow⟩
      · simp at h

theorem revokeSession_eq_none {id : String} {revokedAt : State → Nat}
    {p : State → Session → Bool} {s : State} (h : (revokeSession id revokedAt p s).1 = none) :
    (revokeSession id revokedAt p s).2 = s := by
  unfold revokeSession at h ⊢
  cases hrow : s.sessions.lookup id with
  | none => simp
  | some row =>
      simp only [hrow] at h ⊢
      split at h
      · simp at h
      · rename_i hp
        rw [if_neg hp]

theorem setSession_revoked_moves {a : Accounts} {id : String} {session : Session}
    (h : a.session id = some session) (revokedAt : Option Nat) :
    Moves a (a.setSession id { session with revokedAt := revokedAt }) := by
  rw [← a.mapSessions_eq_setSession (f := fun row => { row with revokedAt := revokedAt }) h]
  refine .single ?_
  convert Move.revoke (a := a) fun k row => if k = id then revokedAt else row.revokedAt using 2
  funext k row
  split <;> rfl

theorem revokeSession_moves (id : String) (revokedAt : State → Nat) (p : State → Session → Bool)
    (s : State) : Moves s.accounts (revokeSession id revokedAt p s).2.accounts := by
  cases h : (revokeSession id revokedAt p s).1 with
  | some session =>
      obtain ⟨hrow, -, ht⟩ := revokeSession_eq_some h
      rw [ht]
      exact setSession_revoked_moves hrow _
  | none =>
      rw [revokeSession_eq_none h]

theorem revokeUserSessions_moves (userId : String) (s : State) :
    Moves s.accounts (revokeUserSessions userId s).2.accounts := by
  refine .single ?_
  rw [revokeUserSessions, accounts_updateSessions]
  convert Move.revoke (a := s.accounts) fun _ row =>
    if row.userId == userId && row.revokedAt.isNone then some s.now else row.revokedAt using 2
  funext k row
  split <;> rfl

namespace MfaCredentialRepository

theorem challengedCredential_eq_some {challenge : MfaChallenge} {s : State}
    {credential : MfaCredential} (h : challengedCredential challenge s = some credential) :
    s.accounts.credential challenge.userId = some credential ∧
      credential.version = challenge.enrollmentVersion := by
  unfold challengedCredential at h
  split at h
  · rename_i row user hrow huser
    split at h
    · rename_i hmatch
      obtain rfl : row = credential := by simpa using h
      exact ⟨hrow, hmatch.1⟩
    · simp at h
  · simp at h

structure Redeemed (challenge : MfaChallenge) (s t : State) : Prop where
  moves : Moves s.accounts t.accounts
  user : t.accounts.user = s.accounts.user
  session : t.accounts.session = s.accounts.session
  credential : ∃ credential, t.accounts.credential challenge.userId = some credential ∧
    credential.version = challenge.enrollmentVersion

theorem redeemed_of_update {challenge : MfaChallenge} {s : State} {credential : MfaCredential}
    {f : MfaCredential → MfaCredential} {e : Event}
    (hrow : s.accounts.credential challenge.userId = some credential)
    (hversion : (f credential).version = challenge.enrollmentVersion)
    (hmove : Move s.accounts
      ((s.accounts.setCredential challenge.userId (some (f credential))).record e)) :
    Redeemed challenge s ((s.updateCredential challenge.userId f).record e) := by
  have ht : ((s.updateCredential challenge.userId f).record e).accounts =
      (s.accounts.setCredential challenge.userId (some (f credential))).record e := by
    rw [accounts_record, accounts_updateCredential hrow]
  refine ⟨?_, rfl, rfl, f credential, ?_, hversion⟩
  · rw [ht]
    exact .single hmove
  · rw [ht]
    exact update_self _ _ _

theorem acceptCounter_spec {challenge : MfaChallenge} {counter matchedAt : Nat}
    (hwindow : withinSteps 1 counter matchedAt) (s : State) :
    Redeemed challenge s (acceptCounter challenge counter matchedAt s).2 ∨
      acceptCounter challenge counter matchedAt s = (0, s) := by
  unfold acceptCounter
  split
  · rename_i credential hcredential
    obtain ⟨hrow, hversion⟩ := challengedCredential_eq_some hcredential
    split
    · rename_i hnewer
      exact .inl (redeemed_of_update hrow hversion
        (.accept hrow (fun last hlast => by simpa [hlast] using hnewer) hwindow))
    · exact .inr rfl
  · exact .inr rfl

theorem acceptRecovery_spec {challenge : MfaChallenge} {hash : String} (s : State) :
    Redeemed challenge s (acceptRecovery challenge hash s).2 ∨
      acceptRecovery challenge hash s = (0, s) := by
  unfold acceptRecovery
  split
  · rename_i credential hcredential
    obtain ⟨hrow, hversion⟩ := challengedCredential_eq_some hcredential
    split
    · rename_i hunspent
      exact .inl (redeemed_of_update hrow hversion (.recover hrow hunspent))
    · exact .inr rfl
  · exact .inr rfl

theorem matchSealed_within {crypto : Crypto} {config : Config} {encryptedSecret code : String}
    {now counter : Nat}
    (h : matchSealed crypto config encryptedSecret code now = .ok (some counter)) :
    withinSteps 1 counter now := by
  unfold matchSealed at h
  cases hsecret : decryptMfaSecret crypto encryptedSecret config.encryptionKey with
  | error e => simp [hsecret, bind, Except.bind] at h
  | ok secret => exact matchTotpCounter_within (by simpa [hsecret, bind, Except.bind] using h)

theorem obeys_assurance {P : Protocol State} (credential : MfaCredential) (changed : Nat) :
    Obeys P (assurance credential changed) :=
  .ite (.bind (.query _) fun _ => .done _) (.done _)

theorem obeys_redeem {P : Protocol State} (crypto : Crypto) (config : Config)
    {challenge : MfaChallenge} (hP : ∀ s t, Redeemed challenge s t → P.guar s t) (code : String)
    (method : Method) : Obeys P (redeem crypto config challenge code method) := by
  refine .ite (.done _) (.bind (.query _) fun credential => ?_)
  cases credential with
  | none => exact .done _
  | some credential =>
      cases method with
      | totp =>
          refine .bind (.query _) fun now => ?_
          split
          · exact .fail _
          · exact .done _
          · rename_i counter hmatch
            refine .bind (.exec fun s _ => ?_) fun _ => obeys_assurance _ _
            rcases acceptCounter_spec (matchSealed_within hmatch) s with h | h
            · exact hP _ _ h
            · rw [h]
              exact P.refl s
      | recovery =>
          refine .bind (.exec fun s _ => ?_) fun _ => obeys_assurance _ _
          rcases acceptRecovery_spec s with h | h
          · exact hP _ _ h
          · rw [h]
            exact P.refl s

theorem assurance_run_eq_some {credential : MfaCredential} {changed : Nat} {s t : State}
    {result : Assurance} (h : (assurance credential changed).run s = (.ok (some result), t)) :
    changed = 1 ∧ t = s ∧ result.mfaVersion = credential.version := by
  unfold assurance at h
  split at h
  · rename_i hchanged
    obtain ⟨hresult, rfl⟩ := Prod.mk.inj h
    obtain rfl := Option.some.inj (Except.ok.inj hresult)
    exact ⟨hchanged, rfl, rfl⟩
  · simp at h

theorem redeem_run_eq_some {crypto : Crypto} {config : Config} {challenge : MfaChallenge}
    {code : String} {method : Method} {s t : State} {result : Assurance}
    (h : (redeem crypto config challenge code method).run s = (.ok (some result), t)) :
    Redeemed challenge s t ∧ result.mfaVersion = challenge.enrollmentVersion := by
  unfold redeem at h
  split at h
  · simp at h
  rw [Async.run_query_bind] at h
  cases hcredential : challengedCredential challenge s with
  | none => simp [hcredential] at h
  | some credential =>
      have hversion := (challengedCredential_eq_some hcredential).2
      cases method with
      | totp =>
          simp only [hcredential, Async.run_query_bind] at h
          split at h
          · simp at h
          · simp at h
          · rename_i counter hmatch
            rw [Async.run_exec_bind] at h
            obtain ⟨hchanged, rfl, hresult⟩ := assurance_run_eq_some h
            rcases acceptCounter_spec (matchSealed_within hmatch) s with hspec | hnone
            · exact ⟨hspec, hresult.trans hversion⟩
            · simp [hnone] at hchanged
      | recovery =>
          simp only [hcredential, Async.run_exec_bind] at h
          obtain ⟨hchanged, rfl, hresult⟩ := assurance_run_eq_some h
          rcases acceptRecovery_spec s with hspec | hnone
          · exact ⟨hspec, hresult.trans hversion⟩
          · simp [hnone] at hchanged

/-! ## The transactions -/

theorem redeem_run_moves {crypto : Crypto} {config : Config} {challenge : MfaChallenge}
    {code : String} {method : Method} {s t : State} {result : Except Exception (Option Assurance)}
    (h : (redeem crypto config challenge code method).run s = (result, t)) :
    Moves s.accounts t.accounts := by
  have hobeys : Obeys accountsProtocol (redeem crypto config challenge code method) :=
    obeys_redeem crypto config (fun _ _ hredeemed => hredeemed.moves) code method
  have hrely := hobeys.run (s := s) trivial
  rw [h] at hrely
  exact accountsProtocol_rely hrely

theorem redeemedSession_moves {sessionId : String} {input : CreateSessionInput} {version : Int}
    {s t : State} {session : Session} {user : User} {credential : MfaCredential}
    (hcreate : createSession sessionId input s = .ok (session, t))
    (huser : s.accounts.user input.userId = some user)
    (hversion : input.authzVersion = user.authzVersion)
    (hcredential : s.accounts.credential input.userId = some credential)
    (hfactor : version = credential.version) :
    Moves s.accounts (markRedeemed sessionId input.userId version t).2.accounts := by
  obtain ⟨hfresh, huserId, hauthz, -, ht⟩ := createSession_eq_ok hcreate
  have hrow : t.accounts.session sessionId = some session := by simp [ht]
  refine .single ?_
  rw [markRedeemed, accounts_record, accounts_updateSession _ hrow, ht,
    Accounts.setSession_setSession, ← huserId]
  exact .redeem hfresh (huserId ▸ huser) (hauthz.trans hversion) (huserId ▸ hcredential)
    (congrArg some hfactor)

theorem redeemAndCreateSessionBody_moves {crypto : Crypto} {config : Config} {sessionId : String}
    {challenge : MfaChallenge} {code : String} {method : Method} {input : SessionTokens}
    {s t : State} {result : Option (String × Session × User)}
    (h : (redeemAndCreateSessionBody crypto config sessionId challenge code method input).run s =
      (.ok result, t)) : Moves s.accounts t.accounts := by
  unfold redeemAndCreateSessionBody at h
  rw [Async.run_query_bind] at h
  cases huser : (s.users.lookup challenge.userId).filter (isChallenged challenge) with
  | none =>
      simp only [huser, Async.pure_eq, Async.run_done, Prod.mk.injEq] at h
      rw [h.2]
  | some user =>
      have hlookup : s.accounts.user challenge.userId = some user :=
        (Option.filter_eq_some_iff.mp huser).1
      simp only [huser] at h
      obtain ⟨assurance, u, hredeem, h⟩ := Async.run_bind_eq_ok h
      cases assurance with
      | none =>
          simp only [Async.pure_eq, Async.run_done, Prod.mk.injEq] at h
          rw [← h.2]
          exact redeem_run_moves hredeem
      | some assurance =>
          obtain ⟨hspec, hmfa⟩ := redeem_run_eq_some hredeem
          obtain ⟨credential, hcredential, hversion⟩ := hspec.credential
          obtain ⟨session, v, hcreate, h⟩ := Async.run_attempt_bind_eq_ok h
          rw [Async.run_exec_bind] at h
          have ht := (Prod.mk.inj h).2
          rw [← ht]
          exact hspec.moves.trans (redeemedSession_moves hcreate (hspec.user ▸ hlookup) rfl
            hcredential (hmfa.trans hversion.symm))

theorem createCredential_eq_ok {userId encryptedSecret : String} {counter matchedAt : Nat}
    {hashes : List String} {s t : State} {u : Unit}
    (h : createCredential userId encryptedSecret counter matchedAt hashes s = .ok (u, t)) :
    ∃ credential : MfaCredential, s.accounts.credential userId = none ∧
      credential.lastTotpCounter = some counter ∧ credential.recoveryCodeHashes = hashes ∧
      t.accounts = (s.accounts.setCredential userId (some credential)).record
        (.enrolled userId counter matchedAt hashes) := by
  unfold createCredential at h
  simp only at h
  split at h
  · simp at h
  · rename_i hfresh
    have ht := (Prod.mk.inj (Except.ok.inj h)).2
    refine ⟨⟨encryptedSecret, 1, s.now, some counter, hashes⟩,
      AList.lookup_eq_none.mpr hfresh, rfl, rfl, ?_⟩
    rw [← ht, accounts_record, accounts_insertCredential]

theorem deleteCredential_eq_ok {userId : String} {s t : State} {u : Unit}
    (h : deleteCredential userId s = .ok (u, t)) :
    t.accounts = (s.accounts.setCredential userId none).record (.reset userId) := by
  unfold deleteCredential at h
  split at h
  · have ht := (Prod.mk.inj (Except.ok.inj h)).2
    rw [← ht, accounts_record, accounts_eraseCredential]
  · simp at h

theorem setMfaEnabled_eq_ok {userId : String} {mfaEnabled : Bool} {s t : State} {u : Unit}
    (h : setMfaEnabled userId mfaEnabled s = .ok (u, t)) :
    ∃ user, s.accounts.user userId = some user ∧
      t.accounts = s.accounts.setUser userId
        { user with mfaEnabled := mfaEnabled, authzVersion := user.authzVersion + 1 } := by
  unfold setMfaEnabled at h
  split at h
  · rename_i hmem
    obtain ⟨user, huser⟩ := Option.isSome_iff_exists.mp (AList.lookup_isSome.mpr hmem)
    have ht := (Prod.mk.inj (Except.ok.inj h)).2
    exact ⟨user, huser, by rw [← ht, accounts_updateUser huser]⟩
  · simp at h

theorem revokeAndRecord_moves {userId : String} {change : AuthorizationChange} {s t : State}
    {α : Type} {value result : α}
    (h : (do
      Async.exec (revokeUserSessions userId)
      Async.exec (createAuthorizationChange change)
      return value : Handler α).run s = (.ok result, t)) : Moves s.accounts t.accounts := by
  have ht := (Prod.mk.inj h).2
  rw [← ht]
  exact revokeUserSessions_moves userId s

theorem confirmEnrollmentBody_moves {crypto : Crypto} {identity : EnrollmentIdentity}
    {encryptedSecret : String} {counter matchedAt : Nat} {codes : List String} {s t : State}
    {result : Option (List String)} (hwindow : withinSteps 1 counter matchedAt)
    (h : (confirmEnrollmentBody crypto identity encryptedSecret counter matchedAt codes).run s =
      (.ok result, t)) : Moves s.accounts t.accounts := by
  unfold confirmEnrollmentBody at h
  rw [Async.run_query_bind] at h
  split at h
  · rw [← (Prod.mk.inj h).2]
  rw [Async.run_query_bind, Async.run_query_bind] at h
  split at h
  · rw [← (Prod.mk.inj h).2]
  obtain ⟨_, u, hcreate, h⟩ := Async.run_attempt_bind_eq_ok h
  obtain ⟨_, v, hset, h⟩ := Async.run_attempt_bind_eq_ok h
  obtain ⟨credential, hnone, hcounter, hhashes, hu⟩ := createCredential_eq_ok hcreate
  obtain ⟨user, huser, hv⟩ := setMfaEnabled_eq_ok hset
  have henroll : Move s.accounts v.accounts := by
    rw [hu] at huser
    rw [hv, hu, ← hhashes]
    exact .enroll huser hnone hcounter hwindow
  exact .head henroll (revokeAndRecord_moves h)

theorem resetBody_moves {proof : MfaResetProof} {s t : State} {result : Option String}
    (h : (resetBody proof).run s = (.ok result, t)) : Moves s.accounts t.accounts := by
  unfold resetBody at h
  simp only [Async.run_query_bind] at h
  split at h
  · split at h
    · rw [← (Prod.mk.inj h).2]
    rw [Async.run_query_bind] at h
    split at h
    · rw [← (Prod.mk.inj h).2]
    split at h
    · rw [← (Prod.mk.inj h).2]
    obtain ⟨_, u, hdelete, h⟩ := Async.run_attempt_bind_eq_ok h
    obtain ⟨_, v, hset, h⟩ := Async.run_attempt_bind_eq_ok h
    have hu := deleteCredential_eq_ok hdelete
    obtain ⟨user, huser, hv⟩ := setMfaEnabled_eq_ok hset
    have hreset : Move s.accounts v.accounts := by
      rw [hu] at huser
      rw [hv, hu]
      exact .reset huser
    exact .head hreset (revokeAndRecord_moves h)
  · rw [← (Prod.mk.inj h).2]

theorem carriesFactor_mfaVersion {session : Session} {credential : MfaCredential} {now : Nat}
    (h : carriesFactor session credential now = true) :
    session.mfaVersion = some credential.version := by
  simp only [carriesFactor, Bool.and_eq_true, beq_iff_eq] at h
  exact h.1

theorem rotateSessionBody_moves {sessionId : String} {input : Rotation} {s t : State}
    {result : Option (String × Session)}
    (h : (rotateSessionBody sessionId input).run s = (.ok result, t)) :
    Moves s.accounts t.accounts := by
  unfold rotateSessionBody at h
  rw [Async.run_query_bind] at h
  split at h
  · rw [← (Prod.mk.inj h).2]
  rename_i hsome
  obtain ⟨user, huser⟩ := Option.isSome_iff_exists.mp
    (by simpa only [Option.not_isNone, Bool.not_eq_true, Option.isNone_eq_false_iff] using hsome)
  obtain ⟨hlookup, htestUser⟩ := Option.filter_eq_some_iff.mp huser
  simp only [Bool.and_eq_true, beq_iff_eq] at htestUser
  rw [Async.run_exec_bind] at h
  split at h
  · rw [← (Prod.mk.inj h).2]
    exact revokeSession_moves _ _ _ _
  rename_i old hold
  obtain ⟨hrow, htest, hrevoked⟩ := revokeSession_eq_some hold
  simp only [Bool.and_eq_true, beq_iff_eq] at htest
  obtain ⟨⟨⟨⟨huserId, hauthz⟩, -⟩, -⟩, hfactor⟩ := htest
  obtain ⟨credential, -, hfactor⟩ := (Option.any_eq_true _ _).mp hfactor
  obtain ⟨session, u, hcreate, h⟩ := Async.run_attempt_bind_eq_ok h
  obtain ⟨hfresh, hnewUser, hnewAuthz, -, hu⟩ := createSession_eq_ok hcreate
  simp only at hnewUser hnewAuthz
  rw [hrevoked] at hfresh hu
  have hnew : u.accounts.session sessionId = some session := by simp [hu]
  rw [Async.run_exec_bind] at h
  rw [← (Prod.mk.inj h).2]
  refine (setSession_revoked_moves hrow (some s.dbNow)).tail ?_
  rw [copyFactor, accounts_record, accounts_updateSession _ hnew, hu,
    Accounts.setSession_setSession, ← hnewUser]
  refine .rotate (update_self _ _ _) ?_ hfresh ?_ (hnewUser ▸ hlookup) ?_ ?_
  · simp [carriesFactor_mfaVersion hfactor]
  · exact hnewUser.trans huserId.symm
  · exact hnewAuthz.trans htestUser.2.symm
  · exact hauthz.trans htestUser.2.symm

theorem obeys_redeemAndCreateSession (crypto : Crypto) (config : Config) (draws : Draws)
    (challenge : MfaChallenge) (code : String) (method : Method) (input : SessionTokens) :
    Obeys accountsProtocol
      (redeemAndCreateSession crypto config draws challenge code method input) :=
  .bind (.query _) fun _ => .ite (.done _)
    (.transaction fun _ _ _ _ h => redeemAndCreateSessionBody_moves h)

theorem obeys_confirmEnrollment (crypto : Crypto) (config : Config) (draws : Draws)
    (identity : EnrollmentIdentity) (secret code : String) :
    Obeys accountsProtocol (confirmEnrollment crypto config draws identity secret code) := by
  refine .ite (.done _) (.bind (.query _) fun now => ?_)
  cases hmatch : matchTotpCounter crypto secret code now with
  | error e => exact .fail _
  | ok found =>
      simp only [Async.ofExcept, Async.done_bind]
      cases found with
      | none => exact .done _
      | some counter =>
          exact .bind (.ensure _ _) fun _ => .bind (.ofExcept _) fun _ =>
            .transaction fun _ _ _ _ h =>
              confirmEnrollmentBody_moves (matchTotpCounter_within hmatch) h

theorem obeys_reset (config : Config) (draws : Draws) (proof : MfaResetProof) :
    Obeys accountsProtocol (reset config draws proof) :=
  .bind (.query _) fun _ => .ite (.done _) (.transaction fun _ _ _ _ h => resetBody_moves h)

theorem obeys_rotateSession (draws : Draws) (input : Rotation) :
    Obeys accountsProtocol (rotateSession draws input) :=
  .transaction fun _ _ _ _ h => rotateSessionBody_moves h

theorem obeys_prepareChallenge {P : Protocol State} (userId : String) (authzVersion : Int) :
    Obeys P (prepareChallenge userId authzVersion) :=
  .ite (.done _) (.query _)

end MfaCredentialRepository

section Operations

open AuthRepository

variable {P : Protocol State} (crypto : Crypto) (config : Config) (draws : Draws)

theorem obeys_saveChallenge (hP : AllowsOthers P) (challenge : MfaChallenge) :
    Obeys P (MfaChallengeStore.save crypto draws challenge) :=
  .bind (.ofExcept _) fun _ => .bind (.ofExcept _) fun _ =>
    .bind (.exec fun _ _ => hP _ _ rfl) fun _ => .bind (.ensure _ _) fun _ => .done _

theorem obeys_consumeChallenge (hP : AllowsOthers P) (token : String) :
    Obeys P (MfaChallengeStore.consume crypto token) := by
  refine .bind (.ofExcept _) fun _ => .bind (.exec fun _ _ => hP _ _ rfl) fun value => ?_
  cases value with
  | none => exact .fail _
  | some challenge => exact .ofExcept _

theorem obeys_saveEnrollment (identity : EnrollmentIdentity) :
    Obeys accountsProtocol (MfaEnrollmentStore.save crypto config draws identity) :=
  .bind (.ensure _ _) fun _ => .bind (.ensure _ _) fun _ => .bind (.ofExcept _) fun _ =>
    .bind (.ofExcept _) fun _ => .bind (.exec fun _ _ => .refl) fun _ =>
    .bind (.ensure _ _) fun _ => .done _

theorem obeys_consumeEnrollment (token : String) (identity : EnrollmentIdentity) :
    Obeys accountsProtocol (MfaEnrollmentStore.consume crypto config token identity) := by
  refine .bind (.ensure _ _) fun _ => .bind (.ofExcept _) fun _ =>
    .bind (.exec fun _ _ => .refl) fun value => ?_
  cases value with
  | none => exact .fail _
  | some payload =>
      refine .ite (.fail _) ?_
      split
      · exact .done _
      · exact .fail _

theorem obeys_saveReset (identity : MfaResetIdentity) :
    Obeys accountsProtocol (MfaResetStore.save crypto draws identity) :=
  .bind (.ensure _ _) fun _ => .bind (.ofExcept _) fun _ =>
    .bind (.exec fun _ _ => .refl) fun _ => .bind (.ensure _ _) fun _ => .done _

theorem obeys_consumeReset (token : String) (identity : MfaResetIdentity) :
    Obeys accountsProtocol (MfaResetStore.consume crypto token identity) := by
  refine .bind (.ensure _ _) fun _ => .bind (.ofExcept _) fun _ =>
    .bind (.exec fun _ _ => .refl) fun value => .bind (.query _) fun _ => ?_
  cases value with
  | none => exact .fail _
  | some payload => exact .bind (.ensure _ _) fun _ => .done _

theorem obeys_consumeAccount (hP : AllowsOthers P) (id : String) :
    Obeys P (LoginAttemptLimiter.consumeAccount crypto id) :=
  .bind (.ensure _ _) fun _ => .bind (.exec fun _ _ => hP _ _ rfl) fun _ => .ensure _ _

theorem obeys_subjectForUser (issuer userId : String) :
    Obeys accountsProtocol (OidcIdentityRepository.subjectForUser issuer userId) := by
  refine .bind (.query _) fun identities => ?_
  split
  · exact .done _
  · exact .fail _

theorem obeys_resolve (issuer subject : String) :
    Obeys P (OidcIdentityRepository.resolve issuer subject) := by
  refine .bind (.ensure _ _) fun _ => .bind (.query _) fun identity => ?_
  cases identity with
  | none => exact .fail _
  | some found => exact .ite (.done _) (.fail _)

theorem obeys_createSession (sessionId : String) (input : CreateSessionInput) :
    Obeys accountsProtocol (Async.attempt (createSession sessionId input)) :=
  .attempt fun _ _ _ _ h => createSession_moves h

theorem rotateSessionBody_moves {sessionId : String} {input : Rotation} {s t : State}
    {result : Option (String × Session)}
    (h : (AuthRepository.rotateSessionBody sessionId input).run s = (.ok result, t)) :
    Moves s.accounts t.accounts := by
  unfold AuthRepository.rotateSessionBody at h
  rw [Async.run_exec_bind] at h
  split at h
  · rw [← (Prod.mk.inj h).2]
    exact revokeSession_moves _ _ _ _
  · obtain ⟨session, u, hcreate, h⟩ := Async.run_attempt_bind_eq_ok h
    rw [← (Prod.mk.inj h).2]
    exact (revokeSession_moves _ _ _ _).trans (createSession_moves hcreate)

theorem obeys_rotateSession (input : Rotation) :
    Obeys accountsProtocol (AuthRepository.rotateSession draws input) :=
  .transaction fun _ _ _ _ h => rotateSessionBody_moves h

/-! ## The operations of `AuthService` -/

section Login

def AllowsLogin (P : Protocol State) (crypto : Crypto) (draws : Draws) : Prop :=
  ∀ input, input.refreshTokenHash = TokenService.hashToken crypto draws.refreshToken →
    Obeys P (Async.attempt (createSession draws.sessionId input) : Handler Session)

variable (hP : AllowsOthers P) (hlogin : AllowsLogin P crypto draws)

include hP hlogin

theorem obeys_issueSession (userId : String) (user : User) :
    Obeys P (AuthService.issueSession crypto config draws userId user) := by
  refine .ite (.done _) (.ite (.bind (MfaCredentialRepository.obeys_prepareChallenge _ _)
    fun challenge => ?_) ?_)
  · cases challenge with
    | none => exact .done _
    | some challenge => exact .bind (obeys_saveChallenge _ _ hP _) fun _ => .done _
  · exact .bind (.query _) fun _ => .bind (hlogin _ rfl) fun _ => .done _

theorem obeys_login (username password : String) :
    Obeys P (AuthService.login crypto config draws username password) := by
  refine .bind (.query _) fun userRecord => .bind (obeys_consumeAccount _ hP _) fun _ => ?_
  cases userRecord with
  | none => exact .done _
  | some found => exact .ite (obeys_issueSession _ _ _ hP hlogin _ _) (.done _)

theorem obeys_loginExternal (issuer subject : String) :
    Obeys P (AuthService.loginExternal crypto config draws issuer subject) :=
  .bind (obeys_resolve _ _) fun _ => obeys_issueSession _ _ _ hP hlogin _ _

end Login

theorem obeys_completeMfa (hP : AllowsOthers P)
    (hredeem : ∀ challenge code method input,
      input.refreshTokenHash = TokenService.hashToken crypto draws.refreshToken →
      Obeys P (MfaCredentialRepository.redeemAndCreateSession crypto config draws challenge code
        method input)) (challengeToken code : String) (method : Method) :
    Obeys P (AuthService.completeMfa crypto config draws challengeToken code method) := by
  refine .bind (obeys_consumeChallenge _ hP _) fun _ => .bind (.query _) fun _ =>
    .bind (hredeem _ _ _ _ rfl) fun result => ?_
  cases result <;> exact .done _

theorem obeys_refresh (refreshToken : String) :
    Obeys accountsProtocol (AuthService.refresh crypto config draws refreshToken) := by
  refine .bind (.query _) fun current => ?_
  cases current with
  | none => exact .done _
  | some current =>
      refine .ite (.done _) (.bind (.query _) fun _ => .ite ?_ ?_)
      · refine .bind (MfaCredentialRepository.obeys_rotateSession _ _) fun next => ?_
        cases next <;> exact .done _
      · refine .bind (obeys_rotateSession _ _) fun next => ?_
        cases next <;> exact .done _

theorem obeys_logout (accessToken : String) :
    Obeys accountsProtocol (AuthService.logout accessToken) := by
  unfold AuthService.logout
  cases TokenService.resolveSessionId accessToken with
  | none => exact .done _
  | some sessionId =>
      exact .bind (.exec fun s _ => revokeSession_moves _ _ _ s) fun _ => .done _

theorem obeys_validate (accessToken : String) :
    Obeys P (AuthService.validate accessToken) := by
  unfold AuthService.validate
  cases TokenService.resolveSessionId accessToken with
  | none => exact .done _
  | some sessionId =>
      refine .bind (.query _) fun current => ?_
      cases current with
      | none => exact .done _
      | some current =>
          refine .ite (.bind (.query _) fun _ => ?_) ?_
          · exact .ite (.done _) (.done _)
          · exact .ite (.done _) (.done _)

theorem obeys_enrollmentIdentity (actor : ValidatedSession) :
    Obeys accountsProtocol (AuthService.enrollmentIdentity actor) := by
  refine .bind (.query _) fun current => ?_
  cases current with
  | none => exact .fail _
  | some current => exact .bind (.ensure _ _) fun _ => .done _

theorem obeys_oidcEnrollmentContext (actor : ValidatedSession) (issuer : String)
    (starting : Bool) :
    Obeys accountsProtocol (AuthService.oidcEnrollmentContext crypto actor issuer starting) := by
  refine .bind (obeys_enrollmentIdentity _) fun _ => .ite ?_ ?_
  · exact .bind (obeys_consumeAccount _ accountsProtocol_allowsOthers _) fun _ =>
      .bind (obeys_subjectForUser _ _) fun _ => .done _
  · exact .bind (obeys_subjectForUser _ _) fun _ => .done _

theorem obeys_finishOidcEnrollment (actor : ValidatedSession) (issuer : String)
    (original : EnrollmentIdentity × String) :
    Obeys accountsProtocol
      (AuthService.finishOidcEnrollment crypto config draws actor issuer original) :=
  .bind (obeys_oidcEnrollmentContext _ _ _ _) fun _ => .bind (.ensure _ _) fun _ =>
    obeys_saveEnrollment _ _ _ _

theorem obeys_beginMfaEnrollment (actor : ValidatedSession) (password : String) :
    Obeys accountsProtocol (AuthService.beginMfaEnrollment crypto config draws actor password) :=
  .bind (obeys_enrollmentIdentity _) fun _ =>
    .bind (obeys_consumeAccount _ accountsProtocol_allowsOthers _) fun _ =>
    .bind (.query _) fun _ => .bind (.ensure _ _) fun _ => obeys_saveEnrollment _ _ _ _

theorem obeys_confirmMfaEnrollment (actor : ValidatedSession) (token code : String) :
    Obeys accountsProtocol
      (AuthService.confirmMfaEnrollment crypto config draws actor token code) := by
  refine .bind (obeys_enrollmentIdentity _) fun _ => .bind (obeys_consumeEnrollment _ _ _ _)
    fun _ => .bind (MfaCredentialRepository.obeys_confirmEnrollment _ _ _ _ _ _) fun result => ?_
  cases result with
  | none => exact .fail _
  | some codes => exact .done _

theorem obeys_resetContext (actor : ValidatedSession) (targetUserId : String) :
    Obeys accountsProtocol (AuthService.resetContext config actor targetUserId) := by
  refine .bind (.ensure _ _) fun _ => .bind (.query _) fun current => ?_
  cases current with
  | none => exact .fail _
  | some current =>
      refine .bind (.ensure _ _) fun _ => .bind (.query _) fun target => ?_
      split
      · exact .bind (.ensure _ _) fun _ => .done _
      · exact .fail _

theorem obeys_stepUp (original : MfaResetIdentity × SessionWithUser)
    (factor : Option ResetFactor) :
    Obeys accountsProtocol (AuthService.stepUp crypto config original factor) := by
  refine .ite ?_ (.done _)
  cases factor with
  | none => exact .fail _
  | some factor =>
      refine .bind (.ensure _ _) fun _ =>
        .bind (MfaCredentialRepository.obeys_prepareChallenge _ _) fun challenge => ?_
      cases challenge with
      | none => exact .fail _
      | some challenge =>
          exact .bind (MfaCredentialRepository.obeys_redeem _ _ (fun _ _ h => h.moves) _ _)
            fun _ => .ensure _ _

theorem obeys_finishResetStepUp (actor : ValidatedSession)
    (original : MfaResetIdentity × SessionWithUser) (factor : Option ResetFactor) :
    Obeys accountsProtocol
      (AuthService.finishResetStepUp crypto config draws actor original factor) :=
  .bind (obeys_stepUp _ _ _ _) fun _ => .bind (obeys_resetContext _ _ _) fun _ =>
    .bind (.ensure _ _) fun _ => obeys_saveReset _ _ _

theorem obeys_prepareMfaReset (actor : ValidatedSession) (targetUserId password : String)
    (factor : Option ResetFactor) :
    Obeys accountsProtocol
      (AuthService.prepareMfaReset crypto config draws actor targetUserId password factor) :=
  .bind (obeys_resetContext _ _ _) fun _ =>
    .bind (obeys_consumeAccount _ accountsProtocol_allowsOthers _) fun _ =>
    .bind (.ensure _ _) fun _ => obeys_finishResetStepUp _ _ _ _ _ _

theorem obeys_oidcMfaResetContext (actor : ValidatedSession) (targetUserId issuer : String)
    (starting : Bool) :
    Obeys accountsProtocol
      (AuthService.oidcMfaResetContext crypto config actor targetUserId issuer starting) := by
  refine .bind (obeys_resetContext _ _ _) fun _ => .ite ?_ ?_
  · exact .bind (obeys_consumeAccount _ accountsProtocol_allowsOthers _) fun _ =>
      .bind (obeys_subjectForUser _ _) fun _ => .done _
  · exact .bind (obeys_subjectForUser _ _) fun _ => .done _

theorem obeys_finishOidcMfaReset (actor : ValidatedSession) (targetUserId issuer : String)
    (verified : Except Exception (String × String)) (factor : Option ResetFactor) :
    Obeys accountsProtocol (AuthService.finishOidcMfaReset crypto config draws actor targetUserId
      issuer verified factor) :=
  .bind (obeys_resetContext _ _ _) fun _ => .bind (obeys_oidcMfaResetContext _ _ _ _ _ _) fun _ =>
    .bind (.ofExcept _) fun _ => .bind (.ensure _ _) fun _ =>
    .bind (obeys_oidcMfaResetContext _ _ _ _ _ _) fun _ => .bind (.ensure _ _) fun _ =>
    obeys_finishResetStepUp _ _ _ _ _ _

theorem obeys_confirmMfaReset (actor : ValidatedSession) (targetUserId token : String) :
    Obeys accountsProtocol
      (AuthService.confirmMfaReset crypto config draws actor targetUserId token) := by
  refine .bind (obeys_resetContext _ _ _) fun _ => .bind (obeys_consumeReset _ _ _) fun _ =>
    .bind (MfaCredentialRepository.obeys_reset _ _ _) fun result => ?_
  cases result with
  | none => exact .fail _
  | some userId => exact .done _

end Operations

theorem obeys_disableOrEnable (config : Config) (actor : Option Actor) (id : String)
    (isActive : Bool) : Obeys accountsProtocol (setState config actor id isActive) := by
  refine obeys_setState _ _ _ _ fun _ => .attempt fun s _ user t h => ?_
  obtain ⟨old, hold, -, rfl⟩ := updateRow_eq_ok h
  have hold : s.accounts.user id = some old := hold
  show Moves _ _
  rw [accounts_updateUser hold]
  exact .single (.user _ hold (by simp only; omega) rfl)

theorem updateProfile_moves {id : String} {data : UserChange} {s t : State} {user : User}
    (h : updateProfile id data s = .ok (user, t)) : Moves s.accounts t.accounts := by
  unfold updateProfile at h
  split at h
  · simp at h
  obtain ⟨old, hold, -, rfl⟩ := updateRow_eq_ok h
  have hold : s.accounts.user id = some old := hold
  rw [accounts_updateUser hold]
  refine .single (.user _ hold ?_ rfl)
  simp only [UserChange.apply]
  split <;> omega

theorem obeys_usernameChange {P : Protocol State} (id : String) (username : Option String) :
    Obeys P (usernameChange id username) := by
  cases username with
  | none => exact .done _
  | some value =>
      exact .bind (.ofExcept _) fun _ => .bind (.query _) fun _ => .bind (.ensure _ _) fun _ =>
        .done _

theorem obeys_nameChange {P : Protocol State} (data : UserChange) (name : Option String) :
    Obeys P (nameChange data name) := by
  cases name with
  | none => exact .done _
  | some value => exact .bind (.ofExcept _) fun _ => .done _

theorem obeys_passwordChange {P : Protocol State} (crypto : Crypto) (salt : String)
    (data : UserChange) (password : Option String) :
    Obeys P (passwordChange crypto salt data password) := by
  cases password with
  | none => exact .done _
  | some value => exact .bind (.ensure _ _) fun _ => .done _

theorem obeys_updateUser (crypto : Crypto) (config : Config) (actor : Option Actor) (id : String)
    (body : UpdateUserRequest) (salt : String) :
    Obeys accountsProtocol (updateUser crypto config actor id body salt) :=
  .bind (.ofExcept _) fun _ => .bind (obeys_assertSuperadministrator _ _ _) fun _ =>
    .bind (.ensure _ _) fun _ => .bind (obeys_mustFindUser _) fun _ =>
    .bind (obeys_usernameChange _ _) fun _ => .bind (obeys_nameChange _ _) fun _ =>
    .bind (obeys_passwordChange _ _ _ _) fun _ => .bind (.ensure _ _) fun _ =>
    .bind (.attempt fun _ _ _ _ h => updateProfile_moves h) fun _ => .done _

inductive AccountRequest where
  | login (username password : String)
  | loginExternal (issuer subject : String)
  | completeMfa (challengeToken code : String) (method : Method)
  | refresh (refreshToken : String)
  | validate (accessToken : String)
  | logout (accessToken : String)
  | beginMfaEnrollment (actor : ValidatedSession) (password : String)
  | finishOidcEnrollment (actor : ValidatedSession) (issuer : String)
      (original : EnrollmentIdentity × String)
  | confirmMfaEnrollment (actor : ValidatedSession) (token code : String)
  | prepareMfaReset (actor : ValidatedSession) (targetUserId password : String)
      (factor : Option ResetFactor)
  | finishOidcMfaReset (actor : ValidatedSession) (targetUserId issuer : String)
      (verified : Except Exception (String × String)) (factor : Option ResetFactor)
  | finishResetStepUp (actor : ValidatedSession)
      (original : MfaResetIdentity × AuthRepository.SessionWithUser) (factor : Option ResetFactor)
  | confirmMfaReset (actor : ValidatedSession) (targetUserId token : String)
  | redeem (challenge : MfaChallenge) (code : String) (method : Method)
  | redeemAndCreateSession (challenge : MfaChallenge) (code : String) (method : Method)
      (input : SessionTokens)
  | confirmEnrollment (identity : EnrollmentIdentity) (secret code : String)
  | setState (actor : Option Actor) (id : String) (isActive : Bool)
  | updateUser (actor : Option Actor) (id : String) (body : UpdateUserRequest) (salt : String)

def serve (crypto : Crypto) (config : Config) (draws : Draws) : AccountRequest → Handler Unit
  | .login username password => discard (AuthService.login crypto config draws username password)
  | .loginExternal issuer subject =>
      discard (AuthService.loginExternal crypto config draws issuer subject)
  | .completeMfa challengeToken code method =>
      discard (AuthService.completeMfa crypto config draws challengeToken code method)
  | .refresh refreshToken => discard (AuthService.refresh crypto config draws refreshToken)
  | .validate accessToken => discard (AuthService.validate accessToken)
  | .logout accessToken => AuthService.logout accessToken
  | .beginMfaEnrollment actor password =>
      discard (AuthService.beginMfaEnrollment crypto config draws actor password)
  | .finishOidcEnrollment actor issuer original =>
      discard (AuthService.finishOidcEnrollment crypto config draws actor issuer original)
  | .confirmMfaEnrollment actor token code =>
      discard (AuthService.confirmMfaEnrollment crypto config draws actor token code)
  | .prepareMfaReset actor targetUserId password factor =>
      discard (AuthService.prepareMfaReset crypto config draws actor targetUserId password factor)
  | .finishOidcMfaReset actor targetUserId issuer verified factor =>
      discard (AuthService.finishOidcMfaReset crypto config draws actor targetUserId issuer
        verified factor)
  | .finishResetStepUp actor original factor =>
      discard (AuthService.finishResetStepUp crypto config draws actor original factor)
  | .confirmMfaReset actor targetUserId token =>
      discard (AuthService.confirmMfaReset crypto config draws actor targetUserId token)
  | .redeem challenge code method =>
      discard (MfaCredentialRepository.redeem crypto config challenge code method)
  | .redeemAndCreateSession challenge code method input =>
      discard (MfaCredentialRepository.redeemAndCreateSession crypto config draws challenge code
        method input)
  | .confirmEnrollment identity secret code =>
      discard (MfaCredentialRepository.confirmEnrollment crypto config draws identity secret code)
  | .setState actor id isActive => discard (setState config actor id isActive)
  | .updateUser actor id body salt => discard (updateUser crypto config actor id body salt)

def isAccountHandler (crypto : Crypto) (config : Config) (h : Handler Unit) : Prop :=
  ∃ draws request, h = serve crypto config draws request

theorem obeys_discard {P : Protocol State} {α : Type} {h : Handler α} (hh : Obeys P h) :
    Obeys P (discard h) :=
  .bind hh fun _ => .done _

theorem obeys_serve (crypto : Crypto) (config : Config) (draws : Draws) (request : AccountRequest) :
    Obeys accountsProtocol (serve crypto config draws request) := by
  have hothers := accountsProtocol_allowsOthers
  have hlogin : AllowsLogin accountsProtocol crypto draws := fun _ _ => obeys_createSession _ _
  cases request with
  | login => exact obeys_discard (obeys_login _ _ _ hothers hlogin _ _)
  | loginExternal => exact obeys_discard (obeys_loginExternal _ _ _ hothers hlogin _ _)
  | completeMfa =>
      exact obeys_discard (obeys_completeMfa _ _ _ hothers (fun _ _ _ _ _ =>
        MfaCredentialRepository.obeys_redeemAndCreateSession _ _ _ _ _ _ _) _ _ _)
  | refresh => exact obeys_discard (obeys_refresh _ _ _ _)
  | validate => exact obeys_discard (obeys_validate _)
  | logout => exact obeys_logout _
  | beginMfaEnrollment => exact obeys_discard (obeys_beginMfaEnrollment _ _ _ _ _)
  | finishOidcEnrollment => exact obeys_discard (obeys_finishOidcEnrollment _ _ _ _ _ _)
  | confirmMfaEnrollment => exact obeys_discard (obeys_confirmMfaEnrollment _ _ _ _ _ _)
  | prepareMfaReset => exact obeys_discard (obeys_prepareMfaReset _ _ _ _ _ _ _)
  | finishOidcMfaReset => exact obeys_discard (obeys_finishOidcMfaReset _ _ _ _ _ _ _ _)
  | finishResetStepUp => exact obeys_discard (obeys_finishResetStepUp _ _ _ _ _ _)
  | confirmMfaReset => exact obeys_discard (obeys_confirmMfaReset _ _ _ _ _ _)
  | redeem =>
      exact obeys_discard (MfaCredentialRepository.obeys_redeem _ _ (fun _ _ h => h.moves) _ _)
  | redeemAndCreateSession =>
      exact obeys_discard (MfaCredentialRepository.obeys_redeemAndCreateSession _ _ _ _ _ _ _)
  | confirmEnrollment =>
      exact obeys_discard (MfaCredentialRepository.obeys_confirmEnrollment _ _ _ _ _ _)
  | setState => exact obeys_discard (obeys_disableOrEnable _ _ _ _)
  | updateUser => exact obeys_discard (obeys_updateUser _ _ _ _ _ _)

theorem accounts_refine {crypto : Crypto} {config : Config} {init : State}
    {c : Pool Exception State Unit}
    (hc : Reach (isAccountHandler crypto config) clockMoves init c) :
    Moves init.accounts c.shared.accounts := by
  refine accountsProtocol_rely (Protocol.reachable (P := accountsProtocol)
    (R := fun _ _ => True) ?_ ?_ trivial hc).2
  · rintro _ s ⟨draws, request, rfl⟩ hs
    exact (obeys_serve crypto config draws request).guards hs
  · rintro s _ _ ⟨now, dbNow, rfl⟩
    exact .refl

/-- The digest of the one text below; nothing else is hashed, sealed or derived. -/
def sampleCrypto : Crypto := .ofDigests [("00112233445566778899aabbccddeeff",
  "5947d7c33d783f94b3b4c1a96ebc8991ed28f1b069b71e03376cba8caa98a720")]

def sampleConfig : Config := ⟨none, some "key", none, none, none⟩

def sampleDraws : Draws where
  sessionId := "session-1"
  refreshToken := "refresh-1"
  token := ""
  secretBytes := []
  iv := ""
  recoveryBytes _ := []
  abort := none

def enrolledState : State :=
  { emptyState with
    users := List.toAList [⟨"u", ⟨"ann", none, none, "user", true, 3, true⟩⟩]
    credentials := List.toAList [⟨"u", ⟨"sealed", 1, 0, none,
      [sampleCrypto.sha256 "00112233445566778899aabbccddeeff"]⟩⟩] }

def redeemRecovery : AccountRequest :=
  .redeemAndCreateSession ⟨"u", 3, 1⟩ "00112233445566778899aabbccddeeff" .recovery ⟨"h", 10, 20⟩

/-- Two clients present the same recovery code at the same time. -/
def redeemedPool : Pool Exception State Unit :=
  Pool.play ⟨enrolledState, [serve sampleCrypto sampleConfig sampleDraws redeemRecovery,
    serve sampleCrypto sampleConfig { sampleDraws with sessionId := "session-2" } redeemRecovery]⟩
    [0, 1, 0, 1]

theorem redeemedPool_reachable :
    Reach (isAccountHandler sampleCrypto sampleConfig) clockMoves enrolledState redeemedPool := by
  refine Reach.play (Reach.arrive_all (c := ⟨enrolledState, []⟩) .refl _ fun h hh => ?_) _
  simp only [List.mem_cons, List.not_mem_nil, or_false] at hh
  rcases hh with rfl | rfl
  · exact ⟨_, redeemRecovery, rfl⟩
  · exact ⟨_, redeemRecovery, rfl⟩

end KubeNova.Auth
