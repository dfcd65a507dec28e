import KubeNova.Auth.AccountsRefinement

/-!
# Second factors are single use

The counter stored with a credential is at least every counter accepted since the
enrollment, and a recovery code that was accepted is no longer stored.  Each move
keeps this, so no order of requests accepts a code twice.
-/

namespace KubeNova.Auth

open KubeNova.Common KubeNova.Foundation Function

def Event.counterOf (userId : String) : Event → Option Nat
  | .accepted u counter _ => if u = userId then some counter else none
  | .enrolled u counter _ _ => if u = userId then some counter else none
  | _ => none

def Event.Enrolls (userId : String) : Event → Prop
  | .enrolled u _ _ _ => u = userId
  | _ => False

def Event.Issues (userId hash : String) : Event → Prop
  | .enrolled u _ _ hashes => u = userId ∧ hash ∈ hashes
  | _ => False

def countersSince (userId : String) : List Event → List Nat
  | [] => []
  | .accepted u counter _ :: past =>
      if u = userId then counter :: countersSince userId past else countersSince userId past
  | .enrolled u counter _ _ :: past => if u = userId then [counter] else countersSince userId past
  | _ :: past => countersSince userId past

/-- The recovery code was accepted, and not issued again since. -/
def Spent (userId hash : String) : List Event → Prop
  | [] => False
  | .recovered u h :: past => (u = userId ∧ h = hash) ∨ Spent userId hash past
  | .enrolled u _ _ hashes :: past => ¬(u = userId ∧ hash ∈ hashes) ∧ Spent userId hash past
  | _ :: past => Spent userId hash past

/-- Every accepted code was new when it was accepted, and of the present time. -/
def SingleUse : List Event → Prop
  | [] => True
  | .accepted u counter matchedAt :: past =>
      ((∀ c ∈ countersSince u past, c < counter) ∧ withinSteps 1 counter matchedAt) ∧ SingleUse past
  | .enrolled _ counter matchedAt _ :: past => withinSteps 1 counter matchedAt ∧ SingleUse past
  | .recovered u hash :: past => ¬Spent u hash past ∧ SingleUse past
  | _ :: past => SingleUse past

structure FactorsTracked (a : Accounts) : Prop where
  history : SingleUse a.log
  counters : ∀ userId credential, a.credential userId = some credential →
    ∀ c ∈ countersSince userId a.log, ∃ last, credential.lastTotpCounter = some last ∧ c ≤ last
  recovery : ∀ userId credential, a.credential userId = some credential →
    ∀ hash, Spent userId hash a.log → hash ∉ credential.recoveryCodeHashes

namespace FactorsTracked

variable {a : Accounts}

theorem of_same {b : Accounts} (h : FactorsTracked a) (hcredential : b.credential = a.credential)
    (hlog : b.log = a.log) : FactorsTracked b := by
  refine ⟨hlog ▸ h.history, ?_, ?_⟩
  · rw [hcredential, hlog]
    exact h.counters
  · rw [hcredential, hlog]
    exact h.recovery

theorem setSession (h : FactorsTracked a) (id : String) (session : Session) :
    FactorsTracked (a.setSession id session) := h.of_same rfl rfl

theorem record (h : FactorsTracked a) {e : Event} (hhistory : SingleUse a.log → SingleUse (e :: a.log))
    (hcounters : ∀ userId, countersSince userId (e :: a.log) = countersSince userId a.log)
    (hspent : ∀ userId hash, Spent userId hash (e :: a.log) → Spent userId hash a.log) :
    FactorsTracked (a.record e) := by
  refine ⟨hhistory h.history, fun userId credential hcredential c hc => ?_,
    fun userId credential hcredential hash hash_spent => ?_⟩
  · exact h.counters userId credential hcredential c (hcounters userId ▸ hc)
  · exact h.recovery userId credential hcredential hash (hspent userId hash hash_spent)

theorem accept (h : FactorsTracked a) {userId : String} {credential : MfaCredential}
    {counter matchedAt : Nat} (hcredential : a.credential userId = some credential)
    (hnewer : ∀ last, credential.lastTotpCounter = some last → last < counter)
    (hwindow : withinSteps 1 counter matchedAt) :
    FactorsTracked ((a.setCredential userId (some { credential with
      lastTotpCounter := some counter })).record (.accepted userId counter matchedAt)) := by
  have hold : ∀ c ∈ countersSince userId a.log, c < counter := by
    intro c hc
    obtain ⟨last, hlast, hle⟩ := h.counters userId credential hcredential c hc
    exact Nat.lt_of_le_of_lt hle (hnewer last hlast)
  refine ⟨⟨⟨hold, hwindow⟩, h.history⟩, fun u row hrow c hc => ?_, fun u row hrow hash hspent => ?_⟩
  · by_cases hu : u = userId
    · subst hu
      obtain rfl : _ = row := by simpa using hrow
      refine ⟨counter, rfl, ?_⟩
      simp only [Accounts.log_record, Accounts.log_setCredential, countersSince, if_true,
        List.mem_cons] at hc
      rcases hc with rfl | hc
      · exact Nat.le_refl _
      · exact Nat.le_of_lt (hold c hc)
    · refine h.counters u row (by simpa [hu] using hrow) c ?_
      simpa [countersSince, Ne.symm hu] using hc
  · by_cases hu : u = userId
    · subst hu
      obtain rfl : _ = row := by simpa using hrow
      exact h.recovery u credential hcredential hash hspent
    · exact h.recovery u row (by simpa [hu] using hrow) hash hspent

theorem recover (h : FactorsTracked a) {userId : String} {credential : MfaCredential}
    {hash : String} (hcredential : a.credential userId = some credential)
    (hunspent : hash ∈ credential.recoveryCodeHashes) :
    FactorsTracked ((a.setCredential userId (some { credential with
      recoveryCodeHashes := credential.recoveryCodeHashes.filter (· ≠ hash) })).record
        (.recovered userId hash)) := by
  have hnew : ¬Spent userId hash a.log := fun hspent =>
    h.recovery userId credential hcredential hash hspent hunspent
  refine ⟨⟨hnew, h.history⟩, fun u row hrow c hc => ?_, fun u row hrow other hspent => ?_⟩
  · by_cases hu : u = userId
    · subst hu
      obtain rfl : _ = row := by simpa using hrow
      exact h.counters u credential hcredential c hc
    · exact h.counters u row (by simpa [hu] using hrow) c hc
  · by_cases hu : u = userId
    · subst hu
      obtain rfl : _ = row := by simpa using hrow
      rcases hspent with ⟨-, rfl⟩ | hspent
      · simp
      · have hother := h.recovery u credential hcredential other hspent
        simp [hother]
    · rcases hspent with ⟨rfl, -⟩ | hspent
      · exact absurd rfl hu
      · exact h.recovery u row (by simpa [hu] using hrow) other hspent

theorem enroll (h : FactorsTracked a) {userId : String} {credential : MfaCredential}
    {counter matchedAt : Nat} (hcounter : credential.lastTotpCounter = some counter)
    (hwindow : withinSteps 1 counter matchedAt) :
    FactorsTracked ((a.setCredential userId (some credential)).record
      (.enrolled userId counter matchedAt credential.recoveryCodeHashes)) := by
  refine ⟨⟨hwindow, h.history⟩, fun u row hrow c hc => ?_, fun u row hrow hash hspent => ?_⟩
  · by_cases hu : u = userId
    · subst hu
      obtain rfl : credential = row := by simpa using hrow
      obtain rfl : c = counter := by simpa [countersSince] using hc
      exact ⟨c, hcounter, Nat.le_refl _⟩
    · refine h.counters u row (by simpa [hu] using hrow) c ?_
      simpa [countersSince, Ne.symm hu] using hc
  · by_cases hu : u = userId
    · subst hu
      obtain rfl : credential = row := by simpa using hrow
      exact fun hmem => hspent.1 ⟨rfl, hmem⟩
    · exact h.recovery u row (by simpa [hu] using hrow) hash hspent.2

theorem reset (h : FactorsTracked a) (userId : String) :
    FactorsTracked ((a.setCredential userId none).record (.reset userId)) := by
  refine ⟨h.history, fun u row hrow c hc => ?_, fun u row hrow hash hspent => ?_⟩
  · by_cases hu : u = userId
    · simp [hu] at hrow
    · exact h.counters u row (by simpa [hu] using hrow) c hc
  · by_cases hu : u = userId
    · simp [hu] at hrow
    · exact h.recovery u row (by simpa [hu] using hrow) hash hspent

end FactorsTracked

theorem FactorsTracked.move {a b : Accounts} (h : FactorsTracked a) (hmove : Move a b) :
    FactorsTracked b := by
  cases hmove with
  | user => exact h.of_same rfl rfl
  | revoke => exact h.of_same rfl rfl
  | issue => exact h.of_same rfl rfl
  | accept hcredential hnewer hwindow => exact h.accept hcredential hnewer hwindow
  | recover hcredential hunspent => exact h.recover hcredential hunspent
  | redeem =>
      refine (h.setSession _ _).record ?_ ?_ ?_
      · exact id
      · exact fun _ => rfl
      · exact fun _ _ => id
  | rotate =>
      refine (h.setSession _ _).record ?_ ?_ ?_
      · exact id
      · exact fun _ => rfl
      · exact fun _ _ => id
  | enroll huser hnone hcounter hwindow => exact (h.enroll hcounter hwindow).of_same rfl rfl
  | reset huser => exact (h.reset _).of_same rfl rfl

theorem SingleUse.of_append {newer older : List Event} (h : SingleUse (newer ++ older)) :
    SingleUse older := by
  induction newer with
  | nil => exact h
  | cons e newer ih =>
      apply ih
      cases e with
      | accepted => exact h.2
      | enrolled => exact h.2
      | recovered => exact h.2
      | reset => exact h
      | redeemed => exact h
      | rotated => exact h

theorem mem_countersSince {userId : String} {middle older : List Event} {e : Event} {counter : Nat}
    (he : e.counterOf userId = some counter) (hmiddle : ∀ e' ∈ middle, ¬e'.Enrolls userId) :
    counter ∈ countersSince userId (middle ++ e :: older) := by
  induction middle with
  | nil =>
      cases e with
      | accepted u c matchedAt =>
          simp only [Event.counterOf] at he
          split at he
          · rename_i hu
            simp only [List.nil_append, countersSince, hu, if_true]
            simp_all
          · simp at he
      | enrolled u c matchedAt hashes =>
          simp only [Event.counterOf] at he
          split at he
          · rename_i hu
            simp only [List.nil_append, countersSince, hu, if_true]
            simp_all
          · simp at he
      | reset => simp [Event.counterOf] at he
      | recovered => simp [Event.counterOf] at he
      | redeemed => simp [Event.counterOf] at he
      | rotated => simp [Event.counterOf] at he
  | cons e' middle ih =>
      have hrest := ih fun x hx => hmiddle x (List.mem_cons_of_mem _ hx)
      have hfirst := hmiddle e' (by simp)
      cases e' with
      | accepted u c matchedAt =>
          simp only [List.cons_append, countersSince]
          split
          · exact List.mem_cons_of_mem _ hrest
          · exact hrest
      | enrolled u c matchedAt hashes =>
          simp only [List.cons_append, countersSince]
          rw [if_neg (show u ≠ userId from hfirst)]
          exact hrest
      | reset => exact hrest
      | recovered => exact hrest
      | redeemed => exact hrest
      | rotated => exact hrest

theorem spent_append {userId hash : String} {middle older : List Event}
    (h : Spent userId hash older) (hmiddle : ∀ e ∈ middle, ¬e.Issues userId hash) :
    Spent userId hash (middle ++ older) := by
  induction middle with
  | nil => exact h
  | cons e middle ih =>
      have hrest := ih fun x hx => hmiddle x (List.mem_cons_of_mem _ hx)
      have hfirst := hmiddle e (by simp)
      cases e with
      | recovered u code => exact .inr hrest
      | enrolled u c matchedAt hashes => exact ⟨hfirst, hrest⟩
      | accepted => exact hrest
      | reset => exact hrest
      | redeemed => exact hrest
      | rotated => exact hrest

structure SingleUseHistory (log : List Event) : Prop where
  /-- Between two enrollments the accepted counters increase, from the counter
  that confirmed the first of them on. -/
  increasing : ∀ userId newer counter matchedAt middle e older earlier,
    log = newer ++ .accepted userId counter matchedAt :: (middle ++ e :: older) →
    e.counterOf userId = some earlier → (∀ e' ∈ middle, ¬e'.Enrolls userId) → earlier < counter
  /-- A counter is within one step of the clock reading it was checked at. -/
  present : ∀ userId counter matchedAt, .accepted userId counter matchedAt ∈ log →
    withinSteps 1 counter matchedAt
  confirmed : ∀ userId counter matchedAt hashes, .enrolled userId counter matchedAt hashes ∈ log →
    withinSteps 1 counter matchedAt
  /-- A recovery code is accepted once each time it is issued. -/
  recovery : ∀ userId hash newer middle older,
    log = newer ++ .recovered userId hash :: (middle ++ .recovered userId hash :: older) →
    ∃ e ∈ middle, e.Issues userId hash

theorem SingleUse.singleUseHistory {log : List Event} (h : SingleUse log) :
    SingleUseHistory log where
  increasing userId newer counter matchedAt middle e older earlier hlog he hmiddle := by
    have hlast : SingleUse (.accepted userId counter matchedAt :: (middle ++ e :: older)) :=
      SingleUse.of_append (hlog ▸ h)
    exact hlast.1.1 earlier (mem_countersSince he hmiddle)
  present userId counter matchedAt hmem := by
    obtain ⟨newer, older, rfl⟩ := List.append_of_mem hmem
    have hlast : SingleUse (.accepted userId counter matchedAt :: older) := SingleUse.of_append h
    exact hlast.1.2
  confirmed userId counter matchedAt hashes hmem := by
    obtain ⟨newer, older, rfl⟩ := List.append_of_mem hmem
    have hlast : SingleUse (.enrolled userId counter matchedAt hashes :: older) :=
      SingleUse.of_append h
    exact hlast.1
  recovery userId hash newer middle older hlog := by
    by_contra hnone
    have hlast : SingleUse (.recovered userId hash :: (middle ++ .recovered userId hash :: older)) :=
      SingleUse.of_append (hlog ▸ h)
    exact hlast.1 (spent_append (.inl ⟨rfl, rfl⟩) fun e hmem hissues => hnone ⟨e, hmem, hissues⟩)

namespace MfaCredentialRepository

variable {crypto : Crypto} {config : Config} {draws : Draws} {s t : State} {e : Exception}

theorem snd_of_run {α : Type} {h : Handler α} {r : Except Exception α} (hrun : h.run s = (r, t))
    (hsame : (h.run s).2 = s) : t = s := by
  rw [hrun] at hsame
  exact hsame

theorem assurance_run_ne_error {credential : MfaCredential} {changed : Nat} :
    (assurance credential changed).run s ≠ (.error e, t) := by
  unfold assurance
  split <;> simp

theorem redeem_run_eq_error {challenge : MfaChallenge} {code : String} {method : Method}
    (h : (redeem crypto config challenge code method).run s = (.error e, t)) : t = s := by
  unfold redeem at h
  split at h
  · simp at h
  rw [Async.run_query_bind] at h
  cases hcredential : challengedCredential challenge s with
  | none => simp [hcredential] at h
  | some credential =>
      cases method with
      | totp =>
          simp only [hcredential, Async.run_query_bind] at h
          split at h
          · exact (Prod.mk.inj h).2.symm
          · simp at h
          · exact absurd h assurance_run_ne_error
      | recovery =>
          simp only [hcredential] at h
          exact absurd h assurance_run_ne_error

theorem redeemAndCreateSession_run_eq_error {challenge : MfaChallenge} {code : String}
    {method : Method} {input : SessionTokens}
    (h : (redeemAndCreateSession crypto config draws challenge code method input).run s =
      (.error e, t)) : t = s := by
  unfold redeemAndCreateSession at h
  rw [Async.run_query_bind] at h
  split at h
  · simp at h
  · exact Async.run_transaction_eq_error h

theorem confirmEnrollment_run_eq_error {identity : EnrollmentIdentity} {secret code : String}
    (h : (confirmEnrollment crypto config draws identity secret code).run s = (.error e, t)) :
    t = s := by
  unfold confirmEnrollment at h
  split at h
  · simp at h
  rw [Async.run_query_bind] at h
  rcases Async.run_bind_eq_error h with hfail | ⟨found, u, hfound, h⟩
  · exact snd_of_run hfail (Async.run_ofExcept_snd _ _)
  obtain rfl := snd_of_run hfound (Async.run_ofExcept_snd _ _)
  cases found with
  | none => simp at h
  | some counter =>
      rcases Async.run_bind_eq_error h with hfail | ⟨_, v, hensure, h⟩
      · exact snd_of_run hfail (Async.run_ensure_snd _ _ _)
      obtain rfl := snd_of_run hensure (Async.run_ensure_snd _ _ _)
      rcases Async.run_bind_eq_error h with hfail | ⟨_, w, hencrypt, h⟩
      · exact snd_of_run hfail (Async.run_ofExcept_snd _ _)
      obtain rfl := snd_of_run hencrypt (Async.run_ofExcept_snd _ _)
      exact Async.run_transaction_eq_error h

end MfaCredentialRepository

/-- A call that fails, by an error of its own or because its commit is refused,
leaves counters and recovery codes, and everything else, as they were. -/
structure FailuresConsumeNothing (crypto : Crypto) (config : Config) : Prop where
  redeem : ∀ challenge code method s t e,
    (MfaCredentialRepository.redeem crypto config challenge code method).run s = (.error e, t) →
    t = s
  redeemAndCreateSession : ∀ draws challenge code method input s t e,
    (MfaCredentialRepository.redeemAndCreateSession crypto config draws challenge code method
      input).run s = (.error e, t) → t = s
  confirmEnrollment : ∀ draws identity secret code s t e,
    (MfaCredentialRepository.confirmEnrollment crypto config draws identity secret code).run s =
      (.error e, t) → t = s

end KubeNova.Auth
