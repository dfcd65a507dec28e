import KubeNova.Auth.Stores

/-!
# How many login attempts are let through

`LoginAttemptLimiter` counts the attempts of an account and of an address in windows of five
minutes that begin with an attempt.  Clients may time their attempts as they like:
`admitted_in_window` bounds what any five minutes let through.
-/

namespace KubeNova.Auth

open KubeNova.Common KubeNova.Foundation

/-- `consumeAccount` or `consumeIp`. -/
inductive LoginScope where
  | account
  | ip
  deriving Repr, DecidableEq

namespace LoginScope

def text : LoginScope → String
  | account => "account"
  | ip => "ip"

def limit : LoginScope → Nat
  | account => 10
  | ip => 100

end LoginScope

namespace LoginAttemptLimiter

def consumeIp (crypto : Crypto) (address : String) : Handler Unit :=
  consume crypto "ip" address 100

structure Attempt where
  scope : LoginScope
  identifier : String
  now : Nat
  deriving Repr, DecidableEq

variable (crypto : Crypto)

def Attempt.handler (a : Attempt) : Handler Unit :=
  match a.scope with
  | .account => consumeAccount crypto a.identifier
  | .ip => consumeIp crypto a.identifier

def Attempt.serve (a : Attempt) (s : State) : Bool × State :=
  let served := (a.handler crypto).run { s with now := a.now }
  (served.1.toBool, served.2)

def admitted : List Attempt → State → List Attempt
  | [], _ => []
  | a :: rest, s =>
      let served := a.serve crypto s
      if served.1 then a :: admitted rest served.2 else admitted rest served.2

def Attempt.isIn (a : Attempt) (scope : LoginScope) (identifier : String) (start : Nat) : Bool :=
  a.scope == scope && a.identifier == identifier && decide (start ≤ a.now) &&
    decide (a.now < start + 300000)

def attemptKey (scope : LoginScope) (identifier : String) : String :=
  "kubenova:login:" ++ scope.text ++ ":" ++ crypto.sha256 identifier

/-- A refused identifier leaves the counts alone; any other is counted, and let through up to the
limit. -/
theorem serve_cases (a : Attempt) (s : State) :
    ((a.serve crypto s).1 = false ∧ (a.serve crypto s).2.loginAttempts = s.loginAttempts) ∨
      a.serve crypto s =
        (decide ((increment (attemptKey crypto a.scope a.identifier) { s with now := a.now }).1 ≤
          a.scope.limit),
        (increment (attemptKey crypto a.scope a.identifier) { s with now := a.now }).2) := by
  have hconsume : a.handler crypto = consume crypto a.scope.text a.identifier a.scope.limit := by
    unfold Attempt.handler
    cases a.scope <;> rfl
  rw [Attempt.serve, hconsume, consume]
  by_cases hvalid : Text.trim a.identifier ≠ "" ∧ a.identifier.utf8ByteSize ≤ 1024
  · have hkey : "kubenova:login:" ++ a.scope.text ++ ":" ++ crypto.sha256 a.identifier =
        attemptKey crypto a.scope a.identifier := rfl
    refine .inr ?_
    simp only [Async.ensure, if_pos hvalid, Async.done_bind, Async.run_exec_bind, hkey]
    split
    · rename_i hle
      simp only [hle, Async.run_done, Except.toBool, decide_true]
    · rename_i hgt
      simp only [hgt, Async.run_fail, Except.toBool, decide_false]
  · simp only [Async.ensure, if_neg hvalid]
    exact .inl ⟨rfl, rfl⟩

/-- What may still be let through between `start` and five minutes later. -/
def budget (key : String) (limit start : Nat) (s : State) : Nat :=
  match s.loginAttempts.lookup key with
  | some e =>
      if start + 300000 ≤ e.expiresAt then limit - e.value
      else if start < e.expiresAt then (limit - e.value) + limit
      else 2 * limit - 1
  | none => 2 * limit - 1

theorem budget_increment {key : String} {limit start now : Nat} (s : State) (counts : Bool)
    (hend : now < start + 300000) (hstart : counts = true → start ≤ now) :
    (if (increment key { s with now := now }).1 ≤ limit ∧ counts = true then 1 else 0) +
      budget key limit start (increment key { s with now := now }).2 ≤ budget key limit start s := by
  have hlookup : ∀ e, budget key limit start
      { s with now := now, loginAttempts := AList.insert key e s.loginAttempts } =
        if start + 300000 ≤ e.expiresAt then limit - e.value
        else if start < e.expiresAt then (limit - e.value) + limit else 2 * limit - 1 := by
    intro e
    simp only [budget, AList.lookup_insert]
  unfold increment
  dsimp only
  rw [hlookup]
  unfold budget
  -- What opens a window now lies in the five minutes if `now` does.
  cases counts with
  | false =>
      simp only [Bool.false_eq_true, and_false, if_false]
      cases s.loginAttempts.lookup key with
      | none => dsimp only; split_ifs <;> omega
      | some e => dsimp only; split_ifs <;> dsimp only at * <;> omega
  | true =>
      have hopen := hstart rfl
      simp only [and_true]
      cases s.loginAttempts.lookup key with
      | none => dsimp only; split_ifs <;> omega
      | some e => dsimp only; split_ifs <;> dsimp only at * <;> omega

variable {scope : LoginScope} {identifier : String} {start : Nat}

theorem budget_congr {key : String} {limit start : Nat} {s t : State}
    (h : t.loginAttempts.lookup key = s.loginAttempts.lookup key) :
    budget key limit start t = budget key limit start s := by
  rw [budget, budget, h]

theorem budget_serve (a : Attempt) (s : State) (hend : a.now < start + 300000) :
    (if (a.serve crypto s).1 = true ∧ a.isIn scope identifier start = true then 1 else 0) +
        budget (attemptKey crypto scope identifier) scope.limit start (a.serve crypto s).2 ≤
      budget (attemptKey crypto scope identifier) scope.limit start s := by
  rcases serve_cases crypto a s with ⟨hrefused, hsame⟩ | hserved
  · rw [hrefused, budget_congr (congrArg _ hsame)]
    simp
  rw [hserved]
  by_cases hkey : attemptKey crypto scope identifier = attemptKey crypto a.scope a.identifier
  · rw [← hkey]
    have hcount := @budget_increment (attemptKey crypto scope identifier) scope.limit start a.now s
      (a.isIn scope identifier start) hend fun hin => by
        simp only [Attempt.isIn, Bool.and_eq_true, decide_eq_true_eq] at hin
        exact hin.1.2
    refine Nat.le_trans (Nat.add_le_add_right ?_ _) hcount
    by_cases hin : a.isIn scope identifier start = true
    · have hscope : a.scope = scope := by
        simp only [Attempt.isIn, Bool.and_eq_true, beq_iff_eq] at hin
        exact hin.1.1.1
      simp [hin, hscope]
    · simp [hin]
  · have hout : a.isIn scope identifier start = false := by
      by_contra hin
      simp only [Bool.not_eq_false, Attempt.isIn, Bool.and_eq_true, beq_iff_eq] at hin
      exact hkey (by rw [hin.1.1.1, hin.1.1.2])
    rw [hout, budget_congr (s := s)]
    · simp
    · simp only [increment]
      exact AList.lookup_insert_ne hkey

theorem admitted_subset (attempts : List Attempt) (s : State) :
    admitted crypto attempts s ⊆ attempts := by
  induction attempts generalizing s with
  | nil => exact List.Subset.refl _
  | cons a rest ih =>
      unfold admitted
      dsimp only
      split
      · exact List.cons_subset_cons a (ih _)
      · exact List.subset_cons_of_subset a (ih _)

theorem countP_admitted_le (attempts : List Attempt) (hclock : attempts.Pairwise (·.now ≤ ·.now))
    (s : State) : (admitted crypto attempts s).countP (·.isIn scope identifier start) ≤
      budget (attemptKey crypto scope identifier) scope.limit start s := by
  induction attempts generalizing s with
  | nil => exact Nat.zero_le _
  | cons a rest ih =>
      obtain ⟨hlater, hrest⟩ := List.pairwise_cons.mp hclock
      by_cases hend : a.now < start + 300000
      · refine Nat.le_trans ?_ (budget_serve crypto a s hend)
        have hcounted := ih hrest (a.serve crypto s).2
        simp only [admitted]
        cases hserved : (a.serve crypto s).1 with
        | false => simpa using hcounted
        | true =>
            simp only [if_true, List.countP_cons, true_and]
            omega
      · -- Later attempts come after the five minutes.
        have hnone : ∀ b ∈ admitted crypto (a :: rest) s, ¬b.isIn scope identifier start = true := by
          intro b hb hin
          simp only [Attempt.isIn, Bool.and_eq_true, decide_eq_true_eq] at hin
          rcases List.mem_cons.mp (admitted_subset crypto _ _ hb) with rfl | hb
          · exact hend hin.2
          · exact hend (Nat.lt_of_le_of_lt (hlater b hb) hin.2)
        rw [List.countP_eq_zero.mpr hnone]
        exact Nat.zero_le _

/-- Whenever the five minutes begin, and whoever else tries, less than twice the limit of attempts
on an account or from an address are let through in them. -/
theorem admitted_in_window (scope : LoginScope) (identifier : String) (start : Nat)
    (attempts : List Attempt) (hclock : attempts.Pairwise (·.now ≤ ·.now)) (s : State)
    (hcounted : ∀ key e, s.loginAttempts.lookup key = some e → 0 < e.value) :
    (admitted crypto attempts s).countP (·.isIn scope identifier start) < 2 * scope.limit := by
  have hlimit : 0 < scope.limit := by cases scope <;> decide
  refine Nat.lt_of_le_of_lt (countP_admitted_le crypto attempts hclock s) ?_
  unfold budget
  split
  · rename_i e he
    have hpos := hcounted _ e he
    split_ifs <;> omega
  · omega

/-- The first attempt opens a window, which the others wait for the end of. -/
def patientAttempts : List Attempt :=
  ⟨.account, "ann", 0⟩ :: (List.replicate 11 ⟨.account, "ann", 299999⟩ ++
    List.replicate 11 ⟨.account, "ann", 300000⟩)

theorem patientAttempts_in_window : (admitted (.ofDigests []) patientAttempts emptyState).countP
    (·.isIn .account "ann" 1) < 20 :=
  admitted_in_window (.ofDigests []) .account "ann" 1 patientAttempts (by decide) emptyState
    fun _ _ h => by cases h

end LoginAttemptLimiter

end KubeNova.Auth
