import KubeNova.Foundation.Conclusion

/-!
# What one handler does among others

`Plays h steps r` says that the handler `h` ends with `r` after the statements `steps`, each given
by the state it found and the state it left; what happens between two of them is open.  In a pool
of observed handlers every one that ends has played so (`Pool.plays_of_ends`).

`call` is a statement of a service outside, which may refuse it or lose its answer at any time.
-/

namespace KubeNova.Foundation

open Relation

variable {ε σ α β ρ : Type}

/-- The statements of the handler, with the states they find and leave, and how it ends. -/
inductive Plays : Async ε σ α → List (σ × σ) → Except ε α → Prop
  | done (a : α) : Plays (.done a) [] (.ok a)
  | fail (e : ε) : Plays (.fail e) [] (.error e)
  | stmt {u : σ → σ} {n : σ → Async ε σ α} {steps : List (σ × σ)} {r : Except ε α} (s : σ) :
      Plays (n s) steps r → Plays (.stmt u n) ((s, u s) :: steps) r

namespace Plays

variable {steps : List (σ × σ)}

theorem done_iff {a : α} {r : Except ε α} :
    Plays (.done a : Async ε σ α) steps r ↔ steps = [] ∧ r = .ok a := by
  constructor
  · intro h
    cases h
    exact ⟨rfl, rfl⟩
  · rintro ⟨rfl, rfl⟩
    exact .done a

theorem fail_iff {e : ε} {r : Except ε α} :
    Plays (.fail e : Async ε σ α) steps r ↔ steps = [] ∧ r = .error e := by
  constructor
  · intro h
    cases h
    exact ⟨rfl, rfl⟩
  · rintro ⟨rfl, rfl⟩
    exact .fail e

theorem stmt_iff {u : σ → σ} {n : σ → Async ε σ α} {r : Except ε α} :
    Plays (.stmt u n) steps r ↔ ∃ s rest, steps = (s, u s) :: rest ∧ Plays (n s) rest r := by
  constructor
  · intro h
    cases h with
    | stmt s hrest => exact ⟨s, _, rfl, hrest⟩
  · rintro ⟨s, rest, rfl, hrest⟩
    exact .stmt s hrest

/-- A sequence fails in its first part, or plays it to an answer and goes on. -/
theorem bind_iff {h : Async ε σ α} {k : α → Async ε σ β} {r : Except ε β} :
    Plays (h >>= k) steps r ↔ (∃ e, Plays h steps (.error e) ∧ r = .error e) ∨
      ∃ a first rest, steps = first ++ rest ∧ Plays h first (.ok a) ∧ Plays (k a) rest r := by
  induction h generalizing steps with
  | done a =>
      constructor
      · exact fun hk => .inr ⟨a, [], steps, rfl, .done a, hk⟩
      · rintro (⟨e, he, -⟩ | ⟨b, first, rest, rfl, hfirst, hk⟩)
        · exact absurd (done_iff.mp he).2 (fun heq => (nomatch heq))
        · obtain ⟨rfl, hb⟩ := done_iff.mp hfirst
          obtain rfl := Except.ok.inj hb
          exact hk
  | fail e =>
      constructor
      · intro hfail
        obtain ⟨rfl, rfl⟩ := fail_iff.mp hfail
        exact .inl ⟨e, .fail e, rfl⟩
      · rintro (⟨e', he, rfl⟩ | ⟨b, first, rest, -, hfirst, -⟩)
        · obtain ⟨rfl, heq⟩ := fail_iff.mp he
          obtain rfl := Except.error.inj heq
          exact .fail e'
        · exact absurd (fail_iff.mp hfirst).2 (fun heq => (nomatch heq))
  | stmt u n ih =>
      constructor
      · intro hplays
        obtain ⟨s, rest, rfl, hrest⟩ := stmt_iff.mp hplays
        rcases (ih s).mp hrest with ⟨e, he, rfl⟩ | ⟨a, first, last, rfl, hfirst, hk⟩
        · exact .inl ⟨e, .stmt s he, rfl⟩
        · exact .inr ⟨a, (s, u s) :: first, last, rfl, .stmt s hfirst, hk⟩
      · rintro (⟨e, he, rfl⟩ | ⟨a, first, last, rfl, hfirst, hk⟩)
        · obtain ⟨s, rest, rfl, hrest⟩ := stmt_iff.mp he
          exact .stmt s ((ih s).mpr (.inl ⟨e, hrest, rfl⟩))
        · obtain ⟨s, rest, rfl, hrest⟩ := stmt_iff.mp hfirst
          exact .stmt s ((ih s).mpr (.inr ⟨a, rest, last, rfl, hrest, hk⟩))

/-- A sequence that answers has played its first part to an answer. -/
theorem bind_ok_iff {h : Async ε σ α} {k : α → Async ε σ β} {b : β} :
    Plays (h >>= k) steps (.ok b) ↔
      ∃ a first rest, steps = first ++ rest ∧ Plays h first (.ok a) ∧ Plays (k a) rest (.ok b) := by
  rw [bind_iff]
  constructor
  · rintro (⟨e, -, heq⟩ | hplays)
    · cases heq
    · exact hplays
  · exact .inr

theorem query_bind_iff {q : σ → α} {k : α → Async ε σ β} {r : Except ε β} :
    Plays (.query q >>= k) steps r ↔ ∃ s rest, steps = (s, s) :: rest ∧ Plays (k (q s)) rest r :=
  stmt_iff

theorem exec_bind_iff {f : σ → α × σ} {k : α → Async ε σ β} {r : Except ε β} :
    Plays (.exec f >>= k) steps r ↔
      ∃ s rest, steps = (s, (f s).2) :: rest ∧ Plays (k (f s).1) rest r :=
  stmt_iff

theorem ensure_bind_iff {c : Prop} [Decidable c] {e : ε} {k : Unit → Async ε σ β} {b : β} :
    Plays (.ensure c e >>= k) steps (.ok b) ↔ c ∧ Plays (k ()) steps (.ok b) := by
  unfold Async.ensure
  split
  · rename_i hc
    exact (and_iff_right hc).symm
  · rename_i hc
    constructor
    · intro h
      cases (fail_iff.mp h).2
    · intro h
      exact absurd h.1 hc

theorem ofExcept_iff {e : Except ε α} {r : Except ε α} :
    Plays (.ofExcept e : Async ε σ α) steps r ↔ steps = [] ∧ r = e := by
  cases e with
  | ok a => exact done_iff
  | error e => exact fail_iff

theorem ofExcept_bind_iff {e : Except ε α} {k : α → Async ε σ β} {b : β} :
    Plays (.ofExcept e >>= k) steps (.ok b) ↔ ∃ a, e = .ok a ∧ Plays (k a) steps (.ok b) := by
  cases e with
  | ok a =>
      constructor
      · intro h
        exact ⟨a, rfl, h⟩
      · rintro ⟨a', ha, h⟩
        cases ha
        exact h
  | error e =>
      constructor
      · intro h
        cases (fail_iff.mp h).2
      · rintro ⟨a, ha, -⟩
        cases ha

theorem of_run (h : Async ε σ α) (s : σ) : ∃ steps, Plays h steps (h.run s).1 := by
  induction h generalizing s with
  | done a => exact ⟨[], .done a⟩
  | fail e => exact ⟨[], .fail e⟩
  | stmt u n ih =>
      obtain ⟨steps, hsteps⟩ := ih s (u s)
      exact ⟨(s, u s) :: steps, .stmt s hsteps⟩

end Plays

/-- The handler with a record of its own statements, which it answers together with its end. -/
def Async.observe : Async ε σ α → List (σ × σ) → Async ε σ (List (σ × σ) × Except ε α)
  | .done a, steps => .done (steps, .ok a)
  | .fail e, steps => .done (steps, .error e)
  | .stmt u n, steps => .stmt u fun s => (n s).observe (steps ++ [(s, u s)])

/-- What is left of an observed handler, after the statements recorded so far. -/
def Observes (h : Async ε σ α) (g : Async ε σ (List (σ × σ) × Except ε α)) : Prop :=
  ∃ rest before, g = rest.observe before ∧
    ∀ after r, Plays rest after r → Plays h (before ++ after) r

theorem Observes.start (h : Async ε σ α) : Observes h (h.observe []) :=
  ⟨h, [], rfl, fun _ _ hplays => hplays⟩

theorem Observes.next {h : Async ε σ α} {u : σ → σ}
    {n : σ → Async ε σ (List (σ × σ) × Except ε α)} (hg : Observes h (.stmt u n)) (s : σ) :
    Observes h (n s) := by
  obtain ⟨rest, before, heq, hplays⟩ := hg
  cases rest with
  | done a => cases heq
  | fail e => cases heq
  | stmt v m =>
      obtain ⟨rfl, rfl⟩ : u = v ∧ n = fun s => (m s).observe (before ++ [(s, v s)]) := by
        simpa [Async.observe] using heq
      refine ⟨m s, before ++ [(s, u s)], rfl, fun after r hrest => ?_⟩
      rw [List.append_assoc]
      exact hplays _ r (.stmt s hrest)

theorem Observes.done {h : Async ε σ α} {steps : List (σ × σ)} {r : Except ε α}
    (hg : Observes h (.done (steps, r))) : Plays h steps r := by
  obtain ⟨rest, before, heq, hplays⟩ := hg
  cases rest with
  | done a =>
      obtain ⟨rfl, rfl⟩ : steps = before ∧ r = .ok a := by simpa [Async.observe] using heq
      simpa using hplays [] _ (.done a)
  | fail e =>
      obtain ⟨rfl, rfl⟩ : steps = before ∧ r = .error e := by simpa [Async.observe] using heq
      simpa using hplays [] _ (.fail e)
  | stmt u n => cases heq

/-- An answer that carries along which handler gave it. -/
abbrev Report (ι ε σ α : Type) := ι × List (σ × σ) × Except ε α

def reports {ι : Type} (serve : ι → Async ε σ α) (g : Async ε σ (Report ι ε σ α)) : Prop :=
  ∃ i, g = (serve i).observe [] >>= fun answer => .done (i, answer)

/-- Every handler of the pool is one of the observed ones, wherever it has come to. -/
theorem Pool.observes_of_reach {ι : Type} {serve : ι → Async ε σ α} {env : σ → σ → Prop} {init : σ}
    {c : Pool ε σ (Report ι ε σ α)} (hc : Reach (reports serve) env init c) :
    ∀ g ∈ c.handlers, ∃ i k, g = (k >>= fun answer => .done (i, answer)) ∧ Observes (serve i) k := by
  induction hc with
  | refl => exact fun g hg => absurd hg List.not_mem_nil
  | tail _ hstep ih =>
      cases hstep with
      | arrive h hh =>
          intro g hg
          rcases List.mem_append.mp hg with hold | hnew
          · exact ih g hold
          · obtain ⟨i, rfl⟩ := hh
            exact ⟨i, _, List.mem_singleton.mp hnew, .start _⟩
      | crash h =>
          intro g hg
          rcases List.mem_append.mp hg with hl | hr
          · exact ih g (by simp [hl])
          · exact ih g (by simp [hr])
      | environment hst => exact ih
      | @statement s l r u n =>
          intro g hg
          rcases List.mem_append.mp hg with hl | hr
          · exact ih g (by simp [hl])
          rcases List.mem_cons.mp hr with rfl | hr
          · obtain ⟨i, k, heq, hobserves⟩ := ih (.stmt u n) (by simp)
            cases k with
            | done a => cases heq
            | fail e => cases heq
            | stmt v m =>
                obtain ⟨rfl, rfl⟩ : u = v ∧ n = fun s => m s >>= fun answer => .done (i, answer) := by
                  simpa using heq
                exact ⟨i, m s, rfl, hobserves.next s⟩
          · exact ih g (by simp [hr])

theorem Pool.plays_of_ends {ι : Type} {serve : ι → Async ε σ α} {env : σ → σ → Prop} {init : σ}
    {c c' : Pool ε σ (Report ι ε σ α)} {i : ι} {steps : List (σ × σ)} {r : Except ε α}
    (hc : Reach (reports serve) env init c) (hends : c.Ends c' (i, steps, r)) :
    Plays (serve i) steps r := by
  have hc' := hc.tail hends.step
  obtain ⟨s, before, after, u, n, rfl, rfl, hn⟩ := hends
  obtain ⟨j, k, heq, hobserves⟩ := Pool.observes_of_reach hc' (.done (i, steps, r)) (by simp)
  cases k with
  | done a =>
      obtain ⟨rfl, rfl⟩ : i = j ∧ (steps, r) = a := by simpa using heq
      exact hobserves.done
  | fail e => cases heq
  | stmt u n => cases heq

/-! ## Services that may fail -/

/-- How a call to a service outside fails: refused, or carried out with its answer lost. -/
structure Failure (ε : Type) where
  error : ε
  carriedOut : Bool

/-- `failure` is what becomes of the next call, if it fails; the environment decides about it. -/
structure Unreliable (ε σ : Type) where
  world : σ
  failure : Option (Failure ε)

/-- What a call comes to, and the state after it. -/
def Unreliable.serve (body : StateT σ (Except ε) α) (s : Unreliable ε σ) :
    Except ε α × Unreliable ε σ :=
  match s.failure, body s.world with
  | none, .ok (a, w) => (.ok a, { s with world := w })
  | none, .error e => (.error e, s)
  | some ⟨e, true⟩, .ok (_, w) => (.error e, { s with world := w })
  | some ⟨e, _⟩, _ => (.error e, s)

def call (body : StateT σ (Except ε) α) : Async ε (Unreliable ε σ) α :=
  .stmt (fun s => (Unreliable.serve body s).2) fun s => .ofExcept (Unreliable.serve body s).1

namespace Unreliable

variable {body : StateT σ (Except ε) α} {s : Unreliable ε σ}

theorem serve_eq_ok {a : α} :
    (serve body s).1 = .ok a ↔ s.failure = none ∧ ∃ w, body s.world = .ok (a, w) := by
  unfold serve
  rcases s with ⟨world, failure⟩
  cases hbody : body world with
  | error e =>
      rcases failure with _ | ⟨e', _ | _⟩ <;> simp
  | ok r =>
      rcases failure with _ | ⟨e', _ | _⟩
      · simp only [Except.ok.injEq, true_and]
        constructor
        · rintro rfl
          exact ⟨r.2, rfl⟩
        · rintro ⟨w, h⟩
          exact congrArg Prod.fst h
      · simp
      · simp

theorem serve_of_eq_ok {a : α} {w : σ} (hfailure : s.failure = none)
    (hbody : body s.world = .ok (a, w)) : serve body s = (.ok a, ⟨w, none⟩) := by
  rcases s with ⟨world, failure⟩
  simp only at hfailure hbody
  subst hfailure
  simp only [serve, hbody]

theorem failure_of_error {a : α} {w : σ} {e : ε} (hserve : (serve body s).1 = .error e)
    (hbody : body s.world = .ok (a, w)) : s.failure ≠ none := by
  intro hfailure
  rw [serve_of_eq_ok hfailure hbody] at hserve
  cases hserve

theorem serve_world (body : StateT σ (Except ε) α) (s : Unreliable ε σ) :
    (serve body s).2.world = s.world ∨ ∃ a, body s.world = .ok (a, (serve body s).2.world) := by
  unfold serve
  rcases s with ⟨world, failure⟩
  cases hbody : body world with
  | error e =>
      rcases failure with _ | ⟨e', _ | _⟩ <;> exact .inl rfl
  | ok r =>
      rcases failure with _ | ⟨e', _ | _⟩
      · exact .inr ⟨r.1, rfl⟩
      · exact .inl rfl
      · exact .inr ⟨r.1, rfl⟩

end Unreliable

def Reads (body : StateT σ (Except ε) α) : Prop := ∀ w a w', body w = .ok (a, w') → w' = w

theorem Reads.serve {body : StateT σ (Except ε) α} (h : Reads body) (s : Unreliable ε σ) :
    (Unreliable.serve body s).2.world = s.world := by
  rcases Unreliable.serve_world body s with hsame | ⟨a, hbody⟩
  · exact hsame
  · exact h _ a _ hbody

theorem Plays.call_iff {body : StateT σ (Except ε) α}
    {steps : List (Unreliable ε σ × Unreliable ε σ)} {r : Except ε α} :
    Plays (call body) steps r ↔
      ∃ s, steps = [(s, (Unreliable.serve body s).2)] ∧ r = (Unreliable.serve body s).1 := by
  unfold call
  rw [Plays.stmt_iff]
  simp only [Plays.ofExcept_iff]
  constructor
  · rintro ⟨s, rest, rfl, rfl, rfl⟩
    exact ⟨s, rfl, rfl⟩
  · rintro ⟨s, rfl, rfl⟩
    exact ⟨s, [], rfl, rfl, rfl⟩

theorem Plays.call_bind {body : StateT σ (Except ε) α} {k : α → Async ε (Unreliable ε σ) β}
    {steps : List (Unreliable ε σ × Unreliable ε σ)} {r : Except ε β}
    (h : Plays (call body >>= k) steps r) :
    ∃ s rest, steps = (s, (Unreliable.serve body s).2) :: rest ∧
      ((∃ e, (Unreliable.serve body s).1 = .error e ∧ rest = [] ∧ r = .error e) ∨
        ∃ a w, s.failure = none ∧ body s.world = .ok (a, w) ∧ Plays (k a) rest r) := by
  rcases Plays.bind_iff.mp h with ⟨e, hcall, rfl⟩ | ⟨a, first, rest, rfl, hcall, hrest⟩
  · obtain ⟨s, rfl, he⟩ := Plays.call_iff.mp hcall
    exact ⟨s, [], rfl, .inl ⟨e, he.symm, rfl, rfl⟩⟩
  · obtain ⟨s, rfl, ha⟩ := Plays.call_iff.mp hcall
    obtain ⟨hfailure, w, hbody⟩ := Unreliable.serve_eq_ok.mp ha.symm
    exact ⟨s, rest, rfl, .inr ⟨a, w, hfailure, hbody, hrest⟩⟩

/-! ### What holds of each statement of a handler -/

def Each (P : σ × σ → Prop) (h : Async ε σ α) : Prop :=
  ∀ steps r, Plays h steps r → ∀ p ∈ steps, P p

namespace Each

theorem bind {P : σ × σ → Prop} {h : Async ε σ α} {k : α → Async ε σ β} (hh : Each P h)
    (hk : ∀ a, Each P (k a)) : Each P (h >>= k) := by
  intro steps r hplays p hp
  rcases Plays.bind_iff.mp hplays with ⟨e, herror, -⟩ | ⟨a, first, rest, rfl, hfirst, hrest⟩
  · exact hh _ _ herror p hp
  · rcases List.mem_append.mp hp with hp | hp
    · exact hh _ _ hfirst p hp
    · exact hk a _ _ hrest p hp

theorem done {P : σ × σ → Prop} (a : α) : Each P (.done a : Async ε σ α) := by
  intro steps r hplays p hp
  obtain ⟨rfl, -⟩ := Plays.done_iff.mp hplays
  cases hp

theorem fail {P : σ × σ → Prop} (e : ε) : Each P (.fail e : Async ε σ α) := by
  intro steps r hplays p hp
  obtain ⟨rfl, -⟩ := Plays.fail_iff.mp hplays
  cases hp

theorem ofExcept {P : σ × σ → Prop} (e : Except ε α) : Each P (.ofExcept e : Async ε σ α) := by
  cases e with
  | ok a => exact done a
  | error e => exact fail e

theorem ensure {P : σ × σ → Prop} (c : Prop) [Decidable c] (e : ε) :
    Each P (.ensure c e : Async ε σ Unit) := by
  unfold Async.ensure
  split
  · exact done ()
  · exact fail e

theorem call {P : Unreliable ε σ × Unreliable ε σ → Prop} {body : StateT σ (Except ε) α}
    (h : ∀ s, P (s, (Unreliable.serve body s).2)) : Each P (call body) := by
  intro steps r hplays p hp
  obtain ⟨s, rfl, -⟩ := Plays.call_iff.mp hplays
  obtain rfl := List.mem_singleton.mp hp
  exact h s

end Each

theorem run_call {body : StateT σ (Except ε) α} {w : σ} :
    (call body).run ⟨w, none⟩ = match body w with
      | .ok (a, w') => (.ok a, ⟨w', none⟩)
      | .error e => (.error e, ⟨w, none⟩) := by
  simp only [call, Async.run_stmt, Unreliable.serve]
  cases body w with
  | ok r => rfl
  | error e => rfl

theorem run_call_eq_ok {body : StateT σ (Except ε) α} {w : σ} {a : α} {u : Unreliable ε σ}
    (h : (call body).run ⟨w, none⟩ = (.ok a, u)) : ∃ w', body w = .ok (a, w') ∧ u = ⟨w', none⟩ := by
  rw [run_call] at h
  cases hbody : body w with
  | ok r =>
      rw [hbody] at h
      obtain ⟨ha, rfl⟩ := Prod.mk.inj h
      obtain rfl := Except.ok.inj ha
      exact ⟨r.2, rfl, rfl⟩
  | error e =>
      rw [hbody] at h
      cases (Prod.mk.inj h).1

theorem run_call_answered {body : StateT σ (Except ε) α} {s u : Unreliable ε σ} {a : α}
    (h : (call body).run s = (.ok a, u)) : s.failure = none := by
  have hanswer : (Unreliable.serve body s).1 = .ok a := by
    simp only [call, Async.run_stmt] at h
    cases hserve : (Unreliable.serve body s).1 with
    | ok b =>
        rw [hserve] at h
        exact (Prod.mk.inj h).1
    | error e =>
        rw [hserve] at h
        cases (Prod.mk.inj h).1
  exact (Unreliable.serve_eq_ok.mp hanswer).1

theorem Async.run_ofExcept_eq_ok {r : Except ε α} {s u : σ} {a : α}
    (h : (Async.ofExcept r : Async ε σ α).run s = (.ok a, u)) : r = .ok a ∧ u = s := by
  cases r with
  | ok b =>
      obtain ⟨ha, rfl⟩ := Prod.mk.inj h
      exact ⟨ha, rfl⟩
  | error e => cases (Prod.mk.inj h).1

theorem Async.run_ensure_eq_ok {c : Prop} [Decidable c] {e : ε} {s u : σ} {a : Unit}
    (h : (Async.ensure c e : Async ε σ Unit).run s = (.ok a, u)) : c ∧ u = s := by
  unfold Async.ensure at h
  split at h
  · exact ⟨‹c›, (Prod.mk.inj h).2.symm⟩
  · cases (Prod.mk.inj h).1

end KubeNova.Foundation
