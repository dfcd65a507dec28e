import Mathlib.Data.List.Forall2

/-!
# Computations that may fail

What a chain of checks in `Except` says when it goes through.
-/

namespace KubeNova.Foundation.Results

variable {ε α β : Type}

/-- A sequence succeeds when its first part does and the rest does on its answer. -/
theorem bind_eq_ok {x : Except ε α} {f : α → Except ε β} {b : β} :
    (x >>= f) = .ok b ↔ ∃ a, x = .ok a ∧ f a = .ok b := by
  cases x with
  | error e =>
      constructor
      · intro h
        cases h
      · rintro ⟨a, ha, -⟩
        cases ha
  | ok a =>
      constructor
      · intro h
        exact ⟨a, rfl, h⟩
      · rintro ⟨a', ha, h⟩
        cases ha
        exact h

theorem check_eq_ok {x : Except ε Unit} {f : Unit → Except ε β} {b : β} :
    (x >>= f) = .ok b ↔ x = .ok () ∧ f () = .ok b := by
  rw [bind_eq_ok]
  constructor
  · rintro ⟨a, ha, h⟩
    exact ⟨ha, h⟩
  · rintro ⟨ha, h⟩
    exact ⟨(), ha, h⟩

theorem throwIf_eq_ok {γ : Type} {c : Prop} [Decidable c] {x : Except ε γ} {e : ε}
    {f : γ → Except ε β} {rest : Except ε β} {b : β} (hx : x = .error e) :
    (if c then x >>= f else rest) = .ok b ↔ ¬ c ∧ rest = .ok b := by
  rw [hx]
  constructor
  · intro h
    split at h
    · cases h
    · rename_i hc
      exact ⟨hc, h⟩
  · rintro ⟨hc, h⟩
    rw [if_neg hc]
    exact h

theorem forIn_eq_ok_iff {f : α → Except ε Unit} {xs : List α} {u : PUnit} :
    (forIn xs PUnit.unit fun x _ => do
      f x
      pure (ForInStep.yield PUnit.unit)) = .ok u ↔ ∀ x ∈ xs, f x = .ok () := by
  induction xs with
  | nil => simp [pure, Except.pure]
  | cons x xs ih =>
      rw [List.forIn_cons, bind_eq_ok, List.forall_mem_cons]
      constructor
      · rintro ⟨step, hstep, hrest⟩
        obtain ⟨⟨⟩, hx, hyield⟩ := bind_eq_ok.mp hstep
        obtain rfl := Except.ok.inj hyield
        exact ⟨hx, ih.mp hrest⟩
      · rintro ⟨hx, hrest⟩
        refine ⟨.yield PUnit.unit, ?_, ih.mpr hrest⟩
        rw [hx]
        rfl

theorem forall_of_forIn {f : α → Except ε Unit} {xs : List α} {u : PUnit}
    (h : (forIn xs PUnit.unit fun x _ => do
      f x
      pure (ForInStep.yield PUnit.unit)) = .ok u) : ∀ x ∈ xs, f x = .ok () :=
  forIn_eq_ok_iff.mp h

theorem forall_of_forM {f : α → Except ε Unit} {xs : List α} (h : xs.forM f = .ok ()) :
    ∀ x ∈ xs, f x = .ok () := by
  induction xs with
  | nil => exact fun _ h => absurd h List.not_mem_nil
  | cons x xs ih =>
      obtain ⟨hx, hxs⟩ := check_eq_ok.mp h
      exact List.forall_mem_cons.mpr ⟨hx, ih hxs⟩

/-- A list of answers, where each element has the answer `g` under the condition `c`. -/
theorem mapM_eq_ok_iff {f : α → Except ε β} {c : α → Prop} {g : α → β}
    (hf : ∀ x y, f x = .ok y ↔ c x ∧ y = g x) {xs : List α} {ys : List β} :
    xs.mapM f = .ok ys ↔ (∀ x ∈ xs, c x) ∧ ys = xs.map g := by
  induction xs generalizing ys with
  | nil =>
      rw [List.mapM_nil]
      constructor
      · intro h
        exact ⟨by simp, (Except.ok.inj h).symm⟩
      · rintro ⟨-, rfl⟩
        rfl
  | cons x xs ih =>
      rw [List.mapM_cons, bind_eq_ok, List.forall_mem_cons, List.map_cons]
      constructor
      · rintro ⟨y, hy, h⟩
        obtain ⟨rest, hrest, hys⟩ := bind_eq_ok.mp h
        obtain ⟨hx, rfl⟩ := (hf x y).mp hy
        obtain ⟨hxs, rfl⟩ := ih.mp hrest
        exact ⟨⟨hx, hxs⟩, (Except.ok.inj hys).symm⟩
      · rintro ⟨⟨hx, hxs⟩, rfl⟩
        refine ⟨g x, (hf x _).mpr ⟨hx, rfl⟩, ?_⟩
        rw [ih.mpr ⟨hxs, rfl⟩]
        rfl

theorem forall₂_of_mapM {f : α → Except ε β} {xs : List α} {ys : List β}
    (h : xs.mapM f = .ok ys) : List.Forall₂ (fun x y => f x = .ok y) xs ys := by
  induction xs generalizing ys with
  | nil =>
      cases h
      exact List.Forall₂.nil
  | cons x xs ih =>
      rw [List.mapM_cons, bind_eq_ok] at h
      obtain ⟨y, hy, h⟩ := h
      rw [bind_eq_ok] at h
      obtain ⟨rest, hrest, h⟩ := h
      cases h
      exact List.Forall₂.cons hy (ih hrest)

end KubeNova.Foundation.Results
