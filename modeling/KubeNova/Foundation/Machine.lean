import Mathlib.Logic.Function.Basic
import Mathlib.Logic.Relation

/-!
# Machines driven by labelled actions

A machine says what each action makes of a state, or that the action cannot happen there.
Runs are any actions in any order; a condition on runs says which actions may come in which
states.  A family of machines runs side by side, one of them at a time.
-/

namespace KubeNova.Foundation

open Relation

structure Machine (α σ : Type) where
  step : α → σ → Option σ

namespace Machine

variable {ι α σ : Type}

/-- Runs all of whose actions come where `ok` lets them. -/
def Run (M : Machine α σ) (ok : σ → α → Prop) : σ → σ → Prop :=
  ReflTransGen fun s t => ∃ a, ok s a ∧ M.step a s = some t

abbrev AnyRun (M : Machine α σ) : σ → σ → Prop := M.Run fun _ _ => True

variable {M : Machine α σ} {ok : σ → α → Prop} {s t : σ}

/-- What the initial state has and every step keeps, every state of a run has. -/
theorem Run.invariant {I : σ → Prop} (hrun : M.Run ok s t)
    (hstep : ∀ s a t, ok s a → M.step a s = some t → I s → I t) (hs : I s) : I t := by
  induction hrun with
  | refl => exact hs
  | tail _ hmove ih =>
      obtain ⟨a, hok, hmove⟩ := hmove
      exact hstep _ a _ hok hmove ih

/-- The state after the given actions, unless one of them cannot happen. -/
def play (M : Machine α σ) : List α → σ → Option σ
  | [], s => some s
  | a :: rest, s => (M.step a s).bind (M.play rest)

/-- The machine that refuses the actions `ok` does not let happen. -/
def restrict (M : Machine α σ) (ok : σ → α → Prop) [∀ s a, Decidable (ok s a)] : Machine α σ where
  step a s := if ok s a then M.step a s else none

theorem Run.play [∀ s a, Decidable (ok s a)] {actions : List α} {s : σ}
    (h : (M.restrict ok).play actions s = some t) : M.Run ok s t := by
  induction actions generalizing s with
  | nil => rw [← Option.some.inj h]; exact ReflTransGen.refl
  | cons a rest ih =>
      obtain ⟨u, hmove, hrest⟩ := Option.bind_eq_some_iff.mp h
      have hstep : ok s a ∧ M.step a s = some u := by
        simpa [restrict] using hmove
      exact ReflTransGen.head ⟨a, hstep⟩ (ih hrest)

/-- Machines side by side: an action moves the one it names. -/
def family [DecidableEq ι] (M : ι → Machine α σ) : Machine (ι × α) (ι → σ) where
  step a states := ((M a.1).step a.2 (states a.1)).map (Function.update states a.1)

theorem Run.component [DecidableEq ι] {M : ι → Machine α σ} {ok : ι → σ → α → Prop}
    {states states' : ι → σ}
    (hrun : (family M).Run (fun s a => ok a.1 (s a.1) a.2) states states') (i : ι) :
    (M i).Run (ok i) (states i) (states' i) := by
  induction hrun with
  | refl => exact ReflTransGen.refl
  | tail _ hmove ih =>
      obtain ⟨⟨j, a⟩, hok, hmove⟩ := hmove
      obtain ⟨u, hu, rfl⟩ := Option.map_eq_some_iff.mp hmove
      by_cases hij : i = j
      · subst hij
        rw [Function.update_self]
        exact ih.tail ⟨a, hok, hu⟩
      · rw [Function.update_of_ne hij]
        exact ih

end Machine

end KubeNova.Foundation
