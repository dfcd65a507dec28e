import Mathlib.Data.List.Sort

/-!
# Keeping the newest

A list in order of age, newest first, and what its first elements say about the rest: among the
elements no older than a given time, the first `n` of the list leave out none as long as there are
no more than `n`.
-/

namespace KubeNova.Foundation

variable {α τ : Type} [LinearOrder τ] (time : α → τ)

def newestFirst (l : List α) : List α := l.insertionSort fun a b => time b ≤ time a

theorem newestFirst_perm (l : List α) : (newestFirst time l).Perm l :=
  List.perm_insertionSort _ l

variable {time} {l : List α}

/-- An element past the first `n` has `n` before it that are no older. -/
theorem le_countP_of_mem_drop (hsorted : l.Pairwise fun a b => time b ≤ time a) {n : Nat} {x : α}
    (hx : x ∈ l.drop n) : n ≤ l.countP fun y => time x ≤ time y := by
  have hsplit : l.take n ++ l.drop n = l := List.take_append_drop n l
  have hbefore : ∀ y ∈ l.take n, time x ≤ time y := by
    rw [← hsplit] at hsorted
    intro y hy
    exact (List.pairwise_append.mp hsorted).2.2 y hy x hx
  have hlength : (l.take n).length = n := by
    have hpos := List.length_pos_of_mem hx
    rw [List.length_drop] at hpos
    rw [List.length_take]
    omega
  calc n = (l.take n).length := hlength.symm
    _ = (l.take n).countP fun y => time x ≤ time y :=
        (List.countP_eq_length.mpr fun y hy => by simpa using hbefore y hy).symm
    _ ≤ l.countP fun y => time x ≤ time y := (List.take_sublist n l).countP_le

/-- The first `n` elements hold all that are recent, or `n` of them. -/
theorem min_countP_le_countP_take (hsorted : l.Pairwise fun a b => time b ≤ time a) (n : Nat)
    (a : τ) :
    min n (l.countP fun y => a ≤ time y) ≤ (l.take n).countP fun y => a ≤ time y := by
  induction l generalizing n with
  | nil => simp
  | cons x xs ih =>
      cases n with
      | zero => simp
      | succ n =>
          rw [List.pairwise_cons] at hsorted
          have hrest := ih hsorted.2 n
          rw [List.take_succ_cons, List.countP_cons, List.countP_cons]
          by_cases hrecent : a ≤ time x
          · simp only [hrecent, decide_true, if_true]
            omega
          · have hnone : xs.countP (fun y => decide (a ≤ time y)) = 0 := by
              rw [List.countP_eq_zero]
              intro y hy
              have hle := hsorted.1 y hy
              rw [decide_eq_true_eq, not_le]
              exact lt_of_le_of_lt hle (not_le.mp hrecent)
            simp only [hrecent, hnone, decide_false]
            simp

end KubeNova.Foundation
