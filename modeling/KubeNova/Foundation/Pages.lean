import Mathlib.Data.List.Basic
import Mathlib.Tactic.Common

/-!
# Pages of a list

A list cut into pages of one size, and what is left of it when every page is filtered on its own.
-/

namespace KubeNova.Foundation

variable {α : Type}

/-- `skip: (number - 1) * size, take: size` -/
def pageOf (size number : Nat) (xs : List α) : List α := (xs.drop ((number - 1) * size)).take size

def pageCount (size : Nat) (xs : List α) : Nat := (xs.length + (size - 1)) / size

theorem pageOf_one (size : Nat) (xs : List α) : pageOf size 1 xs = xs.take size := by
  simp [pageOf]

theorem flatMap_pageOf (size n : Nat) (xs : List α) :
    (List.range n).flatMap (fun k => pageOf size (k + 1) xs) = xs.take (n * size) := by
  induction n with
  | zero => simp
  | succ n ih =>
      rw [List.range_succ, List.flatMap_append, ih, List.flatMap_singleton, pageOf,
        Nat.add_sub_cancel, Nat.succ_mul, List.take_add]

theorem flatMap_pages {size : Nat} (hsize : 0 < size) (xs : List α) :
    (List.range (pageCount size xs)).flatMap (fun k => pageOf size (k + 1) xs) = xs := by
  rw [flatMap_pageOf, List.take_of_length_le]
  have hdiv := Nat.div_add_mod (xs.length + (size - 1)) size
  have hmod := Nat.mod_lt (xs.length + (size - 1)) hsize
  rw [pageCount, Nat.mul_comm]
  omega

/-- Every page has as many elements with some property as the list if there is one page only, or no
such element. -/
theorem filter_pages_eq_iff {size : Nat} (hsize : 0 < size) (p : α → Bool) (xs : List α) :
    (∀ k < pageCount size xs, ((pageOf size (k + 1) xs).filter p).length = (xs.filter p).length) ↔
      xs.length ≤ size ∨ xs.filter p = [] := by
  constructor
  · intro h
    by_contra hnot
    rw [not_or, Nat.not_le] at hnot
    have htwo : 2 ≤ pageCount size xs := by
      rw [pageCount, Nat.le_div_iff_mul_le hsize]
      omega
    have hfirst := h 0 (by omega)
    have hsecond : ((pageOf size 2 xs).filter p).length = (xs.filter p).length := h 1 (by omega)
    have hsplit : (xs.filter p).length = ((xs.take size).filter p).length +
        ((xs.drop size).filter p).length := by
      rw [← List.length_append, ← List.filter_append, List.take_append_drop]
    have hless : ((pageOf size 2 xs).filter p).length ≤ ((xs.drop size).filter p).length := by
      rw [pageOf, Nat.one_mul]
      exact ((List.take_sublist _ _).filter p).length_le
    rw [Nat.zero_add, pageOf_one] at hfirst
    have hzero : (xs.filter p).length = 0 := by omega
    exact hnot.2 (List.length_eq_zero_iff.mp hzero)
  · rintro (hone | hnone) k hk
    · have hk0 : k = 0 := by
        have hle : pageCount size xs ≤ 1 := by
          rw [pageCount]
          exact Nat.lt_succ_iff.mp (Nat.div_lt_of_lt_mul (by omega))
        omega
      subst hk0
      rw [Nat.zero_add, pageOf_one, List.take_of_length_le hone]
    · have hsub : ((pageOf size (k + 1) xs).filter p).Sublist (xs.filter p) :=
        ((List.take_sublist _ _).trans (List.drop_sublist _ _)).filter p
      rw [hnone] at hsub ⊢
      rw [List.sublist_nil.mp hsub]

end KubeNova.Foundation
