import KubeNova.Foundation.Text
import Mathlib.Data.List.Basic
import Mathlib.Data.List.TakeWhile
import Mathlib.Tactic.Common

/-!
# Trimming a list at both ends

What is left of a list when the elements with some property are taken off its beginning and its
end.
-/

namespace KubeNova.Foundation

variable {α : Type} {p : α → Bool} {xs : List α}

/-- The list without the elements at its ends that satisfy `p`. -/
def trimBoth (p : α → Bool) (xs : List α) : List α :=
  ((xs.dropWhile p).reverse.dropWhile p).reverse

theorem all_of_mem_takeWhile {x : α} (hx : x ∈ xs.takeWhile p) : p x = true :=
  List.mem_takeWhile_imp hx

/-- A list is what trimming leaves, between elements that were taken off. -/
theorem trimBoth_spec (p : α → Bool) (xs : List α) :
    ∃ pre post, (∀ x ∈ pre, p x = true) ∧ (∀ x ∈ post, p x = true) ∧
      xs = pre ++ (trimBoth p xs ++ post) := by
  have hpre : xs = xs.takeWhile p ++ xs.dropWhile p := List.takeWhile_append_dropWhile.symm
  have hpost : (xs.dropWhile p).reverse = (xs.dropWhile p).reverse.takeWhile p ++
      (xs.dropWhile p).reverse.dropWhile p := List.takeWhile_append_dropWhile.symm
  refine ⟨xs.takeWhile p, ((xs.dropWhile p).reverse.takeWhile p).reverse, ?_, ?_, ?_⟩
  · intro x hx
    exact all_of_mem_takeWhile hx
  · intro x hx
    exact all_of_mem_takeWhile (List.mem_reverse.mp hx)
  · have hback : xs.dropWhile p = trimBoth p xs ++ ((xs.dropWhile p).reverse.takeWhile p).reverse := by
      rw [trimBoth, ← List.reverse_append, ← hpost, List.reverse_reverse]
    rw [← hback]
    exact hpre

theorem dropWhile_append_left {ys : List α} (hxs : ∀ x ∈ xs, p x = true) :
    (xs ++ ys).dropWhile p = ys.dropWhile p := by
  rw [List.dropWhile_append]
  have hnil : xs.dropWhile p = [] := List.dropWhile_eq_nil_iff.mpr hxs
  rw [hnil]
  rfl

theorem dropWhile_append_cons {y : α} {ys : List α} (hy : p y = false) :
    (xs ++ y :: ys).dropWhile p = xs.dropWhile p ++ y :: ys := by
  rw [List.dropWhile_append]
  split
  · rename_i hnil
    have hxs : xs.dropWhile p = [] := List.isEmpty_iff.mp hnil
    rw [hxs, List.dropWhile_cons_of_neg (by rw [hy]; exact Bool.false_ne_true)]
    rfl
  · rfl

theorem trimBoth_append {pre post : List α} (hpre : ∀ x ∈ pre, p x = true)
    (hpost : ∀ x ∈ post, p x = true) : trimBoth p (pre ++ (xs ++ post)) = trimBoth p xs := by
  have hreverse : ∀ x ∈ post.reverse, p x = true := by
    intro x hx
    exact hpost x (List.mem_reverse.mp hx)
  rw [trimBoth, trimBoth, dropWhile_append_left hpre, List.dropWhile_append]
  split
  · rename_i hnil
    have hxs : xs.dropWhile p = [] := List.isEmpty_iff.mp hnil
    have hpostNil : post.dropWhile p = [] := List.dropWhile_eq_nil_iff.mpr hpost
    rw [hxs, hpostNil]
  · rw [List.reverse_append, dropWhile_append_left hreverse]

theorem trimBoth_append_right {post : List α} (hpost : ∀ x ∈ post, p x = true) :
    trimBoth p (xs ++ post) = trimBoth p xs := by
  have hnone : ∀ x ∈ ([] : List α), p x = true := by
    intro x hx
    cases hx
  rw [← List.nil_append (xs ++ post)]
  exact trimBoth_append hnone hpost

theorem trimBoth_append_left {pre : List α} (hpre : ∀ x ∈ pre, p x = true) :
    trimBoth p (pre ++ xs) = trimBoth p xs := by
  have hnone : ∀ x ∈ ([] : List α), p x = true := by
    intro x hx
    cases hx
  rw [← List.append_nil xs]
  rw [trimBoth_append hpre hnone, List.append_nil]

theorem trimBoth_eq_nil_iff : trimBoth p xs = [] ↔ ∀ x ∈ xs, p x = true := by
  constructor
  · intro hnil x hx
    obtain ⟨pre, post, hpre, hpost, hxs⟩ := trimBoth_spec p xs
    rw [hnil, List.nil_append] at hxs
    rw [hxs] at hx
    rcases List.mem_append.mp hx with h | h
    · exact hpre x h
    · exact hpost x h
  · intro hall
    have hnil : xs.dropWhile p = [] := List.dropWhile_eq_nil_iff.mpr hall
    rw [trimBoth, hnil]
    rfl

theorem mem_of_mem_trimBoth {x : α} (hx : x ∈ trimBoth p xs) : x ∈ xs := by
  obtain ⟨pre, post, -, -, hxs⟩ := trimBoth_spec p xs
  rw [hxs]
  exact List.mem_append_right _ (List.mem_append_left _ hx)

theorem mem_trimBoth_of_mem {x : α} (hx : x ∈ xs) (hp : p x = false) : x ∈ trimBoth p xs := by
  obtain ⟨pre, post, hpre, hpost, hxs⟩ := trimBoth_spec p xs
  rw [hxs] at hx
  rcases List.mem_append.mp hx with h | h
  · rw [hpre x h] at hp
    cases hp
  · rcases List.mem_append.mp h with h | h
    · exact h
    · rw [hpost x h] at hp
      cases hp

/-- A list that trimming leaves as long as it was is left as it was. -/
theorem trimBoth_eq_self_of_length (hlength : xs.length ≤ (trimBoth p xs).length) :
    trimBoth p xs = xs := by
  obtain ⟨pre, post, -, -, hxs⟩ := trimBoth_spec p xs
  have hlengths := congrArg List.length hxs
  rw [List.length_append, List.length_append] at hlengths
  have hpre : pre = [] := List.length_eq_zero_iff.mp (by omega)
  have hpost : post = [] := List.length_eq_zero_iff.mp (by omega)
  rw [hpre, hpost, List.append_nil, List.nil_append] at hxs
  exact hxs.symm

theorem trimBoth_trimBoth : trimBoth p (trimBoth p xs) = trimBoth p xs := by
  obtain ⟨pre, post, hpre, hpost, hxs⟩ := trimBoth_spec p xs
  have hsame := congrArg (trimBoth p) hxs
  rw [trimBoth_append hpre hpost] at hsame
  exact hsame.symm

theorem trimBoth_eq_self (h : ∀ x ∈ xs, p x = false) : trimBoth p xs = xs := by
  have hkeep : ∀ ys : List α, (∀ x ∈ ys, p x = false) → ys.dropWhile p = ys := by
    intro ys hys
    cases ys with
    | nil => rfl
    | cons y ys =>
        rw [List.dropWhile_cons_of_neg]
        rw [hys y List.mem_cons_self]
        exact Bool.false_ne_true
  rw [trimBoth, hkeep xs h, hkeep xs.reverse fun x hx => h x (List.mem_reverse.mp hx),
    List.reverse_reverse]

theorem takeWhile_reverse_trimBoth : (trimBoth p xs).reverse.takeWhile p = [] := by
  rw [trimBoth, List.reverse_reverse]
  cases hdrop : (xs.dropWhile p).reverse.dropWhile p with
  | nil => rfl
  | cons x rest =>
      have hhead := List.head?_dropWhile_not p (xs.dropWhile p).reverse
      rw [hdrop, List.head?_cons] at hhead
      have hx : p x = false := hhead
      rw [List.takeWhile_cons_of_neg (by rw [hx]; exact Bool.false_ne_true)]

theorem countP_trimBoth : (trimBoth p xs).countP (fun x => !p x) = xs.countP fun x => !p x := by
  obtain ⟨pre, post, hpre, hpost, hxs⟩ := trimBoth_spec p xs
  have hzero : ∀ ys : List α, (∀ x ∈ ys, p x = true) → ys.countP (fun x => !p x) = 0 := by
    intro ys hys
    rw [List.countP_eq_zero]
    intro x hx
    rw [hys x hx]
    exact Bool.false_ne_true
  have hcount := congrArg (List.countP fun x => !p x) hxs
  rw [List.countP_append, List.countP_append, hzero pre hpre, hzero post hpost] at hcount
  omega

/-- A part that nothing can be taken off stays between what is left on its sides. -/
theorem trimBoth_middle {a m b : List α} {x y : α} (hfirst : m.head? = some x) (hx : p x = false)
    (hlast : m.getLast? = some y) (hy : p y = false) :
    trimBoth p (a ++ (m ++ b)) = a.dropWhile p ++ (m ++ (b.reverse.dropWhile p).reverse) := by
  obtain ⟨m', hm'⟩ : ∃ m', m = x :: m' := by
    cases m with
    | nil => cases hfirst
    | cons z m' =>
        injection hfirst with hz
        exact ⟨m', by rw [hz]⟩
  obtain ⟨m'', hm''⟩ := List.getLast?_eq_some_iff.mp hlast
  have hstart : (a ++ (m ++ b)).dropWhile p = a.dropWhile p ++ (m ++ b) := by
    rw [hm', List.cons_append, dropWhile_append_cons hx]
  have hback : (a.dropWhile p ++ (m ++ b)).reverse =
      b.reverse ++ y :: (m''.reverse ++ (a.dropWhile p).reverse) := by
    rw [hm'']
    simp
  rw [trimBoth, hstart, hback, dropWhile_append_cons hy, hm'']
  simp

theorem Text.trim_trim (text : String) : Text.trim (Text.trim text) = Text.trim text := by
  rw [Text.trim, Text.trim, String.toList_ofList]
  exact congrArg String.ofList trimBoth_trimBoth

theorem Text.trim_of_none {text : String} (h : ∀ c ∈ text.toList, Text.isSpace c = false) :
    Text.trim text = text := by
  have hself : Text.trimChars text.toList = text.toList := trimBoth_eq_self h
  rw [Text.trim, hself, String.ofList_toList]

end KubeNova.Foundation
