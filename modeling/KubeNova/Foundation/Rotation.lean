import Mathlib.Data.Finset.Card
import Mathlib.Data.List.Sort
import Mathlib.Order.Basic

/-!
# Taking turns

A window of bounded size goes round over a set that may change between two turns: first comes
what is greater than a cursor, then the rest, and the cursor moves to the last that was taken.
Whoever waits all the time is taken as soon as there were as many places as members.
-/

namespace KubeNova.Foundation.Rotation

variable {α : Type} [LinearOrder α]

/-- Going round from the cursor one meets `a` before `b`. -/
def Before (cursor a b : α) : Prop :=
  cursor < a ∧ b ≤ cursor ∨ (cursor < a ↔ cursor < b) ∧ a < b

instance (cursor a b : α) : Decidable (Before cursor a b) :=
  inferInstanceAs (Decidable (_ ∨ _))

def turnLe (cursor a b : α) : Prop := ¬Before cursor b a

instance (cursor : α) : DecidableRel (turnLe cursor) := fun _ _ =>
  inferInstanceAs (Decidable (¬_))

theorem before_trichotomy (cursor a b : α) :
    Before cursor a b ∨ a = b ∨ Before cursor b a := by
  unfold Before
  rcases lt_trichotomy a b with h | h | h
  · by_cases ha : cursor < a
    · exact .inl (.inr ⟨iff_of_true ha (ha.trans h), h⟩)
    · by_cases hb : cursor < b
      · exact .inr (.inr (.inl ⟨hb, not_lt.mp ha⟩))
      · exact .inl (.inr ⟨iff_of_false ha hb, h⟩)
  · exact .inr (.inl h)
  · by_cases hb : cursor < b
    · exact .inr (.inr (.inr ⟨iff_of_true hb (hb.trans h), h⟩))
    · by_cases ha : cursor < a
      · exact .inl (.inl ⟨ha, not_lt.mp hb⟩)
      · exact .inr (.inr (.inr ⟨iff_of_false hb ha, h⟩))

theorem Before.irrefl (cursor a : α) : ¬Before cursor a a := by
  rintro (⟨h, h'⟩ | ⟨-, h⟩)
  · exact absurd h (not_lt.mpr h')
  · exact lt_irrefl a h

theorem Before.trans {cursor a b c : α} (h : Before cursor a b) (h' : Before cursor b c) :
    Before cursor a c := by
  unfold Before at *
  grind

theorem Before.ne {cursor a b : α} (h : Before cursor a b) : a ≠ b := by
  rintro rfl
  exact Before.irrefl cursor a h

/-- Moving the cursor on to what is met before the goal skips that and nothing behind it. -/
theorem Before.advance {cursor next a goal : α} (hnext : Before cursor next goal)
    (ha : Before next a goal) : Before cursor next a ∧ Before cursor a goal := by
  unfold Before at *
  grind

instance (cursor : α) : Std.Total (turnLe cursor) := ⟨fun a b => by
  rcases before_trichotomy cursor a b with h | h | h
  · exact .inl fun h' => Before.irrefl cursor a (h.trans h')
  · exact .inl (h ▸ Before.irrefl cursor a)
  · exact .inr fun h' => Before.irrefl cursor b (h.trans h')⟩

theorem before_of_turnLe {cursor a b : α} (h : turnLe cursor a b) (hne : a ≠ b) :
    Before cursor a b := by
  rcases before_trichotomy cursor a b with h' | h' | h'
  · exact h'
  · exact absurd h' hne
  · exact absurd h' h

instance (cursor : α) : IsTrans α (turnLe cursor) := ⟨fun a b c hab hbc => by
  intro hca
  rcases before_trichotomy cursor a b with h | rfl | h
  · rcases before_trichotomy cursor b c with h' | rfl | h'
    · exact Before.irrefl cursor a ((h.trans h').trans hca)
    · exact hab hca
    · exact hbc h'
  · exact hbc hca
  · exact hab h⟩

def window (limit : Nat) (cursor : α) (waiting : List α) : List α :=
  (waiting.insertionSort (turnLe cursor)).take limit

def advance (cursor : α) (taken : List α) : α := taken.foldl (fun _ a => a) cursor

def turns (limit : Nat) : α → List (List α) → List (List α)
  | _, [] => []
  | cursor, waiting :: rest =>
      let taken := window limit cursor waiting
      taken :: turns limit (advance cursor taken) rest

omit [LinearOrder α] in
theorem foldl_last (cursor : α) (taken : List α) :
    taken.foldl (fun _ a => a) cursor = taken.getLast?.getD cursor := by
  induction taken generalizing cursor with
  | nil => rfl
  | cons a taken ih =>
      rw [List.foldl_cons, ih, List.getLast?_cons]
      rfl

variable {limit : Nat} {cursor goal : α} {waiting : List α}

theorem mem_of_mem_window {a : α} (h : a ∈ window limit cursor waiting) : a ∈ waiting :=
  (List.mem_insertionSort _).mp (List.mem_of_mem_take h)

theorem nodup_window (h : waiting.Nodup) : (window limit cursor waiting).Nodup :=
  ((List.perm_insertionSort _ _).nodup_iff.mpr h).sublist (List.take_sublist _ _)

theorem full_window (hwait : goal ∈ waiting) (hnot : goal ∉ window limit cursor waiting) :
    (window limit cursor waiting).length = limit ∧
      ∀ a ∈ window limit cursor waiting, Before cursor a goal := by
  have hsorted := List.pairwise_insertionSort (turnLe cursor) waiting
  have hmem : goal ∈ waiting.insertionSort (turnLe cursor) := (List.mem_insertionSort _).mpr hwait
  rw [← List.take_append_drop limit (waiting.insertionSort (turnLe cursor))] at hmem hsorted
  have hlater := (List.mem_append.mp hmem).resolve_left hnot
  constructor
  · rw [window, List.length_take]
    have hlength : 0 < ((waiting.insertionSort (turnLe cursor)).drop limit).length :=
      List.length_pos_of_mem hlater
    rw [List.length_drop] at hlength
    omega
  · intro a ha
    refine before_of_turnLe ((List.pairwise_append.mp hsorted).2.2 a ha goal hlater) ?_
    rintro rfl
    exact hnot ha

theorem last_window {last a : α} (hlast : (window limit cursor waiting).getLast? = some last)
    (ha : a ∈ window limit cursor waiting) : turnLe cursor a last := by
  have hsorted : (window limit cursor waiting).Pairwise (turnLe cursor) :=
    (List.pairwise_insertionSort (turnLe cursor) waiting).sublist (List.take_sublist _ _)
  obtain ⟨front, hfront⟩ := List.getLast?_eq_some_iff.mp hlast
  rw [hfront] at ha hsorted
  rcases List.mem_append.mp ha with ha | ha
  · exact (List.pairwise_append.mp hsorted).2.2 a ha last (List.mem_singleton_self last)
  · rw [List.mem_singleton.mp ha]
    exact Before.irrefl cursor last

/-- Who waits all the time and is never taken has seen others taken at every place, none of them
twice. -/
theorem taken_before (hlimit : 0 < limit) (runs : List (List α)) (cursor : α)
    (hnodup : ∀ waiting ∈ runs, waiting.Nodup) (hwait : ∀ waiting ∈ runs, goal ∈ waiting)
    (hnot : ∀ taken ∈ turns limit cursor runs, goal ∉ taken) :
    ∃ taken : Finset α, taken.card = limit * runs.length ∧
      ∀ a ∈ taken, Before cursor a goal ∧ ∃ waiting ∈ runs, a ∈ waiting := by
  induction runs generalizing cursor with
  | nil => exact ⟨∅, rfl, fun a ha => absurd ha (Finset.notMem_empty a)⟩
  | cons waiting runs ih =>
      simp only [turns, List.mem_cons, forall_eq_or_imp] at hnodup hwait hnot
      obtain ⟨hlength, hbefore⟩ := full_window hwait.1 hnot.1
      have hne : window limit cursor waiting ≠ [] := by
        intro hnil
        rw [hnil] at hlength
        exact absurd hlength (Nat.ne_of_lt hlimit)
      have hlast := List.getLast?_eq_some_getLast hne
      generalize (window limit cursor waiting).getLast hne = last at hlast
      have hnext : advance cursor (window limit cursor waiting) = last := by
        rw [advance, foldl_last, hlast]
        rfl
      have hgoal : Before cursor last goal := hbefore last (List.mem_of_getLast? hlast)
      rw [hnext] at hnot
      obtain ⟨later, hcard, hlater⟩ := ih last hnodup.2 hwait.2 hnot.2
      have hdisjoint : Disjoint (window limit cursor waiting).toFinset later := by
        rw [Finset.disjoint_left]
        intro a ha hmem
        have hskip := (hgoal.advance (hlater a hmem).1).1
        exact last_window hlast (List.mem_toFinset.mp ha) hskip
      refine ⟨(window limit cursor waiting).toFinset ∪ later, ?_, fun a ha => ?_⟩
      · rw [Finset.card_union_of_disjoint hdisjoint, hcard,
          List.toFinset_card_of_nodup (nodup_window hnodup.1), hlength, List.length_cons]
        exact (Nat.mul_succ limit runs.length).symm ▸ Nat.add_comm _ _
      · rcases Finset.mem_union.mp ha with ha | ha
        · have ha := List.mem_toFinset.mp ha
          exact ⟨hbefore a ha, waiting, List.mem_cons_self, mem_of_mem_window ha⟩
        · obtain ⟨hmet, waiting', hrun, hmem⟩ := hlater a ha
          exact ⟨(hgoal.advance hmet).2, waiting', List.mem_cons_of_mem _ hrun, hmem⟩

/-- Who waits all the time is taken when there were as many places as members. -/
theorem exists_taken (hlimit : 0 < limit) {runs : List (List α)} (cursor : α) {members : Finset α}
    (hnodup : ∀ waiting ∈ runs, waiting.Nodup) (hwait : ∀ waiting ∈ runs, goal ∈ waiting)
    (hmembers : ∀ waiting ∈ runs, ∀ a ∈ waiting, a ∈ members) (hgoal : goal ∈ members)
    (hplaces : members.card ≤ limit * runs.length) :
    ∃ taken ∈ turns limit cursor runs, goal ∈ taken := by
  by_contra hnone
  push Not at hnone
  obtain ⟨taken, hcard, htaken⟩ := taken_before hlimit runs cursor hnodup hwait hnone
  have hsubset : taken ⊆ members.erase goal := by
    intro a ha
    obtain ⟨hbefore, waiting, hrun, hmem⟩ := htaken a ha
    exact Finset.mem_erase.mpr ⟨hbefore.ne, hmembers waiting hrun a hmem⟩
  have hless := Finset.card_le_card hsubset
  rw [hcard, Finset.card_erase_of_mem hgoal] at hless
  have hpos : 0 < members.card := Finset.card_pos.mpr ⟨goal, hgoal⟩
  omega

end KubeNova.Foundation.Rotation
