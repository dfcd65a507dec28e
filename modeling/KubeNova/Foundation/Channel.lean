import Mathlib.Data.List.Basic

/-!
# Channels that hold a bounded number of values

A channel takes values as long as it has room, and gives them back in their order.  A send that
does not wait is lost when there is no room.
-/

namespace KubeNova.Foundation

structure Channel (α : Type) (capacity : Nat) where
  items : List α
  fits : items.length ≤ capacity
  deriving Repr, DecidableEq

namespace Channel

variable {α : Type} {capacity : Nat}

def empty : Channel α capacity := ⟨[], Nat.zero_le _⟩

def isFull (c : Channel α capacity) : Bool := decide (capacity ≤ c.items.length)

def trySend (c : Channel α capacity) (a : α) : Channel α capacity :=
  if h : c.items.length < capacity then
    ⟨c.items ++ [a], by rw [List.length_append]; exact h⟩
  else c

def receive (c : Channel α capacity) : Option (α × Channel α capacity) :=
  match h : c.items with
  | [] => none
  | a :: rest => some (a, ⟨rest, by have hfits := c.fits; rw [h, List.length_cons] at hfits; omega⟩)

theorem items_trySend {c : Channel α capacity} (hroom : c.isFull = false) (a : α) :
    (c.trySend a).items = c.items ++ [a] := by
  have hlt : c.items.length < capacity := by simpa [isFull] using hroom
  rw [trySend, dif_pos hlt]

theorem trySend_of_isFull {c : Channel α capacity} (hfull : c.isFull = true) (a : α) :
    c.trySend a = c := by
  have hge : ¬c.items.length < capacity := by simpa [isFull] using hfull
  rw [trySend, dif_neg hge]

theorem items_of_receive {c c' : Channel α capacity} {a : α} (h : c.receive = some (a, c')) :
    c.items = a :: c'.items := by
  unfold receive at h
  split at h
  · cases h
  · rename_i first rest hitems
    cases h
    exact hitems

end Channel

end KubeNova.Foundation
