import KubeNova.Foundation.Text

/-!
# Percent decoding

`decodeURIComponent`: the bytes written as `%XX` are put together to the characters they encode,
and a text that encodes none is refused.
-/

namespace KubeNova.Foundation.Percent

/-- What a text is made of: characters that stand for themselves, and bytes. -/
inductive Piece where
  | plain (c : Char)
  | byte (n : Nat)
  deriving Repr, DecidableEq

def hexValue (c : Char) : Option Nat :=
  if Text.isDigit c then some (c.toNat - 48)
  else if 'a' ≤ c && c ≤ 'f' then some (c.toNat - 87)
  else if 'A' ≤ c && c ≤ 'F' then some (c.toNat - 55)
  else none

/-- The pieces of a text, nothing where a percent sign has not two digits after it. -/
def pieces : List Char → Option (List Piece)
  | [] => some []
  | c :: rest =>
      if c = '%' then
        match rest with
        | high :: low :: more => do
            let x ← hexValue high
            let y ← hexValue low
            return .byte (16 * x + y) :: (← pieces more)
        | _ => none
      else (pieces rest).map (.plain c :: ·)

/-- A character of which some bytes are still to come. -/
structure Partial where
  needed : Nat
  codePoint : Nat
  size : Nat

/-- The characters the pieces encode.  A byte sequence is refused when it is cut short, when it is
longer than the character needs, and when there is no such character. -/
def assemble : Option Partial → List Piece → Option (List Char)
  | none, [] => some []
  | some _, [] => none
  | none, .plain c :: rest => (assemble none rest).map (c :: ·)
  | some _, .plain _ :: _ => none
  | none, .byte n :: rest =>
      if n < 0x80 then (assemble none rest).map (Char.ofNat n :: ·)
      else if n < 0xC0 then none
      else if n < 0xE0 then assemble (some ⟨1, n - 0xC0, 2⟩) rest
      else if n < 0xF0 then assemble (some ⟨2, n - 0xE0, 3⟩) rest
      else if n < 0xF8 then assemble (some ⟨3, n - 0xF0, 4⟩) rest
      else none
  | some ⟨needed, codePoint, size⟩, .byte n :: rest =>
      if n < 0x80 || 0xC0 ≤ n then none
      else
        let next := codePoint * 64 + (n - 0x80)
        if 1 < needed then assemble (some ⟨needed - 1, next, size⟩) rest
        else if next.isValidChar && (Char.ofNat next).utf8Size == size then
          (assemble none rest).map (Char.ofNat next :: ·)
        else none

def decodeURIComponent (text : String) : Option String := do
  return String.ofList (← assemble none (← pieces text.toList))

theorem pieces_of_plain {cs : List Char} (h : '%' ∉ cs) : pieces cs = some (cs.map .plain) := by
  induction cs with
  | nil => rfl
  | cons c cs ih =>
      have hc : c ≠ '%' := fun heq => h (heq ▸ List.mem_cons_self)
      have hrest : '%' ∉ cs := fun hmem => h (List.mem_cons_of_mem _ hmem)
      unfold pieces
      rw [if_neg hc, ih hrest]
      rfl

theorem assemble_plain (cs : List Char) : assemble none (cs.map .plain) = some cs := by
  induction cs with
  | nil => rfl
  | cons c cs ih =>
      rw [List.map_cons, assemble, ih]
      rfl

theorem decodeURIComponent_of_plain {text : String} (h : '%' ∉ text.toList) :
    decodeURIComponent text = some text := by
  rw [decodeURIComponent, pieces_of_plain h]
  simp only [Option.bind_eq_bind, Option.bind_some, assemble_plain, Option.pure_def,
    String.ofList_toList]

example : decodeURIComponent "p%40ss%C3%A9" = some "p@ssé" := by decide +kernel

end KubeNova.Foundation.Percent
