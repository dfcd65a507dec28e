import KubeNova.Foundation.Percent
import KubeNova.Foundation.Utf8

/-!
# Percent encoding

`encodeURIComponent`: what is no letter, digit or mark is written by its bytes.  Texts with one
encoding are equal.
-/

namespace KubeNova.Foundation.Percent

/-- A byte that stands for itself: a letter, a digit, or one of the marks. -/
def isUnreserved (b : UInt8) : Bool :=
  let n := b.toNat
  (65 ≤ n && n ≤ 90) || (97 ≤ n && n ≤ 122) || (48 ≤ n && n ≤ 57) ||
    [45, 95, 46, 33, 126, 42, 39, 40, 41].contains n

def hexDigit (n : Nat) : Char := "0123456789ABCDEF".toList.getD n '0'

def encodeByte (b : UInt8) : List Char :=
  if isUnreserved b then [Char.ofNat b.toNat]
  else ['%', hexDigit (b.toNat / 16), hexDigit (b.toNat % 16)]

def encodeURIComponent (text : String) : String :=
  String.ofList ((Utf8.encode text.toList).flatMap encodeByte)

/-- The number of the first byte of an encoding, and what comes after it. -/
def readByte : List Char → Option (Nat × List Char)
  | [] => none
  | c :: rest =>
      if c = '%' then
        match rest with
        | high :: low :: more => do
            let x ← hexValue high
            let y ← hexValue low
            return (16 * x + y, more)
        | _ => none
      else some (c.toNat, rest)

theorem hexValue_hexDigit : ∀ n < 16, hexValue (hexDigit n) = some n := by decide

theorem unreserved_plain (b : UInt8) (h : isUnreserved b = true) :
    Char.ofNat b.toNat ≠ '%' ∧ (Char.ofNat b.toNat).toNat = b.toNat := by
  have hrange : b.toNat < 0xD800 := by
    have hlt := b.toNat_lt
    omega
  have htoNat : (Char.ofNat b.toNat).toNat = b.toNat := by
    rw [Char.ofNat, dif_pos (.inl hrange)]
    rfl
  constructor
  · intro heq
    rw [heq] at htoNat
    simp only [isUnreserved, ← htoNat] at h
    revert h
    decide
  · exact htoNat

theorem readByte_encodeByte (b : UInt8) (rest : List Char) :
    readByte (encodeByte b ++ rest) = some (b.toNat, rest) := by
  have hlt := b.toNat_lt
  rw [encodeByte]
  by_cases hplain : isUnreserved b = true
  · obtain ⟨hne, htoNat⟩ := unreserved_plain b hplain
    rw [if_pos hplain, List.singleton_append]
    simp only [readByte, if_neg hne, htoNat]
  · have hhigh := hexValue_hexDigit (b.toNat / 16) (by omega)
    have hlow := hexValue_hexDigit (b.toNat % 16) (by omega)
    have hbyte : 16 * (b.toNat / 16) + b.toNat % 16 = b.toNat := Nat.div_add_mod _ _
    rw [if_neg hplain]
    show readByte ('%' :: hexDigit (b.toNat / 16) :: hexDigit (b.toNat % 16) :: rest) = _
    rw [readByte, if_pos rfl]
    simp only [hhigh, hlow]
    show some (16 * (b.toNat / 16) + b.toNat % 16, rest) = _
    rw [hbyte]

theorem flatMap_encodeByte_injective {bs cs : List UInt8}
    (h : bs.flatMap encodeByte = cs.flatMap encodeByte) : bs = cs := by
  have hread : ∀ (b : UInt8) (bytes : List UInt8),
      readByte ((b :: bytes).flatMap encodeByte) = some (b.toNat, bytes.flatMap encodeByte) := by
    intro b bytes
    rw [List.flatMap_cons]
    exact readByte_encodeByte b _
  induction bs generalizing cs with
  | nil =>
      cases cs with
      | nil => rfl
      | cons c cs =>
          have hnone := hread c cs
          rw [← h] at hnone
          cases hnone
  | cons b bs ih =>
      have hb := hread b bs
      cases cs with
      | nil =>
          rw [h] at hb
          cases hb
      | cons c cs =>
          have hc := hread c cs
          rw [h, hc, Option.some_inj, Prod.mk.injEq] at hb
          rw [UInt8.toNat_inj.mp hb.1, ih hb.2.symm]

theorem encodeURIComponent_injective {s t : String}
    (h : encodeURIComponent s = encodeURIComponent t) : s = t :=
  String.toList_injective (Utf8.encode_injective
    (flatMap_encodeByte_injective (String.ofList_injective h)))

end KubeNova.Foundation.Percent
