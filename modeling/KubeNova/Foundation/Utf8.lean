import Mathlib.Data.List.Basic

/-!
# Decoding UTF-8 with replacement

The decoder of the web platform: what is not valid becomes U+FFFD, once for each longest beginning
of a valid sequence.  On the encoding of a text it gives the text back; on a part of one it replaces
the character that was cut off, and each byte that is left over from one.
-/

namespace KubeNova.Foundation.Utf8

def encode (cs : List Char) : List UInt8 := cs.flatMap String.utf8EncodeChar

def replacement : Char := Char.ofNat 0xFFFD

/-- What the decoder has read of a character, and what its next byte may be. -/
structure Decoder where
  codePoint : Nat
  bytesNeeded : Nat
  lowerBoundary : Nat
  upperBoundary : Nat
  deriving Repr, DecidableEq

namespace Decoder

def start : Decoder := ⟨0, 0, 0x80, 0xBF⟩

def first (b : Nat) : List Char × Decoder :=
  if b ≤ 0x7F then ([Char.ofNat b], start)
  else if 0xC2 ≤ b ∧ b ≤ 0xDF then ([], ⟨b - 0xC0, 1, 0x80, 0xBF⟩)
  else if 0xE0 ≤ b ∧ b ≤ 0xEF then
    ([], ⟨b - 0xE0, 2, if b = 0xE0 then 0xA0 else 0x80, if b = 0xED then 0x9F else 0xBF⟩)
  else if 0xF0 ≤ b ∧ b ≤ 0xF4 then
    ([], ⟨b - 0xF0, 3, if b = 0xF0 then 0x90 else 0x80, if b = 0xF4 then 0x8F else 0xBF⟩)
  else ([replacement], start)

def step (d : Decoder) (b : Nat) : List Char × Decoder :=
  if d.bytesNeeded = 0 then first b
  else if b < d.lowerBoundary ∨ d.upperBoundary < b then
    (replacement :: (first b).1, (first b).2)
  else
    let codePoint := d.codePoint * 64 + b % 64
    if d.bytesNeeded = 1 then ([Char.ofNat codePoint], start)
    else ([], ⟨codePoint, d.bytesNeeded - 1, 0x80, 0xBF⟩)

end Decoder

def decodeFrom (d : Decoder) : List UInt8 → List Char
  | [] => if d.bytesNeeded = 0 then [] else [replacement]
  | b :: rest => (d.step b.toNat).1 ++ decodeFrom (d.step b.toNat).2 rest

def decode (bytes : List UInt8) : List Char := decodeFrom .start bytes

def byteOrderMark : Char := Char.ofNat 0xFEFF

/-- `new TextDecoder().decode`, which leaves out a byte order mark at the beginning. -/
def textDecode (bytes : List UInt8) : List Char :=
  match decode bytes with
  | [] => []
  | c :: rest => if c = byteOrderMark then rest else c :: rest

/-- A byte that only stands inside a character. -/
def IsContinuation (b : UInt8) : Prop := 0x80 ≤ b.toNat ∧ b.toNat ≤ 0xBF

@[simp] theorem encode_cons (c : Char) (cs : List Char) :
    encode (c :: cs) = String.utf8EncodeChar c ++ encode cs := rfl

theorem encode_append (cs ds : List Char) : encode (cs ++ ds) = encode cs ++ encode ds :=
  List.flatMap_append

@[simp] theorem decode_nil : decode [] = [] := rfl

theorem decode_continuation {b : UInt8} (hb : IsContinuation b) (rest : List UInt8) :
    decode (b :: rest) = replacement :: decode rest := by
  obtain ⟨hlow, hhigh⟩ := hb
  have hfirst : Decoder.first b.toNat = ([replacement], .start) := by
    unfold Decoder.first
    rw [if_neg (by omega), if_neg (by omega), if_neg (by omega), if_neg (by omega)]
  have hstep : Decoder.start.step b.toNat = ([replacement], .start) := hfirst
  rw [decode, decodeFrom, hstep]
  rfl

/-! ## One character -/

theorem toNat_ofNat {n : Nat} (h : n < 256) : (UInt8.ofNat n).toNat = n := by
  rw [UInt8.toNat_ofNat']
  exact Nat.mod_eq_of_lt h

theorem char_range (c : Char) : c.toNat < 0xD800 ∨ 0xDFFF < c.toNat ∧ c.toNat < 0x110000 := by
  have h := c.valid
  exact h

theorem decode_cons {b : UInt8} {out : List Char} {d : Decoder}
    (h : Decoder.first b.toNat = (out, d)) (rest : List UInt8) :
    decode (b :: rest) = out ++ decodeFrom d rest := by
  have hstep : Decoder.start.step b.toNat = (out, d) := h
  rw [decode, decodeFrom, hstep]

theorem decodeFrom_nil {codePoint needed lower upper : Nat} (h : needed ≠ 0) :
    decodeFrom ⟨codePoint, needed, lower, upper⟩ [] = [replacement] :=
  if_neg h

theorem decodeFrom_more {codePoint needed lower upper : Nat} {b : UInt8} (hneeded : 1 < needed)
    (hlower : lower ≤ b.toNat) (hupper : b.toNat ≤ upper) (rest : List UInt8) :
    decodeFrom ⟨codePoint, needed, lower, upper⟩ (b :: rest) =
      decodeFrom ⟨codePoint * 64 + b.toNat % 64, needed - 1, 0x80, 0xBF⟩ rest := by
  have hstep : Decoder.step ⟨codePoint, needed, lower, upper⟩ b.toNat =
      ([], ⟨codePoint * 64 + b.toNat % 64, needed - 1, 0x80, 0xBF⟩) := by
    unfold Decoder.step
    rw [if_neg (by simp only; omega), if_neg (by simp only; omega)]
    simp only
    rw [if_neg (by omega)]
  rw [decodeFrom, hstep]
  rfl

theorem decodeFrom_last {codePoint lower upper : Nat} {b : UInt8} (hlower : lower ≤ b.toNat)
    (hupper : b.toNat ≤ upper) (rest : List UInt8) :
    decodeFrom ⟨codePoint, 1, lower, upper⟩ (b :: rest) =
      Char.ofNat (codePoint * 64 + b.toNat % 64) :: decode rest := by
  have hstep : Decoder.step ⟨codePoint, 1, lower, upper⟩ b.toNat =
      ([Char.ofNat (codePoint * 64 + b.toNat % 64)], .start) := by
    unfold Decoder.step
    rw [if_neg (by simp only; omega), if_neg (by simp only; omega)]
    rfl
  rw [decodeFrom, hstep]
  rfl

/-- The encoding of a character: what the decoder makes of it, of its beginnings, and which bytes
it goes on with. -/
structure Encodes (c : Char) (bytes : List UInt8) : Prop where
  continuation : ∀ b ∈ bytes.tail, IsContinuation b
  cut : ∀ k, 0 < k → k < bytes.length → decode (bytes.take k) = [replacement]
  whole : ∀ tail, decode (bytes ++ tail) = c :: decode tail

theorem isContinuation_ofNat {n : Nat} (h : n < 64) : IsContinuation (UInt8.ofNat (n + 0x80)) := by
  unfold IsContinuation
  rw [toNat_ofNat (by omega)]
  omega

theorem encodes_one {c : Char} (h : c.toNat ≤ 0x7F) : Encodes c [UInt8.ofNat c.toNat] where
  continuation := by simp
  cut := by
    intro k hpos hlt
    simp only [List.length_singleton] at hlt
    omega
  whole := by
    intro tail
    have hfirst : Decoder.first (UInt8.ofNat c.toNat).toNat = ([c], .start) := by
      unfold Decoder.first
      rw [toNat_ofNat (by omega), if_pos h, Char.ofNat_toNat]
    exact decode_cons hfirst tail

/-- Bytes that the decoder has read without an answer. -/
def Pending (front : List UInt8) (codePoint needed lower upper : Nat) : Prop :=
  ∀ tail, decode (front ++ tail) = decodeFrom ⟨codePoint, needed, lower, upper⟩ tail

namespace Pending

variable {front : List UInt8} {codePoint needed lower upper : Nat} {b : UInt8}

theorem first (h : Decoder.first b.toNat = ([], ⟨codePoint, needed, lower, upper⟩)) :
    Pending [b] codePoint needed lower upper := decode_cons h

theorem more (h : Pending front codePoint needed lower upper) (hneeded : 1 < needed)
    (hlower : lower ≤ b.toNat) (hupper : b.toNat ≤ upper) :
    Pending (front ++ [b]) (codePoint * 64 + b.toNat % 64) (needed - 1) 0x80 0xBF := by
  intro tail
  rw [List.append_assoc, h]
  exact decodeFrom_more hneeded hlower hupper tail

theorem cut (h : Pending front codePoint needed lower upper) (hneeded : needed ≠ 0) :
    decode front = [replacement] := by
  rw [← List.append_nil front, h]
  exact decodeFrom_nil hneeded

theorem last {c : Char} (h : Pending front codePoint 1 lower upper) (hlower : lower ≤ b.toNat)
    (hupper : b.toNat ≤ upper) (hcode : codePoint * 64 + b.toNat % 64 = c.toNat)
    (tail : List UInt8) : decode (front ++ b :: tail) = c :: decode tail := by
  rw [h, decodeFrom_last hlower hupper, hcode, Char.ofNat_toNat]

end Pending

theorem encodes_two {c : Char} (hlow : 0x7F < c.toNat) (hhigh : c.toNat ≤ 0x7FF) :
    Encodes c [UInt8.ofNat (c.toNat / 64 % 0x20 + 0xC0), UInt8.ofNat (c.toNat % 0x40 + 0x80)] := by
  set b₁ := UInt8.ofNat (c.toNat / 64 % 0x20 + 0xC0) with hb₁
  set b₂ := UInt8.ofNat (c.toNat % 0x40 + 0x80) with hb₂
  have h₁ : b₁.toNat = c.toNat / 64 + 0xC0 := by rw [hb₁, toNat_ofNat (by omega)]; omega
  have h₂ : b₂.toNat = c.toNat % 0x40 + 0x80 := toNat_ofNat (by omega)
  have hc₂ : IsContinuation b₂ := isContinuation_ofNat (by omega)
  have hone : Pending [b₁] (b₁.toNat - 0xC0) 1 0x80 0xBF := by
    refine .first ?_
    unfold Decoder.first
    rw [if_neg (by omega), if_pos (by omega)]
  refine ⟨by simp [hc₂], fun k hpos hlt => ?_, fun tail => ?_⟩
  · obtain rfl : k = 1 := by
      simp only [List.length_cons, List.length_nil] at hlt
      omega
    exact hone.cut (Nat.succ_ne_zero _)
  · exact hone.last hc₂.1 hc₂.2 (by omega) tail

theorem encodes_three {c : Char} (hlow : 0x7FF < c.toNat) (hhigh : c.toNat ≤ 0xFFFF) :
    Encodes c [UInt8.ofNat (c.toNat / 4096 % 0x10 + 0xE0),
      UInt8.ofNat (c.toNat / 64 % 0x40 + 0x80), UInt8.ofNat (c.toNat % 0x40 + 0x80)] := by
  have hrange := char_range c
  set b₁ := UInt8.ofNat (c.toNat / 4096 % 0x10 + 0xE0) with hb₁
  set b₂ := UInt8.ofNat (c.toNat / 64 % 0x40 + 0x80) with hb₂
  set b₃ := UInt8.ofNat (c.toNat % 0x40 + 0x80) with hb₃
  have h₁ : b₁.toNat = c.toNat / 4096 + 0xE0 := by rw [hb₁, toNat_ofNat (by omega)]; omega
  have h₂ : b₂.toNat = c.toNat / 64 % 0x40 + 0x80 := toNat_ofNat (by omega)
  have h₃ : b₃.toNat = c.toNat % 0x40 + 0x80 := toNat_ofNat (by omega)
  have hc₂ : IsContinuation b₂ := isContinuation_ofNat (by omega)
  have hc₃ : IsContinuation b₃ := isContinuation_ofNat (by omega)
  have hone : Pending [b₁] (b₁.toNat - 0xE0) 2
      (if b₁.toNat = 0xE0 then 0xA0 else 0x80) (if b₁.toNat = 0xED then 0x9F else 0xBF) := by
    refine .first ?_
    unfold Decoder.first
    rw [if_neg (by omega), if_neg (by omega), if_pos (by omega)]
  have htwo := hone.more (b := b₂) (by decide) (by split_ifs <;> omega) (by split_ifs <;> omega)
  refine ⟨by simp [hc₂, hc₃], fun k hpos hlt => ?_, fun tail => ?_⟩
  · simp only [List.length_cons, List.length_nil] at hlt
    obtain rfl | rfl : k = 1 ∨ k = 2 := by omega
    · exact hone.cut (Nat.succ_ne_zero _)
    · exact htwo.cut (Nat.succ_ne_zero _)
  · exact htwo.last hc₃.1 hc₃.2 (by omega) tail

theorem encodes_four {c : Char} (hlow : 0xFFFF < c.toNat) :
    Encodes c [UInt8.ofNat (c.toNat / 262144 % 0x08 + 0xF0),
      UInt8.ofNat (c.toNat / 4096 % 0x40 + 0x80), UInt8.ofNat (c.toNat / 64 % 0x40 + 0x80),
      UInt8.ofNat (c.toNat % 0x40 + 0x80)] := by
  have hrange := char_range c
  set b₁ := UInt8.ofNat (c.toNat / 262144 % 0x08 + 0xF0) with hb₁
  set b₂ := UInt8.ofNat (c.toNat / 4096 % 0x40 + 0x80) with hb₂
  set b₃ := UInt8.ofNat (c.toNat / 64 % 0x40 + 0x80) with hb₃
  set b₄ := UInt8.ofNat (c.toNat % 0x40 + 0x80) with hb₄
  have h₁ : b₁.toNat = c.toNat / 262144 + 0xF0 := by rw [hb₁, toNat_ofNat (by omega)]; omega
  have h₂ : b₂.toNat = c.toNat / 4096 % 0x40 + 0x80 := toNat_ofNat (by omega)
  have h₃ : b₃.toNat = c.toNat / 64 % 0x40 + 0x80 := toNat_ofNat (by omega)
  have h₄ : b₄.toNat = c.toNat % 0x40 + 0x80 := toNat_ofNat (by omega)
  have hc₂ : IsContinuation b₂ := isContinuation_ofNat (by omega)
  have hc₃ : IsContinuation b₃ := isContinuation_ofNat (by omega)
  have hc₄ : IsContinuation b₄ := isContinuation_ofNat (by omega)
  have hone : Pending [b₁] (b₁.toNat - 0xF0) 3
      (if b₁.toNat = 0xF0 then 0x90 else 0x80) (if b₁.toNat = 0xF4 then 0x8F else 0xBF) := by
    refine .first ?_
    unfold Decoder.first
    rw [if_neg (by omega), if_neg (by omega), if_neg (by omega), if_pos (by omega)]
  have htwo := hone.more (b := b₂) (by decide) (by split_ifs <;> omega) (by split_ifs <;> omega)
  have hthree := htwo.more (by decide) hc₃.1 hc₃.2
  refine ⟨by simp [hc₂, hc₃, hc₄], fun k hpos hlt => ?_, fun tail => ?_⟩
  · simp only [List.length_cons, List.length_nil] at hlt
    obtain rfl | rfl | rfl : k = 1 ∨ k = 2 ∨ k = 3 := by omega
    · exact hone.cut (Nat.succ_ne_zero _)
    · exact htwo.cut (Nat.succ_ne_zero _)
    · exact hthree.cut (Nat.succ_ne_zero _)
  · exact hthree.last hc₄.1 hc₄.2 (by omega) tail

theorem encodes (c : Char) : Encodes c (String.utf8EncodeChar c) := by
  unfold String.utf8EncodeChar
  have hval : c.val.toNat = c.toNat := rfl
  simp only [hval]
  split_ifs with hone htwo hthree
  · exact encodes_one hone
  · exact encodes_two (by omega) htwo
  · exact encodes_three (by omega) hthree
  · exact encodes_four (by omega)

theorem decode_encode_append (cs : List Char) (tail : List UInt8) :
    decode (encode cs ++ tail) = cs ++ decode tail := by
  induction cs with
  | nil => rfl
  | cons c cs ih => rw [encode_cons, List.append_assoc, (encodes c).whole, ih, List.cons_append]

theorem decode_encode (cs : List Char) : decode (encode cs) = cs := by
  have h := decode_encode_append cs []
  rwa [List.append_nil, decode_nil, List.append_nil] at h

theorem encode_injective {cs ds : List Char} (h : encode cs = encode ds) : cs = ds := by
  rw [← decode_encode cs, h, decode_encode]

theorem decode_continuations {bytes : List UInt8} (hbytes : ∀ b ∈ bytes, IsContinuation b)
    (tail : List UInt8) :
    decode (bytes ++ tail) = List.replicate bytes.length replacement ++ decode tail := by
  induction bytes with
  | nil => rfl
  | cons b bytes ih =>
      have hrest : ∀ x ∈ bytes, IsContinuation x := fun x hx => hbytes x (List.mem_cons_of_mem _ hx)
      rw [List.cons_append, decode_continuation (hbytes b List.mem_cons_self), ih hrest]
      rfl

theorem decode_part {c : Char} {part left : List UInt8}
    (h : String.utf8EncodeChar c = part ++ left) (hpart : part ≠ []) (hleft : left ≠ []) :
    decode part = [replacement] := by
  have htake : part = (String.utf8EncodeChar c).take part.length := by rw [h, List.take_left]
  rw [htake]
  apply (encodes c).cut
  · exact List.length_pos_of_ne_nil hpart
  · have hpos := List.length_pos_of_ne_nil hleft
    rw [h, List.length_append]
    omega

theorem isContinuation_of_mem_left {c : Char} {part left : List UInt8}
    (h : String.utf8EncodeChar c = part ++ left) (hpart : part ≠ []) :
    ∀ b ∈ left, IsContinuation b := by
  intro b hb
  apply (encodes c).continuation
  rw [h]
  cases part with
  | nil => exact absurd rfl hpart
  | cons first rest => exact List.mem_append_right rest hb

/-- A text cut between two characters, or inside one. -/
inductive Cut (cs : List Char) (front back : List UInt8) : Prop where
  | between (before after : List Char) : cs = before ++ after → front = encode before →
      back = encode after → Cut cs front back
  | inside (before after : List Char) (c : Char) (part left : List UInt8) :
      cs = before ++ c :: after → String.utf8EncodeChar c = part ++ left → part ≠ [] → left ≠ [] →
      front = encode before ++ part → back = left ++ encode after → Cut cs front back

theorem encode_cut {cs : List Char} {front back : List UInt8} (h : front ++ back = encode cs) :
    Cut cs front back := by
  induction cs generalizing front with
  | nil =>
      obtain ⟨rfl, rfl⟩ := List.append_eq_nil_iff.mp h
      exact .between [] [] rfl rfl rfl
  | cons c cs ih =>
      rw [encode_cons] at h
      rcases List.append_eq_append_iff.mp h with ⟨left, hchar, hback⟩ | ⟨front', hfront, hrest⟩
      · by_cases hnone : front = []
        · exact .between [] (c :: cs) rfl hnone (by rw [hback, encode_cons, hchar, hnone]; simp)
        by_cases hwhole : left = []
        · subst hwhole
          exact .between [c] cs rfl (by simpa [encode] using hchar.symm) (by simpa using hback)
        · exact .inside [] cs c front left rfl hchar hnone hwhole rfl hback
      · cases ih hrest.symm with
        | between before after hcs hbefore hafter =>
            exact .between (c :: before) after (by rw [hcs]; rfl)
              (by rw [hfront, hbefore, encode_cons]) hafter
        | inside before after c' part left hcs hchar hpart hleft hbefore hafter =>
            exact .inside (c :: before) after c' part left (by rw [hcs]; rfl) hchar hpart hleft
              (by rw [hfront, hbefore, encode_cons, List.append_assoc]) hafter

end KubeNova.Foundation.Utf8
