import KubeNova.Auth.Stores
import KubeNova.Foundation.BitGroups
import KubeNova.Foundation.Results

/-!
# The base-32 text of a secret

The two loops of `mfa-totp.ts` with their 32-bit buffers: bytes are written as letters of five bits,
and letters are read as bytes.  Reading undoes writing, and no two texts are read as the same bytes.
-/

namespace KubeNova.Auth.SecretCoding

open KubeNova.Foundation KubeNova.Foundation.BitGroups KubeNova.Common

def alphabet : List Char := "ABCDEFGHIJKLMNOPQRSTUVWXYZ234567".toList

def letter (n : Nat) : Char := alphabet.getD n ' '

/-! ## Reading -/

/-- A letter of `[A-Z2-7]` in either case. -/
def isLetter (c : Char) : Bool :=
  let upper := c.toUpper
  ('A' ≤ upper && upper ≤ 'Z') || ('2' ≤ upper && upper ≤ '7')

/-- `/^[A-Z2-7]+={0,6}$/i` -/
def isSecretText (value : List Char) : Bool :=
  let padding := value.dropWhile isLetter
  !(value.takeWhile isLetter).isEmpty && padding.all (· == '=') && padding.length ≤ 6

structure Decoding where
  bits : Nat
  buffer : BitVec 32
  out : List UInt8
  deriving Repr, DecidableEq

/-- One round of the loop, for a letter with the index `n`. -/
def decodeLetter (s : Decoding) (n : Nat) : Decoding :=
  let buffer := s.buffer <<< 5 ||| BitVec.ofNat 32 n
  let bits := s.bits + 5
  if 8 ≤ bits then
    let byte := buffer.sshiftRight (bits - 8) &&& 255#32
    ⟨bits - 8, buffer, s.out ++ [UInt8.ofNat byte.toNat]⟩
  else ⟨bits, buffer, s.out⟩

def decodeLoop (s : Decoding) : List Char → Except Exception Decoding
  | [] => .ok s
  | c :: input => match alphabet.idxOf? c with
      | none => invalidSecret
      | some n => decodeLoop (decodeLetter s n) input

def base32Decode (value : String) : Except Exception (List UInt8) :=
  let chars := value.toList
  -- `value.toUpperCase().replace(/=+$/, '')`
  let input := ((chars.map Char.toUpper).reverse.dropWhile (· == '=')).reverse
  if isSecretText chars = false then invalidSecret
  else if [0, 2, 4, 5, 7].contains (input.length % 8) = false ∨
      (chars.contains '=' = true ∧ chars.length % 8 ≠ 0) then invalidSecret
  else do
    let done ← decodeLoop ⟨0, 0, []⟩ input
    if done.out = [] ∨ done.buffer &&& ((1#32 <<< done.bits) - 1#32) ≠ 0 then invalidSecret
    else .ok done.out

structure Encoding where
  bits : Nat
  buffer : BitVec 32
  result : List Char
  deriving Repr, DecidableEq

def drain (s : Encoding) : Encoding :=
  if 5 ≤ s.bits then
    let group := s.buffer.sshiftRight (s.bits - 5) &&& 31#32
    drain ⟨s.bits - 5, s.buffer, s.result ++ [letter group.toNat]⟩
  else s
termination_by s.bits
decreasing_by omega

def encodeByte (s : Encoding) (byte : UInt8) : Encoding :=
  drain ⟨s.bits + 8, s.buffer <<< 8 ||| BitVec.ofNat 32 byte.toNat, s.result⟩

/-- `generateTotpSecret` on the bytes it has drawn. -/
def generateTotpSecret (bytes : List UInt8) : String :=
  let s := bytes.foldl encodeByte ⟨0, 0, []⟩
  if s.bits ≠ 0 then
    String.ofList (s.result ++ [letter (s.buffer <<< (5 - s.bits) &&& 31#32).toNat])
  else String.ofList s.result

theorem idxOf_letter : ∀ n < 32, alphabet.idxOf? (letter n) = some n := by decide

theorem isLetter_letter : ∀ n < 32, isLetter (letter n) = true ∧ (letter n).toUpper = letter n ∧
    letter n ≠ '=' := by decide

theorem letter_of_idxOf {c : Char} {n : Nat} (h : alphabet.idxOf? c = some n) :
    n < 32 ∧ letter n = c := by
  obtain ⟨hn, hc, -⟩ := List.findIdx?_eq_some_iff_getElem.mp h
  refine ⟨hn, ?_⟩
  rw [letter, List.getD_eq_getElem?_getD, List.getElem?_eq_getElem hn, Option.getD_some]
  exact beq_iff_eq.mp hc

theorem toNat_byte {bits : Nat} {buffer : BitVec 32} (hfits : bits + 8 ≤ 32) :
    (UInt8.ofNat (group 8 bits buffer)).toNat = group 8 bits buffer :=
  UInt8.toNat_ofNat_of_lt' (group_lt hfits)

theorem decodeLetter_regrouped {input : List Nat} {s : Decoding} {n : Nat}
    (h : Regrouped 5 8 input s.bits s.buffer (s.out.map UInt8.toNat)) (hbits : s.bits < 8)
    (hn : n < 32) :
    Regrouped 5 8 (input ++ [n]) (decodeLetter s n).bits (decodeLetter s n).buffer
      ((decodeLetter s n).out.map UInt8.toNat) ∧ (decodeLetter s n).bits < 8 := by
  have hpush := h.push (n := n) hn (by omega)
  by_cases hgroup : 8 ≤ s.bits + 5
  · have hstep : decodeLetter s n = ⟨s.bits + 5 - 8, shiftIn 5 n s.buffer,
        s.out ++ [UInt8.ofNat (group 8 (s.bits + 5 - 8) (shiftIn 5 n s.buffer))]⟩ := by
      rw [decodeLetter, if_pos hgroup]
      rfl
    have hpop := hpush.pop hgroup (by omega)
    rw [hstep]
    dsimp only
    rw [List.map_append, List.map_singleton, toNat_byte (by omega)]
    exact ⟨hpop, by omega⟩
  · have hstep : decodeLetter s n = ⟨s.bits + 5, shiftIn 5 n s.buffer, s.out⟩ := by
      rw [decodeLetter, if_neg hgroup]
      rfl
    rw [hstep]
    exact ⟨hpush, by dsimp only; omega⟩

theorem decode_regrouped {indices input : List Nat} {s : Decoding}
    (h : Regrouped 5 8 input s.bits s.buffer (s.out.map UInt8.toNat)) (hbits : s.bits < 8)
    (hindices : ∀ n ∈ indices, n < 32) :
    Regrouped 5 8 (input ++ indices) (indices.foldl decodeLetter s).bits
        (indices.foldl decodeLetter s).buffer ((indices.foldl decodeLetter s).out.map UInt8.toNat) ∧
      (indices.foldl decodeLetter s).bits < 8 := by
  induction indices generalizing input s with
  | nil =>
      rw [List.append_nil]
      exact ⟨h, hbits⟩
  | cons n indices ih =>
      obtain ⟨hstep, hless⟩ := decodeLetter_regrouped h hbits (hindices n List.mem_cons_self)
      have hrest := ih hstep hless fun m hm => hindices m (List.mem_cons_of_mem _ hm)
      rw [List.append_assoc, List.singleton_append] at hrest
      exact hrest

theorem decodeLoop_letters {indices : List Nat} {s : Decoding} (h : ∀ n ∈ indices, n < 32) :
    decodeLoop s (indices.map letter) = .ok (indices.foldl decodeLetter s) := by
  induction indices generalizing s with
  | nil => rfl
  | cons n indices ih =>
      rw [List.map_cons, decodeLoop, idxOf_letter n (h n List.mem_cons_self)]
      exact ih fun m hm => h m (List.mem_cons_of_mem _ hm)

theorem decodeLoop_eq_ok {input : List Char} {s done : Decoding}
    (h : decodeLoop s input = .ok done) :
    ∃ indices : List Nat, (∀ n ∈ indices, n < 32) ∧ input = indices.map letter ∧
      done = indices.foldl decodeLetter s := by
  induction input generalizing s with
  | nil => exact ⟨[], by simp, rfl, (Except.ok.inj h).symm⟩
  | cons c input ih =>
      rw [decodeLoop] at h
      cases hindex : alphabet.idxOf? c with
      | none =>
          rw [hindex] at h
          cases h
      | some n =>
          rw [hindex] at h
          obtain ⟨hn, rfl⟩ := letter_of_idxOf hindex
          obtain ⟨indices, hindices, rfl, hdone⟩ := ih h
          refine ⟨n :: indices, ?_, rfl, hdone⟩
          intro m hm
          rcases List.mem_cons.mp hm with rfl | hm
          · exact hn
          · exact hindices m hm

/-- What the encoding loop keeps: its letters are the digits of the bytes so far, but for fewer than
five pending bits. -/
structure Encodes (input : List Nat) (s : Encoding) (digits : List Nat) : Prop where
  letters : s.result = digits.map letter
  regrouped : Regrouped 8 5 input s.bits s.buffer digits

theorem drain_encodes {input digits : List Nat} {s : Encoding} (h : Encodes input s digits)
    (hbits : s.bits ≤ 32) :
    ∃ digits', Encodes input (drain s) digits' ∧ (drain s).bits < 5 := by
  induction hn : s.bits using Nat.strongRecOn generalizing s digits with
  | ind n ih =>
      by_cases hgroup : 5 ≤ s.bits
      · have hstep : drain s = drain ⟨s.bits - 5, s.buffer,
            s.result ++ [letter (group 5 (s.bits - 5) s.buffer)]⟩ := by
          rw [drain, if_pos hgroup]
          rfl
        have hnext : Encodes input ⟨s.bits - 5, s.buffer,
            s.result ++ [letter (group 5 (s.bits - 5) s.buffer)]⟩
            (digits ++ [group 5 (s.bits - 5) s.buffer]) := by
          refine ⟨?_, h.regrouped.pop hgroup hbits⟩
          rw [List.map_append, ← h.letters]
          rfl
        rw [hstep]
        exact ih (s.bits - 5) (by omega) hnext (by dsimp only; omega) rfl
      · have hstep : drain s = s := by rw [drain, if_neg hgroup]
        rw [hstep]
        exact ⟨digits, h, by omega⟩

theorem encodeByte_encodes {input digits : List Nat} {s : Encoding} {byte : UInt8}
    (h : Encodes input s digits) (hbits : s.bits < 5) :
    ∃ digits', Encodes (input ++ [byte.toNat]) (encodeByte s byte) digits' ∧
      (encodeByte s byte).bits < 5 := by
  have hpush := h.regrouped.push (n := byte.toNat) byte.toNat_lt (by omega)
  exact drain_encodes ⟨h.letters, hpush⟩ (by dsimp only; omega)

theorem encode_encodes {bytes : List UInt8} {input digits : List Nat} {s : Encoding}
    (h : Encodes input s digits) (hbits : s.bits < 5) :
    ∃ digits', Encodes (input ++ bytes.map UInt8.toNat) (bytes.foldl encodeByte s) digits' ∧
      (bytes.foldl encodeByte s).bits < 5 := by
  induction bytes generalizing input digits s with
  | nil =>
      rw [List.map_nil, List.append_nil]
      exact ⟨digits, h, hbits⟩
  | cons byte bytes ih =>
      obtain ⟨digits', hstep, hless⟩ := @encodeByte_encodes _ _ _ byte h hbits
      have hrest := ih hstep hless
      rw [List.append_assoc, List.singleton_append] at hrest
      exact hrest

/-- The digits of a whole text: the last one is filled up with zeros. -/
structure Written (bytes : List UInt8) (text : String) (pad : Nat) (digits : List Nat) : Prop where
  letters : text.toList = digits.map letter
  value_eq : value 5 digits = value 8 (bytes.map UInt8.toNat) * 2 ^ pad
  length_eq : 5 * digits.length = 8 * bytes.length + pad
  pad_lt : pad < 5
  digits_lt : ∀ d ∈ digits, d < 32

theorem low_lt {bits : Nat} {buffer : BitVec 32} : low bits buffer < 2 ^ bits :=
  Nat.mod_lt _ (Nat.two_pow_pos bits)

theorem toNat_lastGroup {bits : Nat} {buffer : BitVec 32} (hbits : bits < 5) :
    (buffer <<< (5 - bits) &&& 31#32).toNat = low bits buffer * 2 ^ (5 - bits) := by
  have hshift : buffer <<< (5 - bits) = shiftIn (5 - bits) 0 buffer := by
    rw [shiftIn, BitVec.or_zero]
  have hlow := @low_shiftIn (5 - bits) 0 bits buffer
    (Nat.two_pow_pos _) (by omega)
  have hmask : (31#32).toNat = 2 ^ 5 - 1 := rfl
  rw [BitVec.toNat_and, hmask, Nat.and_two_pow_sub_one_eq_mod, hshift]
  rw [Nat.add_sub_cancel' (by omega : bits ≤ 5), Nat.add_zero] at hlow
  exact hlow

theorem written_generateTotpSecret (bytes : List UInt8) :
    ∃ pad digits, Written bytes (generateTotpSecret bytes) pad digits := by
  obtain ⟨digits, h, hbits⟩ := @encode_encodes bytes _ _ ⟨0, 0, []⟩
    ⟨rfl, Regrouped.start⟩ (by decide)
  rw [List.nil_append] at h
  generalize hs : bytes.foldl encodeByte ⟨0, 0, []⟩ = s at h hbits
  obtain ⟨hletters, hvalue, hlength, hdigits⟩ := h
  rw [List.length_map] at hlength
  by_cases hzero : s.bits = 0
  · refine ⟨0, digits, ?_, ?_, by omega, by decide, hdigits⟩
    · rw [generateTotpSecret, hs, if_neg (by simp [hzero]), String.toList_ofList, hletters]
    · rw [hvalue, hzero, low, Nat.pow_zero, Nat.mod_one, Nat.mul_one, Nat.mul_one, Nat.add_zero]
  · have hpow : 2 ^ 5 = 2 ^ s.bits * 2 ^ (5 - s.bits) := by
      rw [← Nat.pow_add, Nat.add_sub_cancel' (by omega : s.bits ≤ 5)]
    refine ⟨5 - s.bits, digits ++ [low s.bits s.buffer * 2 ^ (5 - s.bits)], ?_, ?_, ?_, by omega, ?_⟩
    · rw [generateTotpSecret, hs, if_pos hzero, String.toList_ofList, hletters,
        toNat_lastGroup hbits, List.map_append, List.map_singleton]
    · rw [value_concat, hvalue, hpow]
      ring
    · rw [List.length_append, List.length_singleton]
      omega
    · intro d hd
      rcases List.mem_append.mp hd with hd | hd
      · exact hdigits d hd
      · obtain rfl := List.mem_singleton.mp hd
        have hless := Nat.mul_lt_mul_of_pos_right (@low_lt s.bits s.buffer)
          (Nat.two_pow_pos (5 - s.bits))
        rw [← hpow] at hless
        exact hless

theorem pending_eq_zero_iff {bits : Nat} {buffer : BitVec 32} (hbits : bits < 32) :
    buffer &&& ((1#32 <<< bits) - 1#32) = 0 ↔ low bits buffer = 0 := by
  have hone : (1#32 <<< bits).toNat = 2 ^ bits := by
    have hless : 2 ^ bits < 2 ^ 32 := Nat.pow_lt_pow_right (by decide) hbits
    have hunit : (1#32).toNat = 1 := rfl
    rw [BitVec.toNat_shiftLeft, Nat.shiftLeft_eq, hunit, Nat.one_mul, Nat.mod_eq_of_lt hless]
  have hmask : ((1#32 <<< bits) - 1#32).toNat = 2 ^ bits - 1 := by
    have hpos := Nat.two_pow_pos bits
    rw [BitVec.toNat_sub_of_le, hone]
    · rfl
    · rw [BitVec.le_def, hone]
      exact hpos
  rw [← BitVec.toNat_inj, BitVec.toNat_and, hmask, Nat.and_two_pow_sub_one_eq_mod]
  rfl

/-! ## Both directions -/

theorem read_eq_ok {digits : List Nat} {bytes : List UInt8} (hdigits : ∀ d ∈ digits, d < 32)
    (h : (do
      let done ← decodeLoop ⟨0, 0, []⟩ (digits.map letter)
      if done.out = [] ∨ done.buffer &&& ((1#32 <<< done.bits) - 1#32) ≠ 0 then invalidSecret
      else .ok done.out) = .ok bytes) :
    ∃ bits, value 5 digits = value 8 (bytes.map UInt8.toNat) * 2 ^ bits ∧
      5 * digits.length = 8 * bytes.length + bits ∧ bits < 8 := by
  obtain ⟨hread, hbits⟩ := @decode_regrouped _ [] ⟨0, 0, []⟩ Regrouped.start
    (by decide) hdigits
  rw [decodeLoop_letters hdigits] at h
  generalize digits.foldl decodeLetter ⟨0, 0, []⟩ = done at h hread hbits
  rw [List.nil_append] at hread
  have hchecked : ¬(done.out = [] ∨ done.buffer &&& ((1#32 <<< done.bits) - 1#32) ≠ 0) ∧
      done.out = bytes := by
    by_cases hcheck : done.out = [] ∨ done.buffer &&& ((1#32 <<< done.bits) - 1#32) ≠ 0
    · simp only [bind, Except.bind, if_pos hcheck] at h
      cases h
    · simp only [bind, Except.bind, if_neg hcheck] at h
      exact ⟨hcheck, Except.ok.inj h⟩
  obtain ⟨hcheck, rfl⟩ := hchecked
  push Not at hcheck
  have hzero := (pending_eq_zero_iff (by omega)).mp hcheck.2
  refine ⟨done.bits, ?_, ?_, hbits⟩
  · rw [hread.value_eq, hzero, Nat.add_zero]
  · rw [hread.length_eq, List.length_map]

theorem bytes_eq_of_value {xs ys : List UInt8} (hlength : xs.length = ys.length)
    (h : value 8 (xs.map UInt8.toNat) = value 8 (ys.map UInt8.toNat)) : xs = ys := by
  have hbound : ∀ zs : List UInt8, ∀ d ∈ zs.map UInt8.toNat, d < 2 ^ 8 := by
    intro zs d hd
    obtain ⟨byte, -, rfl⟩ := List.mem_map.mp hd
    exact byte.toNat_lt
  have hmap := eq_of_value_eq (by simpa using hlength) (hbound xs) (hbound ys) h
  exact List.map_injective_iff.mpr (fun a b => UInt8.toNat_inj.mp) hmap

structure Unpadded (value : String) : Prop where
  noPadding : '=' ∉ value.toList
  upper : value.toList.map Char.toUpper = value.toList

theorem input_of_unpadded {value : String} (h : Unpadded value) :
    ((value.toList.map Char.toUpper).reverse.dropWhile (· == '=')).reverse = value.toList := by
  have hdrop : value.toList.reverse.dropWhile (· == '=') = value.toList.reverse := by
    rw [List.dropWhile_eq_self_iff]
    intro hpos heq
    have hmem : value.toList.reverse[0] ∈ value.toList := List.mem_reverse.mp (List.getElem_mem hpos)
    rw [beq_iff_eq.mp heq] at hmem
    exact h.noPadding hmem
  rw [h.upper, hdrop, List.reverse_reverse]

theorem written_nonempty {bytes : List UInt8} {text : String} {pad : Nat} {digits : List Nat}
    (h : Written bytes text pad digits) (hne : bytes ≠ []) : digits ≠ [] := by
  rintro rfl
  have hlength := h.length_eq
  have hpos := List.length_pos_iff.mpr hne
  rw [List.length_nil] at hlength
  omega

theorem unpadded_of_written {bytes : List UInt8} {text : String} {pad : Nat} {digits : List Nat}
    (h : Written bytes text pad digits) : Unpadded text := by
  constructor
  · intro hmem
    rw [h.letters] at hmem
    obtain ⟨d, hd, hletter⟩ := List.mem_map.mp hmem
    exact (isLetter_letter d (h.digits_lt d hd)).2.2 hletter
  · rw [h.letters, List.map_map]
    apply List.map_congr_left
    intro d hd
    exact (isLetter_letter d (h.digits_lt d hd)).2.1

theorem isSecretText_of_written {bytes : List UInt8} {text : String} {pad : Nat}
    {digits : List Nat} (h : Written bytes text pad digits) (hne : bytes ≠ []) :
    isSecretText text.toList = true := by
  have hall : ∀ c ∈ text.toList, isLetter c = true := by
    intro c hc
    rw [h.letters] at hc
    obtain ⟨d, hd, rfl⟩ := List.mem_map.mp hc
    exact (isLetter_letter d (h.digits_lt d hd)).1
  have htake : text.toList.takeWhile isLetter = text.toList := List.takeWhile_eq_self_iff.mpr hall
  have hdrop : text.toList.dropWhile isLetter = [] := List.dropWhile_eq_nil_iff.mpr hall
  have hnonempty : text.toList ≠ [] := by
    rw [h.letters]
    simpa using written_nonempty h hne
  simp only [isSecretText, htake, hdrop]
  simpa using hnonempty

theorem decode_of_written {bytes : List UInt8} {text : String} {pad : Nat} {digits : List Nat}
    (h : Written bytes text pad digits) :
    (digits.foldl decodeLetter ⟨0, 0, []⟩).out = bytes ∧
      low (digits.foldl decodeLetter ⟨0, 0, []⟩).bits
        (digits.foldl decodeLetter ⟨0, 0, []⟩).buffer = 0 ∧
      (digits.foldl decodeLetter ⟨0, 0, []⟩).bits < 8 := by
  obtain ⟨hread, hbits⟩ := @decode_regrouped _ [] ⟨0, 0, []⟩ Regrouped.start
    (by decide) h.digits_lt
  generalize digits.foldl decodeLetter ⟨0, 0, []⟩ = done at hread hbits
  rw [List.nil_append] at hread
  have hvalue := hread.value_eq
  have hlength := hread.length_eq
  rw [List.length_map, h.length_eq] at hlength
  have hpad : done.bits = pad := by
    have hless := h.pad_lt
    omega
  rw [h.value_eq, hpad] at hvalue
  have hlow : low pad done.buffer < 2 ^ pad := low_lt
  obtain ⟨hsame, hzero⟩ := eq_of_mul_add_eq (a := value 8 (bytes.map UInt8.toNat)) (x := 0)
    (Nat.two_pow_pos pad) hlow hvalue
  refine ⟨(bytes_eq_of_value ?_ hsame).symm, ?_, hbits⟩
  · omega
  · rw [hpad]
    exact hzero.symm

theorem decode_generate {bytes : List UInt8} (hne : bytes ≠ []) :
    base32Decode (generateTotpSecret bytes) = .ok bytes := by
  obtain ⟨pad, digits, h⟩ := written_generateTotpSecret bytes
  have hunpadded := unpadded_of_written h
  have hinput := input_of_unpadded hunpadded
  have hlength : (generateTotpSecret bytes).toList.length = digits.length := by
    rw [h.letters, List.length_map]
  have hgroups : [0, 2, 4, 5, 7].contains ((generateTotpSecret bytes).toList.length % 8) = true := by
    have heq := h.length_eq
    have hless := h.pad_lt
    rw [hlength, List.contains_iff_mem]
    simp only [List.mem_cons, List.not_mem_nil, or_false]
    omega
  have hpadding : (generateTotpSecret bytes).toList.contains '=' = false := by
    rw [← Bool.not_eq_true, List.contains_iff_mem]
    exact hunpadded.noPadding
  obtain ⟨hout, hzero, hbits⟩ := decode_of_written h
  have hloop := decodeLoop_letters (s := ⟨0, 0, []⟩) h.digits_lt
  generalize digits.foldl decodeLetter ⟨0, 0, []⟩ = done at hout hzero hbits hloop
  have hpending := (pending_eq_zero_iff (by omega)).mpr hzero
  have haccepted : ¬(done.out = [] ∨ done.buffer &&& ((1#32 <<< done.bits) - 1#32) ≠ 0) := by
    rw [hout, hpending]
    simp [hne]
  simp only [base32Decode, isSecretText_of_written h hne, hinput, hgroups, hpadding]
  rw [if_neg (by decide), if_neg (by simp), h.letters, hloop, ← hout]
  exact if_neg haccepted

theorem decode_eq_ok {text : String} {bytes : List UInt8} (htext : Unpadded text)
    (h : base32Decode text = .ok bytes) :
    ∃ pad digits, Written bytes text pad digits := by
  rw [base32Decode] at h
  simp only [input_of_unpadded htext] at h
  split at h
  · cases h
  split at h
  · cases h
  rename_i hgroups
  push Not at hgroups
  obtain ⟨done, hloop, hcheck⟩ := Results.bind_eq_ok.mp h
  obtain ⟨digits, hdigits, hletters, -⟩ := decodeLoop_eq_ok hloop
  rw [hletters] at h
  obtain ⟨bits, hvalue, hlength, hbits⟩ := read_eq_ok hdigits h
  have hmod := hgroups.1
  rw [hletters, List.length_map, ne_eq, Bool.not_eq_false, List.contains_iff_mem] at hmod
  simp only [List.mem_cons, List.not_mem_nil, or_false] at hmod
  exact ⟨bits, digits, hletters, hvalue, hlength, by omega, hdigits⟩

theorem decode_injective {a b : String} {bytes : List UInt8} (ha : Unpadded a) (hb : Unpadded b)
    (hda : base32Decode a = .ok bytes) (hdb : base32Decode b = .ok bytes) : a = b := by
  obtain ⟨pad, digits, hwa⟩ := decode_eq_ok ha hda
  obtain ⟨pad', digits', hwb⟩ := decode_eq_ok hb hdb
  have hla := hwa.length_eq
  have hlb := hwb.length_eq
  have hpa := hwa.pad_lt
  have hpb := hwb.pad_lt
  have hpad : pad = pad' := by omega
  have hvalue : value 5 digits = value 5 digits' := by rw [hwa.value_eq, hwb.value_eq, hpad]
  have hdigits := eq_of_value_eq (by omega) hwa.digits_lt hwb.digits_lt hvalue
  rw [← String.toList_inj, hwa.letters, hwb.letters, hdigits]

/-- **A coding of secrets**: every secret that was written is read back, and a secret has only one
text without padding. -/
theorem base32_coding :
    (∀ bytes : List UInt8, bytes ≠ [] → base32Decode (generateTotpSecret bytes) = .ok bytes) ∧
    ∀ (a b : String) (bytes : List UInt8), Unpadded a → Unpadded b →
      base32Decode a = .ok bytes → base32Decode b = .ok bytes → a = b := by
  constructor
  · intro bytes hne
    exact decode_generate hne
  · intro a b bytes ha hb hda hdb
    exact decode_injective ha hb hda hdb

theorem unpadded_generateTotpSecret (bytes : List UInt8) : Unpadded (generateTotpSecret bytes) := by
  obtain ⟨pad, digits, h⟩ := written_generateTotpSecret bytes
  exact unpadded_of_written h

/-- Bytes whose bits fill the buffer to its sign, and the only text for one byte. -/
theorem base32_coding_high :
    base32Decode (generateTotpSecret [255, 255, 255, 128, 1]) = .ok [255, 255, 255, 128, 1] ∧
      generateTotpSecret [102] = "MY" :=
  ⟨base32_coding.1 [255, 255, 255, 128, 1] (by decide),
    base32_coding.2 (generateTotpSecret [102]) "MY" [102] (unpadded_generateTotpSecret [102])
      ⟨by decide, by decide⟩ (base32_coding.1 [102] (by decide)) rfl⟩

/-! ## Unbounded buffers

The number of a 32-bit buffer may as well be unbounded: only its low bits are ever read.
-/

theorem letter_eq_base32Char : ∀ n < 32, letter n = base32Char n := by decide

theorem generateTotpSecret_eq (bytes : List UInt8) :
    generateTotpSecret bytes = Auth.generateTotpSecret bytes := by
  obtain ⟨pad, digits, h⟩ := written_generateTotpSecret bytes
  have hlength := h.length_eq
  have hless := h.pad_lt
  have hvalue : bytes.foldl (fun acc b => acc * 256 + b.toNat) 0 =
      value 8 (bytes.map UInt8.toNat) := by
    rw [value, List.foldl_map]
    rfl
  have hgroups : (8 * bytes.length + 4) / 5 = digits.length := by omega
  have hpad : 5 * digits.length - 8 * bytes.length = pad := by omega
  rw [← String.toList_inj, h.letters, Auth.generateTotpSecret]
  rw [String.toList_ofList, hgroups, hpad, hvalue, ← h.value_eq]
  apply List.ext_getElem
  · simp
  · intro i hi _
    rw [List.length_map] at hi
    have hdigit := getElem_eq_of_value (w := 5) h.digits_lt hi
    have hpow : 2 ^ 5 = 32 := rfl
    rw [hpow] at hdigit
    rw [List.getElem_map, List.getElem_map, List.getElem_range,
      letter_eq_base32Char _ (h.digits_lt _ (List.getElem_mem hi)), hdigit]

theorem idxOf_eq_base32Index (c : Char) : alphabet.idxOf? c = base32Index c := by
  by_cases hc : c.toNat < 128
  · have hall : ∀ n < 128, alphabet.idxOf? (Char.ofNat n) = base32Index (Char.ofNat n) := by
      decide +kernel
    have hchar := hall c.toNat hc
    rwa [Char.ofNat_toNat] at hchar
  · have hbound : ∀ x : Char, x.toNat < 128 → ¬ c ≤ x := by
      intro x hx hle
      exact absurd (Nat.lt_of_le_of_lt hle hx) hc
    have hletters : alphabet.all (fun x => decide (x.toNat < 128)) = true := by decide
    have hmem : c ∉ alphabet := by
      intro hmem
      exact hc (of_decide_eq_true (List.all_eq_true.mp hletters c hmem))
    rw [List.idxOf?_eq_none_iff.mpr hmem, base32Index, if_neg, if_neg]
    · exact fun h => hbound '7' (by decide) h.2
    · exact fun h => hbound 'Z' (by decide) h.2

def Agrees (s : Decoding) (st : Nat × Nat × List UInt8) : Prop :=
  s = ⟨st.1, BitVec.ofNat 32 st.2.1, st.2.2⟩ ∧ st.1 < 8

theorem agrees_step {s : Decoding} {st : Nat × Nat × List UInt8} {n : Nat} (h : Agrees s st)
    (hn : n < 32) : Agrees (decodeLetter s n) (base32Step st n) := by
  obtain ⟨bits, number, out⟩ := st
  obtain ⟨rfl, hbits⟩ := h
  have hshift : shiftIn 5 n (BitVec.ofNat 32 number) = BitVec.ofNat 32 (number * 32 + n) := by
    rw [← BitVec.toNat_inj, toNat_shiftIn hn (by decide), BitVec.toNat_ofNat, BitVec.toNat_ofNat]
    omega
  by_cases hgroup : 8 ≤ bits + 5
  · have hbyte : UInt8.ofNat (group 8 (bits + 5 - 8) (BitVec.ofNat 32 (number * 32 + n))) =
        UInt8.ofNat ((number * 32 + n) / 2 ^ (bits + 5 - 8)) := by
      rw [← UInt8.toNat_inj, toNat_byte (by omega), group_ofNat (by omega), UInt8.toNat_ofNat']
    have hstep : decodeLetter ⟨bits, BitVec.ofNat 32 number, out⟩ n = ⟨bits + 5 - 8,
        shiftIn 5 n (BitVec.ofNat 32 number), out ++ [UInt8.ofNat (group 8 (bits + 5 - 8)
          (shiftIn 5 n (BitVec.ofNat 32 number)))]⟩ := by
      rw [decodeLetter, if_pos hgroup]
      rfl
    rw [hstep, hshift, hbyte]
    simp only [base32Step, if_pos hgroup]
    exact ⟨rfl, by dsimp only; omega⟩
  · have hstep : decodeLetter ⟨bits, BitVec.ofNat 32 number, out⟩ n =
        ⟨bits + 5, shiftIn 5 n (BitVec.ofNat 32 number), out⟩ := by
      rw [decodeLetter, if_neg hgroup]
      rfl
    rw [hstep, hshift]
    simp only [base32Step, if_neg hgroup]
    exact ⟨rfl, by dsimp only; omega⟩

theorem agrees_fold {indices : List Nat} {s : Decoding} {st : Nat × Nat × List UInt8}
    (h : Agrees s st) (hindices : ∀ n ∈ indices, n < 32) :
    Agrees (indices.foldl decodeLetter s) (indices.foldl base32Step st) := by
  induction indices generalizing s st with
  | nil => exact h
  | cons n indices ih =>
      exact ih (agrees_step h (hindices n List.mem_cons_self))
        fun m hm => hindices m (List.mem_cons_of_mem _ hm)

theorem mapM_base32Index {input : List Char} {indices : List Nat}
    (h : input.mapM base32Index = some indices) :
    (∀ n ∈ indices, n < 32) ∧ input = indices.map letter := by
  induction input generalizing indices with
  | nil =>
      obtain rfl := Option.some.inj h
      simp
  | cons c input ih =>
      simp only [List.mapM_cons, Option.bind_eq_bind, Option.bind_eq_some_iff] at h
      obtain ⟨n, hn, rest, hrest, heq⟩ := h
      obtain rfl := Option.some.inj heq
      rw [← idxOf_eq_base32Index] at hn
      obtain ⟨hless, rfl⟩ := letter_of_idxOf hn
      obtain ⟨hall, rfl⟩ := ih hrest
      refine ⟨?_, rfl⟩
      intro m hm
      rcases List.mem_cons.mp hm with rfl | hm
      · exact hless
      · exact hall m hm

theorem toUpper_ne_padding {c : Char} (h : isLetter c = true) : c.toUpper ≠ '=' := by
  intro heq
  rw [isLetter, heq] at h
  exact absurd h (by decide)

theorem isLetter_iff (c : Char) : isLetter c = true ↔ (base32Index c.toUpper).isSome = true := by
  simp only [isLetter, base32Index, Bool.or_eq_true, Bool.and_eq_true, decide_eq_true_eq]
  split
  · simp [*]
  · split <;> simp [*]

theorem split_at_letters {chars : List Char} (hpadding : ∀ c ∈ chars.dropWhile isLetter, c = '=') :
    (chars.map Char.toUpper).takeWhile (· ≠ '=') = (chars.takeWhile isLetter).map Char.toUpper ∧
      (chars.map Char.toUpper).dropWhile (· ≠ '=') = chars.dropWhile isLetter ∧
      ((chars.map Char.toUpper).reverse.dropWhile (· == '=')).reverse =
        (chars.takeWhile isLetter).map Char.toUpper := by
  have hupper : chars.map Char.toUpper =
      (chars.takeWhile isLetter).map Char.toUpper ++ chars.dropWhile isLetter := by
    have hsame : (chars.dropWhile isLetter).map Char.toUpper = chars.dropWhile isLetter := by
      conv_rhs => rw [← List.map_id (chars.dropWhile isLetter)]
      apply List.map_congr_left
      intro c hc
      rw [hpadding c hc]
      decide
    conv_lhs => rw [← List.takeWhile_append_dropWhile (p := isLetter) (l := chars)]
    rw [List.map_append, hsame]
  have hletters : ∀ c ∈ (chars.takeWhile isLetter).map Char.toUpper, c ≠ '=' := by
    intro c hc
    obtain ⟨x, hx, rfl⟩ := List.mem_map.mp hc
    exact toUpper_ne_padding (List.mem_takeWhile_imp hx)
  rw [hupper]
  generalize (chars.takeWhile isLetter).map Char.toUpper = letters at hletters ⊢
  generalize chars.dropWhile isLetter = padding at hpadding ⊢
  refine ⟨?_, ?_, ?_⟩
  · rw [List.takeWhile_append_of_pos (by simpa using hletters)]
    cases padding with
    | nil => rw [List.takeWhile_nil, List.append_nil]
    | cons c padding =>
        rw [hpadding c List.mem_cons_self, List.takeWhile_cons_of_neg (by decide), List.append_nil]
  · rw [List.dropWhile_append_of_pos (by simpa using hletters)]
    cases padding with
    | nil => rfl
    | cons c padding =>
        rw [hpadding c List.mem_cons_self, List.dropWhile_cons_of_neg (by decide)]
  · rw [List.reverse_append, List.dropWhile_append_of_pos]
    · rw [List.dropWhile_eq_self_iff.mpr, List.reverse_reverse]
      intro hpos heq
      exact hletters _ (List.mem_reverse.mp (List.getElem_mem hpos)) (beq_iff_eq.mp heq)
    · intro c hc
      rw [hpadding c (List.mem_reverse.mp hc)]
      decide

theorem eq_padding_of_toUpper {c : Char} (h : c.toUpper = '=') : c = '=' := by
  unfold Char.toUpper at h
  split at h
  · rename_i hlower
    have hval := congrArg Char.val h
    dsimp only at hval
    have hnat := congrArg UInt32.toNat hval
    rw [UInt32.toNat_add] at hnat
    have hlow : 97 ≤ c.val.toNat := hlower.1
    have hhigh : c.val.toNat ≤ 122 := hlower.2
    have hshift : ('A'.val - 'a'.val).toNat = 4294967264 := by decide
    have hequals : ('='.val).toNat = 61 := rfl
    omega
  · exact h

theorem isSecretText_of_checks {chars : List Char} {indices : List Nat}
    (hindices : ((chars.map Char.toUpper).takeWhile (· ≠ '=')).mapM base32Index = some indices)
    (hne : (chars.map Char.toUpper).takeWhile (· ≠ '=') ≠ [])
    (hpadding : ∀ c ∈ (chars.map Char.toUpper).dropWhile (· ≠ '='), c = '=')
    (hlength : ((chars.map Char.toUpper).dropWhile (· ≠ '=')).length ≤ 6) :
    isSecretText chars = true := by
  obtain ⟨hbound, hletters⟩ := mapM_base32Index hindices
  rw [List.takeWhile_map] at hletters hne
  rw [List.dropWhile_map] at hpadding hlength
  rw [List.length_map] at hlength
  generalize hfront : chars.takeWhile ((fun c => decide (c ≠ '=')) ∘ Char.toUpper) = front at *
  generalize hback : chars.dropWhile ((fun c => decide (c ≠ '=')) ∘ Char.toUpper) = back at *
  have hchars : chars = front ++ back := by
    rw [← hfront, ← hback, List.takeWhile_append_dropWhile]
  have hall : ∀ c ∈ front, isLetter c = true := by
    intro c hc
    have hmem : c.toUpper ∈ indices.map letter := hletters ▸ List.mem_map_of_mem hc
    obtain ⟨n, hn, heq⟩ := List.mem_map.mp hmem
    rw [isLetter_iff, ← heq, ← idxOf_eq_base32Index, idxOf_letter n (hbound n hn)]
    rfl
  have hequals : ∀ c ∈ back, c = '=' := by
    intro c hc
    exact eq_padding_of_toUpper (hpadding _ (List.mem_map_of_mem hc))
  have hstop : back.takeWhile isLetter = [] ∧ back.dropWhile isLetter = back := by
    cases back with
    | nil => exact ⟨rfl, rfl⟩
    | cons c back =>
        rw [hequals c List.mem_cons_self]
        exact ⟨List.takeWhile_cons_of_neg (by decide), List.dropWhile_cons_of_neg (by decide)⟩
  simp only [isSecretText, hchars, List.takeWhile_append_of_pos hall,
    List.dropWhile_append_of_pos hall, hstop, List.append_nil]
  simp only [Bool.and_eq_true, List.all_eq_true, beq_iff_eq, decide_eq_true_eq]
  refine ⟨⟨?_, hequals⟩, hlength⟩
  simpa using hne

theorem exists_mapM {f : Char → Option Nat} {input : List Char}
    (h : ∀ c ∈ input, (f c).isSome = true) : ∃ indices, input.mapM f = some indices := by
  induction input with
  | nil => exact ⟨[], rfl⟩
  | cons c input ih =>
      obtain ⟨n, hn⟩ := Option.isSome_iff_exists.mp (h c List.mem_cons_self)
      obtain ⟨rest, hrest⟩ := ih fun x hx => h x (List.mem_cons_of_mem _ hx)
      exact ⟨n :: rest, by rw [List.mapM_cons, hn, hrest]; rfl⟩

theorem decodeLoop_of_mapM {input : List Char} {s : Decoding} :
    decodeLoop s input = match input.mapM base32Index with
      | none => invalidSecret
      | some indices => .ok (indices.foldl decodeLetter s) := by
  cases hindices : input.mapM base32Index with
  | some indices =>
      obtain ⟨hbound, rfl⟩ := mapM_base32Index hindices
      exact decodeLoop_letters hbound
  | none =>
      induction input generalizing s with
      | nil => cases hindices
      | cons c input ih =>
          rw [decodeLoop, idxOf_eq_base32Index]
          cases hindex : base32Index c with
          | none => rfl
          | some n =>
              apply ih
              rw [List.mapM_cons, hindex] at hindices
              cases hrest : input.mapM base32Index with
              | none => rfl
              | some rest =>
                  rw [hrest] at hindices
                  cases hindices

theorem checks_eq {done : Decoding} {st : Nat × Nat × List UInt8} (h : Agrees done st) :
    (if done.out = [] ∨ done.buffer &&& ((1#32 <<< done.bits) - 1#32) ≠ 0 then invalidSecret
      else .ok done.out) =
    (if st.2.2 = [] ∨ st.2.1 % 2 ^ st.1 ≠ 0 then invalidSecret else .ok st.2.2 :
      Except Exception (List UInt8)) := by
  obtain ⟨bits, number, out⟩ := st
  obtain ⟨rfl, hbits⟩ := h
  have hlow : low bits (BitVec.ofNat 32 number) = number % 2 ^ bits := by
    rw [low, BitVec.toNat_ofNat, Nat.mod_mod_of_dvd _ (Nat.pow_dvd_pow 2 (by omega))]
  have hpending := @pending_eq_zero_iff bits (BitVec.ofNat 32 number) (by omega)
  rw [hlow] at hpending
  simp only [ne_eq, hpending]

theorem base32Decode_eq (value : String) : base32Decode value = Auth.base32Decode value := by
  simp only [base32Decode, Auth.base32Decode, decodeLoop_of_mapM]
  by_cases htext : isSecretText value.toList = true
  · have htext' := htext
    simp only [isSecretText, Bool.and_eq_true, List.all_eq_true, beq_iff_eq, decide_eq_true_eq,
      Bool.not_eq_true', List.isEmpty_eq_false_iff] at htext'
    obtain ⟨⟨hne, hpadding⟩, hlength⟩ := htext'
    obtain ⟨htake, hdrop, hstrip⟩ := split_at_letters hpadding
    have hcontains : value.toList.contains '=' = true ↔ value.toList.dropWhile isLetter ≠ [] := by
      rw [List.contains_iff_mem]
      constructor
      · intro hmem hnil
        have hall := List.dropWhile_eq_nil_iff.mp hnil '=' hmem
        exact absurd hall (by decide)
      · intro hsome
        obtain ⟨c, hc⟩ := List.exists_mem_of_ne_nil _ hsome
        exact hpadding c hc ▸ (List.dropWhile_suffix isLetter).subset hc
    have hindexed : ∀ c ∈ (value.toList.takeWhile isLetter).map Char.toUpper,
        (base32Index c).isSome = true := by
      intro c hc
      obtain ⟨x, hx, rfl⟩ := List.mem_map.mp hc
      exact (isLetter_iff x).mp (List.mem_takeWhile_imp hx)
    obtain ⟨indices, hindices⟩ := exists_mapM hindexed
    obtain ⟨hbound, -⟩ := mapM_base32Index hindices
    have hagrees := @agrees_fold _ ⟨0, 0, []⟩ (0, 0, []) ⟨rfl, by decide⟩ hbound
    have hchecks := checks_eq hagrees
    have hplain : ¬((value.toList.takeWhile isLetter).map Char.toUpper = [] ∨
        (value.toList.dropWhile isLetter).any (· ≠ '=') = true ∨
        6 < (value.toList.dropWhile isLetter).length) := by
      rintro (hnil | hother | hlong)
      · exact hne (List.map_eq_nil_iff.mp hnil)
      · obtain ⟨c, hc, hdifferent⟩ := List.any_eq_true.mp hother
        exact absurd (hpadding c hc) (by simpa using hdifferent)
      · omega
    rw [htake, hdrop, hstrip, htext, if_neg (by decide), hindices]
    dsimp only
    rw [if_neg hplain, @List.length_map _ _ value.toList Char.toUpper]
    simp only [hcontains]
    split
    · rfl
    · exact hchecks
  · rw [if_pos (Bool.eq_false_iff.mpr htext)]
    cases hindices : ((value.toList.map Char.toUpper).takeWhile (· ≠ '=')).mapM base32Index with
    | none => rfl
    | some indices =>
        dsimp only
        rw [if_pos]
        by_contra hchecks
        push Not at hchecks
        refine htext (isSecretText_of_checks hindices hchecks.1 ?_ hchecks.2.2)
        simpa using hchecks.2.1

end KubeNova.Auth.SecretCoding
