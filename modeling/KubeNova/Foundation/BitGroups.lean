import Mathlib.Data.List.Induction
import Mathlib.Tactic.Ring

/-!
# Regrouping bits

A stream of digits of one width is written as digits of another through a 32-bit buffer: each digit
is shifted in from the right, and whole groups are taken off the left of what is pending.  Bits that
leave the buffer on its left, and the sign a shift copies, never reach a group.
-/

namespace KubeNova.Foundation.BitGroups

/-- The number with the given digits of `w` bits, the highest first. -/
def value (w : Nat) (digits : List Nat) : Nat := digits.foldl (fun acc d => acc * 2 ^ w + d) 0

def low (bits : Nat) (buffer : BitVec 32) : Nat := buffer.toNat % 2 ^ bits

/-- `(buffer << w) | n` -/
def shiftIn (w n : Nat) (buffer : BitVec 32) : BitVec 32 := buffer <<< w ||| BitVec.ofNat 32 n

/-- `(buffer >> bits) & (2 ** w - 1)` -/
def group (w bits : Nat) (buffer : BitVec 32) : Nat :=
  (buffer.sshiftRight bits &&& BitVec.ofNat 32 (2 ^ w - 1)).toNat

section Values

variable {w : Nat} {xs ys : List Nat} {d e : Nat}

theorem value_concat : value w (xs ++ [d]) = value w xs * 2 ^ w + d := by
  rw [value, List.foldl_append]
  rfl

theorem eq_of_mul_add_eq {m a b x y : Nat} (hx : x < m) (hy : y < m)
    (h : a * m + x = b * m + y) : a = b ∧ x = y := by
  have hdiv : ∀ c z : Nat, z < m → (c * m + z) / m = c := by
    intro c z hz
    rw [Nat.mul_comm, Nat.mul_add_div (by omega), Nat.div_eq_of_lt hz, Nat.add_zero]
  have hab : a = b := by rw [← hdiv a x hx, h, hdiv b y hy]
  subst hab
  exact ⟨rfl, by omega⟩

theorem eq_of_value_eq (hlength : xs.length = ys.length) (hxs : ∀ d ∈ xs, d < 2 ^ w)
    (hys : ∀ d ∈ ys, d < 2 ^ w) (h : value w xs = value w ys) : xs = ys := by
  induction xs using List.reverseRecOn generalizing ys with
  | nil => exact (List.eq_nil_of_length_eq_zero hlength.symm).symm
  | append_singleton xs x ih =>
      rcases List.eq_nil_or_concat ys with rfl | ⟨ys, y, rfl⟩
      · simp at hlength
      · rw [List.concat_eq_append] at *
        rw [value_concat, value_concat] at h
        obtain ⟨hvalue, rfl⟩ := eq_of_mul_add_eq (hxs x (by simp)) (hys y (by simp)) h
        rw [ih (by simpa using hlength) (fun d hd => hxs d (List.mem_append_left _ hd))
          (fun d hd => hys d (List.mem_append_left _ hd)) hvalue]

theorem getElem_eq_of_value (hxs : ∀ d ∈ xs, d < 2 ^ w) {i : Nat} (hi : i < xs.length) :
    xs[i] = value w xs / (2 ^ w) ^ (xs.length - 1 - i) % 2 ^ w := by
  induction xs using List.reverseRecOn with
  | nil => simp at hi
  | append_singleton xs x ih =>
      have hx : x < 2 ^ w := hxs x (by simp)
      rw [value_concat, List.length_append, List.length_singleton, Nat.add_sub_cancel]
      by_cases hlast : i = xs.length
      · subst hlast
        rw [List.getElem_concat_length rfl, Nat.sub_self, Nat.pow_zero, Nat.div_one,
          Nat.mul_comm, Nat.mul_add_mod, Nat.mod_eq_of_lt hx]
      · have hi' : i < xs.length := by
          rw [List.length_append, List.length_singleton] at hi
          omega
        have hsplit : xs.length - i = (xs.length - 1 - i) + 1 := by omega
        have hdiv : (value w xs * 2 ^ w + x) / 2 ^ w = value w xs := by
          rw [Nat.mul_comm, Nat.mul_add_div (Nat.two_pow_pos w), Nat.div_eq_of_lt hx, Nat.add_zero]
        rw [List.getElem_append_left hi', ih (fun d hd => hxs d (List.mem_append_left _ hd)) hi',
          hsplit, Nat.pow_succ', ← Nat.div_div_eq_div_mul, hdiv]

end Values

section Buffer

variable {w n bits : Nat} {buffer : BitVec 32}

theorem toNat_shiftIn (hn : n < 2 ^ w) (hw : w ≤ 32) :
    (shiftIn w n buffer).toNat = buffer.toNat % 2 ^ (32 - w) * 2 ^ w + n := by
  have hpow : 2 ^ 32 = 2 ^ (32 - w) * 2 ^ w := by rw [← Nat.pow_add, Nat.sub_add_cancel hw]
  have hfits : n < 2 ^ 32 := by
    have hle : 2 ^ w ≤ 2 ^ 32 := Nat.pow_le_pow_right (by decide) hw
    omega
  rw [shiftIn, BitVec.toNat_or, BitVec.toNat_shiftLeft, BitVec.toNat_ofNat, Nat.mod_eq_of_lt hfits,
    Nat.shiftLeft_eq, hpow, Nat.mul_mod_mul_right, ← Nat.shiftLeft_eq,
    ← Nat.shiftLeft_add_eq_or_of_lt hn, Nat.shiftLeft_eq]

theorem low_shiftIn (hn : n < 2 ^ w) (hfits : bits + w ≤ 32) :
    low (bits + w) (shiftIn w n buffer) = low bits buffer * 2 ^ w + n := by
  have hdvd : 2 ^ bits ∣ 2 ^ (32 - w) := Nat.pow_dvd_pow 2 (by omega)
  have hadd : ∀ m : Nat, (m * 2 ^ w + n) % 2 ^ (bits + w) = m % 2 ^ bits * 2 ^ w + n := by
    intro m
    rw [Nat.pow_add, Nat.mul_comm (2 ^ bits), Nat.mod_mul, Nat.mul_comm m, Nat.mul_add_mod,
      Nat.mod_eq_of_lt hn, Nat.mul_add_div (Nat.two_pow_pos w), Nat.div_eq_of_lt hn, Nat.add_zero,
      Nat.mul_comm (2 ^ w), Nat.add_comm]
  rw [low, toNat_shiftIn hn (by omega), hadd, Nat.mod_mod_of_dvd _ hdvd, low]

theorem group_eq (hfits : bits + w ≤ 32) : group w bits buffer = buffer.toNat / 2 ^ bits % 2 ^ w := by
  have hlogical : buffer.sshiftRight bits &&& BitVec.ofNat 32 (2 ^ w - 1) =
      buffer >>> bits &&& BitVec.ofNat 32 (2 ^ w - 1) := by
    ext i hi
    have hbit : (BitVec.ofNat 32 (2 ^ w - 1))[i] = decide (i < w) := by
      rw [← BitVec.getLsbD_eq_getElem, BitVec.getLsbD_ofNat, Nat.testBit_two_pow_sub_one]
      simp [hi]
    rw [BitVec.getElem_and, BitVec.getElem_and, hbit]
    by_cases hw : i < w
    · rw [BitVec.getElem_sshiftRight, dif_pos (by omega), BitVec.getElem_ushiftRight]
      rw [BitVec.getLsbD_eq_getElem (by omega)]
    · simp [hw]
  have hmask : (BitVec.ofNat 32 (2 ^ w - 1)).toNat = 2 ^ w - 1 := by
    rw [BitVec.toNat_ofNat, Nat.mod_eq_of_lt]
    have hle : 2 ^ w ≤ 2 ^ 32 := Nat.pow_le_pow_right (by decide) (by omega)
    have hpos := Nat.two_pow_pos w
    omega
  rw [group, hlogical, BitVec.toNat_and, hmask, BitVec.toNat_ushiftRight,
    Nat.and_two_pow_sub_one_eq_mod, Nat.shiftRight_eq_div_pow]

theorem group_ofNat {number : Nat} (hfits : bits + w ≤ 32) :
    group w bits (BitVec.ofNat 32 number) = number / 2 ^ bits % 2 ^ w := by
  have hpow : 2 ^ bits * 2 ^ (32 - bits) = 2 ^ 32 := by
    rw [← Nat.pow_add, Nat.add_sub_cancel' (by omega)]
  have hdvd : 2 ^ w ∣ 2 ^ (32 - bits) := Nat.pow_dvd_pow 2 (by omega)
  rw [group_eq hfits, BitVec.toNat_ofNat, ← hpow, Nat.mod_mul_right_div_self,
    Nat.mod_mod_of_dvd _ hdvd]

theorem group_lt (hfits : bits + w ≤ 32) : group w bits buffer < 2 ^ w := by
  rw [group_eq hfits]
  exact Nat.mod_lt _ (Nat.two_pow_pos w)

/-- What is pending is the group that is taken off, and what stays pending. -/
theorem low_add (hfits : bits + w ≤ 32) :
    low (bits + w) buffer = group w bits buffer * 2 ^ bits + low bits buffer := by
  rw [low, group_eq hfits, low, Nat.pow_add, Nat.mod_mul, Nat.mul_comm, Nat.add_comm]

end Buffer

structure Regrouped (inBits outBits : Nat) (input : List Nat) (bits : Nat) (buffer : BitVec 32)
    (output : List Nat) : Prop where
  value_eq : value inBits input = value outBits output * 2 ^ bits + low bits buffer
  length_eq : inBits * input.length = outBits * output.length + bits
  digits : ∀ d ∈ output, d < 2 ^ outBits

section Regroup

variable {inBits outBits bits n : Nat} {input output : List Nat} {buffer : BitVec 32}

theorem Regrouped.start : Regrouped inBits outBits [] 0 0 [] where
  value_eq := rfl
  length_eq := rfl
  digits := by simp

theorem Regrouped.push (h : Regrouped inBits outBits input bits buffer output) (hn : n < 2 ^ inBits)
    (hfits : bits + inBits ≤ 32) :
    Regrouped inBits outBits (input ++ [n]) (bits + inBits) (shiftIn inBits n buffer) output where
  value_eq := by
    rw [value_concat, h.value_eq, low_shiftIn hn hfits, Nat.pow_add]
    ring
  length_eq := by
    rw [List.length_append, List.length_singleton, Nat.mul_add, h.length_eq]
    omega
  digits := h.digits

theorem Regrouped.pop (h : Regrouped inBits outBits input bits buffer output)
    (hbits : outBits ≤ bits) (hfits : bits ≤ 32) :
    Regrouped inBits outBits input (bits - outBits) buffer
      (output ++ [group outBits (bits - outBits) buffer]) where
  value_eq := by
    have hsum : bits - outBits + outBits = bits := Nat.sub_add_cancel hbits
    have hlow := @low_add outBits (bits - outBits) buffer (by omega)
    have hpow : 2 ^ bits = 2 ^ (bits - outBits) * 2 ^ outBits := by rw [← Nat.pow_add, hsum]
    rw [hsum] at hlow
    rw [value_concat, h.value_eq, hlow, hpow]
    ring
  length_eq := by
    rw [List.length_append, List.length_singleton, Nat.mul_add, h.length_eq]
    omega
  digits := by
    intro d hd
    rcases List.mem_append.mp hd with hd | hd
    · exact h.digits d hd
    · obtain rfl := List.mem_singleton.mp hd
      exact group_lt (by omega)

end Regroup

end KubeNova.Foundation.BitGroups
