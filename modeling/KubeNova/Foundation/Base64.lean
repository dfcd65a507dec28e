import KubeNova.Foundation.Text

/-!
# Base64

`btoa` and `atob`, on bytes and on the characters of a text.
-/

namespace KubeNova.Foundation.Base64

def alphabet : List Char :=
  "ABCDEFGHIJKLMNOPQRSTUVWXYZabcdefghijklmnopqrstuvwxyz0123456789+/".toList

def digitChar (d : Nat) : Char := alphabet.getD d 'A'

def digitValue (c : Char) : Option Nat :=
  if 'A' ≤ c ∧ c ≤ 'Z' then some (c.toNat - 65)
  else if 'a' ≤ c ∧ c ≤ 'z' then some (c.toNat - 71)
  else if '0' ≤ c ∧ c ≤ '9' then some (c.toNat + 4)
  else if c = '+' then some 62
  else if c = '/' then some 63
  else none

/-- The digits of six bits, three bytes at a time. -/
def digits : List UInt8 → List Nat
  | a :: b :: c :: rest =>
      (a.toNat / 4) :: (a.toNat % 4 * 16 + b.toNat / 16) :: (b.toNat % 16 * 4 + c.toNat / 64) ::
        (c.toNat % 64) :: digits rest
  | [a, b] => [a.toNat / 4, a.toNat % 4 * 16 + b.toNat / 16, b.toNat % 16 * 4]
  | [a] => [a.toNat / 4, a.toNat % 4 * 16]
  | [] => []

/-- The number of signs that fill up the last group. -/
def padding (n : Nat) : Nat := (3 - n % 3) % 3

/-- `btoa(text)`, for a text of characters that are bytes. -/
def btoa (bytes : List UInt8) : List Char :=
  (digits bytes).map digitChar ++ List.replicate (padding bytes.length) '='

/-- The bytes of the digits; bits that are over are dropped, and one digit alone is no byte. -/
def bytesOf : List Nat → Option (List UInt8)
  | a :: b :: c :: d :: rest =>
      (bytesOf rest).map fun bytes =>
        UInt8.ofNat (a * 4 + b / 16) :: UInt8.ofNat (b % 16 * 16 + c / 4) ::
          UInt8.ofNat (c % 4 * 64 + d) :: bytes
  | [a, b, c] => some [UInt8.ofNat (a * 4 + b / 16), UInt8.ofNat (b % 16 * 16 + c / 4)]
  | [a, b] => some [UInt8.ofNat (a * 4 + b / 16)]
  | [_] => none
  | [] => some []

/-- Two signs at the most are taken off a text of whole groups. -/
def unpad (text : List Char) : List Char :=
  if text.length % 4 = 0 then
    match text.reverse with
    | '=' :: '=' :: rest => rest.reverse
    | '=' :: rest => rest.reverse
    | _ => text
  else text

def isAsciiSpace (c : Char) : Bool := ['\t', '\n', Char.ofNat 0xC, '\r', ' '].contains c

def atob (text : List Char) : Option (List UInt8) :=
  ((unpad (text.filter fun c => !isAsciiSpace c)).mapM digitValue).bind bytesOf

section RoundTrip

variable {bytes : List UInt8}

theorem digitValue_digitChar : ∀ d < 64, digitValue (digitChar d) = some d := by
  decide +kernel

theorem digitChar_plain : ∀ d < 64, digitChar d ≠ '=' ∧ isAsciiSpace (digitChar d) = false := by
  decide +kernel

theorem toNat_lt (a : UInt8) : a.toNat < 256 := a.toNat_lt

theorem digits_lt (bytes : List UInt8) : ∀ d ∈ digits bytes, d < 64 := by
  fun_induction digits bytes with
  | case1 a b c rest ih =>
      have ha := toNat_lt a
      have hb := toNat_lt b
      have hc := toNat_lt c
      intro d hd
      simp only [List.mem_cons] at hd
      rcases hd with rfl | rfl | rfl | rfl | hd
      · omega
      · omega
      · omega
      · omega
      · exact ih d hd
  | case2 a b =>
      have ha := toNat_lt a
      have hb := toNat_lt b
      intro d hd
      simp only [List.mem_cons, List.not_mem_nil, or_false] at hd
      rcases hd with rfl | rfl | rfl <;> omega
  | case3 a =>
      have ha := toNat_lt a
      intro d hd
      simp only [List.mem_cons, List.not_mem_nil, or_false] at hd
      rcases hd with rfl | rfl <;> omega
  | case4 =>
      intro d hd
      cases hd

theorem ofNat_eq {n : Nat} {a : UInt8} (h : n = a.toNat) : UInt8.ofNat n = a := by
  rw [h, UInt8.ofNat_toNat]

theorem bytesOf_digits (bytes : List UInt8) : bytesOf (digits bytes) = some bytes := by
  fun_induction digits bytes with
  | case1 a b c rest ih =>
      have ha := toNat_lt a
      have hb := toNat_lt b
      have hc := toNat_lt c
      rw [bytesOf, ih, Option.map_some, ofNat_eq, ofNat_eq, ofNat_eq]
      · omega
      · omega
      · omega
  | case2 a b =>
      have ha := toNat_lt a
      have hb := toNat_lt b
      rw [bytesOf, ofNat_eq, ofNat_eq]
      · omega
      · omega
  | case3 a =>
      have ha := toNat_lt a
      rw [bytesOf, ofNat_eq]
      omega
  | case4 => rfl

theorem length_digits (bytes : List UInt8) :
    (digits bytes).length + padding bytes.length = 4 * ((bytes.length + 2) / 3) := by
  fun_induction digits bytes with
  | case1 a b c rest ih =>
      simp only [List.length_cons, padding] at ih ⊢
      omega
  | case2 a b => simp [padding]
  | case3 a => simp [padding]
  | case4 => rfl

theorem mapM_digitValue {ds : List Nat} (h : ∀ d ∈ ds, d < 64) :
    (ds.map digitChar).mapM digitValue = some ds := by
  induction ds with
  | nil => rfl
  | cons d ds ih =>
      have hd := digitValue_digitChar d (h d List.mem_cons_self)
      have hds := ih fun e he => h e (List.mem_cons_of_mem _ he)
      rw [List.map_cons, List.mapM_cons, hd, hds]
      rfl

theorem unpad_btoa (bytes : List UInt8) :
    unpad (btoa bytes) = (digits bytes).map digitChar := by
  have hgroups : (btoa bytes).length % 4 = 0 := by
    have hlength := length_digits bytes
    rw [btoa, List.length_append, List.length_map, List.length_replicate, hlength]
    omega
  have hplain : ∀ c ∈ ((digits bytes).map digitChar).reverse, c ≠ '=' := by
    intro c hc
    obtain ⟨d, hd, rfl⟩ := List.mem_map.mp (List.mem_reverse.mp hc)
    exact (digitChar_plain d (digits_lt bytes d hd)).1
  have hreverse : (btoa bytes).reverse =
      List.replicate (padding bytes.length) '=' ++ ((digits bytes).map digitChar).reverse := by
    rw [btoa, List.reverse_append, List.reverse_replicate]
  have hpadding : padding bytes.length = 0 ∨ padding bytes.length = 1 ∨
      padding bytes.length = 2 := by
    rw [padding]
    omega
  rw [unpad, if_pos hgroups, hreverse]
  rcases hpadding with h | h | h
  · have hbtoa : btoa bytes = (digits bytes).map digitChar := by
      rw [btoa, h, List.replicate_zero, List.append_nil]
    rw [h, List.replicate_zero, List.nil_append, hbtoa]
    split
    · rename_i heq
      exact absurd rfl (hplain '=' (by rw [heq]; exact List.mem_cons_self))
    · rename_i heq
      exact absurd rfl (hplain '=' (by rw [heq]; exact List.mem_cons_self))
    · rfl
  · rw [h, List.replicate_one, List.singleton_append]
    split
    · rename_i heq
      exact absurd rfl (hplain '=' (by rw [(List.cons.inj heq).2]; exact List.mem_cons_self))
    · rename_i heq
      rw [← (List.cons.inj heq).2, List.reverse_reverse]
    · rename_i hother
      exact absurd rfl (hother _)
  · rw [h]
    exact List.reverse_reverse _

theorem atob_btoa (bytes : List UInt8) : atob (btoa bytes) = some bytes := by
  have hspace : (btoa bytes).filter (fun c => !isAsciiSpace c) = btoa bytes := by
    rw [List.filter_eq_self]
    intro c hc
    rcases List.mem_append.mp hc with hc | hc
    · obtain ⟨d, hd, rfl⟩ := List.mem_map.mp hc
      rw [(digitChar_plain d (digits_lt bytes d hd)).2]
      rfl
    · rw [List.eq_of_mem_replicate hc]
      rfl
  have hvalues : ((digits bytes).map digitChar).mapM digitValue = some (digits bytes) :=
    mapM_digitValue (digits_lt bytes)
  rw [atob, hspace, unpad_btoa, hvalues, Option.bind_some, bytesOf_digits]

end RoundTrip

end KubeNova.Foundation.Base64
