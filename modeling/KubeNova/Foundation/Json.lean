import Mathlib.Data.List.Forall2
import Mathlib.Data.List.Basic

/-!
# JSON text

How `JSON.stringify` writes strings and lists, and that such text is read back
in one way only: a printed value ends where the next delimiter begins.
-/

namespace KubeNova.Foundation.Json

def hexDigit (n : Nat) : Char := if n < 10 then Char.ofNat (48 + n) else Char.ofNat (87 + n)

/-- The escapes of `JSON.stringify` inside a string. -/
def escapeChar (c : Char) : List Char :=
  if c = '"' then ['\\', '"']
  else if c = '\\' then ['\\', '\\']
  else if c.toNat = 8 then ['\\', 'b']
  else if c.toNat = 9 then ['\\', 't']
  else if c.toNat = 10 then ['\\', 'n']
  else if c.toNat = 12 then ['\\', 'f']
  else if c.toNat = 13 then ['\\', 'r']
  else if c.toNat < 32 then ['\\', 'u', '0', '0', hexDigit (c.toNat / 16), hexDigit (c.toNat % 16)]
  else [c]

/-- `JSON.stringify` of a string. -/
def quote (s : String) : List Char := '"' :: (s.toList.flatMap escapeChar ++ ['"'])

def join : List (List Char) → List Char
  | [] => []
  | [x] => x
  | x :: y :: rest => x ++ ',' :: join (y :: rest)

/-- `JSON.stringify` of an array of strings. -/
def stringifyStrings (items : List String) : String :=
  String.ofList ('[' :: (join (items.map quote) ++ [']']))

def unescape : Char → Char
  | 'b' => Char.ofNat 8
  | 't' => Char.ofNat 9
  | 'n' => Char.ofNat 10
  | 'f' => Char.ofNat 12
  | 'r' => Char.ofNat 13
  | c => c

def hexValue (c : Char) : Nat := if c.toNat < 58 then c.toNat - 48 else c.toNat - 87

/-- The first character of a string's body, and the rest of the text. -/
def readChar : List Char → Option (Char × List Char)
  | '\\' :: 'u' :: _ :: _ :: a :: b :: rest =>
      some (Char.ofNat (hexValue a * 16 + hexValue b), rest)
  | '\\' :: c :: rest => some (unescape c, rest)
  | c :: rest => some (c, rest)
  | [] => none

theorem char_eq_of_toNat {c d : Char} (h : c.toNat = d.toNat) : c = d := by
  have hc := Char.ofNat_toNat c
  have hd := Char.ofNat_toNat d
  rw [← hc, ← hd, h]

theorem hexValue_hexDigit : ∀ n < 16, hexValue (hexDigit n) = n := by decide

theorem readChar_escapeChar (c : Char) (rest : List Char) :
    readChar (escapeChar c ++ rest) = some (c, rest) := by
  unfold escapeChar
  split
  · subst c
    rfl
  split
  · subst c
    rfl
  split
  · have hc : c = Char.ofNat 8 := char_eq_of_toNat ‹_›
    subst hc
    rfl
  split
  · have hc : c = Char.ofNat 9 := char_eq_of_toNat ‹_›
    subst hc
    rfl
  split
  · have hc : c = Char.ofNat 10 := char_eq_of_toNat ‹_›
    subst hc
    rfl
  split
  · have hc : c = Char.ofNat 12 := char_eq_of_toNat ‹_›
    subst hc
    rfl
  split
  · have hc : c = Char.ofNat 13 := char_eq_of_toNat ‹_›
    subst hc
    rfl
  split
  · rename_i hlt
    have hvalue : hexValue (hexDigit (c.toNat / 16)) * 16 + hexValue (hexDigit (c.toNat % 16)) =
        c.toNat := by
      rw [hexValue_hexDigit _ (by omega), hexValue_hexDigit _ (by omega)]
      omega
    simp [readChar, hvalue]
  · rename_i hquote hslash _ _ _ _ _ _
    have hplain : ∀ r, readChar (c :: r) = some (c, r) := by
      intro r
      unfold readChar
      split <;> simp_all
    simpa using hplain rest

theorem escapeChar_ne_quote (c : Char) (rest rest' : List Char) :
    escapeChar c ++ rest ≠ '"' :: rest' := by
  intro h
  have hread : readChar (escapeChar c ++ rest) = some ('"', rest') := by rw [h]; rfl
  rw [readChar_escapeChar] at hread
  obtain ⟨rfl, rfl⟩ : c = '"' ∧ rest = rest' := by simpa using hread
  have hlen := congrArg List.length h
  simp [escapeChar] at hlen

theorem escaped_append_inj {cs ds rest rest' : List Char}
    (h : cs.flatMap escapeChar ++ '"' :: rest = ds.flatMap escapeChar ++ '"' :: rest') :
    cs = ds ∧ rest = rest' := by
  induction cs generalizing ds with
  | nil =>
      cases ds with
      | nil => simpa using h
      | cons d ds =>
          simp only [List.flatMap_nil, List.nil_append, List.flatMap_cons, List.append_assoc] at h
          exact absurd h.symm (escapeChar_ne_quote _ _ _)
  | cons c cs ih =>
      cases ds with
      | nil =>
          simp only [List.flatMap_nil, List.nil_append, List.flatMap_cons, List.append_assoc] at h
          exact absurd h (escapeChar_ne_quote _ _ _)
      | cons d ds =>
          simp only [List.flatMap_cons, List.append_assoc] at h
          have hread := congrArg readChar h
          rw [readChar_escapeChar, readChar_escapeChar] at hread
          obtain ⟨rfl, htail⟩ : c = d ∧ _ = _ := by simpa using hread
          obtain ⟨rfl, rfl⟩ := ih htail
          exact ⟨rfl, rfl⟩

theorem quote_append_inj {s t : String} {rest rest' : List Char}
    (h : quote s ++ rest = quote t ++ rest') : s = t ∧ rest = rest' := by
  simp only [quote, List.cons_append, List.append_assoc, List.cons.injEq, true_and] at h
  obtain ⟨hst, hrest⟩ := escaped_append_inj h
  exact ⟨String.toList_inj.mp hst, hrest⟩

/-- The text behind a value: nothing, or something that begins with a delimiter. -/
def Delimited (rest : List Char) : Prop :=
  ∀ c ∈ rest.head?, c ∈ [',', ']', '}']

theorem Delimited.cons {c : Char} (hc : c ∈ [',', ']', '}']) (rest : List Char) :
    Delimited (c :: rest) := by
  intro d hd
  obtain rfl : c = d := by simpa using hd
  exact hc

theorem Delimited.nil : Delimited [] := by simp [Delimited]

variable {α : Type}

/-- Two equal texts that begin with printed values: the values agree and so do the rests. -/
def Separates (R : α → α → Prop) (x y : List Char) (a b : α) : Prop :=
  ∀ rest rest', Delimited rest → Delimited rest' → x ++ rest = y ++ rest' → R a b ∧ rest = rest'

theorem join_append_inj {R : α → α → Prop} (print : α → List Char) {close : Char}
    (hclose : close ∈ [']', '}']) {xs : List α}
    {ys : List α} (hprint : ∀ a ∈ xs, ∀ b ∈ ys, Separates R (print a) (print b) a b)
    (hstart : ∀ a rest rest', print a ++ rest ≠ close :: rest') {rest rest' : List Char}
    (h : join (xs.map print) ++ close :: rest = join (ys.map print) ++ close :: rest') :
    List.Forall₂ R xs ys ∧ rest = rest' := by
  have hcomma : close ≠ ',' := by
    rintro rfl
    simp at hclose
  have hdelim : ∀ r, Delimited (close :: r) := by
    intro r
    refine Delimited.cons ?_ r
    simp only [List.mem_cons, List.not_mem_nil, or_false] at hclose ⊢
    exact .inr hclose
  have hcomma' : ∀ r, Delimited (',' :: r) := Delimited.cons (by simp)
  induction xs generalizing ys with
  | nil =>
      cases ys with
      | nil => exact ⟨.nil, by simpa [join] using h⟩
      | cons y ys =>
          cases ys with
          | nil => exact absurd h.symm (by simpa [join] using hstart y _ _)
          | cons z ys => exact absurd h.symm (by simpa [join] using hstart y _ _)
  | cons x xs ih =>
      cases ys with
      | nil =>
          cases xs with
          | nil => exact absurd h (by simpa [join] using hstart x _ _)
          | cons x' xs => exact absurd h (by simpa [join] using hstart x _ _)
      | cons y ys =>
          have hx := hprint x (by simp) y (by simp)
          have htail : ∀ a ∈ xs, ∀ b ∈ ys, Separates R (print a) (print b) a b :=
            fun a ha b hb => hprint a (by simp [ha]) b (by simp [hb])
          cases xs with
          | nil =>
              cases ys with
              | nil =>
                  obtain ⟨hxy, hrest⟩ := hx _ _ (hdelim _) (hdelim _) (by simpa [join] using h)
                  exact ⟨.cons hxy .nil, by simpa using hrest⟩
              | cons y' ys =>
                  obtain ⟨-, hrest⟩ := hx _ _ (hdelim _) (hcomma' _) (by simpa [join] using h)
                  simp [hcomma] at hrest
          | cons x' xs =>
              cases ys with
              | nil =>
                  obtain ⟨-, hrest⟩ := hx _ _ (hcomma' _) (hdelim _) (by simpa [join] using h)
                  simp [hcomma.symm] at hrest
              | cons y' ys =>
                  obtain ⟨hxy, hrest⟩ := hx _ _ (hcomma' _) (hcomma' _) (by simpa [join] using h)
                  have htexts : join ((x' :: xs).map print) ++ close :: rest =
                      join ((y' :: ys).map print) ++ close :: rest' := by simpa using hrest
                  obtain ⟨hall, hend⟩ := ih htail htexts
                  exact ⟨.cons hxy hall, hend⟩

theorem quote_ne_close {close : Char} (hclose : close ∈ [']', '}']) (s : String)
    (rest rest' : List Char) : quote s ++ rest ≠ close :: rest' := by
  intro h
  have hhead : '"' = close := by simpa [quote] using congrArg List.head? h
  subst hhead
  simp at hclose

theorem stringifyStrings_injective : Function.Injective stringifyStrings := by
  intro xs ys h
  have hchars := String.ofList_injective h
  simp only [List.cons.injEq, true_and] at hchars
  have hall := join_append_inj (R := Eq) quote (by simp)
    (fun a _ b _ rest rest' _ _ heq => quote_append_inj heq)
    (fun a rest rest' => quote_ne_close (by simp) a rest rest') hchars
  exact List.forall₂_eq_eq_eq ▸ hall.1

end KubeNova.Foundation.Json
