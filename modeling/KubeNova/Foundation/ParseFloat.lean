import KubeNova.Foundation.JsNumber
import KubeNova.Foundation.Trimming
import Mathlib.Algebra.Order.Field.Rat

/-!
# Reading decimal numbers

`Number.parseFloat` on the characters of a text: the longest beginning that is a decimal literal.
Rounding is left out but for the magnitudes that round to an infinity.
-/

namespace KubeNova.Foundation

open KubeNova.Foundation.Text (isDigit isSpace)

def digitsValue (digits : List Char) : Nat := digits.foldl (fun n c => 10 * n + (c.toNat - 48)) 0

def decimalValue (whole fraction : List Char) (exponent : Int) : ℚ :=
  (digitsValue (whole ++ fraction) : ℚ) * (10 : ℚ) ^ (exponent - fraction.length)

/-- What does not round to a finite number any more. -/
def overflow : ℚ := 2 ^ 1024 - 2 ^ 970

def Number.ofDecimal (negative : Bool) (q : ℚ) : Number :=
  if overflow ≤ q then (if negative then .negInfinity else .infinity)
  else .finite (if negative then -q else q)

def scanSign : List Char → Bool × List Char
  | '+' :: rest => (false, rest)
  | '-' :: rest => (true, rest)
  | rest => (false, rest)

def scanFraction : List Char → List Char × List Char
  | '.' :: rest => (rest.takeWhile isDigit, rest.dropWhile isDigit)
  | rest => ([], rest)

def scanExponent : List Char → Int
  | c :: rest =>
      if c = 'e' ∨ c = 'E' then
        let signed := scanSign rest
        let n := digitsValue (signed.2.takeWhile isDigit)
        if signed.1 then -n else n
      else 0
  | [] => 0

/-- The literal at the beginning of a text without white space before it. -/
def scanDecimal (text : List Char) : Number :=
  let signed := scanSign text
  if "Infinity".toList.isPrefixOf signed.2 then
    (if signed.1 then .negInfinity else .infinity)
  else
    let whole := signed.2.takeWhile isDigit
    let fraction := scanFraction (signed.2.dropWhile isDigit)
    if whole = [] ∧ fraction.1 = [] then .nan
    else .ofDecimal signed.1 (decimalValue whole fraction.1 (scanExponent fraction.2))

def parseFloat (text : List Char) : Number := scanDecimal (text.dropWhile isSpace)

section Scanning

variable {digits rest : List Char}

theorem takeWhile_digits (hdigits : ∀ c ∈ digits, isDigit c = true)
    (hrest : ∀ c ∈ rest.head?, isDigit c = false) :
    (digits ++ rest).takeWhile isDigit = digits ∧ (digits ++ rest).dropWhile isDigit = rest := by
  rw [List.takeWhile_append_of_pos hdigits, List.dropWhile_append_of_pos hdigits]
  cases rest with
  | nil => exact ⟨List.append_nil _, rfl⟩
  | cons c rest =>
      have hc : ¬isDigit c = true := by
        rw [hrest c rfl]
        exact Bool.false_ne_true
      rw [List.takeWhile_cons_of_neg hc, List.dropWhile_cons_of_neg hc]
      exact ⟨List.append_nil _, rfl⟩

structure Closes (c : Char) : Prop where
  notDigit : isDigit c = false
  notSign : c ≠ '+' ∧ c ≠ '-'
  notPoint : c ≠ '.'
  notExponent : c ≠ 'e' ∧ c ≠ 'E'
  notInfinity : c ∉ "Infinity".toList
  notSpace : isSpace c = false

variable {c : Char} {text : List Char}

theorem scanSign_of_ne (hplus : text.head? ≠ some '+') (hminus : text.head? ≠ some '-') :
    scanSign text = (false, text) := by
  match text with
  | [] => rfl
  | '+' :: rest => exact absurd rfl hplus
  | '-' :: rest => exact absurd rfl hminus
  | c :: rest =>
      rw [scanSign]
      · intro _ h
        cases h
        exact hplus rfl
      · intro _ h
        cases h
        exact hminus rfl

theorem scanSign_append (hc : Closes c) (text : List Char) :
    scanSign (text ++ [c]) = ((scanSign text).1, (scanSign text).2 ++ [c]) := by
  match text with
  | [] =>
      have hplus : ([c] : List Char).head? ≠ some '+' := fun h => hc.notSign.1 (Option.some.inj h)
      have hminus : ([c] : List Char).head? ≠ some '-' := fun h => hc.notSign.2 (Option.some.inj h)
      exact scanSign_of_ne hplus hminus
  | d :: rest =>
      by_cases hplus : d = '+'
      · rw [hplus]
        rfl
      · by_cases hminus : d = '-'
        · rw [hminus]
          rfl
        · have hp : (d :: rest).head? ≠ some '+' := fun h => hplus (Option.some.inj h)
          have hm : (d :: rest).head? ≠ some '-' := fun h => hminus (Option.some.inj h)
          have hp' : (d :: (rest ++ [c])).head? ≠ some '+' := hp
          have hm' : (d :: (rest ++ [c])).head? ≠ some '-' := hm
          rw [List.cons_append, scanSign_of_ne hp hm, scanSign_of_ne hp' hm']
          rfl

theorem takeWhile_append_closing (hc : Closes c) (text : List Char) :
    (text ++ [c]).takeWhile isDigit = text.takeWhile isDigit := by
  induction text with
  | nil =>
      rw [List.nil_append, List.takeWhile_cons_of_neg]
      · rfl
      · rw [hc.notDigit]
        exact Bool.false_ne_true
  | cons d text ih => rw [List.cons_append, List.takeWhile_cons, List.takeWhile_cons, ih]

theorem dropWhile_append_closing (hc : Closes c) (text : List Char) :
    (text ++ [c]).dropWhile isDigit = text.dropWhile isDigit ++ [c] :=
  dropWhile_append_cons hc.notDigit

theorem scanFraction_of_ne (hpoint : text.head? ≠ some '.') : scanFraction text = ([], text) := by
  match text with
  | [] => rfl
  | c :: rest =>
      rw [scanFraction]
      intro _ h
      cases h
      exact hpoint rfl

theorem scanFraction_append (hc : Closes c) (text : List Char) :
    scanFraction (text ++ [c]) = ((scanFraction text).1, (scanFraction text).2 ++ [c]) := by
  match text with
  | [] =>
      have hpoint : ([c] : List Char).head? ≠ some '.' := fun h => hc.notPoint (Option.some.inj h)
      exact scanFraction_of_ne hpoint
  | d :: rest =>
      by_cases hpoint : d = '.'
      · rw [hpoint]
        simp only [List.cons_append, scanFraction]
        rw [takeWhile_append_closing hc, dropWhile_append_closing hc]
      · have hp : (d :: rest).head? ≠ some '.' := fun h => hpoint (Option.some.inj h)
        have hp' : (d :: (rest ++ [c])).head? ≠ some '.' := hp
        rw [List.cons_append, scanFraction_of_ne hp, scanFraction_of_ne hp']
        rfl

theorem scanExponent_append (hc : Closes c) (text : List Char) :
    scanExponent (text ++ [c]) = scanExponent text := by
  match text with
  | [] =>
      have hno : ¬(c = 'e' ∨ c = 'E') := fun h => h.elim hc.notExponent.1 hc.notExponent.2
      exact if_neg hno
  | d :: rest =>
      simp only [List.cons_append, scanExponent]
      rw [scanSign_append hc, takeWhile_append_closing hc]

theorem isPrefixOf_append {pre : List Char} (hc : c ∉ pre) (text : List Char) :
    pre.isPrefixOf (text ++ [c]) = pre.isPrefixOf text := by
  induction pre generalizing text with
  | nil => cases text <;> rfl
  | cons p pre ih =>
      have hne : p ≠ c := by
        rintro rfl
        exact hc (List.mem_cons_self ..)
      have htail : c ∉ pre := fun h => hc (List.mem_cons_of_mem p h)
      cases text with
      | nil =>
          have hno : (p == c) = false := beq_false_of_ne hne
          simp [List.isPrefixOf, hno]
      | cons d text => rw [List.cons_append, List.isPrefixOf, List.isPrefixOf, ih htail]

theorem scanDecimal_append (hc : Closes c) (text : List Char) :
    scanDecimal (text ++ [c]) = scanDecimal text := by
  simp only [scanDecimal]
  rw [scanSign_append hc, isPrefixOf_append hc.notInfinity, takeWhile_append_closing hc,
    dropWhile_append_closing hc, scanFraction_append hc, scanExponent_append hc]

theorem parseFloat_append (hc : Closes c) (text : List Char) :
    parseFloat (text ++ [c]) = parseFloat text := by
  rw [parseFloat, dropWhile_append_cons hc.notSpace, scanDecimal_append hc, parseFloat]

end Scanning

end KubeNova.Foundation
