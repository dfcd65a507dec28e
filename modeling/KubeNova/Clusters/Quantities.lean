import KubeNova.Foundation.ParseFloat

/-!
# Kubernetes quantities

The four functions that read a quantity of processors or memory, two of `ClustersService` and two
of `ClusterSyncService`, on the characters of a text.  Numbers are exact.
-/

namespace KubeNova.Clusters

open KubeNova.Foundation
open KubeNova.Foundation.Text (isDigit isSpace trimChars)

/-- What `ClustersService` makes of a number by the last character of the text. -/
def cpuScale (last : Option Char) (numeric : ℚ) : ℚ :=
  if last = some 'n' then numeric / 1000000000
  else if last = some 'u' ∨ last = some 'µ' ∨ last = some 'μ' then numeric / 1000000
  else if last = some 'm' then numeric / 1000
  else if last = some 'K' ∨ last = some 'k' then numeric * 1000
  else if last = some 'M' then numeric * 1000000
  else if last = some 'G' then numeric * 1000000000
  else if last = some 'T' then numeric * 1000000000000
  else if last = some 'P' then numeric * 1000000000000000
  else if last = some 'E' then numeric * 1000000000000000000
  else numeric

def clustersCpuToCores (value : List Char) : Option Number :=
  let trimmed := trimChars value
  if trimmed = [] then none
  else
    match parseFloat trimmed with
    | .finite numeric => some (.finite (cpuScale trimmed.getLast? numeric))
    | _ => none

def syncCpuToCores (value : List Char) : Number :=
  let normalized := trimChars value
  if normalized = [] then .finite 0
  else if normalized.getLast? = some 'm' then
    match parseFloat normalized.dropLast with
    | .finite milli => .finite (milli / 1000)
    | _ => .finite 0
  else
    match parseFloat normalized with
    | .finite cores => .finite cores
    | _ => .finite 0

def isLetter (c : Char) : Bool := ('a' ≤ c && c ≤ 'z') || ('A' ≤ c && c ≤ 'Z')

/-- `/^([0-9]+(?:\.[0-9]+)?)([a-zA-Z]+)?$/`: the digits before and behind the point, and the
suffix. -/
def matchAmount (text : List Char) : Option (List Char × List Char × List Char) :=
  let whole := text.takeWhile isDigit
  let scanned := scanFraction (text.dropWhile isDigit)
  let rest := if scanned.1 = [] then text.dropWhile isDigit else scanned.2
  if whole = [] ∨ rest.all isLetter = false then none else some (whole, scanned.1, rest)

abbrev Units := List (List Char × ℚ)

/-- `units[suffix]`, with the one lower-case name every object inherits, which is no number. -/
def unitOf (units : Units) (suffix : List Char) : Option Number :=
  match units.lookup suffix with
  | some base => some (.finite base)
  | none => if suffix = "constructor".toList then some .nan else none

/-- `amount * base`, for a finite amount. -/
def scaleBy (amount : ℚ) : Number → Number
  | .finite base => .finite (amount * base)
  | _ => .nan

/-- What both services do with a text and their table of units. -/
def readMemory (units : Units) (value : List Char) : Option Number :=
  let normalized := trimChars value
  if normalized = [] then none
  else
    match matchAmount normalized with
    | none => none
    | some (whole, fraction, suffix) =>
        match Number.ofDecimal false (decimalValue whole fraction 0) with
        | .finite amount => (unitOf units (suffix.map Char.toLower)).map (scaleBy amount)
        | _ => none

def clustersUnits : Units :=
  [([], 1), (['k'], 1000), (['m'], 1000000), (['g'], 1000000000), (['t'], 1000000000000),
    (['k', 'i'], 1024), (['m', 'i'], 1024 ^ 2), (['g', 'i'], 1024 ^ 3), (['t', 'i'], 1024 ^ 4)]

def syncUnits : Units :=
  [([], 1), (['k'], 1000), (['m'], 1000000), (['g'], 1000000000), (['t'], 1000000000000),
    (['p'], 1000000000000000), (['e'], 1000000000000000000),
    (['k', 'i'], 1024), (['m', 'i'], 1024 ^ 2), (['g', 'i'], 1024 ^ 3), (['t', 'i'], 1024 ^ 4),
    (['p', 'i'], 1024 ^ 5), (['e', 'i'], 1024 ^ 6)]

def clustersMemoryToBytes (value : List Char) : Option Number := readMemory clustersUnits value

/-- `ClusterSyncService.parseMemoryToBytes` -/
def syncMemoryToBytes (value : List Char) : Number :=
  (readMemory syncUnits value).getD (.finite 0)

/-! ## The grammar of quantities -/

inductive SiSuffix where
  | nano | micro | milli | one | kilo | mega | giga | tera | peta | exa
  | kibi | mebi | gibi | tebi | pebi | exbi
  deriving DecidableEq

namespace SiSuffix

def text : SiSuffix → List Char
  | nano => ['n']
  | micro => ['u']
  | milli => ['m']
  | one => []
  | kilo => ['k']
  | mega => ['M']
  | giga => ['G']
  | tera => ['T']
  | peta => ['P']
  | exa => ['E']
  | kibi => ['K', 'i']
  | mebi => ['M', 'i']
  | gibi => ['G', 'i']
  | tebi => ['T', 'i']
  | pebi => ['P', 'i']
  | exbi => ['E', 'i']

def factor : SiSuffix → ℚ
  | nano => 1 / 1000000000
  | micro => 1 / 1000000
  | milli => 1 / 1000
  | one => 1
  | kilo => 1000
  | mega => 1000000
  | giga => 1000000000
  | tera => 1000000000000
  | peta => 1000000000000000
  | exa => 1000000000000000000
  | kibi => 1024
  | mebi => 1024 ^ 2
  | gibi => 1024 ^ 3
  | tebi => 1024 ^ 4
  | pebi => 1024 ^ 5
  | exbi => 1024 ^ 6

def isBinary : SiSuffix → Bool
  | kibi | mebi | gibi | tebi | pebi | exbi => true
  | _ => false

end SiSuffix

structure Digits where
  chars : List Char
  digits : ∀ c ∈ chars, isDigit c = true
  nonempty : chars ≠ []

inductive Suffix where
  | si (suffix : SiSuffix)
  | exponent (upper : Bool) (negative : Option Bool) (digits : Digits)

def signText : Option Bool → List Char
  | none => []
  | some false => ['+']
  | some true => ['-']

namespace Suffix

def text : Suffix → List Char
  | si suffix => suffix.text
  | exponent upper negative digits =>
      (if upper then 'E' else 'e') :: (signText negative ++ digits.chars)

def power : Suffix → Int
  | si _ => 0
  | exponent _ negative digits =>
      if negative = some true then -(Foundation.digitsValue digits.chars : Int)
      else Foundation.digitsValue digits.chars

def factor : Suffix → ℚ
  | si suffix => suffix.factor
  | exponent .. => 1

end Suffix

/-- A quantity that is not negative: digits with a point before, between, behind or not at all, and
a suffix. -/
structure Quantity where
  plus : Bool
  whole : List Char
  fraction : Option (List Char)
  suffix : Suffix
  digits : ∀ c ∈ whole ++ fraction.getD [], isDigit c = true
  nonempty : ¬(whole = [] ∧ fraction.getD [] = [])

namespace Quantity

def pointText : Option (List Char) → List Char
  | none => []
  | some fraction => '.' :: fraction

def numberText (q : Quantity) : List Char := q.whole ++ pointText q.fraction

def text (q : Quantity) : List Char :=
  (if q.plus then ['+'] else []) ++ (q.numberText ++ q.suffix.text)

def number (q : Quantity) : ℚ := decimalValue q.whole (q.fraction.getD []) q.suffix.power

def value (q : Quantity) : ℚ := q.number * q.suffix.factor

section Scanning

variable {q : Quantity} {c : Char} {rest : List Char}

def isNumberChar (c : Char) : Bool := isDigit c || c == '.'

theorem isNumberChar_of_mem (hc : c ∈ q.numberText) : isNumberChar c = true := by
  rw [isNumberChar, Bool.or_eq_true]
  rcases List.mem_append.mp hc with h | h
  · exact Or.inl (q.digits c (List.mem_append_left _ h))
  · cases hfraction : q.fraction with
    | none =>
        rw [hfraction] at h
        cases h
    | some fraction =>
        rw [hfraction] at h
        rcases List.mem_cons.mp h with rfl | h
        · exact Or.inr rfl
        · refine Or.inl (q.digits c (List.mem_append_right _ ?_))
          rw [hfraction]
          exact h

theorem isSpace_of_isNumberChar (hc : isNumberChar c = true) : isSpace c = false := by
  rw [isNumberChar, Bool.or_eq_true, beq_iff_eq] at hc
  rcases hc with hc | rfl
  · rw [isDigit, Bool.and_eq_true, decide_eq_true_eq, decide_eq_true_eq] at hc
    have hlow : 48 ≤ c.toNat := hc.1
    have hhigh : c.toNat ≤ 57 := hc.2
    simp only [isSpace, Bool.or_eq_false_iff, Bool.and_eq_false_iff, decide_eq_false_iff_not,
      beq_eq_false_iff_ne]
    omega
  · decide

theorem numberText_ne_nil (q : Quantity) : q.numberText ≠ [] := by
  intro hnil
  obtain ⟨hwhole, hpoint⟩ := List.append_eq_nil_iff.mp hnil
  cases hfraction : q.fraction with
  | none => exact q.nonempty ⟨hwhole, by rw [hfraction]; rfl⟩
  | some fraction =>
      rw [hfraction] at hpoint
      cases hpoint

theorem ne_of_isNumberChar {d : Char} (hc : isNumberChar c = true) (hd : isNumberChar d = false) :
    c ≠ d := by
  rintro rfl
  rw [hc] at hd
  cases hd

theorem exists_numberText_cons (q : Quantity) :
    ∃ c rest, q.numberText = c :: rest ∧ isNumberChar c = true := by
  cases hnumber : q.numberText with
  | nil => exact absurd hnumber q.numberText_ne_nil
  | cons c rest =>
      refine ⟨c, rest, rfl, isNumberChar_of_mem (q := q) ?_⟩
      rw [hnumber]
      exact List.mem_cons_self ..

theorem head?_suffix (suffix : Suffix) :
    ∀ c ∈ suffix.text.head?, isDigit c = false ∧ c ≠ '.' := by
  intro c hc
  cases suffix with
  | si unit =>
      cases unit <;> cases hc <;> decide
  | exponent upper negative digits =>
      cases upper <;> (cases hc; decide)

theorem scanExponent_suffix (suffix : Suffix) : scanExponent suffix.text = suffix.power := by
  cases suffix with
  | si unit => cases unit <;> decide
  | exponent upper negative digits =>
      have hall : digits.chars.takeWhile isDigit = digits.chars :=
        List.takeWhile_eq_self_iff.mpr digits.digits
      have hletter : (if upper = true then 'E' else 'e') = 'e' ∨
          (if upper = true then 'E' else 'e') = 'E' := by
        cases upper with
        | false => exact Or.inl rfl
        | true => exact Or.inr rfl
      rw [Suffix.text, scanExponent, if_pos hletter]
      cases negative with
      | some sign =>
          cases sign <;> simp only [signText, List.cons_append, List.nil_append, scanSign, hall] <;>
            rfl
      | none =>
          have hplus : digits.chars.head? ≠ some '+' := by
            intro h
            exact Bool.false_ne_true (digits.digits '+' (List.mem_of_head? h))
          have hminus : digits.chars.head? ≠ some '-' := by
            intro h
            exact Bool.false_ne_true (digits.digits '-' (List.mem_of_head? h))
          simp only [signText, List.nil_append, scanSign_of_ne hplus hminus, hall]
          rfl

theorem wholeDigits (q : Quantity) : ∀ c ∈ q.whole, isDigit c = true :=
  fun c hc => q.digits c (List.mem_append_left _ hc)

theorem head?_pointText_append (q : Quantity) :
    ∀ c ∈ (pointText q.fraction ++ q.suffix.text).head?, isDigit c = false := by
  intro c hc
  cases hfraction : q.fraction with
  | none =>
      rw [hfraction] at hc
      exact (head?_suffix q.suffix c hc).1
  | some fraction =>
      rw [hfraction] at hc
      cases hc
      decide

theorem scanFraction_pointText (q : Quantity) :
    scanFraction (pointText q.fraction ++ q.suffix.text) =
      (q.fraction.getD [], q.suffix.text) := by
  cases hfraction : q.fraction with
  | none =>
      have hpoint : q.suffix.text.head? ≠ some '.' := fun h => (head?_suffix q.suffix '.' h).2 rfl
      exact scanFraction_of_ne hpoint
  | some fraction =>
      have hdigits : ∀ c ∈ fraction, isDigit c = true := by
        intro c hc
        refine q.digits c (List.mem_append_right _ ?_)
        rw [hfraction]
        exact hc
      have hscan := takeWhile_digits hdigits fun c hc => (head?_suffix q.suffix c hc).1
      rw [pointText, List.cons_append, scanFraction, hscan.1, hscan.2]
      rfl

theorem scanDigits (q : Quantity) :
    (q.numberText ++ q.suffix.text).takeWhile isDigit = q.whole ∧
      (q.numberText ++ q.suffix.text).dropWhile isDigit =
        pointText q.fraction ++ q.suffix.text := by
  rw [numberText, List.append_assoc]
  exact takeWhile_digits q.wholeDigits q.head?_pointText_append

theorem parseFloat_text (q : Quantity) : parseFloat q.text = .ofDecimal false q.number := by
  obtain ⟨c, rest, hnumber, hc⟩ := q.exists_numberText_cons
  have hhead : (q.numberText ++ q.suffix.text).head? = some c := by
    rw [hnumber]
    rfl
  have hplus : (q.numberText ++ q.suffix.text).head? ≠ some '+' := by
    rw [hhead]
    exact fun h => ne_of_isNumberChar hc (by decide) (Option.some.inj h)
  have hminus : (q.numberText ++ q.suffix.text).head? ≠ some '-' := by
    rw [hhead]
    exact fun h => ne_of_isNumberChar hc (by decide) (Option.some.inj h)
  have hsign : scanSign q.text = (false, q.numberText ++ q.suffix.text) := by
    rw [Quantity.text]
    cases q.plus with
    | true => rfl
    | false => exact scanSign_of_ne hplus hminus
  have hspace : q.text.dropWhile isSpace = q.text := by
    have hfirst : ∀ d rest, isSpace d = false → (d :: rest).dropWhile isSpace = d :: rest := by
      intro d rest hd
      rw [List.dropWhile_cons_of_neg]
      rw [hd]
      exact Bool.false_ne_true
    rw [Quantity.text]
    cases q.plus with
    | true => exact hfirst '+' _ (by decide)
    | false =>
        rw [if_neg Bool.false_ne_true, List.nil_append, hnumber, List.cons_append]
        exact hfirst c _ (isSpace_of_isNumberChar hc)
  have hinfinity : "Infinity".toList.isPrefixOf (q.numberText ++ q.suffix.text) = false := by
    have hne : ('I' == c) = false := beq_false_of_ne (ne_of_isNumberChar hc (by decide)).symm
    rw [hnumber, List.cons_append]
    simp [List.isPrefixOf, hne]
  rw [parseFloat, hspace, scanDecimal]
  simp only [hsign, hinfinity, q.scanDigits, scanFraction_pointText, scanExponent_suffix]
  rw [if_neg Bool.false_ne_true, if_neg q.nonempty]
  rfl

end Scanning

end Quantity

end KubeNova.Clusters
