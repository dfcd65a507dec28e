import Mathlib.Algebra.Order.Ring.Int
import Mathlib.Data.List.Basic
import Mathlib.Data.List.TakeWhile

/-!
# JavaScript string and number helpers

`trim`, `length` and the integer test of the language the program is written
in, on Lean strings.
-/

namespace KubeNova.Foundation.Text

/-- The characters `String.prototype.trim` strips: white space and line ends. -/
def isSpace (c : Char) : Bool :=
  let n := c.toNat
  (9 ≤ n && n ≤ 13) || n == 0x20 || n == 0xA0 || n == 0x1680 || (0x2000 ≤ n && n ≤ 0x200A) ||
    n == 0x2028 || n == 0x2029 || n == 0x202F || n == 0x205F || n == 0x3000 || n == 0xFEFF

def trimChars (cs : List Char) : List Char :=
  ((cs.dropWhile isSpace).reverse.dropWhile isSpace).reverse

def trim (s : String) : String := String.ofList (trimChars s.toList)

/-- `String.prototype.length`: UTF-16 code units. -/
def length (s : String) : Nat :=
  (s.toList.map fun c => if c.toNat < 0x10000 then 1 else 2).sum

def isDigit (c : Char) : Bool := '0' ≤ c && c ≤ '9'

def isLowerHex (c : Char) : Bool := isDigit c || ('a' ≤ c && c ≤ 'f')

def isHex (c : Char) : Bool := isLowerHex c || ('A' ≤ c && c ≤ 'F')

/-- ASCII lower case, which is all the program's comparisons rely on. -/
def toLower (s : String) : String := String.ofList (s.toList.map Char.toLower)

/-- `Number.isSafeInteger` on a non-negative integer. -/
def isSafeInteger (n : Nat) : Bool := n < 2 ^ 53

/-- `String.prototype.split` with a one-character separator. -/
def split (c : Char) (s : String) : List String := (s.toList.splitOn c).map String.ofList

def startsWith (pre s : String) : Bool := pre.toList.isPrefixOf s.toList

def endsWith (suffix s : String) : Bool := suffix.toList.isSuffixOf s.toList

/-- The characters of `value.slice(0, n)`, counted in UTF-16 code units. -/
def takeUnits : Nat → List Char → List Char
  | _, [] => []
  | n, c :: cs =>
      let units := if c.toNat < 0x10000 then 1 else 2
      if units ≤ n then c :: takeUnits (n - units) cs else []

def contains (sub s : String) : Bool := s.toList.tails.any fun t => sub.toList.isPrefixOf t

theorem trim_ne_empty {s : String} {c : Char} (hc : c ∈ s.toList) (hspace : isSpace c = false) :
    trim s ≠ "" := by
  intro hblank
  have htrimmed : ((s.toList.dropWhile isSpace).reverse.dropWhile isSpace) = [] := by
    have hlist := congrArg String.toList hblank
    simpa [trim, trimChars] using hlist
  have hrest : ∀ x ∈ s.toList.dropWhile isSpace, isSpace x = true := by
    intro x hx
    exact List.dropWhile_eq_nil_iff.mp htrimmed x (List.mem_reverse.mpr hx)
  have hnil : s.toList.dropWhile isSpace = [] := by
    cases hdrop : s.toList.dropWhile isSpace with
    | nil => rfl
    | cons x xs =>
        have hhead := List.head?_dropWhile_not isSpace s.toList
        rw [hdrop, List.head?_cons] at hhead
        have hspace' : isSpace x = false := hhead
        rw [hrest x (by simp [hdrop])] at hspace'
        cases hspace'
  have hall := List.dropWhile_eq_nil_iff.mp hnil c hc
  rw [hspace] at hall
  cases hall

end KubeNova.Foundation.Text
