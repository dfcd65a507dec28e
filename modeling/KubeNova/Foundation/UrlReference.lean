import KubeNova.Foundation.Trimming
import KubeNova.Foundation.UrlPath

/-!
# References against a base URL

How the URL parser resolves a reference against a base with the `https` scheme, as far as the
origin of the outcome goes: what is stripped and removed first, the relative states, and the
authority with its host and port.  The host parser is a parameter, and so is what happens to a text
that names a scheme of its own.
-/

namespace KubeNova.Foundation.UrlReference

open KubeNova.Foundation.UrlPath (isSlash)

/-- The host and the port of an `https` origin; the default port is no port. -/
structure Origin where
  host : String
  port : Option Nat
  deriving Repr, DecidableEq

structure Parser where
  host : List Char → Option String
  withScheme : Origin → List Char → Option Origin
  localhost : host "localhost".toList = some "localhost"

/-- The origin of a parsed `https` URL. -/
structure Base (parser : Parser) extends Origin where
  parsed : ∃ text, parser.host text = some host
  inRange : ∀ n ∈ port, n ≤ 65535 ∧ n ≠ 443

def isControlOrSpace (c : Char) : Bool := c.toNat ≤ 0x20

def isTabOrNewline (c : Char) : Bool := c == '\t' || c == '\n' || c == '\r'

/-- What the parser reads: controls and blanks at the ends are stripped, tabs and line ends are
removed everywhere. -/
def preprocess (input : List Char) : List Char :=
  (trimBoth isControlOrSpace input).filter fun c => !isTabOrNewline c

/-- The scheme start and scheme states reach a colon. -/
def hasScheme : List Char → Bool
  | [] => false
  | c :: rest => c.isAlpha &&
      ((rest.dropWhile fun c => c.isAlphanum || c == '+' || c == '-' || c == '.').head? == some ':')

/-- The host state: the host's text, and the port's behind a colon outside of brackets. -/
def hostAndPort (inBrackets : Bool) : List Char → List Char × Option (List Char)
  | [] => ([], none)
  | c :: rest =>
      if c = ':' ∧ inBrackets = false then ([], some rest)
      else
        let tail := hostAndPort (if c = '[' then true else if c = ']' then false else inBrackets) rest
        (c :: tail.1, tail.2)

def readPort (digits : List Char) : Option (Option Nat) :=
  if digits.all Text.isDigit = false then none
  else if digits = [] then some none
  else
    let n := digits.foldl (fun n c => 10 * n + (c.toNat - 48)) 0
    if 65535 < n then none else some (if n = 443 then none else some n)

def authority (parser : Parser) (text : List Char) : Option Origin :=
  let named := text.takeWhile fun c => !(isSlash c || c == '?' || c == '#')
  let parts := hostAndPort false (named.reverse.takeWhile (· ≠ '@')).reverse
  if parts.1 = [] then none
  else do
    let host ← parser.host parts.1
    let port ← (parts.2.map readPort).getD (some none)
    return ⟨host, port⟩

def relativeSlash (parser : Parser) (base : Origin) : List Char → Option Origin
  | [] => some base
  | c :: rest =>
      if isSlash c then authority parser (rest.dropWhile isSlash) else some base

def relative (parser : Parser) (base : Origin) : List Char → Option Origin
  | [] => some base
  | c :: rest => if isSlash c then relativeSlash parser base rest else some base

/-- The origin of `new URL(input, base)`, nothing where it throws. -/
def resolve (parser : Parser) (base : Base parser) (input : List Char) : Option Origin :=
  let text := preprocess input
  if hasScheme text then parser.withScheme base.toOrigin text
  else relative parser base.toOrigin text

def opensAuthority (rest : List Char) : Bool :=
  (rest.find? fun c => !isTabOrNewline c).any isSlash

section Resolving

variable {parser : Parser} {rest : List Char}

def Base.withPort (base : Base parser) (n : Nat) (hn : n ≤ 65535 ∧ n ≠ 443) : Base parser where
  host := base.host
  port := some n
  parsed := base.parsed
  inRange := by
    intro m hm
    cases hm
    exact hn

def Base.localhost (parser : Parser) : Base parser where
  host := "localhost"
  port := none
  parsed := ⟨"localhost".toList, parser.localhost⟩
  inRange := by
    intro m hm
    cases hm

theorem exists_base_ne (parser : Parser) (origin : Option Origin) :
    ∃ base : Base parser, origin ≠ some base.toOrigin := by
  have hfirst : 1 ≤ 65535 ∧ 1 ≠ 443 := by omega
  have hsecond : 2 ≤ 65535 ∧ 2 ≠ 443 := by omega
  by_cases h : origin = some ((Base.localhost parser).withPort 1 hfirst).toOrigin
  · refine ⟨(Base.localhost parser).withPort 2 hsecond, ?_⟩
    intro h'
    have hports := (Option.some.inj (h.symm.trans h')).symm
    have hport := congrArg Origin.port hports
    cases hport
  · exact ⟨(Base.localhost parser).withPort 1 hfirst, h⟩

theorem trimBoth_slash (rest : List Char) :
    ∃ kept post, (∀ c ∈ post, isControlOrSpace c = true) ∧ rest = kept ++ post ∧
      trimBoth isControlOrSpace ('/' :: rest) = '/' :: kept := by
  have hslash : isControlOrSpace '/' = false := by decide
  have hfront : ('/' :: rest).dropWhile isControlOrSpace = '/' :: rest := by
    rw [List.dropWhile_cons_of_neg]
    rw [hslash]
    exact Bool.false_ne_true
  have hback : (rest.reverse ++ ['/']).dropWhile isControlOrSpace =
      rest.reverse.dropWhile isControlOrSpace ++ ['/'] := dropWhile_append_cons hslash
  refine ⟨(rest.reverse.dropWhile isControlOrSpace).reverse,
    (rest.reverse.takeWhile isControlOrSpace).reverse, ?_, ?_, ?_⟩
  · intro c hc
    exact all_of_mem_takeWhile (List.mem_reverse.mp hc)
  · rw [← List.reverse_append, List.takeWhile_append_dropWhile, List.reverse_reverse]
  · rw [trimBoth, hfront, List.reverse_cons, hback, List.reverse_append]
    rfl

theorem find?_stripped {post : List Char} (hpost : ∀ c ∈ post, isControlOrSpace c = true) :
    (post.find? fun c => !isTabOrNewline c).any isSlash = false := by
  cases hfind : post.find? fun c => !isTabOrNewline c with
  | none => rfl
  | some c =>
      have hcontrol := hpost c (List.mem_of_find?_eq_some hfind)
      have hno : isSlash c = false := by
        rw [isControlOrSpace, decide_eq_true_eq] at hcontrol
        rw [isSlash, Bool.or_eq_false_iff, beq_eq_false_iff_ne, beq_eq_false_iff_ne]
        constructor
        · rintro rfl
          revert hcontrol
          decide
        · rintro rfl
          revert hcontrol
          decide
      exact hno

theorem preprocess_slash (rest : List Char) :
    ∃ seen, preprocess ('/' :: rest) = '/' :: seen ∧
      seen.head?.any isSlash = opensAuthority rest := by
  obtain ⟨kept, post, hpost, hrest, htrim⟩ := trimBoth_slash rest
  refine ⟨kept.filter fun c => !isTabOrNewline c, ?_, ?_⟩
  · rw [preprocess, htrim, List.filter_cons_of_pos (by decide)]
  · rw [List.head?_filter, opensAuthority, hrest, List.find?_append]
    cases hfind : kept.find? fun c => !isTabOrNewline c with
    | some c => rfl
    | none =>
        rw [Option.none_or, find?_stripped hpost]
        rfl

theorem hasScheme_slash (text : List Char) : hasScheme ('/' :: text) = false := rfl

theorem resolve_slash (parser : Parser) (rest : List Char) :
    ∃ seen, seen.head?.any isSlash = opensAuthority rest ∧ ∀ base : Base parser,
      resolve parser base ('/' :: rest) = relativeSlash parser base.toOrigin seen := by
  obtain ⟨seen, hseen, hauthority⟩ := preprocess_slash rest
  refine ⟨seen, hauthority, ?_⟩
  intro base
  simp only [resolve, hseen, hasScheme_slash]
  rfl

/-- A reference with an opening slash stays at the origin of every base, unless what the parser
sees of it opens an authority. -/
theorem resolve_slash_iff (parser : Parser) (rest : List Char) :
    (∀ base : Base parser, resolve parser base ('/' :: rest) = some base.toOrigin) ↔
      opensAuthority rest = false := by
  obtain ⟨seen, hauthority, hresolve⟩ := resolve_slash parser rest
  rw [← hauthority]
  cases seen with
  | nil =>
      refine ⟨fun _ => rfl, ?_⟩
      intro _ base
      rw [hresolve base]
      rfl
  | cons c seen =>
      rw [List.head?_cons, Option.any_some]
      cases hslash : isSlash c with
      | false =>
          refine ⟨fun _ => rfl, ?_⟩
          intro _ base
          rw [hresolve base, relativeSlash, hslash]
          rfl
      | true =>
          refine ⟨?_, fun h => absurd h.symm Bool.false_ne_true⟩
          intro hall
          -- the authority does not depend on the base
          obtain ⟨base, hbase⟩ := exists_base_ne parser (authority parser (seen.dropWhile isSlash))
          have hsame := hall base
          rw [hresolve base, relativeSlash, hslash, if_pos rfl] at hsame
          exact absurd hsame hbase

theorem resolve_nil (parser : Parser) (base : Base parser) :
    resolve parser base [] = some base.toOrigin := rfl

end Resolving

end KubeNova.Foundation.UrlReference
