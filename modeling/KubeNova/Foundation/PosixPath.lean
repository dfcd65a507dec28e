import Mathlib.Data.List.Basic
import Mathlib.Data.List.Induction
import Mathlib.Data.List.TakeWhile

/-!
# Paths of a POSIX file system

`resolve`, `relative` and `join` of `node:path`.  An absolute path is the list of its segments, none
of which is a dot segment: its text is resolved to the path itself, and the way from a directory
to a path climbs unless the path is the directory or inside it.
-/

namespace KubeNova.Foundation

abbrev PathSegment := List Char

def dotDot : PathSegment := ['.', '.']

namespace PosixPath

/-- One more segment: empty ones and dots are passed over, two dots go up. -/
def enter (path : List PathSegment) (segment : PathSegment) : List PathSegment :=
  if segment = [] ∨ segment = ['.'] then path
  else if segment = dotDot then path.dropLast
  else path ++ [segment]

def follow (start : List PathSegment) (text : List Char) : List PathSegment :=
  (text.splitOn '/').foldl enter start

def isAbsolute (text : List Char) : Bool := text.head? == some '/'

def write (path : List PathSegment) : List Char :=
  if path = [] then ['/'] else path.flatMap ('/' :: ·)

def way : List PathSegment → List PathSegment → List PathSegment
  | s :: start, t :: goal =>
      if s = t then way start goal else List.replicate (start.length + 1) dotDot ++ t :: goal
  | start, goal => List.replicate start.length dotDot ++ goal

/-- A path leads out of the directory it is relative to: `path === '..'`, `path.startsWith('../')`
or `isAbsolute(path)`. -/
def climbs (path : List Char) : Bool :=
  path == dotDot || (dotDot ++ ['/']).isPrefixOf path || isAbsolute path

structure Names (segment : PathSegment) : Prop where
  nonempty : segment ≠ []
  notDot : segment ≠ ['.']
  notDotDot : segment ≠ dotDot
  noSlash : '/' ∉ segment

section Segments

variable {path start goal : List PathSegment} {segment : PathSegment}

theorem enter_of_names (h : Names segment) : enter path segment = path ++ [segment] := by
  rw [enter, if_neg (not_or.mpr ⟨h.nonempty, h.notDot⟩), if_neg h.notDotDot]

theorem names_enter (hpath : ∀ s ∈ path, Names s) (hslash : '/' ∉ segment) :
    ∀ s ∈ enter path segment, Names s := by
  rw [enter]
  split
  · exact hpath
  · rename_i hblank
    split
    · exact fun s hs => hpath s (List.dropLast_subset path hs)
    · rename_i hup
      have hsegment : Names segment :=
        ⟨fun h => hblank (.inl h), fun h => hblank (.inr h), hup, hslash⟩
      exact List.forall_mem_append.mpr ⟨hpath, List.forall_mem_singleton.mpr hsegment⟩

theorem names_foldl {segments : List PathSegment} (hpath : ∀ s ∈ path, Names s)
    (hslash : ∀ s ∈ segments, '/' ∉ s) : ∀ s ∈ segments.foldl enter path, Names s := by
  induction segments generalizing path with
  | nil => exact hpath
  | cons segment segments ih =>
      rw [List.forall_mem_cons] at hslash
      exact ih (names_enter hpath hslash.1) hslash.2

theorem notMem_of_mem_splitOn {text : List Char} : ∀ s ∈ text.splitOn '/', '/' ∉ s := by
  induction text with
  | nil =>
      intro s hs
      rw [List.splitOn_nil, List.mem_singleton] at hs
      rw [hs]
      exact List.not_mem_nil
  | cons c text ih =>
      intro s hs
      rw [List.splitOn_cons_eq_if_modifyHead] at hs
      by_cases hc : (c == '/') = true
      · rw [if_pos hc] at hs
        rcases List.mem_cons.mp hs with rfl | hs
        · exact List.not_mem_nil
        · exact ih s hs
      · rw [if_neg hc] at hs
        have hne : '/' ≠ c := fun h => hc (beq_iff_eq.mpr h.symm)
        cases hsplit : text.splitOn '/' with
        | nil => exact absurd hsplit (List.splitOn_ne_nil _ _)
        | cons first rest =>
            rw [hsplit, List.modifyHead_cons] at hs
            rcases List.mem_cons.mp hs with rfl | hs
            · have hfirst := ih first (by rw [hsplit]; exact List.mem_cons_self)
              intro hmem
              rcases List.mem_cons.mp hmem with heq | hmem
              · exact hne heq
              · exact hfirst hmem
            · exact ih s (by rw [hsplit]; exact List.mem_cons_of_mem _ hs)

theorem names_follow (hstart : ∀ s ∈ start, Names s) (text : List Char) :
    ∀ s ∈ follow start text, Names s :=
  names_foldl hstart notMem_of_mem_splitOn

theorem follow_nil : follow start [] = start := by
  rw [follow, List.splitOn_nil, List.foldl_cons, List.foldl_nil, enter, if_pos (.inl rfl)]

theorem follow_append_slash (text more : List Char) :
    follow start (text ++ '/' :: more) = follow (follow start text) more := by
  rw [follow, List.splitOn_append_cons_self, List.foldl_append]
  rfl

theorem follow_of_names (h : Names segment) : follow start segment = start ++ [segment] := by
  rw [follow, List.splitOn_eq_singleton h.noSlash, List.foldl_cons, List.foldl_nil,
    enter_of_names h]

theorem follow_flatMap (h : ∀ s ∈ path, Names s) :
    follow start (path.flatMap ('/' :: ·)) = start ++ path := by
  induction path using List.reverseRecOn with
  | nil => rw [List.flatMap_nil, follow_nil, List.append_nil]
  | append_singleton front last ih =>
      rw [List.forall_mem_append, List.forall_mem_singleton] at h
      rw [List.flatMap_append, List.flatMap_singleton, follow_append_slash, ih h.1,
        follow_of_names h.2, List.append_assoc]

theorem follow_write (h : ∀ s ∈ path, Names s) : follow [] (write path) = path := by
  rw [write]
  split
  · rename_i hnil
    rw [hnil]
    exact (follow_append_slash [] []).trans (by rw [follow_nil, follow_nil])
  · rw [follow_flatMap h, List.nil_append]

theorem isAbsolute_write : isAbsolute (write path) = true := by
  cases path with
  | nil => rfl
  | cons s path => rfl

theorem way_append (rest : List PathSegment) : way path (path ++ rest) = rest := by
  induction path with
  | nil => cases rest <;> rfl
  | cons s path ih => rw [List.cons_append, way, if_pos rfl, ih]

theorem head?_way (h : ¬start <+: goal) : (way start goal).head? = some dotDot := by
  induction start generalizing goal with
  | nil => exact absurd List.nil_prefix h
  | cons s start ih =>
      cases goal with
      | nil => rfl
      | cons t goal =>
          rw [way]
          split
          · rename_i hst
            rw [hst, List.prefix_cons_inj] at h
            exact ih h
          · rfl

theorem takeWhile_intercalate (h : '/' ∉ segment) :
    (['/'].intercalate (segment :: path)).takeWhile (· ≠ '/') = segment := by
  have hall : ∀ c ∈ segment, decide (c ≠ '/') = true := by
    intro c hc
    exact decide_eq_true fun heq => h (heq ▸ hc)
  have hself : segment.takeWhile (· ≠ '/') = segment := List.takeWhile_eq_self_iff.mpr hall
  cases path with
  | nil => rw [List.intercalate_singleton, hself]
  | cons t path =>
      rw [List.intercalate_cons_cons, List.append_assoc, List.takeWhile_append_of_pos hall]
      exact List.append_nil segment

theorem not_climbs_intercalate (h : ∀ s ∈ path, Names s) :
    climbs (['/'].intercalate path) = false := by
  cases path with
  | nil => rfl
  | cons segment path =>
      have hnames := h segment List.mem_cons_self
      have hfirst := @takeWhile_intercalate path _ hnames.noSlash
      generalize ['/'].intercalate (segment :: path) = text at hfirst
      rw [climbs, Bool.or_eq_false_iff, Bool.or_eq_false_iff]
      refine ⟨⟨?_, ?_⟩, ?_⟩
      · rw [beq_eq_false_iff_ne]
        intro hup
        rw [hup] at hfirst
        exact hnames.notDotDot hfirst.symm
      · rw [Bool.eq_false_iff]
        intro hup
        obtain ⟨rest, hrest⟩ := List.isPrefixOf_iff_prefix.mp hup
        rw [← hrest] at hfirst
        exact hnames.notDotDot hfirst.symm
      · rw [isAbsolute, beq_eq_false_iff_ne]
        intro hhead
        cases text with
        | nil => cases hhead
        | cons c text =>
            rw [List.head?_cons, Option.some.injEq] at hhead
            rw [hhead] at hfirst
            exact hnames.nonempty hfirst.symm

theorem climbs_intercalate (h : path.head? = some dotDot) :
    climbs (['/'].intercalate path) = true := by
  cases path with
  | nil => cases h
  | cons segment path =>
      rw [List.head?_cons, Option.some.injEq] at h
      rw [h]
      cases path with
      | nil => rfl
      | cons t path => rw [List.intercalate_cons_cons]; rfl

end Segments

end PosixPath

open PosixPath

/-! ## Absolute paths -/

structure AbsolutePath where
  segments : List PathSegment
  names : ∀ s ∈ segments, Names s

namespace AbsolutePath

def text (path : AbsolutePath) : List Char := write path.segments

def child (path : AbsolutePath) (name : PathSegment) (h : Names name) : AbsolutePath :=
  ⟨path.segments ++ [name], List.forall_mem_append.mpr ⟨path.names, List.forall_mem_singleton.mpr h⟩⟩

def locate (cwd : AbsolutePath) (text : List Char) : AbsolutePath :=
  if isAbsolute text then ⟨follow [] text, names_follow (by simp) text⟩
  else ⟨follow cwd.segments text, names_follow cwd.names text⟩

def resolve (cwd : AbsolutePath) (text : List Char) : List Char := (cwd.locate text).text

def relative (cwd : AbsolutePath) (start goal : List Char) : List Char :=
  ['/'].intercalate (way (cwd.locate start).segments (cwd.locate goal).segments)

/-- `join(directory, name)` of an absolute directory and a name without a slash at its end. -/
def join (directory name : List Char) : List Char := write (follow [] (directory ++ '/' :: name))

def Within (directory path : AbsolutePath) : Prop := directory.segments <+: path.segments

def Inside (directory path : AbsolutePath) : Prop := directory.Within path ∧ path ≠ directory

variable {cwd path directory : AbsolutePath}

theorem ext_segments {other : AbsolutePath} (h : path.segments = other.segments) : path = other := by
  cases path
  cases other
  congr

theorem locate_text : cwd.locate path.text = path := by
  have habsolute : isAbsolute path.text = true := isAbsolute_write
  rw [locate, if_pos habsolute]
  exact ext_segments (follow_write path.names)

theorem text_injective : Function.Injective text := by
  intro path other h
  have hpath : path.locate path.text = path := locate_text
  rw [← hpath, h, locate_text]

theorem join_text {name : PathSegment} (h : Names name) :
    join directory.text name = (directory.child name h).text := by
  rw [join, follow_append_slash, text, follow_write directory.names, follow_of_names h]
  rfl

theorem climbs_relative_iff (start goal : List Char) :
    climbs (cwd.relative start goal) = false ↔ (cwd.locate start).Within (cwd.locate goal) := by
  constructor
  · intro h
    by_contra hout
    rw [relative, climbs_intercalate (head?_way hout)] at h
    cases h
  · rintro ⟨rest, hrest⟩
    rw [relative, ← hrest, way_append]
    apply not_climbs_intercalate
    intro s hs
    apply (cwd.locate goal).names
    rw [← hrest]
    exact List.mem_append_right _ hs

theorem inside_child {name : PathSegment} (h : Names name) :
    directory.Inside (directory.child name h) := by
  refine ⟨List.prefix_append _ _, fun heq => ?_⟩
  have hlength := congrArg (fun path => path.segments.length) heq
  simp only [child, List.length_append, List.length_singleton] at hlength
  omega

end AbsolutePath

end KubeNova.Foundation
