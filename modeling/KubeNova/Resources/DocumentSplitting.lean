import Mathlib.Data.List.Forall2
import KubeNova.Foundation.Trimming
import KubeNova.Resources.YamlDocuments

/-!
# Documents joined and split again

Documents put together with marker lines come back from `splitYamlDocuments` exactly when no line
of theirs looks like a marker to it and trimming takes nothing but blank lines away.
-/

namespace KubeNova.Resources

open KubeNova.Foundation

/-! ## Documents -/

def isBlankLine (line : Line) : Bool := line.all fun c => c == ' ' || c == '\t'

/-- A marker at column 0: `---` or `...`, and then nothing or white space. -/
def isDocumentMarker (line : Line) : Bool :=
  ["---".toList, "...".toList].any fun marker => marker.isPrefixOf line &&
    (line.drop 3).head?.all fun c => c == ' ' || c == '\t'

/-- A line `---`, with a comment or without. -/
def isSeparator (line : Line) : Bool :=
  "---".toList.isPrefixOf line &&
    ((line.drop 3).head?.all fun c => c == ' ' || c == '\t') &&
    (((line.drop 3).dropWhile fun c => c == ' ' || c == '\t').head?.all fun c => c == '#')

def isBlankDocument (doc : List Line) : Bool := doc.all isBlankLine

def trailingBlankLines (doc : List Line) : List Line := doc.reverse.takeWhile isBlankLine

def joinedLines (first : List Line) (rest : List (Line × List Line)) : List Line :=
  first ++ rest.flatMap fun next => next.1 :: next.2

/-- The text of some documents: lines end in line feeds, or in carriage returns and line feeds,
and the last line too or not. -/
def joinDocuments (carriageReturns closed : Bool) (first : List Line)
    (rest : List (Line × List Line)) : String :=
  String.ofList ((if carriageReturns then ['\r', '\n'] else ['\n']).intercalate
    (joinedLines first rest ++ if closed then [[]] else []))

/-- A piece that is a document, but for blank lines around it; where the blank lines at its end
count, they are there. -/
structure GivenBack (keeps : List Line → Prop) (doc : List Line) (piece : String) : Prop where
  lines : trimBoth isBlankLine (splitLines piece.toList) = trimBoth isBlankLine doc
  kept : keeps doc → trailingBlankLines (splitLines piece.toList) = trailingBlankLines doc

def GivesBack (keeps : List Line → Prop) (docs : List (List Line)) (pieces : List String) : Prop :=
  List.Forall₂ (GivenBack keeps) (docs.filter fun doc => !isBlankDocument doc) pieces

/-- A line `splitYamlDocuments` takes for a marker. -/
def isMarkerLine (line : Line) : Bool := isMarked "---".toList line || isMarked "...".toList line

structure Splittable (keeps : List Line → Prop) (doc : List Line) : Prop where
  unmarked : ∀ line ∈ doc, isMarkerLine line = false
  flush : trimBoth Text.isSpace (joinLines (trimBoth isBlankLine doc)) =
    joinLines (trimBoth isBlankLine doc)
  kept : isBlankDocument doc = false → keeps doc → trailingBlankLines doc = []

def pieceOf (lines : List Line) : Option String :=
  if trimBoth Text.isSpace (joinLines lines) = [] then none
  else some (String.ofList (trimBoth Text.isSpace (joinLines lines)))

theorem pushDocument_eq (docs : List String) (lines : List Line) :
    pushDocument docs lines = docs ++ (pieceOf lines).toList := by
  simp only [pushDocument, pieceOf]
  have htrim : Text.trimChars (joinLines lines) = trimBoth Text.isSpace (joinLines lines) := rfl
  rw [htrim]
  by_cases hnil : trimBoth Text.isSpace (joinLines lines) = []
  · rw [if_pos hnil, hnil, if_neg (not_not_intro rfl)]
    simp
  · have hne : String.ofList (trimBoth Text.isSpace (joinLines lines)) ≠ "" := by
      intro hempty
      apply hnil
      have hlist := congrArg String.toList hempty
      rw [String.toList_ofList] at hlist
      exact hlist
    rw [if_neg hnil, if_pos hne]
    rfl

theorem splitFrom_eq (docs : List String) (current lines : List Line) :
    splitFrom docs current lines =
      docs ++ ((lines.splitOnP isMarkerLine).modifyHead (current ++ ·)).filterMap pieceOf := by
  induction lines generalizing docs current with
  | nil =>
      show pushDocument docs current = _
      rw [pushDocument_eq, List.splitOnP_nil]
      simp only [List.modifyHead_cons, List.append_nil]
      cases hpiece : pieceOf current <;> simp [hpiece]
  | cons line lines ih =>
      have hstep : splitFrom docs current (line :: lines) =
          splitFrom (splitStep (docs, current) line).1 (splitStep (docs, current) line).2 lines := rfl
      rw [hstep, List.splitOnP_cons_eq_if_modifyHead]
      by_cases hmarker : isMarkerLine line = true
      · have hpush : splitStep (docs, current) line = (pushDocument docs current, []) := by
          rw [isMarkerLine, Bool.or_eq_true] at hmarker
          rw [splitStep]
          by_cases hdashes : isMarked "---".toList line = true
          · rw [if_pos hdashes]
          · rw [if_neg hdashes, if_pos (hmarker.resolve_left hdashes)]
        rw [hpush, ih, pushDocument_eq, if_pos hmarker]
        have hhead : (List.splitOnP isMarkerLine lines).modifyHead (([] : List Line) ++ ·) =
            List.splitOnP isMarkerLine lines := by
          cases List.splitOnP isMarkerLine lines <;> rfl
        rw [hhead, List.modifyHead_cons, List.append_nil, List.append_assoc]
        cases hpiece : pieceOf current <;> simp [hpiece]
      · have happend : splitStep (docs, current) line = (docs, current ++ [line]) := by
          rw [isMarkerLine, Bool.or_eq_true, not_or] at hmarker
          rw [splitStep, if_neg hmarker.1, if_neg hmarker.2]
        rw [happend, ih, if_neg hmarker, List.modifyHead_modifyHead]
        congr 3
        funext rest
        simp

theorem flatten_splitOnP (lines : List Line) :
    (lines.splitOnP isMarkerLine).flatten = lines.filter fun line => !isMarkerLine line := by
  induction lines with
  | nil => rfl
  | cons line lines ih =>
      rw [List.splitOnP_cons_eq_if_modifyHead, List.filter_cons]
      by_cases hmarker : isMarkerLine line = true
      · rw [if_pos hmarker, List.flatten_cons, List.nil_append, ih, hmarker]
        rfl
      · have hne := List.splitOnP_ne_nil isMarkerLine lines
        cases hsplit : List.splitOnP isMarkerLine lines with
        | nil => exact absurd hsplit hne
        | cons head tail =>
            rw [hsplit] at ih
            rw [if_neg hmarker, List.modifyHead_cons, List.flatten_cons, List.cons_append,
              ← List.flatten_cons, ih, Bool.eq_false_iff.mpr hmarker]
            rfl

/-! ## Lines of a text -/

def IsLine (line : Line) : Prop := '\n' ∉ line ∧ '\r' ∉ line

theorem dropCarriageReturn_of_isLine {line : Line} (hline : '\r' ∉ line) :
    dropCarriageReturn line = line := by
  rw [dropCarriageReturn, if_neg]
  intro hlast
  exact hline (List.mem_of_getLast? hlast)

theorem dropCarriageReturns_of_isLine {lines : List Line} (hlines : ∀ line ∈ lines, '\r' ∉ line) :
    dropCarriageReturns lines = lines := by
  induction lines with
  | nil => rfl
  | cons line lines ih =>
      have hrest := ih fun other hother => hlines other (List.mem_cons_of_mem _ hother)
      cases lines with
      | nil => rfl
      | cons next lines =>
          rw [dropCarriageReturns, hrest,
            dropCarriageReturn_of_isLine (hlines line List.mem_cons_self)]

theorem joinLines_cons {line : Line} {lines : List Line} (hne : lines ≠ []) :
    joinLines (line :: lines) = line ++ '\n' :: joinLines lines := by
  cases lines with
  | nil => exact absurd rfl hne
  | cons next lines =>
      rw [joinLines, List.intercalate_cons_cons]
      simp [joinLines]

/-- A line stands in its text, at the beginning or after a line feed, and at the end or before
one. -/
theorem joinLines_around {line : Line} {lines : List Line} (hline : line ∈ lines) :
    ∃ a b, joinLines lines = a ++ (line ++ b) ∧ (a = [] ∨ ∃ a', a = a' ++ ['\n']) ∧
      (b = [] ∨ ∃ b', b = '\n' :: b') := by
  induction lines with
  | nil => cases hline
  | cons head lines ih =>
      by_cases hnil : lines = []
      · subst hnil
        have heq : line = head := List.mem_singleton.mp hline
        subst heq
        refine ⟨[], [], ?_, Or.inl rfl, Or.inl rfl⟩
        rw [joinLines, List.intercalate_singleton]
        simp
      · rw [joinLines_cons hnil]
        rcases List.mem_cons.mp hline with rfl | htail
        · exact ⟨[], '\n' :: joinLines lines, rfl, Or.inl rfl, Or.inr ⟨_, rfl⟩⟩
        · obtain ⟨a, b, hjoin, ha, hb⟩ := ih htail
          refine ⟨head ++ '\n' :: a, b, ?_, Or.inr ?_, hb⟩
          · rw [hjoin]
            simp
          · rcases ha with rfl | ⟨a', rfl⟩
            · exact ⟨head, rfl⟩
            · exact ⟨head ++ '\n' :: a', by simp⟩

theorem mem_joinLines {c : Char} {lines : List Line} (hc : c ∈ joinLines lines) :
    c = '\n' ∨ ∃ line ∈ lines, c ∈ line := by
  induction lines with
  | nil => cases hc
  | cons head lines ih =>
      by_cases hnil : lines = []
      · subst hnil
        rw [joinLines, List.intercalate_singleton] at hc
        exact Or.inr ⟨head, List.mem_cons_self, hc⟩
      · rw [joinLines_cons hnil] at hc
        rcases List.mem_append.mp hc with hhead | hc
        · exact Or.inr ⟨head, List.mem_cons_self, hhead⟩
        rcases List.mem_cons.mp hc with hfeed | hc
        · exact Or.inl hfeed
        rcases ih hc with hfeed | ⟨line, hline, hmem⟩
        · exact Or.inl hfeed
        · exact Or.inr ⟨line, List.mem_cons_of_mem _ hline, hmem⟩

theorem return_notMem_joinLines {lines : List Line} (hlines : ∀ line ∈ lines, IsLine line) :
    '\r' ∉ joinLines lines := by
  intro hreturn
  rcases mem_joinLines hreturn with hfeed | ⟨line, hline, hmem⟩
  · exact absurd hfeed (by decide)
  · exact (hlines line hline).2 hmem

theorem splitLines_eq_splitOn {text : List Char} (htext : '\r' ∉ text) :
    splitLines text = text.splitOn '\n' := by
  rw [splitLines]
  apply dropCarriageReturns_of_isLine
  intro line hline hreturn
  apply htext
  obtain ⟨a, b, hjoin, -, -⟩ := joinLines_around hline
  have htext : joinLines (text.splitOn '\n') = text := List.intercalate_splitOn '\n'
  rw [← htext, hjoin]
  exact List.mem_append_right _ (List.mem_append_left _ hreturn)

theorem splitLines_intercalate {lines : List Line} (carriageReturns : Bool) (hne : lines ≠ [])
    (hlines : ∀ line ∈ lines, IsLine line) :
    splitLines ((if carriageReturns then ['\r', '\n'] else ['\n']).intercalate lines) = lines := by
  cases carriageReturns with
  | false =>
      rw [if_neg Bool.false_ne_true, splitLines,
        List.splitOn_intercalate '\n' (fun line hline => (hlines line hline).1) hne]
      exact dropCarriageReturns_of_isLine fun line hline => (hlines line hline).2
  | true =>
      rw [if_pos rfl]
      induction lines with
      | nil => exact absurd rfl hne
      | cons line lines ih =>
          have hline := hlines line List.mem_cons_self
          cases lines with
          | nil =>
              rw [List.intercalate_singleton, splitLines, List.splitOn_eq_singleton hline.1]
              rfl
          | cons next lines =>
              have hrest := ih (List.cons_ne_nil _ _) fun other hother =>
                hlines other (List.mem_cons_of_mem _ hother)
              have hfeed : '\n' ∉ line ++ ['\r'] := by
                rw [List.mem_append, not_or]
                exact ⟨hline.1, by decide⟩
              have htext : ['\r', '\n'].intercalate (line :: next :: lines) =
                  (line ++ ['\r']) ++ '\n' :: ['\r', '\n'].intercalate (next :: lines) := by
                rw [List.intercalate_cons_cons]
                simp
              rw [htext, splitLines, List.splitOn_append_cons_self_of_not_mem hfeed]
              cases hsplit : List.splitOn '\n' (['\r', '\n'].intercalate (next :: lines)) with
              | nil => exact absurd hsplit (List.splitOn_ne_nil _ _)
              | cons head tail =>
                  rw [splitLines, hsplit] at hrest
                  rw [dropCarriageReturns, hrest, dropCarriageReturn,
                    if_pos (List.getLast?_concat), List.dropLast_concat]

def ink (text : List Char) : Nat := text.countP fun c => !Text.isSpace c

def inkOf (lines : List Line) : Nat := (lines.map ink).sum

theorem inkOf_cons (line : Line) (lines : List Line) :
    inkOf (line :: lines) = ink line + inkOf lines := rfl

theorem inkOf_append (lines lines' : List Line) :
    inkOf (lines ++ lines') = inkOf lines + inkOf lines' := by
  rw [inkOf, List.map_append, List.sum_append]
  rfl

theorem ink_joinLines (lines : List Line) : ink (joinLines lines) = inkOf lines := by
  induction lines with
  | nil => rfl
  | cons line lines ih =>
      cases lines with
      | nil =>
          rw [joinLines, List.intercalate_singleton]
          rfl
      | cons next lines =>
          rw [inkOf_cons, ← ih, joinLines, List.intercalate_cons_cons, ink, List.countP_append,
            List.countP_append]
          have hfeed : List.countP (fun c => !Text.isSpace c) ['\n'] = 0 := by decide
          rw [hfeed]
          show ink line + 0 + ink (joinLines (next :: lines)) = _
          omega

theorem ink_pos {text : List Char} {c : Char} (hc : c ∈ text) (hspace : Text.isSpace c = false) :
    0 < ink text := by
  rw [ink, List.countP_pos_iff]
  exact ⟨c, hc, by rw [hspace]; rfl⟩

theorem ink_of_blank {line : Line} (hline : isBlankLine line = true) : ink line = 0 := by
  rw [ink, List.countP_eq_zero]
  intro c hc
  have hblank := List.all_eq_true.mp hline c hc
  rw [Bool.or_eq_true, beq_iff_eq, beq_iff_eq] at hblank
  rcases hblank with rfl | rfl <;> decide

theorem inkOf_trimBoth (lines : List Line) : inkOf (trimBoth isBlankLine lines) = inkOf lines := by
  obtain ⟨pre, post, hpre, hpost, hlines⟩ := trimBoth_spec isBlankLine lines
  have hzero : ∀ blanks : List Line, (∀ line ∈ blanks, isBlankLine line = true) →
      inkOf blanks = 0 := by
    intro blanks hblanks
    induction blanks with
    | nil => rfl
    | cons line blanks ih =>
        rw [inkOf_cons, ink_of_blank (hblanks line List.mem_cons_self),
          ih fun other hother => hblanks other (List.mem_cons_of_mem _ hother)]
  have hink := congrArg inkOf hlines
  rw [inkOf_append, inkOf_append, hzero pre hpre, hzero post hpost] at hink
  omega

/-! ## The piece of a document -/

theorem trimBoth_return {lines : List Line} (hlines : ∀ line ∈ lines, IsLine line) :
    '\r' ∉ trimBoth Text.isSpace (joinLines lines) := by
  intro hreturn
  exact return_notMem_joinLines hlines (mem_of_mem_trimBoth hreturn)

theorem inkOf_splitLines {lines : List Line} (hlines : ∀ line ∈ lines, IsLine line) :
    inkOf (splitLines (trimBoth Text.isSpace (joinLines lines))) = inkOf lines := by
  have htext : joinLines ((trimBoth Text.isSpace (joinLines lines)).splitOn '\n') =
      trimBoth Text.isSpace (joinLines lines) := List.intercalate_splitOn '\n'
  rw [splitLines_eq_splitOn (trimBoth_return hlines), ← ink_joinLines, htext, ← ink_joinLines]
  exact countP_trimBoth

theorem joinLines_blank {blanks : List Line} (hblanks : ∀ line ∈ blanks, isBlankLine line = true) :
    ∀ c ∈ joinLines blanks, Text.isSpace c = true := by
  intro c hc
  rcases mem_joinLines hc with rfl | ⟨line, hline, hmem⟩
  · decide
  · have hblank := List.all_eq_true.mp (hblanks line hline) c hmem
    rw [Bool.or_eq_true, beq_iff_eq, beq_iff_eq] at hblank
    rcases hblank with rfl | rfl <;> decide

theorem joinLines_append {xs ys : List Line} (hxs : xs ≠ []) (hys : ys ≠ []) :
    joinLines (xs ++ ys) = joinLines xs ++ '\n' :: joinLines ys := by
  induction xs with
  | nil => exact absurd rfl hxs
  | cons x xs ih =>
      by_cases hnil : xs = []
      · subst hnil
        rw [List.singleton_append, joinLines_cons hys, joinLines, joinLines,
          List.intercalate_singleton]
      · have hne : xs ++ ys ≠ [] := List.append_ne_nil_of_right_ne_nil _ hys
        rw [List.cons_append, joinLines_cons hne, joinLines_cons hnil, ih hnil]
        simp

theorem length_joinLines_trimBoth_le (lines : List Line) :
    (joinLines (trimBoth isBlankLine lines)).length ≤ (joinLines lines).length := by
  obtain ⟨pre, post, -, -, hlines⟩ := trimBoth_spec isBlankLine lines
  generalize trimBoth isBlankLine lines = core at hlines
  have hleft : ∀ xs ys : List Line, (joinLines ys).length ≤ (joinLines (xs ++ ys)).length ∧
      (joinLines xs).length ≤ (joinLines (xs ++ ys)).length := by
    intro xs ys
    by_cases hxs : xs = []
    · rw [hxs, List.nil_append]
      exact ⟨Nat.le_refl _, Nat.zero_le _⟩
    by_cases hys : ys = []
    · rw [hys, List.append_nil]
      exact ⟨Nat.zero_le _, Nat.le_refl _⟩
    · rw [joinLines_append hxs hys, List.length_append, List.length_cons]
      omega
  have h1 := (hleft core post).2
  have h2 := (hleft pre (core ++ post)).1
  rw [hlines]
  omega

theorem trimBoth_joinLines (doc : List Line) :
    trimBoth Text.isSpace (joinLines doc) =
      trimBoth Text.isSpace (joinLines (trimBoth isBlankLine doc)) := by
  obtain ⟨pre, post, hpre, hpost, hdoc⟩ := trimBoth_spec isBlankLine doc
  generalize trimBoth isBlankLine doc = core at hdoc
  have hfeed : ∀ c ∈ ['\n'], Text.isSpace c = true := by
    intro c hc
    rw [List.mem_singleton.mp hc]
    rfl
  have hright : trimBoth Text.isSpace (joinLines (core ++ post)) =
      trimBoth Text.isSpace (joinLines core) := by
    by_cases hpostNil : post = []
    · rw [hpostNil, List.append_nil]
    by_cases hcoreNil : core = []
    · rw [hcoreNil, List.nil_append]
      show trimBoth Text.isSpace (joinLines post) = []
      exact trimBoth_eq_nil_iff.mpr (joinLines_blank hpost)
    · rw [joinLines_append hcoreNil hpostNil]
      have htail : ∀ c ∈ '\n' :: joinLines post, Text.isSpace c = true := by
        intro c hc
        rcases List.mem_cons.mp hc with rfl | hc
        · decide
        · exact joinLines_blank hpost c hc
      exact trimBoth_append_right htail
  rw [hdoc]
  by_cases hpreNil : pre = []
  · rw [hpreNil, List.nil_append]
    exact hright
  by_cases hrestNil : core ++ post = []
  · have hcoreNil : core = [] := (List.append_eq_nil_iff.mp hrestNil).1
    rw [hrestNil, List.append_nil, hcoreNil]
    show trimBoth Text.isSpace (joinLines pre) = []
    exact trimBoth_eq_nil_iff.mpr (joinLines_blank hpre)
  · have hhead : ∀ c ∈ joinLines pre ++ ['\n'], Text.isSpace c = true := by
      intro c hc
      rcases List.mem_append.mp hc with hc | hc
      · exact joinLines_blank hpre c hc
      · exact hfeed c hc
    have htext : joinLines (pre ++ (core ++ post)) =
        (joinLines pre ++ ['\n']) ++ joinLines (core ++ post) := by
      rw [joinLines_append hpreNil hrestNil]
      simp
    rw [htext, trimBoth_append_left hhead]
    exact hright

theorem isBlankDocument_iff {doc : List Line} :
    isBlankDocument doc = true ↔ trimBoth isBlankLine doc = [] := by
  rw [trimBoth_eq_nil_iff, isBlankDocument, List.all_eq_true]

theorem isLine_of_trimBoth {doc : List Line} (hdoc : ∀ line ∈ doc, IsLine line) :
    ∀ line ∈ trimBoth isBlankLine doc, IsLine line :=
  fun line hline => hdoc line (mem_of_mem_trimBoth hline)

theorem pieceOf_blank {doc : List Line} (hblank : isBlankDocument doc = true) :
    pieceOf doc = none := by
  rw [pieceOf, if_pos]
  rw [trimBoth_joinLines, isBlankDocument_iff.mp hblank]
  rfl

theorem pieceOf_eq_some {doc : List Line} {piece : String} (hpiece : pieceOf doc = some piece) :
    piece.toList = trimBoth Text.isSpace (joinLines doc) ∧
      trimBoth Text.isSpace (joinLines doc) ≠ [] := by
  rw [pieceOf] at hpiece
  split at hpiece
  · cases hpiece
  · rename_i hne
    cases hpiece
    exact ⟨String.toList_ofList, hne⟩

theorem splitLines_joinLines {lines : List Line} (hne : lines ≠ [])
    (hlines : ∀ line ∈ lines, IsLine line) : splitLines (joinLines lines) = lines :=
  splitLines_intercalate false hne hlines

/-- A document is given back by its own piece exactly when trimming takes nothing of its lines and
no blank line that counts. -/
theorem givenBack_pieceOf_iff {keeps : List Line → Prop} {doc : List Line} {piece : String}
    (hdoc : ∀ line ∈ doc, IsLine line) (hpiece : pieceOf doc = some piece)
    (hink : isBlankDocument doc = false) :
    GivenBack keeps doc piece ↔
      trimBoth Text.isSpace (joinLines (trimBoth isBlankLine doc)) =
        joinLines (trimBoth isBlankLine doc) ∧ (keeps doc → trailingBlankLines doc = []) := by
  obtain ⟨htext, -⟩ := pieceOf_eq_some hpiece
  rw [trimBoth_joinLines] at htext
  have hcore : trimBoth isBlankLine doc ≠ [] := by
    intro hnil
    rw [isBlankDocument_iff.mpr hnil] at hink
    cases hink
  have hsplit : trimBoth Text.isSpace (joinLines (trimBoth isBlankLine doc)) =
      joinLines (trimBoth isBlankLine doc) →
      splitLines piece.toList = trimBoth isBlankLine doc := by
    intro hflush
    rw [htext, hflush, splitLines_joinLines hcore (isLine_of_trimBoth hdoc)]
  have htrailing : trailingBlankLines (trimBoth isBlankLine doc) = [] := takeWhile_reverse_trimBoth
  constructor
  · intro hgiven
    have hflush : trimBoth Text.isSpace (joinLines (trimBoth isBlankLine doc)) =
        joinLines (trimBoth isBlankLine doc) := by
      apply trimBoth_eq_self_of_length
      -- the lines of the piece are those of the document, so its text is as long
      have hpieceText : joinLines (splitLines piece.toList) = piece.toList := by
        rw [htext, splitLines_eq_splitOn (trimBoth_return (isLine_of_trimBoth hdoc))]
        exact List.intercalate_splitOn '\n'
      have hlength : (joinLines (trimBoth isBlankLine (splitLines piece.toList))).length ≤
          (joinLines (splitLines piece.toList)).length := length_joinLines_trimBoth_le _
      rw [hgiven.lines, hpieceText, htext] at hlength
      exact hlength
    refine ⟨hflush, ?_⟩
    intro hkeeps
    rw [← hgiven.kept hkeeps, hsplit hflush, htrailing]
  · rintro ⟨hflush, hkept⟩
    constructor
    · rw [hsplit hflush]
      exact trimBoth_trimBoth
    · intro hkeeps
      rw [hsplit hflush, htrailing, hkept hkeeps]

theorem flush_pieceOf {doc : List Line} (hink : isBlankDocument doc = false)
    (hflush : trimBoth Text.isSpace (joinLines (trimBoth isBlankLine doc)) =
      joinLines (trimBoth isBlankLine doc)) : ∃ piece, pieceOf doc = some piece := by
  have hline : ∃ line ∈ doc, isBlankLine line = false := by
    by_contra hno
    rw [← Bool.not_eq_true, isBlankDocument, List.all_eq_true] at hink
    apply hink
    intro line hline
    by_contra hblank
    exact hno ⟨line, hline, Bool.not_eq_true _ |>.mp hblank⟩
  obtain ⟨line, hline, hblank⟩ := hline
  obtain ⟨a, b, hjoin, -, -⟩ := joinLines_around (mem_trimBoth_of_mem hline hblank)
  have hne : joinLines (trimBoth isBlankLine doc) ≠ [] := by
    intro hnil
    rw [hjoin] at hnil
    have hlineNil : line = [] := by
      have hparts := List.append_eq_nil_iff.mp hnil
      exact (List.append_eq_nil_iff.mp hparts.2).1
    rw [hlineNil] at hblank
    cases hblank
  refine ⟨String.ofList (trimBoth Text.isSpace (joinLines doc)), ?_⟩
  rw [pieceOf, if_neg]
  rw [trimBoth_joinLines, hflush]
  exact hne

theorem length_pieces_le (docs : List (List Line)) :
    (docs.filterMap pieceOf).length ≤ (docs.filter fun doc => !isBlankDocument doc).length := by
  induction docs with
  | nil => exact Nat.le_refl _
  | cons doc docs ih =>
      by_cases hblank : isBlankDocument doc = true
      · rw [List.filterMap_cons_none (pieceOf_blank hblank),
          List.filter_cons_of_neg (by rw [hblank]; exact Bool.false_ne_true)]
        exact ih
      · rw [List.filter_cons_of_pos (by rw [Bool.not_eq_true _ |>.mp hblank]; rfl),
          List.length_cons]
        cases hpiece : pieceOf doc with
        | none =>
            rw [List.filterMap_cons_none hpiece]
            omega
        | some piece =>
            rw [List.filterMap_cons_some hpiece, List.length_cons]
            omega

/-- Documents whose lines are split as they were joined are given back when every one of them is
given back by its own piece. -/
theorem givesBack_pieces_iff {keeps : List Line → Prop} {docs : List (List Line)}
    (hdocs : ∀ doc ∈ docs, ∀ line ∈ doc, IsLine line) :
    GivesBack keeps docs (docs.filterMap pieceOf) ↔ ∀ doc ∈ docs,
      trimBoth Text.isSpace (joinLines (trimBoth isBlankLine doc)) =
        joinLines (trimBoth isBlankLine doc) ∧
      (isBlankDocument doc = false → keeps doc → trailingBlankLines doc = []) := by
  induction docs with
  | nil =>
      constructor
      · intro _ doc hdoc
        cases hdoc
      · intro _
        exact List.Forall₂.nil
  | cons doc docs ih =>
      have hlines := hdocs doc List.mem_cons_self
      have hrest := ih fun other hother => hdocs other (List.mem_cons_of_mem _ hother)
      rw [List.forall_mem_cons, ← hrest]
      cases hblank : isBlankDocument doc with
      | true =>
          have hnil := isBlankDocument_iff.mp hblank
          rw [GivesBack, List.filterMap_cons_none (pieceOf_blank hblank),
            List.filter_cons_of_neg (by rw [hblank]; exact Bool.false_ne_true), hnil]
          constructor
          · intro h
            exact ⟨⟨rfl, fun hfalse => by cases hfalse⟩, h⟩
          · intro h
            exact h.2
      | false =>
          have hfilter : List.filter (fun doc => !isBlankDocument doc) (doc :: docs) =
              doc :: List.filter (fun doc => !isBlankDocument doc) docs :=
            List.filter_cons_of_pos (by rw [hblank]; rfl)
          rw [GivesBack, hfilter]
          cases hpiece : pieceOf doc with
          | none =>
              rw [List.filterMap_cons_none hpiece]
              constructor
              · intro h
                have hlength := h.length_eq
                rw [List.length_cons] at hlength
                have hle := length_pieces_le docs
                omega
              · rintro ⟨⟨hflush, -⟩, -⟩
                obtain ⟨piece, hsome⟩ := flush_pieceOf hblank hflush
                rw [hpiece] at hsome
                cases hsome
          | some piece =>
              rw [List.filterMap_cons_some hpiece, List.forall₂_cons,
                givenBack_pieceOf_iff hlines hpiece hblank]
              constructor
              · rintro ⟨⟨hflush, hkept⟩, h⟩
                exact ⟨⟨hflush, fun _ => hkept⟩, h⟩
              · rintro ⟨⟨hflush, hkept⟩, h⟩
                exact ⟨⟨hflush, hkept rfl⟩, h⟩

theorem isDocumentMarker_iff {line : Line} :
    isDocumentMarker line = true ↔ ∃ marker ∈ ["---".toList, "...".toList], ∃ rest,
      line = marker ++ rest ∧ ∀ c, rest.head? = some c → c = ' ' ∨ c = '\t' := by
  have hlength : ∀ marker ∈ ["---".toList, "...".toList], marker.length = 3 := by decide
  rw [isDocumentMarker, List.any_eq_true]
  constructor
  · rintro ⟨marker, hmarker, h⟩
    rw [Bool.and_eq_true, List.isPrefixOf_iff_prefix] at h
    obtain ⟨⟨rest, rfl⟩, hhead⟩ := h
    refine ⟨marker, hmarker, rest, rfl, ?_⟩
    intro c hc
    rw [← hlength marker hmarker, List.drop_left, hc] at hhead
    rw [Option.all_some, Bool.or_eq_true, beq_iff_eq, beq_iff_eq] at hhead
    exact hhead
  · rintro ⟨marker, hmarker, rest, rfl, hhead⟩
    refine ⟨marker, hmarker, ?_⟩
    rw [Bool.and_eq_true, List.isPrefixOf_iff_prefix]
    refine ⟨⟨rest, rfl⟩, ?_⟩
    rw [← hlength marker hmarker, List.drop_left]
    cases hc : rest.head? with
    | none => rfl
    | some c =>
        rw [Option.all_some, Bool.or_eq_true, beq_iff_eq, beq_iff_eq]
        exact hhead c hc

theorem marker_mem_splitOn {a marker rest : List Char}
    (hmarker : marker ∈ ["---".toList, "...".toList]) (ha : a = [] ∨ ∃ a', a = a' ++ ['\n'])
    (hrest : ∀ c, rest.head? = some c → c = ' ' ∨ c = '\t' ∨ c = '\n') :
    ∃ line ∈ (a ++ (marker ++ rest)).splitOn '\n', isDocumentMarker line = true := by
  have hfeed : ∀ marker ∈ ["---".toList, "...".toList], '\n' ∉ marker := by decide
  -- the line of the marker goes up to the next line feed
  have hline : ∃ line ∈ (marker ++ rest).splitOn '\n', isDocumentMarker line = true := by
    have hsplit : rest = rest.takeWhile (· != '\n') ++ rest.dropWhile (· != '\n') :=
      List.takeWhile_append_dropWhile.symm
    have hfree : '\n' ∉ marker ++ rest.takeWhile (· != '\n') := by
      rw [List.mem_append, not_or]
      refine ⟨hfeed marker hmarker, ?_⟩
      intro hmem
      exact absurd (all_of_mem_takeWhile hmem) (by decide)
    have hmark : isDocumentMarker (marker ++ rest.takeWhile (· != '\n')) = true := by
      rw [isDocumentMarker_iff]
      refine ⟨marker, hmarker, _, rfl, ?_⟩
      intro c hc
      cases hrestEq : rest with
      | nil =>
          rw [hrestEq] at hc
          cases hc
      | cons d rest' =>
          rw [hrestEq, List.takeWhile_cons] at hc
          split at hc
          · rename_i hd
            injection hc with hc
            subst hc
            have hne : d ≠ '\n' := bne_iff_ne.mp hd
            rcases hrest d (by rw [hrestEq]; rfl) with h | h | h
            · exact Or.inl h
            · exact Or.inr h
            · exact absurd h hne
          · cases hc
    refine ⟨_, ?_, hmark⟩
    cases htail : rest.dropWhile (· != '\n') with
    | nil =>
        rw [htail, List.append_nil] at hsplit
        rw [← hsplit] at hfree ⊢
        rw [List.splitOn_eq_singleton hfree]
        exact List.mem_singleton_self _
    | cons d tail =>
        have hd : d = '\n' := by
          have hhead := List.head?_dropWhile_not (· != '\n') rest
          rw [htail, List.head?_cons] at hhead
          have hbne : (d != '\n') = false := hhead
          exact bne_eq_false_iff_eq.mp hbne
        rw [htail, hd] at hsplit
        have htext : marker ++ rest =
            (marker ++ rest.takeWhile (· != '\n')) ++ '\n' :: tail := by
          rw [List.append_assoc, ← hsplit]
        rw [htext, List.splitOn_append_cons_self_of_not_mem hfree]
        exact List.mem_cons_self
  rcases ha with rfl | ⟨a', rfl⟩
  · exact hline
  · obtain ⟨line, hmem, hmark⟩ := hline
    refine ⟨line, ?_, hmark⟩
    rw [List.append_assoc, List.singleton_append, List.splitOn_append_cons_self]
    exact List.mem_append_right _ hmem

theorem marker_mem_piece {lines : List Line} {line : Line} (hlines : ∀ line ∈ lines, IsLine line)
    (hline : line ∈ lines) (hmarker : isDocumentMarker line = true) :
    ∃ piece, pieceOf lines = some piece ∧
      ∃ line ∈ splitLines piece.toList, isDocumentMarker line = true := by
  obtain ⟨marker, hmarkerMem, rest, hlineEq, hrest⟩ := isDocumentMarker_iff.mp hmarker
  obtain ⟨a, b, hjoin, ha, hb⟩ := joinLines_around hline
  -- no white space can be taken off a marker
  have hends : ∃ c, marker.head? = some c ∧ marker.getLast? = some c ∧ Text.isSpace c = false := by
    have hall : ∀ marker ∈ ["---".toList, "...".toList], ∃ c, marker.head? = some c ∧
        marker.getLast? = some c ∧ Text.isSpace c = false := by
      intro marker hmem
      rcases List.mem_cons.mp hmem with rfl | hmem
      · exact ⟨'-', rfl, rfl, by decide⟩
      · rw [List.mem_singleton] at hmem
        subst hmem
        exact ⟨'.', rfl, rfl, by decide⟩
    exact hall marker hmarkerMem
  obtain ⟨c, hfirst, hlast, hspace⟩ := hends
  have htrim : trimBoth Text.isSpace (joinLines lines) = a.dropWhile Text.isSpace ++
      (marker ++ ((rest ++ b).reverse.dropWhile Text.isSpace).reverse) := by
    rw [hjoin, hlineEq, List.append_assoc]
    exact trimBoth_middle hfirst hspace hlast hspace
  have hne : trimBoth Text.isSpace (joinLines lines) ≠ [] := by
    intro hnil
    rw [htrim] at hnil
    have hmarkerNil := (List.append_eq_nil_iff.mp (List.append_eq_nil_iff.mp hnil).2).1
    rw [hmarkerNil] at hfirst
    cases hfirst
  refine ⟨String.ofList (trimBoth Text.isSpace (joinLines lines)), by rw [pieceOf, if_neg hne], ?_⟩
  rw [String.toList_ofList, splitLines_eq_splitOn (trimBoth_return hlines), htrim]
  apply marker_mem_splitOn hmarkerMem
  · rcases ha with rfl | ⟨a', rfl⟩
    · exact Or.inl rfl
    · by_cases hall : ∀ x ∈ a' ++ ['\n'], Text.isSpace x = true
      · exact Or.inl (List.dropWhile_eq_nil_iff.mpr hall)
      · right
        obtain ⟨taken, htaken⟩ := List.dropWhile_suffix (l := a' ++ ['\n']) Text.isSpace
        have hdropNe : (a' ++ ['\n']).dropWhile Text.isSpace ≠ [] := by
          intro hnil
          exact hall (List.dropWhile_eq_nil_iff.mp hnil)
        have hlastFeed : ((a' ++ ['\n']).dropWhile Text.isSpace).getLast? = some '\n' := by
          rw [← List.getLast?_append_of_ne_nil taken hdropNe, htaken, List.getLast?_concat]
        obtain ⟨start, hstart⟩ := List.getLast?_eq_some_iff.mp hlastFeed
        exact ⟨start, hstart⟩
  · intro d hd
    have hprefix : ((rest ++ b).reverse.dropWhile Text.isSpace).reverse <+: rest ++ b := by
      rw [← List.reverse_suffix, List.reverse_reverse]
      exact List.dropWhile_suffix _
    have hdHead : (rest ++ b).head? = some d := by
      obtain ⟨tail, htail⟩ := hprefix
      rw [← htail, List.head?_append, hd]
      rfl
    rw [List.head?_append] at hdHead
    cases hrestHead : rest.head? with
    | some e =>
        rw [hrestHead] at hdHead
        have heq : e = d := Option.some.inj hdHead
        subst heq
        rcases hrest e hrestHead with h | h
        · exact Or.inl h
        · exact Or.inr (Or.inl h)
    | none =>
        rw [hrestHead, Option.none_or] at hdHead
        rcases hb with rfl | ⟨b', rfl⟩
        · cases hdHead
        · exact Or.inr (Or.inr (Option.some.inj hdHead).symm)

/-! ## Joined documents -/

theorem splitFrom_append_empty (docs : List String) (current lines : List Line) :
    splitFrom docs current (lines ++ [[]]) = splitFrom docs current lines := by
  have hempty : ∀ state, splitStep state [] = (state.1, state.2 ++ [[]]) := by
    intro state
    rfl
  have hpush : ∀ docs (current : List Line), pushDocument docs (current ++ [[]]) =
      pushDocument docs current := by
    intro docs current
    rw [pushDocument_eq, pushDocument_eq, pieceOf, pieceOf]
    have htext : trimBoth Text.isSpace (joinLines (current ++ [[]])) =
        trimBoth Text.isSpace (joinLines current) := by
      by_cases hnil : current = []
      · rw [hnil]
        rfl
      · rw [joinLines_append hnil (List.cons_ne_nil _ _)]
        apply trimBoth_append_right
        intro c hc
        rw [List.mem_singleton.mp hc]
        rfl
    rw [htext]
  simp only [splitFrom, List.foldl_append, List.foldl_cons, List.foldl_nil, hempty, hpush]

theorem isLine_joinedLines {first : List Line} {rest : List (Line × List Line)}
    (hfirst : ∀ line ∈ first, IsLine line)
    (hrest : ∀ next ∈ rest, IsLine next.1 ∧ ∀ line ∈ next.2, IsLine line) :
    ∀ line ∈ joinedLines first rest, IsLine line := by
  intro line hline
  rcases List.mem_append.mp hline with h | h
  · exact hfirst line h
  · obtain ⟨next, hnext, hmem⟩ := List.mem_flatMap.mp h
    rcases List.mem_cons.mp hmem with rfl | hmem
    · exact (hrest next hnext).1
    · exact (hrest next hnext).2 line hmem

theorem splitYamlDocuments_join {first : List Line} {rest : List (Line × List Line)}
    (carriageReturns closed : Bool) (hlines : ∀ line ∈ joinedLines first rest, IsLine line) :
    splitYamlDocuments (joinDocuments carriageReturns closed first rest) =
      ((joinedLines first rest).splitOnP isMarkerLine).filterMap pieceOf := by
  have hplain : splitFrom [] [] (joinedLines first rest) =
      ((joinedLines first rest).splitOnP isMarkerLine).filterMap pieceOf := by
    rw [splitFrom_eq]
    cases List.splitOnP isMarkerLine (joinedLines first rest) <;> rfl
  rw [splitYamlDocuments, joinDocuments, String.toList_ofList, ← hplain]
  cases closed with
  | true =>
      have hclosed : ∀ line ∈ joinedLines first rest ++ [[]], IsLine line := by
        intro line hline
        rcases List.mem_append.mp hline with h | h
        · exact hlines line h
        · rw [List.mem_singleton.mp h]
          exact ⟨List.not_mem_nil, List.not_mem_nil⟩
      rw [if_pos rfl, splitLines_intercalate carriageReturns
        (List.append_ne_nil_of_right_ne_nil _ (List.cons_ne_nil _ _)) hclosed,
        splitFrom_append_empty]
  | false =>
      rw [if_neg Bool.false_ne_true, List.append_nil]
      by_cases hnil : joinedLines first rest = []
      · rw [hnil, List.intercalate_nil]
        exact splitFrom_append_empty [] [] []
      · rw [splitLines_intercalate carriageReturns hnil hlines]

theorem splitOnP_joinedLines {first : List Line} {rest : List (Line × List Line)}
    (hseparators : ∀ next ∈ rest, isMarkerLine next.1 = true)
    (hdocs : ∀ doc ∈ first :: rest.map Prod.snd, ∀ line ∈ doc, isMarkerLine line = false) :
    (joinedLines first rest).splitOnP isMarkerLine = first :: rest.map Prod.snd := by
  induction rest generalizing first with
  | nil =>
      rw [joinedLines, List.flatMap_nil, List.append_nil]
      exact List.splitOnP_eq_singleton (hdocs first List.mem_cons_self)
  | cons next rest ih =>
      have hjoined : joinedLines first (next :: rest) =
          first ++ next.1 :: joinedLines next.2 rest := by
        simp [joinedLines]
      rw [hjoined, List.splitOnP_append_cons_of_forall_mem (hdocs first List.mem_cons_self) _
        (hseparators next List.mem_cons_self), ih]
      · rfl
      · intro other hother
        exact hseparators other (List.mem_cons_of_mem _ hother)
      · intro doc hdoc
        exact hdocs doc (List.mem_cons_of_mem _ hdoc)

theorem inkOf_of_givesBack {keeps : List Line → Prop} {docs : List (List Line)}
    {pieces : List String} (hgives : GivesBack keeps docs pieces) :
    (pieces.map fun piece => inkOf (splitLines piece.toList)).sum = inkOf docs.flatten := by
  induction docs generalizing pieces with
  | nil =>
      cases hgives
      rfl
  | cons doc docs ih =>
      rw [List.flatten_cons, inkOf_append]
      cases hblank : isBlankDocument doc with
      | true =>
          rw [GivesBack, List.filter_cons_of_neg (by rw [hblank]; exact Bool.false_ne_true)] at hgives
          have hzero : inkOf doc = 0 := by
            rw [← inkOf_trimBoth, isBlankDocument_iff.mp hblank]
            rfl
          rw [ih hgives, hzero, Nat.zero_add]
      | false =>
          have hfilter : List.filter (fun doc => !isBlankDocument doc) (doc :: docs) =
              doc :: List.filter (fun doc => !isBlankDocument doc) docs :=
            List.filter_cons_of_pos (by rw [hblank]; rfl)
          rw [GivesBack, hfilter] at hgives
          cases hgives with
          | cons hgiven hrest =>
              have hink := congrArg inkOf hgiven.lines
              rw [inkOf_trimBoth, inkOf_trimBoth] at hink
              rw [List.map_cons, List.sum_cons, ih hrest, hink]

theorem inkOf_pieces {segments : List (List Line)}
    (hlines : ∀ segment ∈ segments, ∀ line ∈ segment, IsLine line) :
    ((segments.filterMap pieceOf).map fun piece => inkOf (splitLines piece.toList)).sum =
      inkOf segments.flatten := by
  induction segments with
  | nil => rfl
  | cons segment segments ih =>
      have hrest := ih fun other hother => hlines other (List.mem_cons_of_mem _ hother)
      have hsegment := inkOf_splitLines (hlines segment List.mem_cons_self)
      rw [List.flatten_cons, inkOf_append, ← hrest, ← hsegment]
      cases hpiece : pieceOf segment with
      | none =>
          have hnil : trimBoth Text.isSpace (joinLines segment) = [] := by
            rw [pieceOf] at hpiece
            by_contra hne
            rw [if_neg hne] at hpiece
            cases hpiece
          rw [List.filterMap_cons_none hpiece, hnil]
          show _ = inkOf [[]] + _
          rw [show inkOf [[]] = 0 from rfl, Nat.zero_add]
      | some piece =>
          rw [List.filterMap_cons_some hpiece, List.map_cons, List.sum_cons,
            (pieceOf_eq_some hpiece).1]

theorem inkOf_filter_le (lines : List Line) :
    inkOf (lines.filter fun line => !isMarkerLine line) ≤ inkOf lines := by
  induction lines with
  | nil => exact Nat.le_refl _
  | cons line lines ih =>
      rw [List.filter_cons, inkOf_cons]
      split
      · rw [inkOf_cons]
        omega
      · omega

theorem filter_joinedLines {first : List Line} {rest : List (Line × List Line)}
    (hknown : ∀ next ∈ rest, isMarkerLine next.1 = true) :
    (joinedLines first rest).filter (fun line => !isMarkerLine line) =
      (first :: rest.map Prod.snd).flatten.filter fun line => !isMarkerLine line := by
  rw [joinedLines, List.flatten_cons, List.filter_append, List.filter_append]
  congr 1
  induction rest with
  | nil => rfl
  | cons next rest ih =>
      have hnext := hknown next List.mem_cons_self
      rw [List.flatMap_cons, List.cons_append,
        List.filter_cons_of_neg (by rw [hnext]; exact Bool.false_ne_true), List.filter_append,
        ih fun other hother => hknown other (List.mem_cons_of_mem _ hother), List.map_cons,
        List.flatten_cons, List.filter_append]

theorem ink_of_isMarkerLine {line : Line} (hmarker : isMarkerLine line = true) : 0 < ink line := by
  have hchar : ∃ c ∈ line, Text.isSpace c = false := by
    have hof : ∀ (c : Char) (rest : List Char), Text.isSpace c = false →
        isMarked (c :: rest) line = true → ∃ c ∈ line, Text.isSpace c = false := by
      intro c rest hspace hmarked
      simp only [isMarked, Bool.and_eq_true, List.isPrefixOf_iff_prefix] at hmarked
      obtain ⟨⟨tail, htail⟩, -⟩ := hmarked
      refine ⟨c, ?_, hspace⟩
      have hmem : c ∈ line.dropWhile Text.isSpace := by
        rw [← htail]
        exact List.mem_append_left _ List.mem_cons_self
      exact (List.dropWhile_suffix _).subset hmem
    rw [isMarkerLine, Bool.or_eq_true] at hmarker
    rcases hmarker with h | h
    · exact hof '-' _ (by decide) h
    · exact hof '.' _ (by decide) h
  obtain ⟨c, hc, hspace⟩ := hchar
  exact ink_pos hc hspace

theorem unmarked_of_inkOf {lines : List Line}
    (hink : inkOf (lines.filter fun line => !isMarkerLine line) = inkOf lines) :
    ∀ line ∈ lines, isMarkerLine line = false := by
  induction lines with
  | nil =>
      intro line hline
      cases hline
  | cons head lines ih =>
      have hle := inkOf_filter_le lines
      rw [List.filter_cons, inkOf_cons] at hink
      cases hmarker : isMarkerLine head with
      | true =>
          have hpos := ink_of_isMarkerLine hmarker
          rw [hmarker, if_neg (by exact Bool.false_ne_true)] at hink
          omega
      | false =>
          rw [hmarker, if_pos (by rfl), inkOf_cons] at hink
          rw [List.forall_mem_cons]
          exact ⟨hmarker, ih (by omega)⟩

theorem isDocumentMarker_of_isSeparator {line : Line} (hline : isSeparator line = true) :
    isDocumentMarker line = true := by
  rw [isSeparator, Bool.and_eq_true] at hline
  rw [isDocumentMarker, List.any_cons, hline.1]
  rfl

theorem isBlankLine_of_isDocumentMarker {line : Line} (hline : isDocumentMarker line = true) :
    isBlankLine line = false := by
  obtain ⟨marker, hmarker, rest, rfl, -⟩ := isDocumentMarker_iff.mp hline
  have hall : ∀ marker ∈ ["---".toList, "...".toList], isBlankLine marker = false := by decide
  have hmarkerBlank := hall marker hmarker
  rw [isBlankLine] at hmarkerBlank ⊢
  rw [List.all_append, hmarkerBlank]
  rfl

theorem exists_of_givesBack {keeps : List Line → Prop} {docs : List (List Line)}
    {pieces : List String} {piece : String} (h : List.Forall₂ (GivenBack keeps) docs pieces)
    (hpiece : piece ∈ pieces) : ∃ doc ∈ docs, GivenBack keeps doc piece := by
  induction h with
  | nil => cases hpiece
  | cons hgiven _ ih =>
      rcases List.mem_cons.mp hpiece with rfl | hpiece
      · exact ⟨_, List.mem_cons_self, hgiven⟩
      · obtain ⟨doc, hdoc, h⟩ := ih hpiece
        exact ⟨doc, List.mem_cons_of_mem _ hdoc, h⟩

/-- Documents are given back exactly when the splitter knows every separator, takes no line of a
document for one, and trims nothing but blank lines, and none of those that count.  YAML takes a
marker at column 0 only and keeps the indentation of a document. -/
theorem givesBack_iff_splittable {keeps : List Line → Prop} {carriageReturns closed : Bool}
    {first : List Line} {rest : List (Line × List Line)}
    (hfirst : ∀ line ∈ first, IsLine line)
    (hrest : ∀ next ∈ rest, IsLine next.1 ∧ ∀ line ∈ next.2, IsLine line)
    (hmarkers : ∀ doc ∈ first :: rest.map Prod.snd, ∀ line ∈ doc, isDocumentMarker line = false)
    (hseparators : ∀ next ∈ rest, isSeparator next.1 = true) :
    GivesBack keeps (first :: rest.map Prod.snd)
        (splitYamlDocuments (joinDocuments carriageReturns closed first rest)) ↔
      (∀ next ∈ rest, isMarkerLine next.1 = true) ∧
        ∀ doc ∈ first :: rest.map Prod.snd, Splittable keeps doc := by
  have hlines := isLine_joinedLines hfirst hrest
  have hdocs : ∀ doc ∈ first :: rest.map Prod.snd, ∀ line ∈ doc, IsLine line := by
    intro doc hdoc
    rcases List.mem_cons.mp hdoc with rfl | hdoc
    · exact hfirst
    · obtain ⟨next, hnext, rfl⟩ := List.mem_map.mp hdoc
      exact (hrest next hnext).2
  rw [splitYamlDocuments_join carriageReturns closed hlines]
  have hsegments : ∀ segment ∈ (joinedLines first rest).splitOnP isMarkerLine,
      ∀ line ∈ segment, line ∈ joinedLines first rest := by
    intro segment hsegment line hline
    have hmem : line ∈ ((joinedLines first rest).splitOnP isMarkerLine).flatten :=
      List.mem_flatten.mpr ⟨segment, hsegment, hline⟩
    rw [flatten_splitOnP] at hmem
    exact (List.mem_filter.mp hmem).1
  constructor
  · intro hgives
    have hknown : ∀ next ∈ rest, isMarkerLine next.1 = true := by
      intro next hnext
      by_contra hunknown
      -- the separator would stand in a piece, and so in a document
      have hjoined : next.1 ∈ joinedLines first rest :=
        List.mem_append_right _ (List.mem_flatMap.mpr ⟨next, hnext, List.mem_cons_self⟩)
      have hkept : next.1 ∈ ((joinedLines first rest).splitOnP isMarkerLine).flatten := by
        rw [flatten_splitOnP, List.mem_filter, Bool.not_eq_true']
        exact ⟨hjoined, Bool.not_eq_true _ |>.mp hunknown⟩
      obtain ⟨segment, hsegment, hmem⟩ := List.mem_flatten.mp hkept
      obtain ⟨piece, hpiece, line, hline, hmarker⟩ := marker_mem_piece
        (fun line hline => hlines line (hsegments segment hsegment line hline)) hmem
        (isDocumentMarker_of_isSeparator (hseparators next hnext))
      have hpieces : piece ∈ ((joinedLines first rest).splitOnP isMarkerLine).filterMap pieceOf :=
        List.mem_filterMap.mpr ⟨segment, hsegment, hpiece⟩
      obtain ⟨doc, hdoc, hgiven⟩ := exists_of_givesBack hgives hpieces
      have hdocLine := mem_trimBoth_of_mem hline (isBlankLine_of_isDocumentMarker hmarker)
      rw [hgiven.lines] at hdocLine
      have hfalse := hmarkers doc (List.mem_filter.mp hdoc).1 line (mem_of_mem_trimBoth hdocLine)
      rw [hmarker] at hfalse
      cases hfalse
    have hunmarked : ∀ line ∈ (first :: rest.map Prod.snd).flatten, isMarkerLine line = false := by
      apply unmarked_of_inkOf
      have hink := inkOf_of_givesBack hgives
      have hsegmentLines : ∀ segment ∈ (joinedLines first rest).splitOnP isMarkerLine,
          ∀ line ∈ segment, IsLine line :=
        fun segment hsegment line hline => hlines line (hsegments segment hsegment line hline)
      rw [inkOf_pieces hsegmentLines, flatten_splitOnP] at hink
      rw [← hink]
      exact congrArg inkOf (filter_joinedLines hknown).symm
    have hdocUnmarked : ∀ doc ∈ first :: rest.map Prod.snd, ∀ line ∈ doc,
        isMarkerLine line = false := by
      intro doc hdoc line hline
      exact hunmarked line (List.mem_flatten.mpr ⟨doc, hdoc, hline⟩)
    rw [splitOnP_joinedLines hknown hdocUnmarked, givesBack_pieces_iff hdocs] at hgives
    refine ⟨hknown, ?_⟩
    intro doc hdoc
    exact ⟨hdocUnmarked doc hdoc, (hgives doc hdoc).1, (hgives doc hdoc).2⟩
  · rintro ⟨hknown, hsplittable⟩
    rw [splitOnP_joinedLines hknown fun doc hdoc => (hsplittable doc hdoc).unmarked,
      givesBack_pieces_iff hdocs]
    intro doc hdoc
    exact ⟨(hsplittable doc hdoc).flush, (hsplittable doc hdoc).kept⟩

def namespaceDocument : List Line :=
  ["kind: Namespace", "metadata: {name: team}"].map String.toList

/-- A separator with a comment, and a document with blank lines around it. -/
def serviceDocument : Line × List Line :=
  ("--- # the service".toList,
    ["", "kind: Service", "metadata: {name: web}", ""].map String.toList)

/-- Blank lines around a document do no harm where none of them counts. -/
theorem serviceDocument_givenBack :
    GivesBack (fun _ => False) (namespaceDocument :: [serviceDocument].map Prod.snd)
      (splitYamlDocuments (joinDocuments true true namespaceDocument [serviceDocument])) := by
  have hfirst : ∀ line ∈ namespaceDocument, '\n' ∉ line ∧ '\r' ∉ line := by decide
  have hrest : ∀ next ∈ [serviceDocument], ('\n' ∉ next.1 ∧ '\r' ∉ next.1) ∧
      ∀ line ∈ next.2, '\n' ∉ line ∧ '\r' ∉ line := by decide
  have hmarkers : ∀ doc ∈ namespaceDocument :: [serviceDocument].map Prod.snd, ∀ line ∈ doc,
      isDocumentMarker line = false := by decide
  have hseparators : ∀ next ∈ [serviceDocument], isSeparator next.1 = true := by decide
  have hknown : ∀ next ∈ [serviceDocument], isMarkerLine next.1 = true := by decide +kernel
  have hdocs : ∀ doc ∈ namespaceDocument :: [serviceDocument].map Prod.snd,
      (∀ line ∈ doc, isMarkerLine line = false) ∧
        trimBoth Text.isSpace (joinLines (trimBoth isBlankLine doc)) =
          joinLines (trimBoth isBlankLine doc) := by decide +kernel
  apply (givesBack_iff_splittable hfirst hrest hmarkers hseparators).mpr
  refine ⟨hknown, ?_⟩
  intro doc hdoc
  obtain ⟨hunmarked, hflush⟩ := hdocs doc hdoc
  exact ⟨hunmarked, hflush, fun _ hfalse => hfalse.elim⟩

def embeddedManifest : List Line :=
  ["kind: ConfigMap", "data:", "  all.yaml: |", "    kind: Pod", "    ---", "    kind: Job"].map
    String.toList

/-- One document with an indented `---` is split in two, none of them the document. -/
theorem embeddedManifest_isCut :
    splitYamlDocuments (joinDocuments false true embeddedManifest []) =
        ["kind: ConfigMap\ndata:\n  all.yaml: |\n    kind: Pod", "kind: Job"] ∧
      (∀ line ∈ embeddedManifest, isDocumentMarker line = false) ∧
      ¬ GivesBack (fun _ => False) [embeddedManifest]
        (splitYamlDocuments (joinDocuments false true embeddedManifest [])) := by
  have hpieces : splitYamlDocuments (joinDocuments false true embeddedManifest []) =
      ["kind: ConfigMap\ndata:\n  all.yaml: |\n    kind: Pod", "kind: Job"] := by decide +kernel
  refine ⟨hpieces, by decide +kernel, ?_⟩
  intro hgives
  have hlength := hgives.length_eq
  rw [hpieces] at hlength
  exact absurd hlength (by decide +kernel)

/-- The indentation of the first line is trimmed away: the second key is no sibling any more. -/
example : splitYamlDocuments "  kind: Pod\n  metadata: {}\n" = ["kind: Pod\n  metadata: {}"] := by
  decide +kernel

/-- So are the line breaks that `|+` keeps. -/
example : splitYamlDocuments "text: |+\n  a\n\n\n---\n" = ["text: |+\n  a"] := by decide +kernel

end KubeNova.Resources
