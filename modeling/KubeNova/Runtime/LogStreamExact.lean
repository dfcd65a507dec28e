import KubeNova.Runtime.LogStream

/-!
# What the log stream leaves out

The lines the options ask for, and when the stream writes just these.  It stops at the first line
that is too late, and it takes the first word of every line for its time.
-/

namespace KubeNova.Runtime

open KubeNova.Foundation

variable {go : GoPackages} {filter : LogFilter} {s : LogLoop} {line : String}

def messageOf (line : String) : String :=
  match rfc3339LogPrefix line.toList with
  | some (_, message) => String.ofList message
  | none => line

def LogFilter.inRange (filter : LogFilter) (line : String) : Bool :=
  match parseLogLineTimestamp line with
  | none => !filter.isAbsolute
  | some t => filter.sinceTime.all (fun since => since ≤ t.instant) &&
      filter.untilTime.all (fun last => t.instant ≤ last)

def LogFilter.wants (go : GoPackages) (filter : LogFilter) (line : String) : Bool :=
  filter.inRange line && filter.options.all fun options => matchesMessage go options (messageOf line)

def logLines (texts : List String) : List String := (texts.map trimRight).filter (· ≠ "")

/-- The text of a latest time of the lines, or nothing where they have no times. -/
def IsLastTimestamp (go : GoPackages) (lines : List String) (last : String) : Prop :=
  (last = "" ∧ ∀ line ∈ lines, parseLogLineTimestamp line = none) ∨
    ∃ line ∈ lines, ∃ t, parseLogLineTimestamp line = some t ∧ last = go.format t ∧
      ∀ other ∈ lines, ∀ t', parseLogLineTimestamp other = some t' → t'.instant ≤ t.instant

def emptyReasonOf (go : GoPackages) (filter : LogFilter) (lines : List String) : String :=
  if lines.any (filter.wants go) then ""
  else if lines.isEmpty then "NO_LOG_LINES"
  else if filter.isAbsolute && lines.all fun line => (parseLogLineTimestamp line).isNone then
    "NO_PARSEABLE_TIMESTAMPS"
  else if filter.isAbsolute && lines.all fun line => !filter.inRange line then "TIME_RANGE_NO_MATCH"
  else "FILTER_NO_MATCH"

structure LogStreamResult.Exact (go : GoPackages) (filter : LogFilter) (texts : List String)
    (result : LogStreamResult) : Prop where
  frames : result.frames = (logLines texts).filter (filter.wants go)
  total : result.total = result.frames.length
  lastLogTimestamp : IsLastTimestamp go result.frames result.lastLogTimestamp
  emptyReason : result.emptyReason = emptyReasonOf go filter (logLines texts)

/-! ## The lines that are written -/

def LogFilter.stopsAt (filter : LogFilter) (line : String) : Bool :=
  !filter.isEarly (parseLogLineTimestamp line) && filter.isLate (parseLogLineTimestamp line)

def LogFilter.keeps (go : GoPackages) (filter : LogFilter) (line : String) : Bool :=
  filter.inRange line && matchesLogFilters go line filter.options

def LogFilter.before (filter : LogFilter) (lines : List String) : List String :=
  lines.takeWhile fun line => !filter.stopsAt line

def LogFilter.after (filter : LogFilter) (lines : List String) : List String :=
  lines.dropWhile fun line => !filter.stopsAt line

theorem before_append_after (lines : List String) : filter.before lines ++ filter.after lines = lines :=
  List.takeWhile_append_dropWhile

def OnlyLate (filter : LogFilter) (lines : List String) : Prop :=
  (∃ line ∈ filter.after lines, filter.inRange line = true) ∧
    ∀ line ∈ filter.before lines, filter.inRange line = false

/-- No line that is wanted comes after a line that is too late, and up to there the messages are
split from the times where the times end. -/
structure InOrder (go : GoPackages) (filter : LogFilter) (lines : List String) : Prop where
  split : ∀ line ∈ filter.before lines, filter.inRange line = true →
    matchesLogFilters go line filter.options =
      filter.options.all fun options => matchesMessage go options (messageOf line)
  ordered : ∀ line ∈ filter.after lines, filter.wants go line = false
  reason : (∀ line ∈ lines, filter.wants go line = false) → ¬OnlyLate filter lines

theorem isSome_of_stopsAt (h : filter.stopsAt line = true) :
    (parseLogLineTimestamp line).isSome = true := by
  rw [LogFilter.stopsAt, Bool.and_eq_true] at h
  have hlate := h.2
  cases hparse : parseLogLineTimestamp line with
  | some t => rfl
  | none =>
      rw [LogFilter.isLate, hparse] at hlate
      cases filter.untilTime <;> simp at hlate

theorem inRange_eq : filter.inRange line = (!(filter.isAbsolute && (parseLogLineTimestamp line).isNone) &&
    !filter.isEarly (parseLogLineTimestamp line) && !filter.isLate (parseLogLineTimestamp line)) := by
  unfold LogFilter.inRange LogFilter.isEarly LogFilter.isLate
  have hle : ∀ a b : Int, decide (a ≤ b) = !decide (b < a) := by
    intro a b
    rw [← decide_not, decide_eq_decide, Int.not_lt]
  cases parseLogLineTimestamp line with
  | none =>
      cases filter.sinceTime <;> cases filter.untilTime <;> simp
  | some t =>
      cases filter.sinceTime <;> cases filter.untilTime <;> simp [hle]

structure Reads (go : GoPackages) (filter : LogFilter) (s : LogLoop) (lines : List String) : Prop where
  rawLineCount : s.rawLineCount = lines.length
  parseableCount : s.parseableCount = lines.countP fun line => (parseLogLineTimestamp line).isSome
  rangeMatchedCount : s.rangeMatchedCount = lines.countP filter.inRange
  filterMatchedCount : s.filterMatchedCount = s.total
  total : s.total = s.frames.length
  frames : s.frames = lines.filter (filter.keeps go)
  lastLogTimestamp : IsLastTimestamp go s.frames s.lastLogTimestamp

theorem Reads.start : Reads go filter .start [] where
  rawLineCount := rfl
  parseableCount := rfl
  rangeMatchedCount := rfl
  filterMatchedCount := rfl
  total := rfl
  frames := rfl
  lastLogTimestamp := .inl ⟨rfl, fun _ h => absurd h List.not_mem_nil⟩

theorem parse_empty : parseRFC3339Time "" = none := rfl

def FormatsTimes (go : GoPackages) (lines : List String) : Prop :=
  ∀ line ∈ lines, ∀ t, parseLogLineTimestamp line = some t →
    parseRFC3339Time (go.format t) = some t.instant

theorem FormatsTimes.ne_empty {lines : List String} {t : Rfc3339} (h : FormatsTimes go lines)
    (hline : line ∈ lines) (ht : parseLogLineTimestamp line = some t) : go.format t ≠ "" := by
  intro hempty
  have hparse := h line hline t ht
  rw [hempty, parse_empty] at hparse
  cases hparse

theorem IsLastTimestamp.note {lines : List String} {last : String}
    (h : IsLastTimestamp go lines last) (hformat : FormatsTimes go lines) (line : String) :
    IsLastTimestamp go (lines ++ [line]) (noteTimestamp go (parseLogLineTimestamp line) last) := by
  have hmem {other : String} (hother : other ∈ lines ++ [line]) : other ∈ lines ∨ other = line := by
    rw [List.mem_append, List.mem_singleton] at hother
    exact hother
  cases htime : parseLogLineTimestamp line with
  | none =>
      rw [noteTimestamp]
      obtain ⟨hempty, hnone⟩ | ⟨latest, hlatest, t, ht, hlast, hmax⟩ := h
      · refine .inl ⟨hempty, ?_⟩
        intro other hother
        obtain hother | rfl := hmem hother
        · exact hnone other hother
        · exact htime
      · refine .inr ⟨latest, List.mem_append_left _ hlatest, t, ht, hlast, ?_⟩
        intro other hother t' ht'
        obtain hother | rfl := hmem hother
        · exact hmax other hother t' ht'
        · rw [htime] at ht'
          cases ht'
  | some time =>
      simp only [noteTimestamp]
      have hnew (hall : ∀ other ∈ lines, ∀ t', parseLogLineTimestamp other = some t' →
          t'.instant ≤ time.instant) : IsLastTimestamp go (lines ++ [line]) (go.format time) := by
        refine .inr ⟨line, List.mem_append_right _ (List.mem_singleton_self _), time, htime, rfl, ?_⟩
        intro other hother t' ht'
        obtain hother | rfl := hmem hother
        · exact hall other hother t' ht'
        · rw [htime] at ht'
          cases ht'
          exact Int.le_refl _
      obtain ⟨rfl, hnone⟩ | ⟨latest, hlatest, t, ht, rfl, hmax⟩ := h
      · rw [if_pos (by simp)]
        apply hnew
        intro other hother t' ht'
        rw [hnone other hother] at ht'
        cases ht'
      · have hafter : isAfterFrame time (go.format t) = decide (t.instant < time.instant) := by
          rw [isAfterFrame, hformat latest hlatest t ht]
          rfl
        rw [hafter]
        by_cases hlater : t.instant < time.instant
        · rw [if_pos (by simp [hlater])]
          apply hnew
          intro other hother t' ht'
          have hle := hmax other hother t' ht'
          omega
        · rw [if_neg (by simp [hlater, hformat.ne_empty hlatest ht])]
          refine .inr ⟨latest, List.mem_append_left _ hlatest, t, ht, rfl, ?_⟩
          intro other hother t' ht'
          obtain hother | rfl := hmem hother
          · exact hmax other hother t' ht'
          · rw [htime] at ht'
            cases ht'
            omega

theorem Reads.step {lines : List String} (h : Reads go filter s lines)
    (hformat : FormatsTimes go lines) (hne : line ≠ "") (hstop : filter.stopsAt line = false) :
    ∃ s', readLine go filter s line = (s', true) ∧ Reads go filter s' (lines ++ [line]) := by
  have hparseable : s.parseableCount + (if (parseLogLineTimestamp line).isSome then 1 else 0) =
      (lines ++ [line]).countP fun line => (parseLogLineTimestamp line).isSome := by
    rw [List.countP_append, h.parseableCount, List.countP_singleton]
  have hraw : s.rawLineCount + 1 = (lines ++ [line]).length := by
    rw [List.length_append, h.rawLineCount, List.length_singleton]
  have hrange : s.rangeMatchedCount + (if filter.inRange line = true then 1 else 0) =
      (lines ++ [line]).countP filter.inRange := by
    rw [List.countP_append, h.rangeMatchedCount, List.countP_singleton]
  have hframes (hkeeps : filter.keeps go line = false) :
      s.frames = (lines ++ [line]).filter (filter.keeps go) := by
    rw [List.filter_append, h.frames, List.filter_singleton, hkeeps]
    exact (List.append_nil _).symm
  cases hin : filter.inRange line with
  | false =>
      have hkeeps : filter.keeps go line = false := by
        rw [LogFilter.keeps, hin, Bool.false_and]
      refine ⟨{ s with
        rawLineCount := s.rawLineCount + 1
        parseableCount :=
          s.parseableCount + if (parseLogLineTimestamp line).isSome then 1 else 0 }, ?_, ?_⟩
      · have hearly : (filter.isAbsolute && (parseLogLineTimestamp line).isNone) = true ∨
            filter.isEarly (parseLogLineTimestamp line) = true := by
          by_contra hneither
          rw [not_or, Bool.not_eq_true, Bool.not_eq_true] at hneither
          rw [LogFilter.stopsAt, hneither.2] at hstop
          rw [inRange_eq, hneither.1, hneither.2] at hin
          rw [Bool.not_false, Bool.true_and] at hstop
          rw [hstop] at hin
          cases hin
        simp only [readLine, if_neg hne]
        by_cases hnone : (filter.isAbsolute && (parseLogLineTimestamp line).isNone) = true
        · rw [if_pos hnone]
        · rw [if_neg hnone, if_pos (hearly.resolve_left hnone)]
      · rw [hin] at hrange
        exact ⟨hraw, hparseable, hrange, h.filterMatchedCount, h.total, hframes hkeeps,
          h.lastLogTimestamp⟩
  | true =>
      rw [hin] at hrange
      have hparts := hin
      rw [inRange_eq] at hparts
      simp only [Bool.and_eq_true, Bool.not_eq_true'] at hparts
      cases hmatch : matchesLogFilters go line filter.options with
      | false =>
          have hkeeps : filter.keeps go line = false := by
            rw [LogFilter.keeps, hmatch, Bool.and_false]
          refine ⟨{ s with
            rawLineCount := s.rawLineCount + 1
            parseableCount :=
              s.parseableCount + if (parseLogLineTimestamp line).isSome then 1 else 0
            rangeMatchedCount := s.rangeMatchedCount + 1 }, ?_, ?_⟩
          · simp only [readLine, if_neg hne, hparts.1.1, hparts.1.2, hparts.2, hmatch,
              Bool.false_eq_true, if_false, Bool.not_false, if_true]
          · exact ⟨hraw, hparseable, hrange, h.filterMatchedCount, h.total, hframes hkeeps,
              h.lastLogTimestamp⟩
      | true =>
          have hkeeps : filter.keeps go line = true := by
            rw [LogFilter.keeps, hin, hmatch, Bool.and_self]
          refine ⟨{ s with
            rawLineCount := s.rawLineCount + 1
            parseableCount :=
              s.parseableCount + if (parseLogLineTimestamp line).isSome then 1 else 0
            rangeMatchedCount := s.rangeMatchedCount + 1
            filterMatchedCount := s.filterMatchedCount + 1
            frames := s.frames ++ [line]
            total := s.total + 1
            lastLogTimestamp :=
              noteTimestamp go (parseLogLineTimestamp line) s.lastLogTimestamp }, ?_, ?_⟩
          · simp only [readLine, if_neg hne, hparts.1.1, hparts.1.2, hparts.2, hmatch,
              Bool.false_eq_true, if_false, Bool.not_true]
          · refine ⟨hraw, hparseable, hrange, ?_, ?_, ?_, ?_⟩
            · show s.filterMatchedCount + 1 = s.total + 1
              rw [h.filterMatchedCount]
            · show s.total + 1 = (s.frames ++ [line]).length
              rw [List.length_append, h.total, List.length_singleton]
            · show s.frames ++ [line] = _
              rw [List.filter_append, h.frames, List.filter_singleton, hkeeps]
              rfl
            · refine h.lastLogTimestamp.note ?_ line
              intro other hother
              rw [h.frames] at hother
              exact hformat other (List.mem_filter.mp hother).1

theorem Reads.stop {lines : List String} (h : Reads go filter s lines) (hne : line ≠ "")
    (hstop : filter.stopsAt line = true) :
    ∃ s', readLine go filter s line = (s', false) ∧ s'.rawLineCount = lines.length + 1 ∧
      0 < s'.parseableCount ∧ s'.rangeMatchedCount = s.rangeMatchedCount ∧
      s'.filterMatchedCount = s.filterMatchedCount ∧ s'.total = s.total ∧ s'.frames = s.frames ∧
      s'.lastLogTimestamp = s.lastLogTimestamp := by
  have htime := isSome_of_stopsAt hstop
  rw [LogFilter.stopsAt, Bool.and_eq_true, Bool.not_eq_true'] at hstop
  have hnone : (filter.isAbsolute && (parseLogLineTimestamp line).isNone) = false := by
    rw [← Option.not_isSome, htime, Bool.not_true, Bool.and_false]
  refine ⟨{ s with
    rawLineCount := s.rawLineCount + 1
    parseableCount := s.parseableCount + if (parseLogLineTimestamp line).isSome then 1 else 0 },
    ?_, ?_, ?_, rfl, rfl, rfl, rfl, rfl⟩
  · simp only [readLine, if_neg hne, hnone, hstop.1, hstop.2, Bool.false_eq_true, if_false, if_true]
  · show s.rawLineCount + 1 = _
    rw [h.rawLineCount]
  · show 0 < s.parseableCount + _
    rw [if_pos htime]
    omega

structure Ends (go : GoPackages) (filter : LogFilter) (s' : LogLoop) (read rest : List String) :
    Prop where
  reads : ∃ s, Reads go filter s read ∧ s'.rangeMatchedCount = s.rangeMatchedCount ∧
    s'.filterMatchedCount = s.filterMatchedCount ∧ s'.total = s.total ∧ s'.frames = s.frames ∧
    s'.lastLogTimestamp = s.lastLogTimestamp
  rawLineCount : s'.rawLineCount = 0 ↔ read ++ rest = []
  parseableCount :
    s'.parseableCount = 0 ↔ ∀ line ∈ read ++ rest, parseLogLineTimestamp line = none

theorem Reads.ends {lines : List String} (h : Reads go filter s lines) :
    Ends go filter s lines [] where
  reads := ⟨s, h, rfl, rfl, rfl, rfl, rfl⟩
  rawLineCount := by rw [h.rawLineCount, List.length_eq_zero_iff, List.append_nil]
  parseableCount := by
    rw [h.parseableCount, List.countP_eq_zero, List.append_nil]
    simp only [Bool.not_eq_true, Option.isSome_eq_false_iff, Option.isNone_iff_eq_none]

theorem logLines_cons (text : String) (texts : List String) :
    logLines (text :: texts) =
      if trimRight text = "" then logLines texts else trimRight text :: logLines texts := by
  rw [logLines, List.map_cons, List.filter_cons]
  by_cases hempty : trimRight text = ""
  · rw [if_pos hempty, if_neg (by simp [hempty])]
    rfl
  · rw [if_neg hempty, if_pos (by simp [hempty])]
    rfl

theorem readLines_ends {lines : List String} (h : Reads go filter s lines) {texts : List String}
    (hformat : FormatsTimes go (lines ++ logLines texts)) :
    Ends go filter (readLines go filter s texts) (lines ++ filter.before (logLines texts))
      (filter.after (logLines texts)) := by
  induction texts generalizing s lines with
  | nil =>
      rw [show lines ++ filter.before (logLines []) = lines from List.append_nil lines]
      exact h.ends
  | cons text texts ih =>
      rw [logLines_cons] at hformat ⊢
      rw [readLines]
      by_cases hempty : trimRight text = ""
      · have hread : readLine go filter s (trimRight text) = (s, true) := by
          rw [readLine, if_pos hempty]
        rw [if_pos hempty] at hformat ⊢
        rw [hread]
        exact ih h hformat
      · rw [if_neg hempty] at hformat ⊢
        cases hstop : filter.stopsAt (trimRight text) with
        | false =>
            have hread : FormatsTimes go lines := fun line hline =>
              hformat line (List.mem_append_left _ hline)
            obtain ⟨s', hread, hs'⟩ := h.step hread hempty hstop
            have hbefore : filter.before (trimRight text :: logLines texts) =
                trimRight text :: filter.before (logLines texts) := by
              rw [LogFilter.before, List.takeWhile_cons_of_pos (by rw [hstop]; rfl)]
              rfl
            have hafter : filter.after (trimRight text :: logLines texts) =
                filter.after (logLines texts) := by
              rw [LogFilter.after, List.dropWhile_cons_of_pos (by rw [hstop]; rfl)]
              rfl
            rw [List.append_cons] at hformat
            rw [hread, hbefore, hafter, List.append_cons]
            exact ih hs' hformat
        | true =>
            obtain ⟨s', hread, hraw, hparseable, hrest⟩ := h.stop hempty hstop
            have hbefore : filter.before (trimRight text :: logLines texts) = [] := by
              rw [LogFilter.before, List.takeWhile_cons_of_neg (by rw [hstop]; decide)]
            have hafter : filter.after (trimRight text :: logLines texts) =
                trimRight text :: logLines texts := by
              rw [LogFilter.after, List.dropWhile_cons_of_neg (by rw [hstop]; decide)]
            rw [hread, hbefore, hafter, List.append_nil]
            show Ends go filter s' lines (trimRight text :: logLines texts)
            refine ⟨⟨s, h, hrest⟩, ?_, ?_⟩
            · refine iff_of_false (by omega) ?_
              exact List.append_ne_nil_of_right_ne_nil _ (List.cons_ne_nil _ _)
            · refine iff_of_false (by omega) ?_
              intro hnone
              have htime := isSome_of_stopsAt hstop
              rw [hnone _ (List.mem_append_right _ List.mem_cons_self)] at htime
              cases htime

/-! ## When the stream is exact -/

section Exact

variable {lines : List String}

theorem after_eq_nil (h : filter.isAbsolute = false) : filter.after lines = [] := by
  rw [LogFilter.isAbsolute, Bool.or_eq_false_iff] at h
  have huntil : filter.untilTime = none := by
    cases hlast : filter.untilTime with
    | none => rfl
    | some last =>
        rw [hlast] at h
        cases h.2
  rw [LogFilter.after, List.dropWhile_eq_nil_iff]
  intro line _
  rw [LogFilter.stopsAt, LogFilter.isLate, huntil]
  simp

theorem inRange_eq_false (habsolute : filter.isAbsolute = true)
    (hnone : parseLogLineTimestamp line = none) : filter.inRange line = false := by
  unfold LogFilter.inRange
  rw [hnone, habsolute]
  rfl

theorem any_wants_eq : lines.any (filter.wants go) = true ↔
    lines.filter (filter.wants go) ≠ [] := by
  rw [Ne, List.filter_eq_nil_iff, List.any_eq_true]
  simp

theorem mem_of_mem_before (h : line ∈ filter.before lines) : line ∈ lines := by
  rw [← @before_append_after filter lines]
  exact List.mem_append_left _ h

theorem mem_of_mem_after (h : line ∈ filter.after lines) : line ∈ lines := by
  rw [← @before_append_after filter lines]
  exact List.mem_append_right _ h

theorem all_out_iff : (lines.all fun line => !filter.inRange line) = true ↔
    (∀ line ∈ filter.before lines, filter.inRange line = false) ∧ ¬OnlyLate filter lines := by
  rw [List.all_eq_true]
  simp only [Bool.not_eq_true']
  constructor
  · intro hall
    refine ⟨fun line hline => hall line (mem_of_mem_before hline), ?_⟩
    rintro ⟨⟨line, hline, hin⟩, -⟩
    rw [hall line (mem_of_mem_after hline)] at hin
    cases hin
  · rintro ⟨hbefore, hlate⟩ line hline
    rw [← @before_append_after filter lines, List.mem_append] at hline
    obtain hline | hline := hline
    · exact hbefore line hline
    · rw [← Bool.not_eq_true]
      exact fun hin => hlate ⟨⟨line, hline, hin⟩, hbefore⟩

theorem absoluteReason_iff (hends : Ends go filter s (filter.before lines) (filter.after lines))
    (htotal : s.filterMatchedCount = 0) (habsolute : filter.isAbsolute = true) :
    (if s.parseableCount = 0 then "NO_PARSEABLE_TIMESTAMPS"
      else if s.rangeMatchedCount = 0 then "TIME_RANGE_NO_MATCH"
      else if s.filterMatchedCount = 0 then "FILTER_NO_MATCH"
      else "NO_LOG_LINES") =
    (if (lines.all fun line => (parseLogLineTimestamp line).isNone) = true then
        "NO_PARSEABLE_TIMESTAMPS"
      else if (lines.all fun line => !filter.inRange line) = true then "TIME_RANGE_NO_MATCH"
      else "FILTER_NO_MATCH") ↔ ¬OnlyLate filter lines := by
  obtain ⟨s₀, hreads, hrange, -⟩ := hends.reads
  have hparseable := hends.parseableCount
  rw [before_append_after] at hparseable
  have hbefore : s.rangeMatchedCount = 0 ↔
      ∀ line ∈ filter.before lines, filter.inRange line = false := by
    rw [hrange, hreads.rangeMatchedCount, List.countP_eq_zero]
    simp only [Bool.not_eq_true]
  have huntimed : (lines.all fun line => (parseLogLineTimestamp line).isNone) = true ↔
      ∀ line ∈ lines, parseLogLineTimestamp line = none := by
    rw [List.all_eq_true]
    simp only [Option.isNone_iff_eq_none]
  rw [if_congr hparseable rfl rfl, if_congr huntimed rfl rfl, if_congr hbefore rfl rfl, if_pos htotal]
  by_cases hnone : ∀ line ∈ lines, parseLogLineTimestamp line = none
  · rw [if_pos hnone, if_pos hnone]
    refine iff_of_true rfl ?_
    rintro ⟨⟨line, hline, hin⟩, -⟩
    rw [inRange_eq_false habsolute (hnone line (mem_of_mem_after hline))] at hin
    cases hin
  · rw [if_neg hnone, if_neg hnone]
    by_cases hout : ∀ line ∈ filter.before lines, filter.inRange line = false
    · rw [if_pos hout]
      by_cases hlate : OnlyLate filter lines
      · rw [if_neg fun h => (all_out_iff.mp h).2 hlate]
        exact iff_of_false (by decide) fun h => h hlate
      · rw [if_pos (all_out_iff.mpr ⟨hout, hlate⟩)]
        exact iff_of_true rfl hlate
    · rw [if_neg hout, if_neg fun h => hout (all_out_iff.mp h).1]
      exact iff_of_true rfl fun h => hout h.2

theorem emptyReason_iff (hends : Ends go filter s (filter.before lines) (filter.after lines))
    (hframes : s.frames = lines.filter (filter.wants go)) :
    (finish filter s).emptyReason = emptyReasonOf go filter lines ↔
      ((∀ line ∈ lines, filter.wants go line = false) → ¬OnlyLate filter lines) := by
  obtain ⟨s₀, hreads, -, hmatched, htotal, hsame, -⟩ := hends.reads
  have hcount : s.total = s.frames.length := by rw [htotal, hsame, hreads.total]
  have hfilter : s.filterMatchedCount = s.total := by rw [hmatched, htotal, hreads.filterMatchedCount]
  have hraw := hends.rawLineCount
  rw [before_append_after] at hraw
  show resolveLogStreamEmptyReason _ _ _ _ _ _ = _ ↔ _
  unfold resolveLogStreamEmptyReason emptyReasonOf
  by_cases hwanted : lines.any (filter.wants go) = true
  · have hpos : 0 < s.total := by
      rw [hcount, hframes]
      exact List.length_pos_iff.mpr (any_wants_eq.mp hwanted)
    rw [if_pos hpos, if_pos hwanted]
    refine iff_of_true rfl ?_
    intro hnone
    obtain ⟨line, hline, hwants⟩ := List.any_eq_true.mp hwanted
    rw [hnone line hline] at hwants
    cases hwants
  · have hzero : s.total = 0 := by
      rw [hcount, hframes, List.length_eq_zero_iff]
      by_contra hne
      exact hwanted (any_wants_eq.mpr hne)
    have hunwanted : ∀ line ∈ lines, filter.wants go line = false := by
      intro line hline
      rw [Bool.not_eq_true, List.any_eq_false] at hwanted
      exact Bool.eq_false_iff.mpr (hwanted line hline)
    rw [if_neg (by omega), if_neg hwanted]
    by_cases hempty : lines = []
    · rw [if_pos (hraw.mpr hempty), if_pos (List.isEmpty_iff.mpr hempty)]
      refine iff_of_true rfl ?_
      rintro - ⟨⟨line, hline, -⟩, -⟩
      rw [hempty] at hline
      exact absurd hline List.not_mem_nil
    · rw [if_neg (mt hraw.mp hempty), if_neg (mt List.isEmpty_iff.mp hempty)]
      cases habsolute : filter.isAbsolute with
      | false =>
          simp only [Bool.false_and, Bool.false_eq_true, if_false]
          rw [if_pos (hfilter.trans hzero)]
          refine iff_of_true rfl ?_
          rintro - ⟨⟨line, hline, -⟩, -⟩
          rw [after_eq_nil habsolute] at hline
          exact absurd hline List.not_mem_nil
      | true =>
          simp only [Bool.true_and, decide_eq_true_eq]
          rw [absoluteReason_iff hends (hfilter.trans hzero) habsolute]
          exact ⟨fun h _ => h, fun h => h hunwanted⟩

theorem exact_iff {texts : List String} (hformat : FormatsTimes go (logLines texts)) :
    (finish filter (readLines go filter .start texts)).Exact go filter texts ↔
      InOrder go filter (logLines texts) := by
  have hends : Ends go filter (readLines go filter .start texts)
      ([] ++ filter.before (logLines texts)) (filter.after (logLines texts)) :=
    readLines_ends Reads.start hformat
  rw [List.nil_append] at hends
  generalize hlines : logLines texts = lines at hends
  generalize readLines go filter .start texts = s at hends
  obtain ⟨s₀, hreads, -, -, htotal, hsame, hlast⟩ := hends.reads
  have hwanted : lines.filter (filter.wants go) =
      (filter.before lines).filter (filter.wants go) ++
        (filter.after lines).filter (filter.wants go) := by
    rw [← List.filter_append, before_append_after]
  have hframes : s.frames = (filter.before lines).filter (filter.keeps go) := by
    rw [hsame, hreads.frames]
  constructor
  · intro h
    have hequal : (filter.before lines).filter (filter.keeps go) = lines.filter (filter.wants go) := by
      rw [← hframes, ← hlines]
      exact h.frames
    have hsplit : ∀ line ∈ filter.before lines, filter.keeps go line = filter.wants go line := by
      intro line hline
      rw [Bool.eq_iff_iff]
      constructor
      · intro hkeeps
        have hmem : line ∈ lines.filter (filter.wants go) := by
          rw [← hequal]
          exact List.mem_filter.mpr ⟨hline, hkeeps⟩
        exact (List.mem_filter.mp hmem).2
      · intro hwants
        have hmem : line ∈ (filter.before lines).filter (filter.keeps go) := by
          rw [hequal]
          exact List.mem_filter.mpr ⟨mem_of_mem_before hline, hwants⟩
        exact (List.mem_filter.mp hmem).2
    refine ⟨?_, ?_, ?_⟩
    · intro line hline hin
      have hsame := hsplit line hline
      rw [LogFilter.keeps, LogFilter.wants, hin, Bool.true_and, Bool.true_and] at hsame
      exact hsame
    · rw [List.filter_congr hsplit, hwanted, List.self_eq_append_right, List.filter_eq_nil_iff] at hequal
      intro line hline
      exact Bool.eq_false_iff.mpr (hequal line hline)
    · have hreason := h.emptyReason
      rw [hlines, emptyReason_iff hends (hframes.trans hequal)] at hreason
      exact hreason
  · intro h
    have hequal : s.frames = lines.filter (filter.wants go) := by
      have hafter : (filter.after lines).filter (filter.wants go) = [] := by
        rw [List.filter_eq_nil_iff]
        intro line hline
        rw [h.ordered line hline]
        exact Bool.false_ne_true
      rw [hframes, hwanted, hafter, List.append_nil]
      apply List.filter_congr
      intro line hline
      cases hin : filter.inRange line with
      | false => rw [LogFilter.keeps, LogFilter.wants, hin, Bool.false_and, Bool.false_and]
      | true =>
          rw [LogFilter.keeps, LogFilter.wants, hin, Bool.true_and, Bool.true_and]
          exact h.split line hline hin
    refine ⟨?_, ?_, ?_, ?_⟩
    · rw [hlines]
      exact hequal
    · show s.total = s.frames.length
      rw [htotal, hsame, hreads.total]
    · show IsLastTimestamp go s.frames s.lastLogTimestamp
      rw [hsame, hlast]
      exact hreads.lastLogTimestamp
    · rw [hlines, emptyReason_iff hends hequal]
      exact h.reason

end Exact

/-- The log frames are the lines that are wanted, and the last frame describes them, if and only if
no wanted line follows one that is too late and the messages are split from the times where these
end. -/
theorem streamPodLogs_exact_iff (go : GoPackages) {container : String} {previous : Bool}
    {options : Option LogStreamOptions} {request : PodLogOptions} {untilTime : Option Int}
    {lines : List String} {result : LogStreamResult}
    (hformat : FormatsTimes go (logLines lines))
    (hrequest : podLogOptions container previous options = .ok (request, untilTime))
    (hresult : streamPodLogs go container previous options lines = .ok result) :
    result.Exact go ⟨request.sinceTime, untilTime, options⟩ lines ↔
      InOrder go ⟨request.sinceTime, untilTime, options⟩ (logLines lines) := by
  rw [streamPodLogs, hrequest] at hresult
  cases hresult
  exact exact_iff hformat

def newYear (second : Nat) : Rfc3339 := ⟨2024, 1, 1, 0, 0, second, [], false, 0, 0⟩

def sampleGo : GoPackages where
  toLower := Text.toLower
  toUpper text := String.ofList (text.toList.map Char.toUpper)
  format t := if t.second < 10 then "2024-01-01T00:00:0" ++ toString t.second ++ "Z" else ""

def sampleLine (second : Nat) : String :=
  "2024-01-01T00:00:0" ++ toString second ++ "Z " ++ toString second

def sampleOptions (keyword untilTime : String) : LogStreamOptions where
  level := ""
  keyword := keyword
  tailLines := 0
  sinceSeconds := 0
  sinceTime := ""
  untilTime := untilTime
  follow := none
  previous := none
  timestamps := none

def sampleRequest : PodLogOptions := ⟨"app", false, true, false, none, none, none⟩

theorem sampleLines_exact :
    LogStreamResult.Exact sampleGo
      ⟨none, some (newYear 5).instant, some (sampleOptions "" "2024-01-01T00:00:05Z")⟩
      [sampleLine 0, sampleLine 9]
      ⟨[sampleLine 0], 1, "2024-01-01T00:00:00Z", ""⟩ := by
  have hlines : logLines [sampleLine 0, sampleLine 9] = [sampleLine 0, sampleLine 9] := by
    decide +kernel
  have hformat : FormatsTimes sampleGo (logLines [sampleLine 0, sampleLine 9]) := by
    have hfirst : parseLogLineTimestamp (sampleLine 0) = some (newYear 0) := by decide +kernel
    have hlast : parseLogLineTimestamp (sampleLine 9) = some (newYear 9) := by decide +kernel
    rw [hlines]
    intro line hline t ht
    simp only [List.mem_cons, List.not_mem_nil, or_false] at hline
    obtain rfl | rfl := hline
    · rw [hfirst] at ht
      cases ht
      decide +kernel
    · rw [hlast] at ht
      cases ht
      decide +kernel
  have hrequest : podLogOptions "app" false (some (sampleOptions "" "2024-01-01T00:00:05Z")) =
      .ok (sampleRequest, some (newYear 5).instant) := by
    decide +kernel
  have hresult : streamPodLogs sampleGo "app" false
      (some (sampleOptions "" "2024-01-01T00:00:05Z")) [sampleLine 0, sampleLine 9] =
        .ok ⟨[sampleLine 0], 1, "2024-01-01T00:00:00Z", ""⟩ := by
    decide +kernel
  apply (streamPodLogs_exact_iff sampleGo hformat hrequest hresult).mpr
  rw [hlines]
  refine ⟨?_, ?_, ?_⟩
  · decide +kernel
  · decide +kernel
  · intro hunwanted
    have hwants : LogFilter.wants sampleGo ⟨sampleRequest.sinceTime, some (newYear 5).instant,
        some (sampleOptions "" "2024-01-01T00:00:05Z")⟩ (sampleLine 0) = true := by
      decide +kernel
    rw [hunwanted _ List.mem_cons_self] at hwants
    cases hwants

/-- A line in range is lost after one that is too late, and the first word of a line is not searched
for the keyword when the lines come without times. -/
theorem wanted_lines_lost :
    streamPodLogs sampleGo "app" false (some (sampleOptions "" "2024-01-01T00:00:05Z"))
        [sampleLine 0, sampleLine 9, sampleLine 1] =
      .ok ⟨[sampleLine 0], 1, "2024-01-01T00:00:00Z", ""⟩ ∧
    (logLines [sampleLine 0, sampleLine 9, sampleLine 1]).filter (LogFilter.wants sampleGo
        ⟨none, some (newYear 5).instant, some (sampleOptions "" "2024-01-01T00:00:05Z")⟩) =
      [sampleLine 0, sampleLine 1] ∧
    streamPodLogs sampleGo "app" false (some (sampleOptions "get" "")) ["GET /"] =
      .ok ⟨[], 0, "", "FILTER_NO_MATCH"⟩ ∧
    (logLines ["GET /"]).filter (LogFilter.wants sampleGo
        ⟨none, none, some (sampleOptions "get" "")⟩) = ["GET /"] := by
  refine ⟨?_, ?_, ?_, ?_⟩
  · decide +kernel
  · decide +kernel
  · decide +kernel
  · decide +kernel

end KubeNova.Runtime
