import KubeNova.Foundation.UrlReference

/-!
# Where a page returns to

`sanitizeInternalReturnTo` of the login page and `safeEditorReturnTo` of the resource editor, on
the characters of a text: which targets they hand on, where the browser's URL parser takes those,
and when sanitizing a second time changes nothing.
-/

namespace KubeNova.Navigation

open KubeNova.Foundation
open KubeNova.Foundation.UrlReference

/-- `const [first, second = ""] = text.split(c, 2)` -/
def splitTwo (c : Char) (text : List Char) : List Char × List Char :=
  (text.takeWhile (· ≠ c), ((text.dropWhile (· ≠ c)).drop 1).takeWhile (· ≠ c))

def marked (c : Char) (second : List Char) : List Char := if second = [] then [] else c :: second

def isRefused (candidate : List Char) : Bool :=
  candidate.isEmpty || !(['/'].isPrefixOf candidate) || ['/', '/'].isPrefixOf candidate

def sanitizeInternalReturnTo (value : Option (List Char)) : List Char :=
  let candidate := Text.trimChars (value.getD [])
  if isRefused candidate then []
  else
    let (pathAndQuery, hashFragment) := splitTwo '#' candidate
    let (pathname, queryString) := splitTwo '?' pathAndQuery
    if pathname = [] ∨ pathname = ['/'] ∨ ['/', '/'].isPrefixOf pathname then []
    else pathname ++ marked '?' queryString ++ marked '#' hashFragment

def clustersPage : List Char := "/clusters".toList

def safeEditorReturnTo (value : Option (List Char)) : List Char :=
  match value with
  | none => clustersPage
  | some text =>
      if text.isEmpty || !(['/'].isPrefixOf text) || ['/', '/'].isPrefixOf text ||
          text.any (fun c => c == '\\' || c == '\r' || c == '\n') then clustersPage
      else text

section Splitting

variable {c : Char} {first second text : List Char}

theorem splitTwo_eq (c : Char) (text : List Char) :
    (splitTwo c text).1 = text.takeWhile (· ≠ c) := rfl

theorem notMem_splitTwo_fst : c ∉ (splitTwo c text).1 := by
  intro hc
  have hne := List.mem_takeWhile_imp hc
  simp at hne

theorem notMem_splitTwo_snd : c ∉ (splitTwo c text).2 := by
  intro hc
  have hne := List.mem_takeWhile_imp hc
  simp at hne

theorem mem_of_mem_splitTwo_fst {d : Char} (hd : d ∈ (splitTwo c text).1) : d ∈ text :=
  (List.takeWhile_sublist _).subset hd

theorem mem_of_mem_splitTwo_snd {d : Char} (hd : d ∈ (splitTwo c text).2) : d ∈ text := by
  have hrest : d ∈ (text.dropWhile (· ≠ c)).drop 1 := (List.takeWhile_sublist _).subset hd
  exact (List.dropWhile_sublist _).subset ((List.drop_sublist _ _).subset hrest)

theorem takeWhile_ne_of_notMem (h : c ∉ first) : first.takeWhile (· ≠ c) = first := by
  apply List.takeWhile_eq_self_iff.mpr
  intro d hd
  have hne : d ≠ c := by
    rintro rfl
    exact h hd
  simpa using hne

theorem splitTwo_append (hfirst : c ∉ first) (hsecond : c ∉ second) :
    splitTwo c (first ++ marked c second) = (first, second) := by
  have hall : ∀ d ∈ first, decide (d ≠ c) = true := by
    intro d hd
    rw [decide_eq_true_eq]
    rintro rfl
    exact hfirst hd
  have hdrop : first.dropWhile (· ≠ c) = [] := List.dropWhile_eq_nil_iff.mpr hall
  by_cases hempty : second = []
  · rw [marked, if_pos hempty, List.append_nil, splitTwo, takeWhile_ne_of_notMem hfirst, hdrop,
      hempty]
    rfl
  · rw [marked, if_neg hempty, splitTwo, List.takeWhile_append_of_pos hall,
      List.dropWhile_append_of_pos hall]
    simp only [List.takeWhile_cons, List.dropWhile_cons, ne_eq, not_true_eq_false, decide_false,
      Bool.false_eq_true, if_false, List.append_nil, List.drop_succ_cons, List.drop_zero]
    exact congrArg (Prod.mk first) (takeWhile_ne_of_notMem hsecond)

theorem length_splitTwo_le (c : Char) (text : List Char) :
    (splitTwo c text).1.length + (marked c (splitTwo c text).2).length ≤ text.length := by
  have hlength := congrArg List.length (List.takeWhile_append_dropWhile (p := (· ≠ c)) (l := text))
  rw [List.length_append] at hlength
  have hsecond := (List.takeWhile_sublist (· ≠ c)
    (l := (text.dropWhile (· ≠ c)).drop 1)).length_le
  rw [List.length_drop] at hsecond
  simp only [splitTwo]
  by_cases hempty : ((text.dropWhile (· ≠ c)).drop 1).takeWhile (· ≠ c) = []
  · rw [marked, if_pos hempty, List.length_nil]
    omega
  · rw [marked, if_neg hempty, List.length_cons]
    have hpos := List.length_pos_iff.mpr hempty
    omega

end Splitting

/-! ## The parts of a target -/

/-- The path, the query and the fragment that are kept of a trimmed target. -/
def pathOf (candidate : List Char) : List Char := (splitTwo '?' (splitTwo '#' candidate).1).1

def queryOf (candidate : List Char) : List Char := (splitTwo '?' (splitTwo '#' candidate).1).2

def hashOf (candidate : List Char) : List Char := (splitTwo '#' candidate).2

def kept (candidate : List Char) : List Char :=
  pathOf candidate ++ marked '?' (queryOf candidate) ++ marked '#' (hashOf candidate)

/-- A target of which only the root is left is refused as well. -/
def IsRejected (candidate : List Char) : Prop :=
  isRefused candidate = true ∨ pathOf candidate = ['/']

instance : DecidablePred IsRejected := fun _ => inferInstanceAs (Decidable (_ ∨ _))

def lastPart (candidate : List Char) : List Char :=
  if hashOf candidate ≠ [] then hashOf candidate
  else if queryOf candidate ≠ [] then queryOf candidate
  else pathOf candidate

section Parts

variable {candidate rest : List Char}

theorem eq_slash_of_not_refused (h : isRefused candidate = false) :
    ∃ rest, candidate = '/' :: rest ∧ rest.head? ≠ some '/' := by
  simp only [isRefused, Bool.or_eq_false_iff, Bool.not_eq_false'] at h
  obtain ⟨⟨hne, hslash⟩, hdouble⟩ := h
  cases candidate with
  | nil => cases hne
  | cons c rest =>
      simp only [List.isPrefixOf, Bool.and_true, beq_iff_eq] at hslash
      subst hslash
      refine ⟨rest, rfl, ?_⟩
      intro hhead
      cases rest with
      | nil => cases hhead
      | cons d rest =>
          cases hhead
          cases hdouble

theorem splitTwo_fst_cons {c d : Char} (hne : d ≠ c) (rest : List Char) :
    (splitTwo c (d :: rest)).1 = d :: (splitTwo c rest).1 := by
  rw [splitTwo_eq, splitTwo_eq, List.takeWhile_cons_of_pos (by simpa using hne)]

theorem pathOf_slash (rest : List Char) : pathOf ('/' :: rest) = '/' :: pathOf rest := by
  have hhash : '/' ≠ '#' := by decide
  have hquery : '/' ≠ '?' := by decide
  rw [pathOf, splitTwo_fst_cons hhash, splitTwo_fst_cons hquery, pathOf]

theorem exists_pathOf_append (rest : List Char) :
    ∃ tail, rest = pathOf rest ++ tail ∧ ∀ c ∈ tail.head?, c = '?' ∨ c = '#' := by
  refine ⟨(rest.takeWhile (· ≠ '#')).dropWhile (· ≠ '?') ++ rest.dropWhile (· ≠ '#'), ?_, ?_⟩
  · rw [pathOf, splitTwo_eq, splitTwo_eq, ← List.append_assoc, List.takeWhile_append_dropWhile,
      List.takeWhile_append_dropWhile]
  · intro c hc
    rw [List.head?_append] at hc
    cases hquery : ((rest.takeWhile (· ≠ '#')).dropWhile (· ≠ '?')).head? with
    | some d =>
        have hhead := List.head?_dropWhile_not (fun c => decide (c ≠ '?'))
          (rest.takeWhile (· ≠ '#'))
        rw [hquery] at hhead hc
        have hsame : d = c := by simpa using hc
        rw [← hsame]
        exact Or.inl (by simpa using hhead)
    | none =>
        have hhead := List.head?_dropWhile_not (fun c => decide (c ≠ '#')) rest
        rw [hquery, Option.none_or] at hc
        rw [Option.mem_def.mp hc] at hhead
        exact Or.inr (by simpa using hhead)

theorem head?_marked_append {c : Char} {second more : List Char}
    (hmore : ∀ d ∈ more.head?, d = '?' ∨ d = '#') (hc : c = '?' ∨ c = '#') :
    ∀ d ∈ (marked c second ++ more).head?, d = '?' ∨ d = '#' := by
  intro d hd
  by_cases hempty : second = []
  · rw [marked, if_pos hempty, List.nil_append] at hd
    exact hmore d hd
  · rw [marked, if_neg hempty] at hd
    have hsame : c = d := by simpa using hd
    rw [← hsame]
    exact hc

theorem head?_marks (query hash : List Char) :
    ∀ d ∈ (marked '?' query ++ (marked '#' hash ++ [])).head?, d = '?' ∨ d = '#' := by
  have hend : ∀ d ∈ ([] : List Char).head?, d = '?' ∨ d = '#' := by
    intro d hd
    cases hd
  exact head?_marked_append (head?_marked_append hend (Or.inr rfl)) (Or.inl rfl)

theorem sanitizeInternalReturnTo_eq (value : Option (List Char)) :
    sanitizeInternalReturnTo value =
      if IsRejected (Text.trimChars (value.getD [])) then []
      else kept (Text.trimChars (value.getD [])) := by
  rw [sanitizeInternalReturnTo]
  generalize Text.trimChars (value.getD []) = candidate
  by_cases hrefused : isRefused candidate = true
  · have hrejected : IsRejected candidate := Or.inl hrefused
    rw [if_pos hrefused, if_pos hrejected]
  · obtain ⟨rest, rfl, hhead⟩ := eq_slash_of_not_refused (Bool.eq_false_iff.mpr hrefused)
    have hpath : (splitTwo '?' (splitTwo '#' ('/' :: rest)).1).1 = '/' :: pathOf rest :=
      pathOf_slash rest
    have hdouble : ¬['/', '/'].isPrefixOf ('/' :: pathOf rest) = true := by
      obtain ⟨tail, hrest, -⟩ := exists_pathOf_append rest
      cases hpathOf : pathOf rest with
      | nil => exact Bool.false_ne_true
      | cons d more =>
          rw [hpathOf] at hrest
          rw [hrest] at hhead
          have hne : '/' ≠ d := by
            rintro rfl
            exact hhead rfl
          simpa [List.isPrefixOf] using hne
    rw [if_neg hrefused]
    dsimp only
    rw [hpath]
    by_cases hroot : '/' :: pathOf rest = ['/']
    · have hrejected : IsRejected ('/' :: rest) := Or.inr ((pathOf_slash rest).trans hroot)
      rw [if_pos (Or.inr (Or.inl hroot)), if_pos hrejected]
    · have hnot : ¬IsRejected ('/' :: rest) := by
        rintro (h | h)
        · exact hrefused h
        · exact hroot ((pathOf_slash rest).symm.trans h)
      have hgo : ¬('/' :: pathOf rest = [] ∨ '/' :: pathOf rest = ['/'] ∨
          ['/', '/'].isPrefixOf ('/' :: pathOf rest) = true) := by
        rintro (h | h | h)
        · cases h
        · exact hroot h
        · exact hdouble h
      rw [if_neg hgo, if_neg hnot, kept, pathOf_slash]
      rfl

end Parts

section Resolving

variable {parser : Parser} {candidate rest xs ys : List Char}

theorem find?_of_marks (hys : ∀ c ∈ ys.head?, c = '?' ∨ c = '#') :
    (ys.find? fun c => !isTabOrNewline c).any UrlPath.isSlash = false := by
  cases ys with
  | nil => rfl
  | cons c ys =>
      rcases hys c rfl with rfl | rfl
      · rfl
      · rfl

theorem opensAuthority_append (hys : ∀ c ∈ ys.head?, c = '?' ∨ c = '#') :
    opensAuthority (xs ++ ys) = opensAuthority xs := by
  rw [opensAuthority, opensAuthority, List.find?_append]
  cases hfind : xs.find? fun c => !isTabOrNewline c with
  | some c => rfl
  | none =>
      rw [Option.none_or, find?_of_marks hys]
      rfl

theorem opensAuthority_pathOf (rest : List Char) :
    opensAuthority (pathOf rest) = opensAuthority rest := by
  obtain ⟨tail, hrest, hmarks⟩ := exists_pathOf_append rest
  have happend : opensAuthority (pathOf rest ++ tail) = opensAuthority (pathOf rest) :=
    opensAuthority_append hmarks
  rw [← hrest] at happend
  exact happend.symm

theorem kept_slash (rest : List Char) : ∃ more, kept ('/' :: rest) = '/' :: more ∧
    opensAuthority more = opensAuthority rest ∧
    (more.head? = some '/' → rest.head? = some '/') := by
  refine ⟨pathOf rest ++ (marked '?' (queryOf ('/' :: rest)) ++
    (marked '#' (hashOf ('/' :: rest)) ++ [])), ?_, ?_, ?_⟩
  · rw [kept, pathOf_slash, List.append_nil, List.append_assoc]
    rfl
  · rw [opensAuthority_append (head?_marks _ _), opensAuthority_pathOf]
  · intro hmore
    obtain ⟨tail, hrest, -⟩ := exists_pathOf_append rest
    rw [hrest]
    cases hpath : pathOf rest with
    | nil =>
        rw [hpath, List.nil_append] at hmore
        rcases head?_marks _ _ _ hmore with h | h
        · cases h
        · cases h
    | cons d path =>
        rw [hpath] at hmore
        exact hmore

theorem resolve_sanitized_iff (parser : Parser) (value : Option (List Char)) :
    (∀ base : Base parser,
        resolve parser base (sanitizeInternalReturnTo value) = some base.toOrigin) ↔
      IsRejected (Text.trimChars (value.getD [])) ∨
        opensAuthority (Text.trimChars (value.getD [])).tail = false := by
  rw [sanitizeInternalReturnTo_eq]
  generalize Text.trimChars (value.getD []) = candidate
  by_cases hrejected : IsRejected candidate
  · rw [if_pos hrejected]
    exact ⟨fun _ => Or.inl hrejected, fun _ base => resolve_nil parser base⟩
  · have haccepted : isRefused candidate = false := by
      rw [Bool.eq_false_iff]
      exact fun h => hrejected (Or.inl h)
    obtain ⟨rest, rfl, -⟩ := eq_slash_of_not_refused haccepted
    obtain ⟨more, hmore, hopens, -⟩ := kept_slash rest
    rw [if_neg hrejected, hmore, resolve_slash_iff, hopens, List.tail_cons]
    exact ⟨Or.inr, fun h => h.resolve_left hrejected⟩

def isEditorTarget (text : List Char) : Bool :=
  ['/'].isPrefixOf text && !(['/', '/'].isPrefixOf text) &&
    !(text.any fun c => c == '\\' || c == '\r' || c == '\n')

theorem safeEditorReturnTo_eq (value : Option (List Char)) :
    safeEditorReturnTo value =
      if isEditorTarget (value.getD []) then value.getD [] else clustersPage := by
  cases value with
  | none => rfl
  | some text =>
      cases text with
      | nil => rfl
      | cons c rest =>
          rw [safeEditorReturnTo, Option.getD_some, isEditorTarget, List.isEmpty_cons,
            Bool.false_or]
          cases ['/'].isPrefixOf (c :: rest) with
          | false => rfl
          | true =>
              cases ['/', '/'].isPrefixOf (c :: rest) with
              | true => rfl
              | false =>
                  cases (c :: rest).any fun c => c == '\\' || c == '\r' || c == '\n' with
                  | true => rfl
                  | false => rfl

theorem resolve_editor_iff (parser : Parser) (value : Option (List Char)) :
    (∀ base : Base parser,
        resolve parser base (safeEditorReturnTo value) = some base.toOrigin) ↔
      (isEditorTarget (value.getD []) = true → opensAuthority (value.getD []).tail = false) := by
  rw [safeEditorReturnTo_eq]
  generalize value.getD [] = text
  by_cases htarget : isEditorTarget text = true
  · rw [if_pos htarget]
    cases text with
    | nil => exact absurd htarget Bool.false_ne_true
    | cons c rest =>
        have hslash : '/' = c := by
          have hparts := htarget
          rw [isEditorTarget, Bool.and_eq_true, Bool.and_eq_true] at hparts
          simpa [List.isPrefixOf] using hparts.1.1
        subst hslash
        rw [resolve_slash_iff, List.tail_cons]
        exact ⟨fun h _ => h, fun h => h htarget⟩
  · rw [if_neg htarget]
    refine ⟨fun _ h => absurd h htarget, ?_⟩
    intro _
    have hclusters : clustersPage = '/' :: "clusters".toList := by decide
    rw [hclusters, resolve_slash_iff]
    decide

end Resolving

/-! ## Sanitizing twice -/

section Idempotence

variable {candidate rest : List Char}

theorem mem_marked {c d : Char} {second : List Char} (hd : d ∈ marked c second) :
    d = c ∨ d ∈ second := by
  rw [marked] at hd
  split at hd
  · cases hd
  · exact List.mem_cons.mp hd

theorem getLast?_append_marked {c : Char} {first second : List Char} :
    (first ++ marked c second).getLast? = if second ≠ [] then second.getLast? else first.getLast? := by
  by_cases hempty : second = []
  · rw [marked, if_pos hempty, List.append_nil, if_neg (by simpa using hempty)]
  · rw [marked, if_neg hempty, if_pos hempty, List.getLast?_append,
      List.getLast?_cons_of_ne_nil hempty, List.getLast?_eq_some_getLast hempty, Option.some_or]

theorem getLast?_kept (candidate : List Char) :
    (kept candidate).getLast? = (lastPart candidate).getLast? := by
  rw [kept, getLast?_append_marked, getLast?_append_marked, lastPart]
  split
  · rfl
  · split
    · rfl
    · rfl

theorem parts_kept (candidate : List Char) : pathOf (kept candidate) = pathOf candidate ∧
    queryOf (kept candidate) = queryOf candidate ∧ hashOf (kept candidate) = hashOf candidate := by
  have hhash : '#' ∉ pathOf candidate ++ marked '?' (queryOf candidate) := by
    intro h
    rcases List.mem_append.mp h with h | h
    · exact notMem_splitTwo_fst (mem_of_mem_splitTwo_fst h)
    · rcases mem_marked h with h | h
      · cases h
      · exact notMem_splitTwo_fst (mem_of_mem_splitTwo_snd h)
  have houter : splitTwo '#' (kept candidate) =
      (pathOf candidate ++ marked '?' (queryOf candidate), hashOf candidate) :=
    splitTwo_append hhash notMem_splitTwo_snd
  have hinner : splitTwo '?' (pathOf candidate ++ marked '?' (queryOf candidate)) =
      (pathOf candidate, queryOf candidate) :=
    splitTwo_append notMem_splitTwo_fst notMem_splitTwo_snd
  refine ⟨?_, ?_, ?_⟩
  · rw [pathOf, houter, hinner]
  · rw [queryOf, houter, hinner]
  · rw [hashOf, houter]

theorem kept_kept (candidate : List Char) : kept (kept candidate) = kept candidate := by
  obtain ⟨hpath, hquery, hhash⟩ := parts_kept candidate
  rw [kept, hpath, hquery, hhash, kept]

theorem length_kept_le (candidate : List Char) : (kept candidate).length ≤ candidate.length := by
  have houter := length_splitTwo_le '#' candidate
  have hinner := length_splitTwo_le '?' (splitTwo '#' candidate).1
  rw [kept, List.length_append, List.length_append, pathOf, queryOf, hashOf]
  omega

theorem trimChars_slash_iff (rest : List Char) :
    Text.trimChars ('/' :: rest) = '/' :: rest ↔
      ('/' :: rest).getLast?.any Text.isSpace = false := by
  have hslash : Text.isSpace '/' = false := by decide
  have hfront : ('/' :: rest).dropWhile Text.isSpace = '/' :: rest := by
    rw [List.dropWhile_cons_of_neg]
    rw [hslash]
    exact Bool.false_ne_true
  rw [Text.trimChars, hfront, List.reverse_eq_iff, ← List.head?_reverse]
  generalize ('/' :: rest).reverse = xs
  cases xs with
  | nil => exact ⟨fun _ => rfl, fun _ => rfl⟩
  | cons c xs =>
      rw [List.head?_cons, Option.any_some]
      cases hspace : Text.isSpace c with
      | false =>
          refine ⟨fun _ => rfl, fun _ => ?_⟩
          rw [List.dropWhile_cons_of_neg]
          rw [hspace]
          exact Bool.false_ne_true
      | true =>
          refine ⟨?_, fun h => absurd h.symm Bool.false_ne_true⟩
          intro hsame
          rw [List.dropWhile_cons_of_pos hspace] at hsame
          have hlength := (List.dropWhile_sublist Text.isSpace (l := xs)).length_le
          rw [hsame, List.length_cons] at hlength
          omega

theorem length_trimChars_le (text : List Char) :
    (Text.trimChars text).length ≤ text.length := by
  have hback := (List.dropWhile_sublist Text.isSpace
    (l := (text.dropWhile Text.isSpace).reverse)).length_le
  have hfront := (List.dropWhile_sublist Text.isSpace (l := text)).length_le
  rw [List.length_reverse] at hback
  rw [Text.trimChars, List.length_reverse]
  omega

theorem not_refused_of_slash (h : rest.head? ≠ some '/') : isRefused ('/' :: rest) = false := by
  cases rest with
  | nil => rfl
  | cons c rest =>
      have hne : '/' ≠ c := by
        rintro rfl
        exact h rfl
      simpa [isRefused, List.isPrefixOf] using hne

theorem not_isRejected_kept (hcandidate : ¬IsRejected candidate) :
    ∃ more, kept candidate = '/' :: more ∧ ¬IsRejected (kept candidate) := by
  have haccepted : isRefused candidate = false := by
    rw [Bool.eq_false_iff]
    exact fun h => hcandidate (Or.inl h)
  obtain ⟨rest, rfl, hhead⟩ := eq_slash_of_not_refused haccepted
  obtain ⟨more, hmore, -, hslash⟩ := kept_slash rest
  refine ⟨more, hmore, ?_⟩
  rintro (h | h)
  · rw [hmore, not_refused_of_slash fun hm => hhead (hslash hm)] at h
    cases h
  · rw [(parts_kept _).1] at h
    exact hcandidate (Or.inr h)

theorem sanitize_sanitize_iff (value : Option (List Char)) :
    sanitizeInternalReturnTo (some (sanitizeInternalReturnTo value)) =
        sanitizeInternalReturnTo value ↔
      IsRejected (Text.trimChars (value.getD [])) ∨
        (lastPart (Text.trimChars (value.getD []))).getLast?.any Text.isSpace = false := by
  rw [sanitizeInternalReturnTo_eq value]
  generalize Text.trimChars (value.getD []) = candidate
  by_cases hrejected : IsRejected candidate
  · rw [if_pos hrejected]
    exact ⟨fun _ => Or.inl hrejected, fun _ => rfl⟩
  · obtain ⟨more, hmore, haccepted⟩ := not_isRejected_kept hrejected
    rw [if_neg hrejected, sanitizeInternalReturnTo_eq, Option.getD_some, ← getLast?_kept, hmore,
      ← trimChars_slash_iff, ← hmore]
    constructor
    · intro hsame
      refine Or.inr ?_
      -- nothing that was trimmed comes back
      by_contra htrim
      have hshort : (Text.trimChars (kept candidate)).length < (kept candidate).length := by
        have hle := length_trimChars_le (kept candidate)
        rcases Nat.lt_or_ge (Text.trimChars (kept candidate)).length (kept candidate).length with
          h | h
        · exact h
        · exact absurd (trimBoth_eq_self_of_length h) htrim
      by_cases hagain : IsRejected (Text.trimChars (kept candidate))
      · rw [if_pos hagain, hmore] at hsame
        cases hsame
      · rw [if_neg hagain] at hsame
        have hle := length_kept_le (Text.trimChars (kept candidate))
        rw [hsame] at hle
        omega
    · rintro (h | htrim)
      · exact absurd h hrejected
      · rw [htrim, if_neg haccepted, kept_kept]

end Idempotence

/-- Both filters keep the browser at the origin of the page, and sanitizing twice is sanitizing
once, exactly where: what the parser sees behind the opening slash of an accepted target is no
second slash, and the part that is kept last does not end in white space. -/
theorem returnTargets_iff (parser : Parser) (value : Option (List Char)) :
    ((∀ base : Base parser,
        resolve parser base (sanitizeInternalReturnTo value) = some base.toOrigin) ↔
      IsRejected (Text.trimChars (value.getD [])) ∨
        opensAuthority (Text.trimChars (value.getD [])).tail = false) ∧
    ((∀ base : Base parser,
        resolve parser base (safeEditorReturnTo value) = some base.toOrigin) ↔
      (isEditorTarget (value.getD []) = true → opensAuthority (value.getD []).tail = false)) ∧
    (sanitizeInternalReturnTo (some (sanitizeInternalReturnTo value)) =
        sanitizeInternalReturnTo value ↔
      IsRejected (Text.trimChars (value.getD [])) ∨
        (lastPart (Text.trimChars (value.getD []))).getLast?.any Text.isSpace = false) := by
  refine ⟨?_, ?_, ?_⟩
  · exact resolve_sanitized_iff parser value
  · exact resolve_editor_iff parser value
  · exact sanitize_sanitize_iff value

def plainNames : Parser where
  host := fun text =>
    if text.all (fun c => c.isAlphanum || c == '.' || c == '-') then some (String.ofList text)
    else none
  withScheme := fun _ _ => none
  localhost := by decide

/-- A backslash leads away from the login page, a tab before a second slash from the editor, and a
blank before a lone fragment mark is trimmed the second time only. -/
theorem leaves_origin :
    (∃ base : Base plainNames,
      resolve plainNames base (sanitizeInternalReturnTo (some "/\\evil.example".toList)) =
        some ⟨"evil.example", none⟩ ∧ base.toOrigin = ⟨"localhost", none⟩) ∧
    (∃ base : Base plainNames,
      resolve plainNames base (safeEditorReturnTo (some "/\t/evil.example".toList)) =
        some ⟨"evil.example", none⟩ ∧ base.toOrigin = ⟨"localhost", none⟩) ∧
    sanitizeInternalReturnTo (some "/a #".toList) = "/a ".toList ∧
    sanitizeInternalReturnTo (some "/a ".toList) = "/a".toList := by
  refine ⟨⟨Base.localhost plainNames, ?_, rfl⟩, ⟨Base.localhost plainNames, ?_, rfl⟩, ?_, ?_⟩
  · decide
  · decide
  · decide
  · decide

end KubeNova.Navigation
