import KubeNova.Editor.DraftMerge

/-!
# When the rebase is a merge

The rebase reads and writes the latest version along the paths the user changed.  Where the server
has left no object on the way, what the rebase reads there is nothing, and what it writes replaces
what the server has put there.
-/

namespace KubeNova.Editor

open KubeNova.Foundation KubeNova.Foundation.Json
open KubeNova.Update (canonicalText)
open Found

structure SafeManifest where
  fields : List (String × Js)
  safe : SafeJson (.object fields)

def SafeManifest.js (manifest : SafeManifest) : Js := .object manifest.fields

def SafeManifest.found (manifest : SafeManifest) : Found := .value manifest.js

theorem isSafe_found (manifest : SafeManifest) : manifest.found.IsSafe := .inl manifest.safe

section Promise

variable (locale : Update.Locale) (original draft latest : SafeManifest)

/-- The user and the server have changed the path to different values: the three values are not
all objects, which are merged key by key. -/
def ConflictAt (path : List String) : Prop :=
  Through original.found path ∧ Through draft.found path ∧ Through latest.found path ∧
    resourceFingerprint locale (getManifestValue original.found path) ≠
      resourceFingerprint locale (getManifestValue draft.found path) ∧
    resourceFingerprint locale (getManifestValue latest.found path) ≠
      resourceFingerprint locale (getManifestValue original.found path) ∧
    resourceFingerprint locale (getManifestValue latest.found path) ≠
      resourceFingerprint locale (getManifestValue draft.found path) ∧
    ¬((getManifestValue original.found path).isObject = true ∧
      (getManifestValue draft.found path).isObject = true ∧
      (getManifestValue latest.found path).isObject = true)

def UnchangedAt (path : List String) : Prop :=
  resourceFingerprint locale (getManifestValue original.found path) =
      resourceFingerprint locale (getManifestValue draft.found path) ∧
    ∀ front, front <+: path → ¬ChangedAt locale original.found draft.found front

structure IsMerge (choices : String → Option Choice) (result : Rebased) : Prop where
  changed : result.conflicts = [] → ∀ path, ChangedAt locale original.found draft.found path →
    choices (pathKey path) ≠ some .server →
    resourceFingerprint locale (getManifestValue (.value result.draft) path) =
      resourceFingerprint locale (getManifestValue draft.found path)
  unchanged : result.conflicts = [] → ∀ path, UnchangedAt locale original draft path →
    getManifestValue (.value result.draft) path = getManifestValue latest.found path
  objects : result.conflicts = [] → ∀ path,
    (getManifestValue (.value result.draft) path).isObject = true →
    (getManifestValue latest.found path).isObject = true ∨
      ∃ front, front <+: path ∧ ChangedAt locale original.found draft.found front
  server : result.conflicts = [] → ∀ path, ChangedAt locale original.found latest.found path →
    resourceFingerprint locale (getManifestValue (.value result.draft) path) =
        resourceFingerprint locale (getManifestValue latest.found path) ∨
      ∃ other, (other <+: path ∨ path <+: other) ∧ ConflictAt locale original draft latest other ∧
        choices (pathKey other) = some .draft
  conflicts : ∀ field, field ∈ result.conflictFields ↔
    ∃ path, ConflictAt locale original draft latest path ∧ field = conflictField path
  latestUnchanged : resourceFingerprint locale latest.found =
    resourceFingerprint locale original.found → SameJson result.draft draft.js
  draftUnchanged : resourceFingerprint locale original.found =
    resourceFingerprint locale draft.found → result.draft = latest.js

def RebasesAsMerge : Prop :=
  ∀ choices : String → Option Choice, ∃ result,
    rebaseResourceDraft locale original.js draft.js latest.js choices = .ok result ∧
      IsMerge locale original draft latest choices result

/-- The latest version has an object wherever the original and the draft have objects that differ,
and where the user has changed the version it has the draft's. -/
structure Mergeable : Prop where
  objects : ∀ path, Through original.found path → Through draft.found path →
    (getManifestValue original.found path).isObject = true →
    (getManifestValue draft.found path).isObject = true →
    resourceFingerprint locale (getManifestValue original.found path) ≠
      resourceFingerprint locale (getManifestValue draft.found path) →
    (getManifestValue latest.found path).isObject = true
  version : ∀ path front, ChangedAt locale original.found draft.found path → front <+: path →
    isVersion front →
    resourceFingerprint locale (getManifestValue latest.found path) =
      resourceFingerprint locale (getManifestValue draft.found path)

end Promise

/-! ## The steps of the rebase -/

section Steps

variable (locale : Update.Locale) (original draft latest : Found) (choices : String → Option Choice)

def Conflicting (path : List String) : Prop :=
  resourceFingerprint locale (getManifestValue latest path) ≠
      resourceFingerprint locale (getManifestValue original path) ∧
    resourceFingerprint locale (getManifestValue latest path) ≠
      resourceFingerprint locale (getManifestValue draft path)

instance : DecidablePred (Conflicting locale original draft latest) :=
  fun _ => inferInstanceAs (Decidable (_ ∧ _))

def Writes (path : List String) : Prop :=
  Conflicting locale original draft latest path → choices (pathKey path) = some .draft

instance : DecidablePred (Writes locale original draft latest choices) :=
  fun _ => inferInstanceAs (Decidable (_ → _))

def Unresolved (path : List String) : Prop :=
  Conflicting locale original draft latest path ∧ choices (pathKey path) = none

instance : DecidablePred (Unresolved locale original draft latest choices) :=
  fun _ => inferInstanceAs (Decidable (_ ∧ _))

def written (state : Rebased) (path : List String) : Except String Js :=
  if Writes locale original draft latest choices path then
    setManifestValue state.draft path (getManifestValue draft path)
  else .ok state.draft

def stepped (state : Rebased) (path : List String) (next : Js) : Rebased where
  draft := next
  conflicts := state.conflicts ++
    if Unresolved locale original draft latest choices path then [joined path] else []
  conflictFields := state.conflictFields ++
    if Conflicting locale original draft latest path then [conflictField path] else []

theorem takeOverAt_eq (state : Rebased) (path : List String) :
    takeOverAt original draft latest choices locale state path =
      (written locale original draft latest choices state path).map
        (stepped locale original draft latest choices state path) := by
  rw [takeOverAt, takeOver, written]
  show (if Conflicting locale original draft latest path then _ else _) = _
  by_cases hconflict : Conflicting locale original draft latest path
  · rw [if_pos hconflict]
    cases hchoice : choices (pathKey path) with
    | none =>
        have hwrites : ¬Writes locale original draft latest choices path := by
          intro hwrites
          rw [hwrites hconflict] at hchoice
          cases hchoice
        have hstepped : stepped locale original draft latest choices state path state.draft =
            { state with
              conflicts := state.conflicts ++ [joined path]
              conflictFields := state.conflictFields ++ [conflictField path] } := by
          rw [stepped, if_pos ⟨hconflict, hchoice⟩, if_pos hconflict]
        rw [if_neg hwrites]
        show _ = Except.ok _
        rw [hstepped]
        rfl
    | some choice =>
        have hresolved : ¬Unresolved locale original draft latest choices path := by
          intro hopen
          rw [hopen.2] at hchoice
          cases hchoice
        cases choice with
        | draft =>
            have hwrites : Writes locale original draft latest choices path := fun _ => hchoice
            rw [if_pos hwrites]
            dsimp only
            cases setManifestValue state.draft path (getManifestValue draft path) with
            | error e => rfl
            | ok next =>
                have hstepped : stepped locale original draft latest choices state path next =
                    { state with
                      draft := next
                      conflictFields := state.conflictFields ++ [conflictField path] } := by
                  rw [stepped, if_neg hresolved, if_pos hconflict, List.append_nil]
                show _ = Except.ok _
                rw [hstepped]
                rfl
        | server =>
            have hwrites : ¬Writes locale original draft latest choices path := by
              intro hwrites
              rw [hwrites hconflict] at hchoice
              cases hchoice
            have hstepped : stepped locale original draft latest choices state path state.draft =
                { state with
                  conflictFields := state.conflictFields ++ [conflictField path] } := by
              rw [stepped, if_neg hresolved, if_pos hconflict, List.append_nil]
            rw [if_neg hwrites]
            show _ = Except.ok _
            rw [hstepped]
            rfl
  · have hwrites : Writes locale original draft latest choices path :=
      fun h => absurd h hconflict
    rw [if_neg hconflict, if_pos hwrites]
    cases setManifestValue state.draft path (getManifestValue draft path) with
    | error e => rfl
    | ok next =>
        have hstepped : stepped locale original draft latest choices state path next =
            { state with draft := next } := by
          rw [stepped, if_neg fun h => hconflict h.1, if_neg hconflict, List.append_nil,
            List.append_nil]
        show _ = Except.ok _
        rw [hstepped]
        rfl

variable {locale original draft latest choices}

theorem conflicts_of_foldlM {paths : List (List String)} {state result : Rebased}
    (h : paths.foldlM (takeOverAt original draft latest choices locale) state = .ok result) :
    result.conflicts = state.conflicts ++
        (paths.filter fun path => Unresolved locale original draft latest choices path).map joined ∧
      result.conflictFields = state.conflictFields ++
        (paths.filter fun path => Conflicting locale original draft latest path).map
          conflictField := by
  induction paths generalizing state with
  | nil =>
      cases h
      simp
  | cons path paths ih =>
      rw [List.foldlM_cons, takeOverAt_eq] at h
      cases hwritten : written locale original draft latest choices state path with
      | error e =>
          rw [hwritten] at h
          cases h
      | ok next =>
          rw [hwritten] at h
          obtain ⟨hconflicts, hfields⟩ := ih h
          constructor
          · rw [hconflicts, stepped, List.append_assoc, List.filter_cons]
            by_cases hopen : Unresolved locale original draft latest choices path
            · rw [if_pos hopen, if_pos (decide_eq_true hopen)]
              rfl
            · rw [if_neg hopen, if_neg (by simpa using hopen)]
              rfl
          · rw [hfields, stepped, List.append_assoc, List.filter_cons]
            by_cases hconflict : Conflicting locale original draft latest path
            · rw [if_pos hconflict, if_pos (decide_eq_true hconflict)]
              rfl
            · rw [if_neg hconflict, if_neg (by simpa using hconflict)]
              rfl

variable (locale original draft latest choices) in
structure Merged (done : List (List String)) (v : Js) : Prop where
  here : ∀ path ∈ done, Writes locale original draft latest choices path →
    (getManifestValue (.value v) path).json? = (getManifestValue draft path).json?
  elsewhere : ∀ path, (∀ other ∈ done, Writes locale original draft latest choices other →
      ¬other <+: path ∧ ¬path <+: other) →
    getManifestValue (.value v) path = getManifestValue latest path
  objects : ∀ path, Through latest path → (getManifestValue latest path).isObject = true →
    (∀ other ∈ done, Writes locale original draft latest choices other → ¬other <+: path) →
    (getManifestValue (.value v) path).isObject = true
  safe : SafeJson v

theorem merged_nil {v : Js} (hlatest : latest = .value v) (hsafe : SafeJson v) :
    Merged locale original draft latest choices [] v where
  here := fun path hpath => absurd hpath List.not_mem_nil
  elsewhere := fun path _ => by rw [hlatest]
  objects := fun path _ hobject _ => by
    rw [hlatest] at hobject
    exact hobject
  safe := hsafe

theorem safe_of_json? {x : Found} {v : Js} (hx : x.IsSafe) (h : x.json? = some v) : SafeJson v := by
  cases x with
  | inherited => cases h
  | value w =>
      obtain hsafe | rfl := hx
      · cases w with
        | undefined => cases h
        | _ =>
            cases h
            exact hsafe
      · cases h

theorem json?_ne_undefined (x : Found) : x.json? ≠ some .undefined := by
  cases x with
  | inherited => exact fun h => by cases h
  | value v => cases v <;> exact fun h => by cases h

theorem Merged.step {done : List (List String)} {v : Js} {path : List String} {state : Rebased}
    (h : Merged locale original draft latest choices done v) (hstate : state.draft = v)
    (hpath : path ≠ []) (hkeys : ∀ key ∈ path, key ∉ unsafeKeys) (hdraft : draft.IsSafe)
    (hthrough : Through latest path)
    (hapart : ∀ other ∈ done, other <+: path ∨ path <+: other → other = path) :
    ∃ next, written locale original draft latest choices state path = .ok next ∧
      Merged locale original draft latest choices (done ++ [path]) next := by
  rw [written, hstate]
  by_cases hwrites : Writes locale original draft latest choices path
  · rw [if_pos hwrites]
    have hinside : Through (.value v) path := by
      intro front hfront hne
      apply h.objects front (hthrough.front hfront) (hthrough front hfront hne)
      intro other hother _ hle
      have hsame := hapart other hother (.inl (hle.trans hfront))
      exact hne (hfront.eq_of_length_le (hsame ▸ hle).length_le)
    obtain ⟨next, hupdate, hupdated⟩ := update_through (json?_ne_undefined (getManifestValue draft path))
      hpath hkeys hinside
    refine ⟨next, ?_, ?_, ?_, ?_, ?_⟩
    · have hsafeKeys : path.any unsafeKeys.contains = false := by
        rw [List.any_eq_false]
        intro key hkey
        rw [List.contains_iff_mem]
        exact hkeys key hkey
      rw [setManifestValue, if_neg (by simpa using hpath), hsafeKeys]
      exact hupdate
    · intro other hother hwritesOther
      by_cases hsame : other = path
      · rw [hsame]
        exact hupdated.here
      · have hother : other ∈ done := by
          rw [List.mem_append, List.mem_singleton] at hother
          exact hother.resolve_right hsame
        rw [hupdated.elsewhere other (fun hle => hsame (hapart other hother (.inl hle)))
          fun hle => hsame (hapart other hother (.inr hle))]
        exact h.here other hother hwritesOther
    · intro other hother
      have hnew := hother path (List.mem_append_right _ (List.mem_singleton_self _)) hwrites
      rw [hupdated.elsewhere other hnew.2 hnew.1]
      exact h.elsewhere other fun old hold => hother old (List.mem_append_left _ hold)
    · intro other hother hobject hnot
      have hnew := hnot path (List.mem_append_right _ (List.mem_singleton_self _)) hwrites
      by_cases hle : other <+: path
      · apply hupdated.above other hle
        rintro rfl
        exact hnew hle
      · rw [hupdated.elsewhere other hle hnew]
        exact h.objects other hother hobject fun old hold => hnot old (List.mem_append_left _ hold)
    · exact hupdated.safe h.safe fun w hw => safe_of_json? (hdraft.getManifestValue path) hw
  · rw [if_neg hwrites]
    refine ⟨v, rfl, ?_, ?_, ?_, h.safe⟩
    · intro other hother hwritesOther
      rw [List.mem_append, List.mem_singleton] at hother
      obtain hother | rfl := hother
      · exact h.here other hother hwritesOther
      · exact absurd hwritesOther hwrites
    · intro other hother
      exact h.elsewhere other fun old hold => hother old (List.mem_append_left _ hold)
    · intro other hother hobject hnot
      exact h.objects other hother hobject fun old hold => hnot old (List.mem_append_left _ hold)

theorem Merged.run {paths done : List (List String)} {state : Rebased} (hdraft : draft.IsSafe)
    (h : Merged locale original draft latest choices done state.draft)
    (hpaths : ∀ path ∈ paths, path ≠ [] ∧ (∀ key ∈ path, key ∉ unsafeKeys) ∧ Through latest path)
    (hapart : ∀ path ∈ done ++ paths, ∀ other ∈ done ++ paths, other <+: path → other = path) :
    ∃ result, paths.foldlM (takeOverAt original draft latest choices locale) state = .ok result ∧
      Merged locale original draft latest choices (done ++ paths) result.draft := by
  induction paths generalizing done state with
  | nil =>
      rw [List.append_nil]
      exact ⟨state, rfl, h⟩
  | cons path paths ih =>
      obtain ⟨hne, hkeys, hthrough⟩ := hpaths path List.mem_cons_self
      have hpath : path ∈ done ++ path :: paths :=
        List.mem_append_right _ List.mem_cons_self
      have hdone : ∀ other ∈ done, other <+: path ∨ path <+: other → other = path := by
        intro other hother hle
        have hmem : other ∈ done ++ path :: paths := List.mem_append_left _ hother
        obtain hle | hle := hle
        · exact hapart path hpath other hmem hle
        · exact (hapart other hmem path hpath hle).symm
      obtain ⟨next, hnext, hmerged⟩ := h.step rfl hne hkeys hdraft hthrough hdone
      rw [List.foldlM_cons, takeOverAt_eq, hnext]
      have hsplit : done ++ path :: paths = done ++ [path] ++ paths := by
        rw [List.append_assoc]
        rfl
      rw [hsplit] at hapart ⊢
      have hmerged' : Merged locale original draft latest choices (done ++ [path])
          (stepped locale original draft latest choices state path next).draft := hmerged
      exact ih hmerged'
        (fun other hother => hpaths other (List.mem_cons_of_mem _ hother)) hapart

end Steps

end KubeNova.Editor
