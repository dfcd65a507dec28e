import KubeNova.Editor.RebaseExact

/-!
# The rebase as a three-way merge

Where the latest version still has objects on the way to everything the user changed, the rebase is
the merge of the draft and the latest version, and nowhere else.
-/

namespace KubeNova.Editor

open KubeNova.Foundation KubeNova.Foundation.Json
open KubeNova.Update (canonicalText)
open Found

variable {locale : Update.Locale} {original draft latest : SafeManifest}
  {choices : String → Option Choice} {path : List String}

theorem isObject_of_fingerprint {x y : Found} (hx : x.IsValid) (hy : y.IsValid)
    (h : resourceFingerprint locale x = resourceFingerprint locale y) (hobject : x.isObject = true) :
    y.isObject = true := by
  obtain ⟨fields, rfl⟩ := isObject_iff.mp hobject
  have hjson := hx.resolve_right fun heq => by cases heq
  rw [resourceFingerprint_value hjson] at h
  cases y with
  | inherited => cases h
  | value w =>
      obtain hw | rfl := hy
      · rw [resourceFingerprint_value hw] at h
        have hleaf := (Update.sameJson_of_canonicalJson hjson.proper hw.proper
          (congrArg String.ofList (Option.some.inj h))).leaf
        cases hw with
        | object _ _ => rfl
        | _ => cases hleaf
      · cases h

theorem ChangedAt.differs {a b : Found} {front : List String} (h : ChangedAt locale a b path)
    (ha : a.IsValid) (hb : b.IsValid) (hfront : front <+: path) :
    resourceFingerprint locale (getManifestValue a front) ≠
      resourceFingerprint locale (getManifestValue b front) := by
  intro hequal
  obtain ⟨rest, rfl⟩ := hfront
  apply h.2.2.1
  rw [getManifestValue_append, getManifestValue_append]
  exact resourceFingerprint_getManifestValue (ha.getManifestValue front)
    (hb.getManifestValue front) hequal rest

theorem valid_found (manifest : SafeManifest) : manifest.found.IsValid :=
  (isSafe_found manifest).isValid

def leafPaths (locale : Update.Locale) (original draft : SafeManifest) : List (List String) :=
  leaves locale (objectDepth original.js + objectDepth draft.js + 1) original.found draft.found []

theorem mem_leafPaths : path ∈ leafPaths locale original draft ↔
    ChangedAt locale original.found draft.found path ∧
      ∀ front, front <+: path → ¬isVersion front := by
  refine (mem_leaves (valid_found original) (valid_found draft)
    (Nat.lt_succ_self (original.found.depth + draft.found.depth))).trans ?_
  constructor
  · rintro ⟨rest, rfl, hrest⟩
    exact hrest
  · intro h
    exact ⟨path, rfl, h⟩

theorem rebase_eq : rebaseResourceDraft locale original.js draft.js latest.js choices =
    (leafPaths locale original draft).foldlM
      (takeOverAt original.found draft.found latest.found choices locale)
      { draft := latest.js, conflicts := [], conflictFields := [] } :=
  visit_eq original.found draft.found latest.found choices _ [] _

theorem leafPath_ne_nil (h : path ∈ leafPaths locale original draft) : path ≠ [] := by
  rintro rfl
  exact (mem_leafPaths.mp h).1.2.2.2 ⟨rfl, rfl⟩

/-- The version has an object on the way to everything the user changed. -/
def Reaches (locale : Update.Locale) (original draft latest : SafeManifest) : Prop :=
  ∀ path, ChangedAt locale original.found draft.found path → Through latest.found path

theorem Mergeable.reaches (h : Mergeable locale original draft latest) :
    Reaches locale original draft latest := by
  intro path hchanged front hfront hne
  exact h.objects front (hchanged.1.front hfront) (hchanged.2.1.front hfront)
    (hchanged.1 front hfront hne) (hchanged.2.1 front hfront hne)
    (hchanged.differs (valid_found _) (valid_found _) hfront)

theorem exists_merged (h : Reaches locale original draft latest)
    (choices : String → Option Choice) :
    ∃ result, rebaseResourceDraft locale original.js draft.js latest.js choices = .ok result ∧
      Merged locale original.found draft.found latest.found choices
        (leafPaths locale original draft) result.draft := by
  rw [rebase_eq]
  have hstart : Merged locale original.found draft.found latest.found choices [] latest.js :=
    merged_nil rfl latest.safe
  nth_rewrite 2 [← List.nil_append (leafPaths locale original draft)]
  refine Merged.run (isSafe_found draft) hstart ?_ ?_
  · intro path hpath
    have hchanged := (mem_leafPaths.mp hpath).1
    exact ⟨leafPath_ne_nil hpath, hchanged.safe (isSafe_found _) (isSafe_found _),
      h path hchanged⟩
  · rw [List.nil_append]
    intro path hpath other hother hle
    exact (mem_leafPaths.mp hpath).1.eq_of_above (mem_leafPaths.mp hother).1 hle

theorem conflicts_of_ok {result : Rebased}
    (h : rebaseResourceDraft locale original.js draft.js latest.js choices = .ok result) :
    result.conflicts = ((leafPaths locale original draft).filter fun path =>
        Unresolved locale original.found draft.found latest.found choices path).map joined ∧
      result.conflictFields = ((leafPaths locale original draft).filter fun path =>
        Conflicting locale original.found draft.found latest.found path).map conflictField := by
  rw [rebase_eq] at h
  obtain ⟨hconflicts, hfields⟩ := conflicts_of_foldlM h
  exact ⟨hconflicts.trans (List.nil_append _), hfields.trans (List.nil_append _)⟩

theorem conflictField_injective : Function.Injective conflictField := by
  intro path other h
  exact stringifyStrings_injective (congrArg ConflictField.key h)

theorem mem_conflictFields {result : Rebased}
    (h : rebaseResourceDraft locale original.js draft.js latest.js choices = .ok result) :
    conflictField path ∈ result.conflictFields ↔ path ∈ leafPaths locale original draft ∧
      Conflicting locale original.found draft.found latest.found path := by
  rw [(conflicts_of_ok h).2, List.mem_map_of_injective conflictField_injective, List.mem_filter,
    decide_eq_true_iff]

/-! ## Where latest has the objects -/

theorem conflictAt_of_leaf (h : Reaches locale original draft latest)
    (hpath : path ∈ leafPaths locale original draft)
    (hconflict : Conflicting locale original.found draft.found latest.found path) :
    ConflictAt locale original draft latest path := by
  have hchanged := (mem_leafPaths.mp hpath).1
  exact ⟨hchanged.1, hchanged.2.1, h path hchanged, hchanged.2.2.1, hconflict.1, hconflict.2,
    fun hall => hchanged.2.2.2 ⟨hall.1, hall.2.1⟩⟩

theorem apart_of_unchanged (h : UnchangedAt locale original draft path) {leaf : List String}
    (hleaf : leaf ∈ leafPaths locale original draft) : ¬leaf <+: path ∧ ¬path <+: leaf := by
  have hchanged := (mem_leafPaths.mp hleaf).1
  constructor
  · exact fun hle => h.2 leaf hle hchanged
  · intro hle
    exact hchanged.differs (valid_found _) (valid_found _) hle h.1

theorem apart_of_version (hchanged : ChangedAt locale original.found draft.found path)
    (hpath : path ∉ leafPaths locale original draft) {leaf : List String}
    (hleaf : leaf ∈ leafPaths locale original draft) : ¬leaf <+: path ∧ ¬path <+: leaf := by
  have hother := (mem_leafPaths.mp hleaf).1
  constructor
  · intro hle
    exact hpath (hchanged.eq_of_above hother hle ▸ hleaf)
  · intro hle
    exact hpath (hother.eq_of_above hchanged hle ▸ hleaf)

theorem exists_version (hchanged : ChangedAt locale original.found draft.found path)
    (hpath : path ∉ leafPaths locale original draft) : ∃ front, front <+: path ∧ isVersion front := by
  by_contra hnone
  apply hpath
  rw [mem_leafPaths]
  refine ⟨hchanged, fun front hfront hversion => ?_⟩
  exact hnone ⟨front, hfront, hversion⟩

def BothObjects (original draft : SafeManifest) (path : List String) : Prop :=
  Through original.found path ∧ Through draft.found path ∧
    (getManifestValue original.found path).isObject = true ∧
    (getManifestValue draft.found path).isObject = true

theorem Through.append {x : Found} (h : Through x path) (key : String)
    (hobject : (getManifestValue x path).isObject = true) : Through x (path ++ [key]) := by
  intro front hfront hne
  obtain heq | hle := List.prefix_concat_iff.mp hfront
  · exact absurd heq hne
  · by_cases hend : front = path
    · exact hend ▸ hobject
    · exact h front hle hend

section Fields

variable {fs gs : List (String × Js)} {key : String}

theorem lookup_of_mem_unsafeKeys (h : SafeJson (.object fs)) (hkey : key ∈ unsafeKeys) :
    fs.lookup key = none := by
  rw [List.lookup_eq_none_iff]
  intro field hfield
  rw [bne_iff_ne]
  rintro rfl
  exact h.not_mem_unsafeKeys (List.mem_map_of_mem hfield) hkey

theorem json?_member (h : SafeJson (.object fs)) (hkey : key ∉ unsafeKeys) :
    (member (.value (.object fs)) key).json? = fs.lookup key := by
  cases hlookup : fs.lookup key with
  | none =>
      simp only [member, hlookup]
      exact json?_inObject (ne_proto hkey)
  | some v =>
      rw [member_object hlookup]
      have hsafe := (Found.IsSafe.member (x := .value (.object fs)) (.inl h) key)
      rw [member_object hlookup] at hsafe
      cases v with
      | undefined =>
          cases h with
          | object _ _ hfields => cases hfields _ (mem_of_lookup hlookup)
      | _ => rfl

theorem rel_mono {α β : Type} {R S : α → β → Prop} (hRS : ∀ a b, R a b → S a b) {x : Option α}
    {y : Option β} (h : Option.Rel R x y) : Option.Rel S x y := by
  cases h with
  | none => exact .none
  | some hab => exact .some (hRS _ _ hab)

theorem rel_of_fingerprint (hfs : SafeJson (.object fs)) (hgs : SafeJson (.object gs))
    (h : resourceFingerprint locale (member (.value (.object fs)) key) =
      resourceFingerprint locale (member (.value (.object gs)) key)) :
    Option.Rel SameJson (fs.lookup key) (gs.lookup key) := by
  by_cases hkey : key ∈ unsafeKeys
  · rw [lookup_of_mem_unsafeKeys hfs hkey, lookup_of_mem_unsafeKeys hgs hkey]
    exact .none
  · rw [resourceFingerprint_eq, resourceFingerprint_eq, json?_member hfs hkey,
      json?_member hgs hkey] at h
    cases hf : fs.lookup key with
    | none =>
        rw [hf, Option.map_none, eq_comm, Option.map_eq_none_iff] at h
        rw [h]
        exact .none
    | some v =>
        rw [hf, Option.map_some, eq_comm, Option.map_eq_some_iff] at h
        obtain ⟨w, hg, htext⟩ := h
        rw [hg]
        have hv : SafeJson v := by
          cases hfs with
          | object _ _ hfields => exact hfields _ (mem_of_lookup hf)
        have hw : SafeJson w := by
          cases hgs with
          | object _ _ hfields => exact hfields _ (mem_of_lookup hg)
        exact .some (Update.sameJson_of_canonicalJson hv.isJson.proper hw.isJson.proper
          (congrArg String.ofList htext.symm))

theorem rel_of_objects {R : Js → Js → Prop} (hfs : SafeJson (.object fs))
    (hgs : SafeJson (.object gs)) (hf : (member (.value (.object fs)) key).isObject = true)
    (hg : (member (.value (.object gs)) key).isObject = true)
    (hR : ∀ v w, member (.value (.object fs)) key = .value v →
      member (.value (.object gs)) key = .value w → R v w) :
    Option.Rel R (fs.lookup key) (gs.lookup key) := by
  by_cases hkey : key ∈ unsafeKeys
  · rw [lookup_of_mem_unsafeKeys hfs hkey, lookup_of_mem_unsafeKeys hgs hkey]
    exact .none
  · obtain ⟨parts, hparts⟩ := isObject_iff.mp hf
    obtain ⟨parts', hparts'⟩ := isObject_iff.mp hg
    rw [← json?_member hfs hkey, ← json?_member hgs hkey, hparts, hparts']
    exact .some (hR _ _ hparts hparts')

end Fields

section Sufficient

variable {result : Rebased} (h : Mergeable locale original draft latest)
  (hok : rebaseResourceDraft locale original.js draft.js latest.js choices = .ok result)
  (hmerged : Merged locale original.found draft.found latest.found choices
    (leafPaths locale original draft) result.draft)

include h hmerged

theorem merged_changed (hok : rebaseResourceDraft locale original.js draft.js latest.js choices =
      .ok result) (hresolved : result.conflicts = [])
    (hchanged : ChangedAt locale original.found draft.found path)
    (hchoice : choices (pathKey path) ≠ some .server) :
    resourceFingerprint locale (getManifestValue (.value result.draft) path) =
      resourceFingerprint locale (getManifestValue draft.found path) := by
  by_cases hpath : path ∈ leafPaths locale original draft
  · have hwrites : Writes locale original.found draft.found latest.found choices path := by
      intro hconflict
      rw [(conflicts_of_ok hok).1, List.map_eq_nil_iff, List.filter_eq_nil_iff] at hresolved
      have hclosed := hresolved path hpath
      rw [decide_eq_true_iff] at hclosed
      cases hcase : choices (pathKey path) with
      | none => exact absurd ⟨hconflict, hcase⟩ hclosed
      | some choice =>
          cases choice with
          | draft => rfl
          | server => exact absurd hcase hchoice
    rw [resourceFingerprint_eq, resourceFingerprint_eq, hmerged.here path hpath hwrites]
  · obtain ⟨front, hfront, hversion⟩ := exists_version hchanged hpath
    rw [hmerged.elsewhere path fun other hother _ => apart_of_version hchanged hpath hother]
    exact h.version path front hchanged hfront hversion

omit h in
theorem merged_unchanged (hunchanged : UnchangedAt locale original draft path) :
    getManifestValue (.value result.draft) path = getManifestValue latest.found path :=
  hmerged.elsewhere path fun _ hother _ => apart_of_unchanged hunchanged hother

theorem merged_objects
    (hobject : (getManifestValue (.value result.draft) path).isObject = true) :
    (getManifestValue latest.found path).isObject = true ∨
      ∃ front, front <+: path ∧ ChangedAt locale original.found draft.found front := by
  by_cases hinside : ∃ front, front <+: path ∧ ChangedAt locale original.found draft.found front
  · exact .inr hinside
  · left
    by_cases habove : ∃ leaf ∈ leafPaths locale original draft, path <+: leaf
    · obtain ⟨leaf, hleaf, hle⟩ := habove
      have hchanged := (mem_leafPaths.mp hleaf).1
      apply h.reaches leaf hchanged path hle
      rintro rfl
      exact hinside ⟨path, List.prefix_rfl, hchanged⟩
    · rw [hmerged.elsewhere path] at hobject
      · exact hobject
      · intro other hother _
        exact ⟨fun hle => hinside ⟨other, hle, (mem_leafPaths.mp hother).1⟩,
          fun hle => habove ⟨other, hother, hle⟩⟩

theorem merged_server (hserver : ChangedAt locale original.found latest.found path) :
    resourceFingerprint locale (getManifestValue (.value result.draft) path) =
        resourceFingerprint locale (getManifestValue latest.found path) ∨
      ∃ other, (other <+: path ∨ path <+: other) ∧ ConflictAt locale original draft latest other ∧
        choices (pathKey other) = some .draft := by
  by_cases hnear : ∃ leaf ∈ leafPaths locale original draft,
      Writes locale original.found draft.found latest.found choices leaf ∧
        (leaf <+: path ∨ path <+: leaf)
  · obtain ⟨leaf, hleaf, hwrites, hle⟩ := hnear
    have hchanged := (mem_leafPaths.mp hleaf).1
    have hchosen : Conflicting locale original.found draft.found latest.found leaf →
        ∃ other, (other <+: path ∨ path <+: other) ∧
          ConflictAt locale original draft latest other ∧
          choices (pathKey other) = some .draft := fun hconflict =>
      ⟨leaf, hle, conflictAt_of_leaf h.reaches hleaf hconflict, hwrites hconflict⟩
    by_cases hsame : leaf = path
    · subst hsame
      by_cases hconflict : Conflicting locale original.found draft.found latest.found leaf
      · exact .inr (hchosen hconflict)
      · left
        have hlive : resourceFingerprint locale (getManifestValue latest.found leaf) =
            resourceFingerprint locale (getManifestValue draft.found leaf) := by
          by_contra hne
          exact hconflict ⟨hserver.2.2.1.symm, hne⟩
        rw [hlive, resourceFingerprint_eq, resourceFingerprint_eq, hmerged.here leaf hleaf hwrites]
    · obtain hle' | hle' := hle
      · -- The user has replaced an object the server has changed inside.
        right
        have hobject := hserver.2.1 leaf hle' hsame
        apply hchosen
        refine ⟨(hserver.differs (valid_found _) (valid_found _) hle').symm, ?_⟩
        intro hequal
        refine hchanged.2.2.2 ⟨hserver.1 leaf hle' hsame, ?_⟩
        exact isObject_of_fingerprint ((valid_found _).getManifestValue _)
          ((valid_found _).getManifestValue _) hequal hobject
      · -- The server has replaced an object the user has changed inside.
        have hobject := h.reaches leaf hchanged path hle' (Ne.symm hsame)
        exact absurd ⟨hchanged.1 path hle' (Ne.symm hsame), hobject⟩ hserver.2.2.2
  · left
    rw [hmerged.elsewhere path]
    intro other hother hwrites
    constructor
    · exact fun hle => hnear ⟨other, hother, hwrites, .inl hle⟩
    · exact fun hle => hnear ⟨other, hother, hwrites, .inr hle⟩

omit hmerged in
include hok in
theorem merged_conflicts (field : ConflictField) : field ∈ result.conflictFields ↔
    ∃ path, ConflictAt locale original draft latest path ∧ field = conflictField path := by
  constructor
  · intro hfield
    have hreported := hfield
    rw [(conflicts_of_ok hok).2, List.mem_map] at hreported
    obtain ⟨path, -, rfl⟩ := hreported
    obtain ⟨hpath, hconflict⟩ := (mem_conflictFields hok).mp hfield
    exact ⟨path, conflictAt_of_leaf h.reaches hpath hconflict, rfl⟩
  · rintro ⟨path, ⟨hthrough, hthrough', -, hdiffer, hserver, hlive, hall⟩, rfl⟩
    have hchanged : ChangedAt locale original.found draft.found path := by
      refine ⟨hthrough, hthrough', hdiffer, fun hboth => hall ⟨hboth.1, hboth.2, ?_⟩⟩
      exact h.objects path hthrough hthrough' hboth.1 hboth.2 hdiffer
    rw [mem_conflictFields hok, mem_leafPaths]
    refine ⟨⟨hchanged, fun front hfront hversion => ?_⟩, hserver, hlive⟩
    exact hlive (h.version path front hchanged hfront hversion)

omit h in
theorem isObject_merged
    (hlatest : resourceFingerprint locale latest.found = resourceFingerprint locale original.found)
    (hobjects : BothObjects original draft path) :
    (getManifestValue (.value result.draft) path).isObject = true := by
  have hlive : ∀ front, (getManifestValue original.found front).isObject = true →
      (getManifestValue latest.found front).isObject = true := by
    intro front
    apply isObject_of_fingerprint ((valid_found _).getManifestValue _)
      ((valid_found _).getManifestValue _)
    exact (resourceFingerprint_getManifestValue (valid_found latest) (valid_found original)
      hlatest front).symm
  apply hmerged.objects path
  · exact fun front hfront hne => hlive front (hobjects.1 front hfront hne)
  · exact hlive path hobjects.2.2.1
  · intro other hother _ hle
    have hchanged := (mem_leafPaths.mp hother).1
    by_cases hsame : other = path
    · exact hchanged.2.2.2 (hsame ▸ hobjects.2.2)
    · exact hchanged.2.2.2 ⟨hobjects.1 other hle hsame, hobjects.2.1 other hle hsame⟩

theorem merged_below
    (hlatest : resourceFingerprint locale latest.found = resourceFingerprint locale original.found)
    {key : String} (hobjects : BothObjects original draft path)
    (hend : ¬BothObjects original draft (path ++ [key])) :
    resourceFingerprint locale (getManifestValue (.value result.draft) (path ++ [key])) =
      resourceFingerprint locale (getManifestValue draft.found (path ++ [key])) := by
  have hlive := resourceFingerprint_getManifestValue (valid_found latest)
    (valid_found original) hlatest (path ++ [key])
  have horiginal := hobjects.1.append key hobjects.2.2.1
  have hdraft := hobjects.2.1.append key hobjects.2.2.2
  by_cases hequal : resourceFingerprint locale (getManifestValue original.found (path ++ [key])) =
      resourceFingerprint locale (getManifestValue draft.found (path ++ [key]))
  · have hunchanged : UnchangedAt locale original draft (path ++ [key]) := by
      refine ⟨hequal, fun front hfront hchanged => ?_⟩
      by_cases hsame : front = path ++ [key]
      · exact hchanged.2.2.1 (hsame ▸ hequal)
      · exact hchanged.2.2.2 ⟨horiginal front hfront hsame, hdraft front hfront hsame⟩
    rw [merged_unchanged hmerged hunchanged, hlive, hequal]
  · have hchanged : ChangedAt locale original.found draft.found (path ++ [key]) :=
      ⟨horiginal, hdraft, hequal, fun hboth => hend ⟨horiginal, hdraft, hboth⟩⟩
    have hvisited : path ++ [key] ∈ leafPaths locale original draft := by
      by_contra hnot
      obtain ⟨front, hfront, hversion⟩ := exists_version hchanged hnot
      exact hequal (hlive.symm.trans (h.version _ front hchanged hfront hversion))
    have hwrites : Writes locale original.found draft.found latest.found choices
        (path ++ [key]) := fun hconflict => absurd hlive hconflict.1
    rw [resourceFingerprint_eq, resourceFingerprint_eq, hmerged.here _ hvisited hwrites]

theorem merged_latestUnchanged
    (hlatest : resourceFingerprint locale latest.found =
      resourceFingerprint locale original.found) : SameJson result.draft draft.js := by
  have hsafe : (Found.value result.draft).IsSafe := .inl hmerged.safe
  have hfields : ∀ {path v w}, BothObjects original draft path →
      getManifestValue (.value result.draft) path = .value v →
      getManifestValue draft.found path = .value w →
      ∃ fs gs, v = .object fs ∧ w = .object gs ∧ SafeJson (.object fs) ∧ SafeJson (.object gs) := by
    intro path v w hobjects hv hw
    have hobjectV := isObject_merged hmerged hlatest hobjects
    have hobjectW := hobjects.2.2.2
    have hpartV := hsafe.getManifestValue path
    have hpartW := (isSafe_found draft).getManifestValue path
    rw [hv] at hobjectV hpartV
    rw [hw] at hobjectW hpartW
    obtain ⟨fs, hfs⟩ := isObject_iff.mp hobjectV
    obtain ⟨gs, hgs⟩ := isObject_iff.mp hobjectW
    cases hfs
    cases hgs
    exact ⟨fs, gs, rfl, rfl, hpartV.resolve_right (fun heq => by cases heq),
      hpartW.resolve_right (fun heq => by cases heq)⟩
  apply sameJson_of_parts (R := fun v w => SameJson v w ∨ ∃ path, BothObjects original draft path ∧
    getManifestValue (.value result.draft) path = .value v ∧
    getManifestValue draft.found path = .value w)
  · rintro v w (hvw | ⟨path, hobjects, hv, hw⟩)
    · exact hvw.leaf
    · obtain ⟨fs, gs, rfl, rfl, -, -⟩ := hfields hobjects hv hw
      rfl
  · rintro v w (hvw | ⟨path, hobjects, hv, hw⟩) step
    · exact rel_mono (fun _ _ => Or.inl) (hvw.child step)
    · obtain ⟨fs, gs, rfl, rfl, hfs, hgs⟩ := hfields hobjects hv hw
      cases step with
      | index n => exact .none
      | key key =>
          rw [← lookup_eq_child hfs.isJson, ← lookup_eq_child hgs.isJson]
          have hmember : ∀ {x : Found} {v : Js}, getManifestValue x path = .value v →
              getManifestValue x (path ++ [key]) = member (.value v) key := by
            intro x v hx
            rw [getManifestValue_append, hx]
            rfl
          by_cases hinner : BothObjects original draft (path ++ [key])
          · have hobjectV := isObject_merged hmerged hlatest hinner
            have hobjectW := hinner.2.2.2
            rw [hmember hv] at hobjectV
            rw [hmember hw] at hobjectW
            refine rel_of_objects hfs hgs hobjectV hobjectW fun p q hp hq => ?_
            exact .inr ⟨path ++ [key], hinner, (hmember hv).trans hp, (hmember hw).trans hq⟩
          · have hequal := merged_below h hmerged hlatest hobjects hinner
            rw [hmember hv, hmember hw] at hequal
            exact rel_mono (fun _ _ => Or.inl) (rel_of_fingerprint hfs hgs hequal)
  · exact .inr ⟨[], ⟨through_nil, through_nil, rfl, rfl⟩, rfl, rfl⟩

include hok in
theorem isMerge_of_mergeable : IsMerge locale original draft latest choices result where
  changed := fun hresolved _ => merged_changed h hmerged hok hresolved
  unchanged := fun _ _ => merged_unchanged hmerged
  objects := fun _ _ => merged_objects h hmerged
  server := fun _ _ => merged_server h hmerged
  conflicts := merged_conflicts h hok
  latestUnchanged := merged_latestUnchanged h hmerged
  draftUnchanged := by
    intro hequal
    have hnone : leafPaths locale original draft = [] := by
      rw [leafPaths, leaves, if_pos (.inr hequal)]
    rw [rebase_eq, hnone] at hok
    cases hok
    rfl

end Sufficient

section Necessary

variable (h : RebasesAsMerge locale original draft latest)

include h

theorem leaf_of_conflictAt (hconflict : ConflictAt locale original draft latest path) :
    path ∈ leafPaths locale original draft := by
  obtain ⟨result, hok, hmerge⟩ := h fun _ => none
  have hreported := (hmerge.conflicts (conflictField path)).mpr ⟨path, hconflict, rfl⟩
  exact ((mem_conflictFields hok).mp hreported).1

/-- By induction on the length: above the first path where latest has no object it has some, so the
two sides have changed that path to different values. -/
theorem objects_of_merge (hobjects : BothObjects original draft path)
    (hdiffer : resourceFingerprint locale (getManifestValue original.found path) ≠
      resourceFingerprint locale (getManifestValue draft.found path)) :
    (getManifestValue latest.found path).isObject = true := by
  induction hlength : path.length using Nat.strong_induction_on generalizing path with
  | _ n ih =>
      by_contra hobject
      have habove : Through latest.found path := by
        intro front hfront hne
        have hshorter : front.length < n := by
          have hle := hfront.length_le
          have hlt : front.length ≠ path.length := fun heq =>
            hne (hfront.eq_of_length heq)
          omega
        apply ih front.length hshorter
        · exact ⟨hobjects.1.front hfront, hobjects.2.1.front hfront, hobjects.1 front hfront hne,
            hobjects.2.1 front hfront hne⟩
        · intro hequal
          obtain ⟨rest, rfl⟩ := hfront
          apply hdiffer
          rw [getManifestValue_append, getManifestValue_append]
          exact resourceFingerprint_getManifestValue ((valid_found _).getManifestValue _)
            ((valid_found _).getManifestValue _) hequal rest
        · rfl
      have hnot : ∀ manifest : SafeManifest,
          (getManifestValue manifest.found path).isObject = true →
          resourceFingerprint locale (getManifestValue latest.found path) ≠
            resourceFingerprint locale (getManifestValue manifest.found path) := by
        intro manifest hmanifest hequal
        exact hobject (isObject_of_fingerprint ((valid_found _).getManifestValue _)
          ((valid_found _).getManifestValue _) hequal.symm hmanifest)
      have hconflict : ConflictAt locale original draft latest path :=
        ⟨hobjects.1, hobjects.2.1, habove, hdiffer, hnot _ hobjects.2.2.1, hnot _ hobjects.2.2.2,
          fun hall => hobject hall.2.2⟩
      have hleaf := (mem_leafPaths.mp (leaf_of_conflictAt h hconflict)).1
      exact hleaf.2.2.2 hobjects.2.2

theorem mergeable_of_merge : Mergeable locale original draft latest := by
  have hobjects : ∀ path, Through original.found path → Through draft.found path →
      (getManifestValue original.found path).isObject = true →
      (getManifestValue draft.found path).isObject = true →
      resourceFingerprint locale (getManifestValue original.found path) ≠
        resourceFingerprint locale (getManifestValue draft.found path) →
      (getManifestValue latest.found path).isObject = true := by
    intro path hthrough hthrough' hobject hobject' hdiffer
    exact objects_of_merge h ⟨hthrough, hthrough', hobject, hobject'⟩ hdiffer
  refine ⟨hobjects, fun path front hchanged hfront hversion => ?_⟩
  have hreaches : Reaches locale original draft latest := by
    intro path hchanged front hfront hne
    exact hobjects front (hchanged.1.front hfront) (hchanged.2.1.front hfront)
      (hchanged.1 front hfront hne) (hchanged.2.1 front hfront hne)
      (hchanged.differs (valid_found _) (valid_found _) hfront)
  have hskipped : path ∉ leafPaths locale original draft := fun hleaf =>
    (mem_leafPaths.mp hleaf).2 front hfront hversion
  by_contra hlive
  by_cases hserver : resourceFingerprint locale (getManifestValue latest.found path) =
      resourceFingerprint locale (getManifestValue original.found path)
  · -- All conflicts are left to the server, so that nothing stays open.
    let choices : String → Option Choice := fun key =>
      if key = pathKey path then none else some .server
    obtain ⟨result, hok, hmerge⟩ := h choices
    obtain ⟨result', hok', hmerged⟩ := exists_merged hreaches choices
    rw [hok] at hok'
    cases hok'
    have hresolved : result.conflicts = [] := by
      rw [(conflicts_of_ok hok).1, List.map_eq_nil_iff, List.filter_eq_nil_iff]
      intro other hother
      rw [decide_eq_true_iff]
      intro hopen
      have hne : pathKey other ≠ pathKey path := by
        intro heq
        exact hskipped (stringifyStrings_injective heq ▸ hother)
      have hchosen : choices (pathKey other) = some .server := if_neg hne
      rw [hopen.2] at hchosen
      cases hchosen
    have hnoChoice : choices (pathKey path) ≠ some .server := by
      have hnone : choices (pathKey path) = none := if_pos rfl
      rw [hnone]
      exact fun heq => by cases heq
    have htaken := hmerge.changed hresolved path hchanged hnoChoice
    rw [hmerged.elsewhere path fun other hother _ => apart_of_version hchanged hskipped hother]
      at htaken
    exact hlive htaken
  · exact hskipped (leaf_of_conflictAt h ⟨hchanged.1, hchanged.2.1, hreaches path hchanged,
      hchanged.2.2.1, hserver, hlive, fun hall => hchanged.2.2.2 ⟨hall.1, hall.2.1⟩⟩)

end Necessary

/-- The rebase is a merge exactly where latest still has an object wherever the original and the
draft have objects that differ, and the draft's version where the user has changed that. -/
theorem rebase_merges_iff (locale : Update.Locale) (original draft latest : SafeManifest) :
    RebasesAsMerge locale original draft latest ↔ Mergeable locale original draft latest := by
  constructor
  · exact mergeable_of_merge
  · intro h choices
    obtain ⟨result, hok, hmerged⟩ := exists_merged h.reaches choices
    exact ⟨result, hok, isMerge_of_mergeable h hok hmerged⟩

theorem safeJson_limits (limits : List (String × Js)) (hkeys : (limits.map Prod.fst).Nodup)
    (hlimits : ∀ field ∈ limits, field.1 ∉ unsafeKeys ∧ SafeJson field.2) :
    SafeJson (.object [("limits", .object limits)]) := by
  refine .object (List.nodup_singleton _) ?_ ?_
  · intro field hfield
    rw [List.mem_singleton.mp hfield]
    show "limits" ∉ unsafeKeys
    decide
  · intro field hfield
    rw [List.mem_singleton.mp hfield]
    exact .object hkeys (fun f hf => (hlimits f hf).1) fun f hf => (hlimits f hf).2

def withoutLimits : SafeManifest where
  fields := [("limits", .object [])]
  safe := safeJson_limits [] List.nodup_nil fun _ hf => absurd hf List.not_mem_nil

def withLimit : SafeManifest where
  fields := [("limits", .object [("cpu", .string "2")])]
  safe := safeJson_limits _ (List.nodup_singleton _) (by
    intro field hfield
    rw [List.mem_singleton.mp hfield]
    exact ⟨by decide, .string _⟩)

def withText : SafeManifest where
  fields := [("limits", .string "none")]
  safe := .object (List.nodup_singleton _)
    (fun field hfield => by
      rw [List.mem_singleton.mp hfield]
      decide)
    fun field hfield => by
      rw [List.mem_singleton.mp hfield]
      exact .string _

/-- What the server has put in the place of an object is overwritten without a conflict. -/
theorem replaced_object_overwritten :
    ¬∀ (locale : Update.Locale) (original draft latest : SafeManifest),
      RebasesAsMerge locale original draft latest := by
  intro h
  let locale := Update.foldLocale id
  have hmergeable := mergeable_of_merge (h locale withoutLimits withLimit withText)
  have hthrough : ∀ manifest : SafeManifest, Through manifest.found ["limits"] := fun manifest =>
    through_cons.mpr ⟨rfl, through_nil⟩
  have hobject := hmergeable.objects ["limits"] (hthrough _) (hthrough _) rfl rfl (by
    intro hequal
    have hmember := resourceFingerprint_getManifestValue
      ((valid_found withoutLimits).getManifestValue ["limits"])
      ((valid_found withLimit).getManifestValue ["limits"]) hequal ["cpu"]
    have hnone : resourceFingerprint locale (getManifestValue
        (getManifestValue withoutLimits.found ["limits"]) ["cpu"]) = none := rfl
    rw [hnone] at hmember
    cases hmember)
  cases hobject

end KubeNova.Editor
