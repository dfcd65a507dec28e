import KubeNova.Workloads.WorkloadCreation

/-!
# What becomes of a requested spec

Cleaning a spec drops more than members that are null: an object or a list of which nothing is left
goes too, and a list loses its hollow entries.  A spec gets through whole exactly where it has none
of these, or nothing else.  A Pod is sent with the default spec, whatever was requested.
-/

namespace KubeNova.Workloads

open KubeNova.Foundation KubeNova.Common

mutual

def hollowFields : List (String × Js) → Bool
  | [] => true
  | (key, item) :: rest => (key == "__proto__" || hollowItem item) && hollowFields rest

def hollowItem : Js → Bool
  | .undefined => true
  | .null => true
  | .array entries => hollowEntries entries
  | .object fields => hollowFields fields
  | _ => false

def hollowEntries : List Js → Bool
  | [] => true
  | .object fields :: rest => hollowFields fields && hollowEntries rest
  | _ :: _ => false

end

mutual

/-- Every member that is not null keeps its place and all that is in it. -/
def keepsFields : List (String × Js) → Bool
  | [] => true
  | (key, item) :: rest =>
      (item.isNullish || (key != "__proto__" && keepsItem item)) && keepsFields rest

def keepsItem : Js → Bool
  | .array entries => !entries.isEmpty && keepsEntries entries
  | .object fields => !hollowFields fields && keepsFields fields
  | _ => true

def keepsEntries : List Js → Bool
  | [] => true
  | .object fields :: rest =>
      (!hollowFields fields && keepsFields fields) && keepsEntries rest
  | _ :: rest => keepsEntries rest

end

/-- An object as a request can have it: no key comes twice anywhere in it. -/
structure SpecObject where
  fields : List (String × Js)
  proper : (Js.object fields).Proper

def SpecObject.toJs (spec : SpecObject) : Js := .object spec.fields

structure SendsRequested (surroundings : Surroundings) (dto : WorkloadCreateDto) : Prop where
  sent : ∀ object ∈ (create surroundings dto).sent, Contains (.object object.spec) dto.spec
  stored : ∀ row ∈ (create surroundings dto).stored, Contains row.spec dto.spec

/-! ## Cleaning, member by member -/

section Cleaning

variable {fields : List (String × Js)} {entries : List Js}

def isObject : Js → Bool
  | .object _ => true
  | _ => false

def stripMember (field : String × Js) : Option (String × Js) :=
  if field.1 = "__proto__" then none else (stripItem field.2).map fun kept => (field.1, kept)

def stripEntry (entry : Js) : Option Js :=
  if isObject entry then stripItem entry else some entry

theorem stripUndefinedDeep_eq (fields : List (String × Js)) :
    stripUndefinedDeep fields = fields.filterMap stripMember := by
  induction fields with
  | nil => rfl
  | cons field fields ih =>
      rw [stripUndefinedDeep, List.filterMap_cons, stripMember, ih]
      by_cases hproto : field.1 = "__proto__"
      · rw [if_pos hproto]
        cases stripItem field.2 with
        | none => rfl
        | some kept => exact if_pos hproto
      · rw [if_neg hproto]
        cases stripItem field.2 with
        | none => rfl
        | some kept => exact if_neg hproto

theorem stripItem_object (fields : List (String × Js)) :
    stripItem (.object fields) =
      if stripUndefinedDeep fields = [] then none else some (.object (stripUndefinedDeep fields)) := by
  rw [stripItem]
  cases stripUndefinedDeep fields <;> rfl

theorem stripItem_array (entries : List Js) :
    stripItem (.array entries) =
      if stripEntries entries = [] then none else some (.array (stripEntries entries)) := by
  rw [stripItem]
  cases stripEntries entries <;> rfl

theorem stripEntries_eq (entries : List Js) : stripEntries entries = entries.filterMap stripEntry := by
  induction entries with
  | nil => rfl
  | cons entry entries ih =>
      rw [List.filterMap_cons, ← ih, stripEntry]
      cases entry with
      | object fields =>
          rw [stripEntries, isObject, if_pos rfl, stripItem]
          cases stripUndefinedDeep fields <;> rfl
      | _ => rfl

theorem hollowFields_iff : hollowFields fields = true ↔
    ∀ field ∈ fields, field.1 = "__proto__" ∨ hollowItem field.2 = true := by
  induction fields with
  | nil => simp [hollowFields]
  | cons field fields ih =>
      rw [hollowFields, Bool.and_eq_true, Bool.or_eq_true, beq_iff_eq, ih, List.forall_mem_cons]

theorem hollowEntries_iff : hollowEntries entries = true ↔
    ∀ entry ∈ entries, isObject entry = true ∧ hollowItem entry = true := by
  induction entries with
  | nil => simp [hollowEntries]
  | cons entry entries ih =>
      rw [List.forall_mem_cons, ← ih]
      cases entry with
      | object fields => rw [hollowEntries, Bool.and_eq_true, isObject, hollowItem]; simp
      | _ => simp [hollowEntries, isObject]

theorem keepsFields_iff : keepsFields fields = true ↔ ∀ field ∈ fields,
    field.2.isNullish = true ∨ field.1 ≠ "__proto__" ∧ keepsItem field.2 = true := by
  induction fields with
  | nil => simp [keepsFields]
  | cons field fields ih =>
      rw [keepsFields, Bool.and_eq_true, Bool.or_eq_true, Bool.and_eq_true, bne_iff_ne, ih,
        List.forall_mem_cons]

theorem keepsEntries_iff : keepsEntries entries = true ↔
    ∀ entry ∈ entries, isObject entry = true → keepsItem entry = true := by
  induction entries with
  | nil => simp [keepsEntries]
  | cons entry entries ih =>
      rw [List.forall_mem_cons, ← ih]
      cases entry with
      | object fields => rw [keepsEntries, Bool.and_eq_true, isObject, keepsItem]; simp
      | _ => simp [keepsEntries, isObject]

theorem stripItem_eq_none (value : Js) : stripItem value = none ↔ hollowItem value = true := by
  induction value using Js.induction with
  | leaf value hleaf => cases value <;> first | (simp [stripItem, hollowItem]; done) | cases hleaf
  | array entries ih =>
      have hentry : ∀ entry ∈ entries,
          stripEntry entry = none ↔ isObject entry = true ∧ hollowItem entry = true := by
        intro entry hentry
        rw [stripEntry, ← ih entry hentry]
        cases isObject entry <;> simp
      rw [stripItem_array, hollowItem, hollowEntries_iff, stripEntries_eq]
      rw [ite_eq_left_iff, imp_iff_not (Option.some_ne_none _), not_not,
        List.filterMap_eq_nil_iff]
      exact forall₂_congr hentry
  | object fields ih =>
      have hmember : ∀ field ∈ fields,
          stripMember field = none ↔ field.1 = "__proto__" ∨ hollowItem field.2 = true := by
        intro field hfield
        rw [stripMember, ← ih field hfield]
        by_cases hproto : field.1 = "__proto__"
        · simp [hproto]
        · simp [hproto]
      rw [stripItem_object, hollowItem, hollowFields_iff, stripUndefinedDeep_eq]
      rw [ite_eq_left_iff, imp_iff_not (Option.some_ne_none _), not_not,
        List.filterMap_eq_nil_iff]
      exact forall₂_congr hmember

theorem stripUndefinedDeep_eq_nil : stripUndefinedDeep fields = [] ↔ hollowFields fields = true := by
  have h := stripItem_eq_none (.object fields)
  rw [stripItem_object, ite_eq_left_iff, imp_iff_not (Option.some_ne_none _), not_not] at h
  exact h

theorem nodup_stripUndefinedDeep (h : (fields.map Prod.fst).Nodup) :
    ((stripUndefinedDeep fields).map Prod.fst).Nodup := by
  have hsublist : ((fields.filterMap stripMember).map Prod.fst).Sublist (fields.map Prod.fst) := by
    clear h
    induction fields with
    | nil => exact .slnil
    | cons field fields ih =>
        rw [List.filterMap_cons]
        cases hmember : stripMember field with
        | none => exact ih.cons _
        | some kept =>
            have hkey : kept.1 = field.1 := by
              rw [stripMember, Option.ite_none_left_eq_some, Option.map_eq_some_iff] at hmember
              obtain ⟨-, value, -, rfl⟩ := hmember
              rfl
            rw [List.map_cons, List.map_cons, hkey]
            exact ih.cons_cons _
  rw [stripUndefinedDeep_eq]
  exact h.sublist hsublist

theorem lookup_stripUndefinedDeep (h : (fields.map Prod.fst).Nodup) {key : String} {kept : Js} :
    (stripUndefinedDeep fields).lookup key = some kept ↔
      key ≠ "__proto__" ∧ ∃ item, (key, item) ∈ fields ∧ stripItem item = some kept := by
  rw [← mem_iff_lookup (nodup_stripUndefinedDeep h), stripUndefinedDeep_eq, List.mem_filterMap]
  constructor
  · rintro ⟨⟨name, item⟩, hfield, hmember⟩
    rw [stripMember, Option.ite_none_left_eq_some, Option.map_eq_some_iff] at hmember
    obtain ⟨hproto, value, hvalue, heq⟩ := hmember
    obtain ⟨rfl, rfl⟩ := Prod.mk.inj heq
    exact ⟨hproto, item, hfield, hvalue⟩
  · rintro ⟨hproto, item, hfield, hkept⟩
    refine ⟨(key, item), hfield, ?_⟩
    rw [stripMember, if_neg hproto, hkept]
    rfl

theorem getElem?_stripEntries (h : ∀ entry ∈ entries, (stripEntry entry).isSome = true) (n : Nat) :
    (stripEntries entries)[n]? = entries[n]?.bind stripEntry := by
  rw [stripEntries_eq]
  induction entries generalizing n with
  | nil => rfl
  | cons entry entries ih =>
      obtain ⟨kept, hkept⟩ := Option.isSome_iff_exists.mp (h entry List.mem_cons_self)
      rw [List.filterMap_cons, hkept]
      cases n with
      | zero => exact hkept.symm
      | succ n => exact ih (fun other hother => h other (List.mem_cons_of_mem _ hother)) n

def GetsThrough (item : Js) : Prop := ∃ kept, stripItem item = some kept ∧ Contains kept item

theorem getsThrough_of_ite {c : Prop} [Decidable c] {item kept : Js}
    (h : stripItem item = if c then none else some kept) :
    GetsThrough item ↔ ¬c ∧ Contains kept item := by
  rw [GetsThrough, h]
  constructor
  · rintro ⟨other, hother, hcontains⟩
    obtain ⟨hc, hsame⟩ := Option.ite_none_left_eq_some.mp hother
    exact ⟨hc, Option.some.inj hsame ▸ hcontains⟩
  · rintro ⟨hc, hcontains⟩
    exact ⟨kept, if_neg hc, hcontains⟩

theorem contains_stripUndefinedDeep (h : (Js.object fields).Proper)
    (hitems : ∀ field ∈ fields, field.2.isNullish = false →
      (GetsThrough field.2 ↔ keepsItem field.2 = true)) :
    Contains (.object (stripUndefinedDeep fields)) (.object fields) ↔
      keepsFields fields = true := by
  have hnodup := h.nodup_keys
  rw [contains_object (nodup_stripUndefinedDeep hnodup) hnodup, keepsFields_iff]
  refine forall₂_congr fun field hfield => ?_
  have hleaf := (h.member hfield).leaf_eq_null
  cases hnullish : field.2.isNullish with
  | true => exact iff_of_true (fun hne => absurd (hleaf.mpr hnullish) hne) (.inl rfl)
  | false =>
      have hne : field.2.leaf ≠ .null := by
        rw [Ne, hleaf, hnullish]
        exact Bool.false_ne_true
      rw [← hitems field hfield hnullish, forall_prop_of_true hne]
      constructor
      · rintro ⟨kept, hlookup, hcontains⟩
        obtain ⟨hproto, item, hitem, hstrip⟩ := (lookup_stripUndefinedDeep hnodup).mp hlookup
        have hsame : item = field.2 := Option.some.inj
          (((mem_iff_lookup hnodup).mp hitem).symm.trans ((mem_iff_lookup hnodup).mp hfield))
        exact .inr ⟨hproto, kept, hsame ▸ hstrip, hcontains⟩
      · rintro (hnull | ⟨hproto, kept, hstrip, hcontains⟩)
        · cases hnull
        · exact ⟨kept, (lookup_stripUndefinedDeep hnodup).mpr ⟨hproto, field.2, hfield, hstrip⟩,
            hcontains⟩

theorem contains_stripEntries
    (hentries : ∀ entry ∈ entries, isObject entry = true →
      (GetsThrough entry ↔ keepsItem entry = true)) :
    Contains (.array (stripEntries entries)) (.array entries) ↔ keepsEntries entries = true := by
  rw [contains_array, keepsEntries_iff, stripEntries_eq, List.filterMap_length_eq_length,
    ← stripEntries_eq]
  constructor
  · rintro ⟨hsome, hparts⟩ entry hentry hobject
    obtain ⟨n, hn⟩ := List.mem_iff_getElem?.mp hentry
    have hleaf : entry.leaf ≠ .null := by
      cases entry <;> first | exact Leaf.noConfusion | cases hobject
    obtain ⟨kept, hkept, hcontains⟩ := hparts n entry hn hleaf
    rw [getElem?_stripEntries hsome, hn, Option.bind_some, stripEntry, if_pos hobject] at hkept
    exact (hentries entry hentry hobject).mp ⟨kept, hkept, hcontains⟩
  · intro hkeeps
    have hthrough : ∀ entry ∈ entries, ∃ kept, stripEntry entry = some kept ∧ Contains kept entry := by
      intro entry hentry
      rw [stripEntry]
      by_cases hobject : isObject entry = true
      · rw [if_pos hobject]
        exact (hentries entry hentry hobject).mpr (hkeeps entry hentry hobject)
      · rw [if_neg hobject]
        exact ⟨entry, rfl, .refl entry⟩
    have hsome : ∀ entry ∈ entries, (stripEntry entry).isSome = true := by
      intro entry hentry
      obtain ⟨kept, hkept, -⟩ := hthrough entry hentry
      rw [hkept]
      rfl
    refine ⟨hsome, fun n entry hn _ => ?_⟩
    obtain ⟨kept, hkept, hcontains⟩ := hthrough entry (List.mem_of_getElem? hn)
    refine ⟨kept, ?_, hcontains⟩
    rw [getElem?_stripEntries hsome, hn, Option.bind_some, hkept]

theorem getsThrough_iff (value : Js) (h : value.Proper) (hnullish : value.isNullish = false) :
    GetsThrough value ↔ keepsItem value = true := by
  induction value using Js.induction with
  | leaf value hleaf =>
      have hself : stripItem value = some value ∧ keepsItem value = true := by
        cases value <;> first | exact ⟨rfl, rfl⟩ | (cases hnullish; done) | cases hleaf
      exact iff_of_true ⟨value, hself.1, .refl value⟩ hself.2
  | array entries ih =>
      have hentries := contains_stripEntries fun entry hentry hobject =>
        ih entry hentry (h.element hentry) (by cases entry <;> first | rfl | cases hobject)
      rw [getsThrough_of_ite (stripItem_array entries), keepsItem, Bool.and_eq_true, ← hentries]
      refine and_congr_left fun hcontains => ?_
      have hlength := (contains_array.mp hcontains).1
      rw [Bool.not_eq_true', List.isEmpty_eq_false_iff, ← List.length_eq_zero_iff, hlength,
        List.length_eq_zero_iff]
  | object fields ih =>
      have hfields := contains_stripUndefinedDeep h fun field hfield hitem =>
        ih field hfield (h.member hfield) hitem
      rw [getsThrough_of_ite (stripItem_object fields), keepsItem, Bool.and_eq_true, ← hfields,
        Bool.not_eq_true', ← Bool.not_eq_true, ← stripUndefinedDeep_eq_nil]

end Cleaning

/-! ## What is sent and stored -/

section Creation

variable {dto : WorkloadCreateDto}

def specOf (requested : SpecObject) : List (String × Js) :=
  match stripUndefinedDeep requested.fields with
  | [] => requested.fields
  | cleaned => cleaned

theorem withSpec_normalizeCreateSpec (requested : SpecObject) (h : dto.spec = requested.toJs) :
    dto.withSpec (normalizeCreateSpec dto.spec) = { dto with spec := .object (specOf requested) } := by
  rw [h, SpecObject.toJs, normalizeCreateSpec, specOf]
  cases stripUndefinedDeep requested.fields with
  | nil => rw [← SpecObject.toJs, ← h]; rfl
  | cons field fields => rfl

theorem nodup_specOf (requested : SpecObject) : ((specOf requested).map Prod.fst).Nodup := by
  have hcleaned := nodup_stripUndefinedDeep requested.proper.nodup_keys
  rw [specOf]
  split
  · exact requested.proper.nodup_keys
  · exact hcleaned

theorem contains_specOf (requested : SpecObject) :
    Contains (.object (specOf requested)) requested.toJs ↔
      hollowFields requested.fields = true ∨ keepsFields requested.fields = true := by
  have hclean := contains_stripUndefinedDeep requested.proper fun field hfield hitem =>
    getsThrough_iff field.2 (requested.proper.member hfield) hitem
  rw [specOf, ← stripUndefinedDeep_eq_nil, ← hclean, SpecObject.toJs]
  split
  · rename_i hnil
    exact iff_of_true (.refl _) (.inl hnil)
  · rename_i hne
    exact (or_iff_right hne).symm

theorem nodup_defaultSpec {kind : String} {defaults : List (String × Js)}
    (h : defaultSpec dto kind = some defaults) : (defaults.map Prod.fst).Nodup := by
  unfold defaultSpec at h
  dsimp only at h
  split_ifs at h <;> (rw [← Option.some.inj h]; simp)

theorem clusterObject_spec {object : ClusterObject} (h : clusterObject dto = some object) :
    normalizeKind dto.kind = "Pod" ∧ object.spec = defaultPodSpec ∨
      normalizeKind dto.kind ≠ "Pod" ∧ ∃ defaults : List (String × Js),
        (defaults.map Prod.fst).Nodup ∧ object.spec = Js.spread defaults (rawSpec dto) := by
  unfold clusterObject at h
  dsimp only at h
  by_cases hkind : normalizeKind dto.kind = "Pod"
  · rw [if_pos hkind] at h
    exact .inl ⟨hkind, by rw [← Option.some.inj h]⟩
  · rw [if_neg hkind, Option.map_eq_some_iff] at h
    obtain ⟨defaults, hdefaults, hobject⟩ := h
    exact .inr ⟨hkind, defaults, nodup_defaultSpec hdefaults, by rw [← hobject]⟩

theorem contains_of_pod {part : Js}
    (hsent : ∀ object ∈ clusterObject dto, Contains (.object object.spec) part)
    (h : normalizeKind dto.kind = "Pod") : Contains (.object defaultPodSpec) part := by
  have hobject : ∃ object, clusterObject dto = some object ∧ object.spec = defaultPodSpec := by
    unfold clusterObject
    dsimp only
    rw [if_pos h]
    exact ⟨_, rfl, rfl⟩
  obtain ⟨object, hobject, hspec⟩ := hobject
  rw [← hspec]
  exact hsent object hobject

theorem storeWorkload_sent (surroundings : Surroundings) (dto : WorkloadCreateDto)
    (sent : Option ClusterObject) : (storeWorkload surroundings dto sent).sent = sent := by
  rw [storeWorkload]
  split <;> rfl

theorem storeWorkload_stored {surroundings : Surroundings} {sent : Option ClusterObject}
    {row : WorkloadRow} (h : row ∈ (storeWorkload surroundings dto sent).stored) :
    row = workloadRow dto := by
  rw [storeWorkload] at h
  split at h
  · exact (Option.some.inj h).symm
  · cases h

theorem create_sent {surroundings : Surroundings} {object : ClusterObject}
    (h : object ∈ (create surroundings dto).sent) :
    clusterObject (dto.withSpec (normalizeCreateSpec dto.spec)) = some object := by
  unfold create at h
  dsimp only at h
  split at h
  · cases h
  · split at h
    · cases h
    · split at h
      · rw [storeWorkload_sent] at h
        cases h
      · rename_i sent hsent
        split at h
        · exact hsent.trans h
        · rw [storeWorkload_sent] at h
          exact hsent.trans h

theorem create_stored {surroundings : Surroundings} {row : WorkloadRow}
    (h : row ∈ (create surroundings dto).stored) :
    row = workloadRow (dto.withSpec (normalizeCreateSpec dto.spec)) := by
  unfold create at h
  dsimp only at h
  split at h
  · cases h
  · split at h
    · cases h
    · split at h
      · exact storeWorkload_stored h
      · split at h
        · cases h
        · exact storeWorkload_stored h

def letThrough : Surroundings where
  permitted := true
  kubeconfig := some ""
  accepted _ := .ok ()
  inserted _ := .ok ()

theorem create_letThrough (dto : WorkloadCreateDto) : create letThrough dto =
    ⟨clusterObject (dto.withSpec (normalizeCreateSpec dto.spec)),
      some (workloadRow (dto.withSpec (normalizeCreateSpec dto.spec))), .ok ()⟩ := by
  unfold create
  dsimp only [letThrough]
  cases clusterObject (dto.withSpec (normalizeCreateSpec dto.spec)) <;> rfl

/-- Creating a workload sends and stores all of the requested spec exactly where cleaning drops
nothing but nulls of it, or leaves nothing of it, and where a Pod is asked for nothing that the
default spec does not have. -/
theorem create_sends_iff (dto : WorkloadCreateDto) (requested : SpecObject) :
    (∀ surroundings, SendsRequested surroundings { dto with spec := requested.toJs }) ↔
      (hollowFields requested.fields = true ∨ keepsFields requested.fields = true) ∧
        (normalizeKind dto.kind = "Pod" → Contains (.object defaultPodSpec) requested.toJs) := by
  rw [← contains_specOf]
  have hspec := @withSpec_normalizeCreateSpec { dto with spec := requested.toJs } requested rfl
  constructor
  · intro h
    obtain ⟨hsent, hstored⟩ := h letThrough
    rw [create_letThrough, hspec] at hsent hstored
    dsimp only at hsent
    have hpod := contains_of_pod hsent
    exact ⟨hstored _ rfl, hpod⟩
  · rintro ⟨hcontains, hpod⟩ surroundings
    refine ⟨fun object hobject => ?_, fun row hrow => ?_⟩
    · have hcluster := create_sent hobject
      rw [hspec] at hcluster
      obtain ⟨hkind, hobjectSpec⟩ | ⟨-, defaults, hdefaults, hobjectSpec⟩ :=
        clusterObject_spec hcluster
      · rw [hobjectSpec]
        exact hpod hkind
      · rw [hobjectSpec]
        exact (contains_spread hdefaults (nodup_specOf requested)).trans hcontains
    · have hstored := create_stored hrow
      rw [hspec] at hstored
      rw [hstored]
      exact hcontains

end Creation

def scratchSpec : SpecObject where
  fields := [("template", .object [("spec", .object [("volumes", .array [.object
    [("name", .string "scratch"), ("emptyDir", .object [])]])])])]
  proper := by
    refine .object (by decide) (List.forall_mem_singleton.mpr ?_)
    refine .object (by decide) (List.forall_mem_singleton.mpr ?_)
    refine .object (by decide) (List.forall_mem_singleton.mpr ?_)
    refine .array (List.forall_mem_singleton.mpr ?_)
    refine .object (by decide) (List.forall_mem_cons.mpr ⟨.string _, ?_⟩)
    exact List.forall_mem_singleton.mpr (.object .nil (List.forall_mem_nil _))

def scratchDeployment : WorkloadCreateDto where
  clusterId := "c1"
  ns := "default"
  kind := "Deployment"
  name := "web"
  replicas := .undefined
  readyReplicas := .undefined
  spec := scratchSpec.toJs
  statusJson := .undefined
  labels := .undefined
  annotations := .undefined

theorem emptyDir_lost : ¬∀ surroundings, SendsRequested surroundings scratchDeployment := by
  intro h
  have hstored := (h letThrough).stored
  rw [create_letThrough, withSpec_normalizeCreateSpec scratchSpec rfl] at hstored
  have hcontains : Contains (.object (specOf scratchSpec)) scratchSpec.toJs := hstored _ rfl
  have hlost := hcontains
    [.key "template", .key "spec", .key "volumes", .index 0, .key "emptyDir"] .object rfl
    Leaf.noConfusion
  revert hlost
  decide

end KubeNova.Workloads
