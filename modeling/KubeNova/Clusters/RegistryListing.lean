import KubeNova.Clusters.ClusterRegistry

/-!
# When a listing of the registry is exact

A listing goes by the status column and shows the state of the metadata.  Every listing is exact
where the two agree on every row, and where what the database finds by a keyword is found again in
memory.
-/

namespace KubeNova.Clusters.Registry

open KubeNova.Foundation KubeNova.Clusters.Health

variable {texts : Texts} {registry : Registry} {query : ListQuery} {row : RegistryRow}

/-! ## The rows a query asks for -/

/-- The part of the `WHERE` that is about the state. -/
def stateClause (query : ListQuery) (row : RegistryRow) : Bool :=
  match query.state with
  | some .deleted => row.deletedAt.isSome || row.status == "deleted"
  | some state => row.deletedAt.isNone && row.status == state.text
  | none => row.deletedAt.isNone && row.status != "deleted"

def stateMatches (query : ListQuery) (record : ClusterRecord) : Bool :=
  match query.state with
  | some state => record.state == state
  | none => record.state != .deleted

theorem toRecord_state (row : RegistryRow) : row.toRecord.state =
    if row.deletedAt.isSome then .deleted
    else Health.parseState ((parseMetadata row.metadata).state.getD row.status) := rfl

theorem stateClause_eq (h : row.Agrees) : stateClause query row = stateMatches query row.toRecord := by
  rw [stateClause, stateMatches, toRecord_state]
  cases hdeleted : row.deletedAt with
  | some time =>
      cases query.state with
      | none => rfl
      | some state => cases state <;> rfl
  | none =>
      have hstatus : row.status =
          (Health.parseState ((parseMetadata row.metadata).state.getD row.status)).text :=
        h.resolve_left (by rw [hdeleted]; exact Bool.false_ne_true)
      generalize Health.parseState ((parseMetadata row.metadata).state.getD row.status) = stored
        at hstatus
      rw [hstatus]
      cases query.state with
      | none => cases stored <;> decide
      | some state => cases state <;> cases stored <;> decide

theorem whereClause_eq (texts : Texts) (query : ListQuery) (row : RegistryRow) :
    query.params.whereClause texts row.toRow =
      (query.accessibleClusterIds.all (·.contains row.id) && stateClause query row &&
        (given query.keyword).all (texts.nameContains row.name ·)) := rfl

def keywordKept (texts : Texts) (query : ListQuery) (record : ClusterRecord) : Bool :=
  ((given query.keyword).map fun keyword => texts.lower (Text.trim keyword)).all fun keyword =>
    keyword == "" || [record.id, record.name, record.provider].any fun text =>
      Text.contains keyword (texts.lower text)

theorem keeps_eq (texts : Texts) (query : ListQuery) (record : ClusterRecord) :
    query.params.keeps texts record =
      ((given query.provider).all (record.provider == ·) &&
        (given query.environment).all (record.environment == ·) &&
        (given query.status).all (record.status == ·) && keywordKept texts query record) := rfl

theorem keywordKept_of_foundAgain (h : row.FoundAgain texts)
    (hfound : (given query.keyword).all (texts.nameContains row.name ·) = true) :
    keywordKept texts query row.toRecord = true := by
  rw [keywordKept]
  cases hkeyword : given query.keyword with
  | none => rfl
  | some keyword =>
      have hne : keyword ≠ "" := by
        obtain ⟨-, hne⟩ := Option.filter_eq_some_iff.mp hkeyword
        exact of_decide_eq_true hne
      rw [hkeyword] at hfound
      rw [Option.map_some, Option.all_some, Bool.or_eq_true, beq_iff_eq, List.any_eq_true]
      exact h keyword hne hfound

theorem filters_of_database (h : query.params.needsMemoryFilter = false) :
    given query.provider = none ∧ given query.environment = none ∧ given query.status = none ∧
      query.params.sortsByRuntime = false := by
  have hparts : (((given query.provider).isSome = false ∧ (given query.environment).isSome = false) ∧
      (given query.status).isSome = false) ∧ query.params.sortsByRuntime = false := by
    rw [← Bool.or_eq_false_iff, ← Bool.or_eq_false_iff, ← Bool.or_eq_false_iff]
    exact h
  obtain ⟨⟨⟨hprovider, henvironment⟩, hstatus⟩, hsort⟩ := hparts
  exact ⟨Option.isNone_iff_eq_none.mp (Option.isSome_eq_false_iff.mp hprovider),
    Option.isNone_iff_eq_none.mp (Option.isSome_eq_false_iff.mp henvironment),
    Option.isNone_iff_eq_none.mp (Option.isSome_eq_false_iff.mp hstatus), hsort⟩

theorem matches_eq (texts : Texts) (query : ListQuery) (record : ClusterRecord) :
    Matches texts query record =
      (query.accessibleClusterIds.all (·.contains record.id) && stateMatches query record &&
        (given query.keyword).all (texts.nameContains record.name ·) &&
        (given query.provider).all (record.provider == ·) &&
        (given query.environment).all (record.environment == ·) &&
        (given query.status).all (record.status == ·)) := rfl

theorem wants_eq_matches (hagrees : row.Agrees) (hagain : row.FoundAgain texts) :
    query.params.wants texts row.toRow = Matches texts query row.toRecord := by
  rw [ClusterListParams.wants, whereClause_eq, matches_eq, stateClause_eq hagrees,
    show Health.toRecord row.toRow = row.toRecord from rfl, keeps_eq]
  show _ = (query.accessibleClusterIds.all (·.contains row.id) && _ &&
    (given query.keyword).all (texts.nameContains row.name ·) && _ && _ && _)
  cases hfound : (given query.keyword).all (texts.nameContains row.name ·) with
  | false => simp only [Bool.and_false, Bool.false_and]
  | true =>
      rw [keywordKept_of_foundAgain hagain hfound]
      cases hneeds : query.params.needsMemoryFilter with
      | true => simp only [Bool.not_true, Bool.false_or, Bool.and_true, Bool.and_assoc]
      | false =>
          obtain ⟨hprovider, henvironment, hstatus, -⟩ := filters_of_database hneeds
          rw [hprovider, henvironment, hstatus]
          simp only [Bool.not_false, Bool.true_or, Bool.and_true, Option.all_none]

theorem total_eq (texts : Texts) (query : ListQuery) (registry : Registry) :
    (list texts query registry).total =
      registry.rows.countP fun row => query.params.wants texts row.toRow := by
  have hlength := (@listed_perm texts query.params registry.clusterRows).length_eq
  rw [Registry.clusterRows, List.filter_map, List.length_map, ← List.countP_eq_length_filter]
    at hlength
  exact hlength

theorem wants_of_item {record : ClusterRecord} (h : record ∈ (list texts query registry).items) :
    ∃ row ∈ registry.rows, query.params.wants texts row.toRow = true ∧ row.toRecord = record := by
  obtain ⟨clusterRow, hpage, hrecord⟩ := List.mem_map.mp h
  have hlisted : clusterRow ∈ query.params.listed texts registry.clusterRows :=
    List.mem_of_mem_drop (List.mem_of_mem_take hpage)
  have hfilter := (listed_perm query.params registry.clusterRows).mem_iff.mp hlisted
  obtain ⟨hmem, hwants⟩ := List.mem_filter.mp hfilter
  obtain ⟨row, hrow, rfl⟩ := List.mem_map.mp hmem
  exact ⟨row, hrow, hwants, hrecord⟩

theorem state_of_matches {state : Health.ClusterState} {record : ClusterRecord}
    (hstate : query.state = some state) (h : Matches texts query record = true) :
    record.state = state := by
  simp only [matches_eq, Bool.and_eq_true] at h
  obtain ⟨⟨⟨⟨⟨-, hmatches⟩, -⟩, -⟩, -⟩, -⟩ := h
  rw [stateMatches, hstate] at hmatches
  exact beq_iff_eq.mp hmatches

theorem keeps_of_found (hneeds : query.params.needsMemoryFilter = false)
    (hagain : row.FoundAgain texts) (hwhere : query.params.whereClause texts row.toRow = true) :
    query.params.keeps texts row.toRecord = true := by
  obtain ⟨hprovider, henvironment, hstatus, -⟩ := filters_of_database hneeds
  rw [whereClause_eq, Bool.and_eq_true] at hwhere
  rw [keeps_eq, hprovider, henvironment, hstatus, keywordKept_of_foundAgain hagain hwhere.2]
  rfl

theorem paths_iff (hneeds : query.params.needsMemoryFilter = false) :
    listInMemory texts query registry = listInDatabase texts query registry ↔
      ∀ row ∈ registry.rows, query.params.whereClause texts row.toRow = true →
        query.params.keeps texts row.toRecord = true := by
  obtain ⟨-, -, -, hsort⟩ := filters_of_database hneeds
  have hmemory : listInMemory texts query registry = resultOf query.params
      ((query.params.found texts registry.clusterRows).filter fun row =>
        query.params.keeps texts (Health.toRecord row)) := by
    rw [listInMemory, hsort]
    rfl
  have hfound : ∀ clusterRow, clusterRow ∈ query.params.found texts registry.clusterRows ↔
      ∃ row ∈ registry.rows, query.params.whereClause texts row.toRow = true ∧
        row.toRow = clusterRow := by
    intro clusterRow
    rw [ClusterListParams.found, List.mem_insertionSort, List.mem_filter, Registry.clusterRows,
      List.mem_map]
    constructor
    · rintro ⟨⟨row, hrow, rfl⟩, hwhere⟩
      exact ⟨row, hrow, hwhere, rfl⟩
    · rintro ⟨row, hrow, hwhere, rfl⟩
      exact ⟨⟨row, hrow, rfl⟩, hwhere⟩
  rw [hmemory, listInDatabase]
  constructor
  · intro h row hrow hwhere
    have hlength := congrArg ClusterListResult.total h
    exact List.length_filter_eq_length_iff.mp hlength row.toRow
      ((hfound row.toRow).mpr ⟨row, hrow, hwhere, rfl⟩)
  · intro h
    have hkeeps : ∀ clusterRow ∈ query.params.found texts registry.clusterRows,
        query.params.keeps texts (Health.toRecord clusterRow) = true := by
      intro clusterRow hclusterRow
      obtain ⟨row, hrow, hwhere, rfl⟩ := (hfound clusterRow).mp hclusterRow
      exact h row hrow hwhere
    rw [List.filter_eq_self.mpr hkeeps]

def queryFor (id : String) (state : Option Health.ClusterState) (keyword : Option String) :
    ListQuery where
  keyword := keyword
  provider := none
  state := state
  environment := none
  status := none
  sortBy := none
  ascending := false
  page := 1
  pageSize := 1
  accessibleClusterIds := some [id]

theorem eq_of_id {other : RegistryRow} (hrow : row ∈ registry.rows) (hother : other ∈ registry.rows)
    (h : other.id = row.id) : other = row :=
  List.inj_on_of_nodup_map registry.distinct hother hrow h

theorem status_of_stateClause {state : Health.ClusterState} (hstate : query.state = some state)
    (hdeleted : row.deletedAt.isSome = false) (h : stateClause query row = true) :
    row.status = state.text := by
  rw [stateClause, hstate] at h
  cases state with
  | deleted =>
      rw [hdeleted, Bool.false_or] at h
      exact beq_iff_eq.mp h
  | active => exact beq_iff_eq.mp (Bool.and_eq_true _ _ ▸ h).2
  | disabled => exact beq_iff_eq.mp (Bool.and_eq_true _ _ ▸ h).2

theorem agrees_of_exact (hrow : row ∈ registry.rows)
    (h : ∀ query, ListExact texts registry query) : row.Agrees := by
  by_cases hdeleted : row.deletedAt.isSome = true
  · exact .inl hdeleted
  right
  have htotal := (h (queryFor row.id (some row.toRecord.state) none)).total
  have hmatches : Matches texts (queryFor row.id (some row.toRecord.state) none) row.toRecord =
      true := by
    rw [matches_eq]
    simp [queryFor, stateMatches, given, RegistryRow.toRecord, RegistryRow.toRow, Health.toRecord]
  have hpos : 0 < registry.rows.countP fun other =>
      (queryFor row.id (some row.toRecord.state) none).params.wants texts other.toRow := by
    rw [← total_eq, htotal]
    exact List.countP_pos_iff.mpr ⟨row, hrow, hmatches⟩
  obtain ⟨other, hother, hwants⟩ := List.countP_pos_iff.mp hpos
  rw [ClusterListParams.wants, Bool.and_eq_true, whereClause_eq, Bool.and_eq_true,
    Bool.and_eq_true] at hwants
  obtain ⟨⟨⟨hid, hstate⟩, -⟩, -⟩ := hwants
  have hsame : other = row := by
    apply eq_of_id hrow hother
    simpa [queryFor] using hid
  rw [hsame] at hstate
  have hstatus := status_of_stateClause rfl (Bool.not_eq_true _ ▸ hdeleted) hstate
  rw [toRecord_state, if_neg hdeleted] at hstatus
  exact hstatus

theorem foundAgain_of_exact (hrow : row ∈ registry.rows)
    (h : ∀ query, ListExact texts registry query) : row.FoundAgain texts := by
  intro keyword hne hcontains
  have hgiven : given (some keyword) = some keyword := by simp [given, hne]
  -- The state that the `WHERE` sees in the row.
  have hstate : ∃ state, stateClause (queryFor row.id state (some keyword)) row = true := by
    cases hclause : stateClause (queryFor row.id none (some keyword)) row with
    | true => exact ⟨none, hclause⟩
    | false =>
        refine ⟨some .deleted, ?_⟩
        rw [stateClause, queryFor] at hclause ⊢
        dsimp only at hclause ⊢
        rw [Bool.or_eq_true, beq_iff_eq]
        rw [Bool.and_eq_false_iff, bne_eq_false_iff_eq, Option.isNone_eq_false_iff] at hclause
        exact hclause
  obtain ⟨state, hstate⟩ := hstate
  have hneeds : (queryFor row.id state (some keyword)).params.needsMemoryFilter = false := rfl
  have hwhere : (queryFor row.id state (some keyword)).params.whereClause texts row.toRow = true := by
    have hid : (queryFor row.id state (some keyword)).accessibleClusterIds.all
        (·.contains row.id) = true := by simp [queryFor]
    have hkeyword : (given (queryFor row.id state (some keyword)).keyword).all
        (texts.nameContains row.name ·) = true := by
      show (given (some keyword)).all _ = true
      rw [hgiven, Option.all_some, hcontains]
    rw [whereClause_eq, hid, hstate, hkeyword]
    rfl
  have hkeeps := (paths_iff hneeds).mp ((h _).paths hneeds) row hrow hwhere
  rw [keeps_eq, Bool.and_eq_true] at hkeeps
  have hkept : keywordKept texts (queryFor row.id state (some keyword)) row.toRecord = true :=
    hkeeps.2
  rw [keywordKept, show (queryFor row.id state (some keyword)).keyword = some keyword from rfl,
    hgiven, Option.map_some, Option.all_some, Bool.or_eq_true, beq_iff_eq,
    List.any_eq_true] at hkept
  exact hkept

/-- Every listing is exact where, and only where, the rows that are not deleted by their date have
the state of their metadata as their status, and the database finds no keyword that is not found
again. -/
theorem list_exact_iff (texts : Texts) (registry : Registry) :
    (∀ query, ListExact texts registry query) ↔
      ∀ row ∈ registry.rows, row.Agrees ∧ row.FoundAgain texts := by
  constructor
  · exact fun h row hrow => ⟨agrees_of_exact hrow h, foundAgain_of_exact hrow h⟩
  · intro h query
    have hwants : ∀ row ∈ registry.rows,
        query.params.wants texts row.toRow = Matches texts query row.toRecord :=
      fun row hrow => wants_eq_matches (h row hrow).1 (h row hrow).2
    refine ⟨fun state hstate record hrecord => ?_, ?_, fun hneeds => ?_⟩
    · obtain ⟨row, hrow, hrowWants, rfl⟩ := wants_of_item hrecord
      rw [hwants row hrow] at hrowWants
      exact state_of_matches hstate hrowWants
    · rw [total_eq]
      exact List.countP_congr fun row hrow => by rw [hwants row hrow]
    · exact (paths_iff hneeds).mpr fun row hrow => keeps_of_found hneeds (h row hrow).2

def disabledCluster : Registry where
  rows := [⟨"c1", "edge", "disabled", .object [("kubeconfig", .string "apiVersion: v1")], none, 0, 0,
    none⟩]
  distinct := List.nodup_singleton _

theorem disabled_listed_active :
    ¬∀ (texts : Texts) (registry : Registry) (query : ListQuery),
      ListExact texts registry query := by
  intro h
  have hstates := (h plainTexts disabledCluster (queryFor "c1" (some .disabled) none)).states
  have hstate := hstates .disabled rfl _ (List.mem_singleton_self _)
  cases hstate

end KubeNova.Clusters.Registry
