import KubeNova.Clusters.ClusterHealth

/-!
# Paging through a runtime status

The pages of a listing that is filtered by the runtime status hold every cluster once, but each page
counts its own items only.  The clusters resources can be read from depend on the probes in flight,
and only the first five hundred count.
-/

namespace KubeNova.Clusters.Health

open KubeNova.Foundation

variable {texts : Texts} {s : HealthState} {query : ClusterHealthListQuery}
  {access : Option (List String)}

/-! ## The listing -/

def listedClusters (texts : Texts) (s : HealthState) (query : ClusterHealthListQuery)
    (access : Option (List String)) : List ClusterRecord :=
  ((query.params access).listed texts s.clusters).map toRecord

def ClusterListParams.wants (texts : Texts) (params : ClusterListParams) (row : ClusterRow) : Bool :=
  params.whereClause texts row && (!params.needsMemoryFilter || params.keeps texts (toRecord row))

theorem listed_perm (params : ClusterListParams) (rows : List ClusterRow) :
    (params.listed texts rows).Perm (rows.filter (params.wants texts)) := by
  have hfound : (params.found texts rows).Perm (rows.filter (params.whereClause texts)) :=
    List.perm_insertionSort _ _
  have hwants : rows.filter (params.wants texts) = (rows.filter (params.whereClause texts)).filter
      fun row => !params.needsMemoryFilter || params.keeps texts (toRecord row) := by
    rw [List.filter_filter]
    refine List.filter_congr fun row _ => ?_
    rw [ClusterListParams.wants, Bool.and_comm]
  rw [hwants]
  unfold ClusterListParams.listed
  split
  · rename_i hmemory
    have hfiltered : ((params.found texts rows).filter fun row =>
        params.keeps texts (toRecord row)).Perm ((rows.filter (params.whereClause texts)).filter
          fun row => !params.needsMemoryFilter || params.keeps texts (toRecord row)) := by
      rw [hmemory]
      exact hfound.filter _
    split
    · exact (List.perm_insertionSort _ _).trans hfiltered
    · exact hfiltered
  · rename_i hplain
    rw [Bool.not_eq_true] at hplain
    have hall : ∀ row ∈ rows.filter (params.whereClause texts),
        (!params.needsMemoryFilter || params.keeps texts (toRecord row)) = true := by
      intro row _
      rw [hplain]
      rfl
    rw [List.filter_eq_self.mpr hall]
    exact hfound

def statusOf (s : HealthState) (cluster : ClusterRecord) : RuntimeStatus :=
  resolveRuntimeStatus cluster.state cluster.hasKubeconfig (s.snapshots cluster.id)
    (s.inFlight.contains cluster.id)

def hasStatus (s : HealthState) (query : ClusterHealthListQuery) (cluster : ClusterRecord) : Bool :=
  query.runtimeStatus.all (statusOf s cluster == ·)

def withStatus (texts : Texts) (s : HealthState) (query : ClusterHealthListQuery)
    (access : Option (List String)) : List ClusterRecord :=
  ((s.clusters.filter ((query.params access).wants texts)).map toRecord).filter (hasStatus s query)

theorem withStatus_perm (texts : Texts) (s : HealthState) (query : ClusterHealthListQuery)
    (access : Option (List String)) :
    ((listedClusters texts s query access).filter (hasStatus s query)).Perm
      (withStatus texts s query access) :=
  ((listed_perm (query.params access) s.clusters).map toRecord).filter _

def ClusterHealthListQuery.withPage (query : ClusterHealthListQuery) (number : Nat) :
    ClusterHealthListQuery := { query with page := some number }

def ClusterHealthListQuery.size (query : ClusterHealthListQuery) : Nat :=
  parsePositiveInt query.pageSize 10

theorem size_pos (query : ClusterHealthListQuery) : 0 < query.size := by
  unfold ClusterHealthListQuery.size parsePositiveInt
  split
  · split <;> omega
  · decide

theorem listed_withPage (number : Nat) :
    ((query.withPage number).params access).listed texts s.clusters =
      (query.params access).listed texts s.clusters := rfl

theorem items_perm (k : Nat) :
    ((listClusterHealth texts s (query.withPage (k + 1)) access).items.map (·.clusterId)).Perm
      (((pageOf query.size (k + 1) (listedClusters texts s query access)).filter
        (hasStatus s query)).map (·.id)) := by
  have hpage : parsePositiveInt (query.withPage (k + 1)).page 1 = k + 1 := by
    unfold ClusterHealthListQuery.withPage parsePositiveInt
    dsimp only
    rw [if_neg (by omega), Int.toNat_natCast]
  have hitems : (repositoryList texts ((query.withPage (k + 1)).params access) s.clusters).items =
      pageOf query.size (k + 1) (listedClusters texts s query access) := by
    unfold repositoryList listedClusters pageOf
    dsimp only
    rw [listed_withPage, List.map_take, List.map_drop]
    show ((_ : List ClusterRecord).drop ((parsePositiveInt (query.withPage (k + 1)).page 1 - 1) * _)).take _ = _
    rw [hpage]
    rfl
  have hsort := List.perm_insertionSort (fun left right : ClusterHealthListItem =>
    compareItems texts query.sortBy query.ascending left right ≤ 0)
      (((repositoryList texts ((query.withPage (k + 1)).params access) s.clusters).items.map
        (healthItem s)).filter fun item => query.runtimeStatus.all (item.runtimeStatus == ·))
  have hmap := hsort.map (·.clusterId)
  rw [hitems, List.filter_map, List.map_map] at hmap
  unfold listClusterHealth sortHealthItems
  dsimp only
  rw [hitems, List.filter_map]
  exact hmap

theorem total_eq (k : Nat) : (listClusterHealth texts s (query.withPage (k + 1)) access).total =
    ((pageOf query.size (k + 1) (listedClusters texts s query access)).filter
      (hasStatus s query)).length := by
  have hlength := (@items_perm texts s query access k).length_eq
  rw [List.length_map, List.length_map] at hlength
  exact hlength

/-- The pages together hold the clusters of the query with its runtime status, each of them once, and
each page tells how many they are. -/
def PagesExact (texts : Texts) (s : HealthState) (query : ClusterHealthListQuery)
    (access : Option (List String)) : Prop :=
  ((List.range (pageCount query.size (listedClusters texts s query access))).flatMap fun k =>
      (listClusterHealth texts s (query.withPage (k + 1)) access).items.map (·.clusterId)).Perm
    ((withStatus texts s query access).map (·.id)) ∧
  ∀ k < pageCount query.size (listedClusters texts s query access),
    (listClusterHealth texts s (query.withPage (k + 1)) access).total =
      (withStatus texts s query access).length

def OnePage (texts : Texts) (s : HealthState) (query : ClusterHealthListQuery)
    (access : Option (List String)) : Prop :=
  (s.clusters.filter ((query.params access).wants texts)).length ≤ query.size ∨
    withStatus texts s query access = []

theorem flatMap_perm {α β : Type} {f g : α → List β} (xs : List α)
    (h : ∀ x ∈ xs, (f x).Perm (g x)) : (xs.flatMap f).Perm (xs.flatMap g) := by
  induction xs with
  | nil => exact .refl _
  | cons x xs ih =>
      rw [List.flatMap_cons, List.flatMap_cons]
      exact (h x List.mem_cons_self).append (ih fun y hy => h y (List.mem_cons_of_mem _ hy))

theorem items_exact (texts : Texts) (s : HealthState) (query : ClusterHealthListQuery)
    (access : Option (List String)) :
    ((List.range (pageCount query.size (listedClusters texts s query access))).flatMap fun k =>
        (listClusterHealth texts s (query.withPage (k + 1)) access).items.map (·.clusterId)).Perm
      ((withStatus texts s query access).map (·.id)) := by
  have hpages := flatMap_perm (List.range (pageCount query.size
    (listedClusters texts s query access))) fun k _ => @items_perm texts s query access k
  refine hpages.trans ?_
  have hall := flatMap_pages (size_pos query) (listedClusters texts s query access)
  have hfilter := congrArg (fun xs => (xs.filter (hasStatus s query)).map (·.id)) hall
  rw [List.filter_flatMap, List.map_flatMap] at hfilter
  rw [hfilter]
  exact (withStatus_perm texts s query access).map _

theorem pagesExact_iff (texts : Texts) (s : HealthState) (query : ClusterHealthListQuery)
    (access : Option (List String)) :
    PagesExact texts s query access ↔ OnePage texts s query access := by
  have hperm := withStatus_perm texts s query access
  have hlisted := (@listed_perm texts (query.params access) s.clusters).length_eq
  have hpages := filter_pages_eq_iff (size_pos query) (hasStatus s query)
    (listedClusters texts s query access)
  have htotals : (∀ k < pageCount query.size (listedClusters texts s query access),
      (listClusterHealth texts s (query.withPage (k + 1)) access).total =
        (withStatus texts s query access).length) ↔ OnePage texts s query access := by
    simp only [total_eq, ← hperm.length_eq]
    rw [hpages, OnePage, ← hlisted, listedClusters, List.length_map]
    have hempty : ((listedClusters texts s query access).filter (hasStatus s query)) = [] ↔
        withStatus texts s query access = [] := by
      rw [← List.length_eq_zero_iff, hperm.length_eq, List.length_eq_zero_iff]
    exact or_congr_right hempty
  exact ⟨fun h => htotals.mp h.2, fun h => ⟨items_exact texts s query access, htotals.mpr h⟩⟩

/-- The cluster has a credential and its last probe went well. -/
def isOnline (s : HealthState) (cluster : ClusterRecord) : Bool :=
  resolveRuntimeStatus cluster.state cluster.hasKubeconfig (s.snapshots cluster.id) false == .running

def activeClusters (texts : Texts) (s : HealthState) : List ClusterRecord :=
  listedClusters texts s selectableQuery none

/-- The clusters to read from are the active ones that are online, whatever is in flight and however
many there are. -/
def SelectableExact (texts : Texts) (s : HealthState) : Prop :=
  ∀ id, id ∈ listSelectableClusterIdsForResourceRead texts s ↔
    ∃ cluster ∈ activeClusters texts s, isOnline s cluster = true ∧ cluster.id = id

def FirstAndQuiet (texts : Texts) (s : HealthState) : Prop :=
  ∀ cluster ∈ activeClusters texts s, isOnline s cluster = true →
    cluster ∈ (activeClusters texts s).take 500 ∧ cluster.id ∉ s.inFlight

theorem statusOf_eq_running {cluster : ClusterRecord} :
    statusOf s cluster = .running ↔ isOnline s cluster = true ∧ cluster.id ∉ s.inFlight := by
  rw [isOnline, beq_iff_eq, statusOf, ← List.contains_iff_mem, Bool.not_eq_true]
  unfold resolveRuntimeStatus
  cases hprobing : s.inFlight.contains cluster.id with
  | false => simp only [Bool.false_eq_true, if_false, and_true]
  | true =>
      constructor
      · intro h
        split_ifs at h with hdisabled hoffline hquiet
        exact absurd rfl hquiet
      · exact fun h => absurd h.2 (by decide)

theorem mem_selectable {id : String} : id ∈ listSelectableClusterIdsForResourceRead texts s ↔
    ∃ cluster ∈ (activeClusters texts s).take 500,
      isOnline s cluster = true ∧ cluster.id ∉ s.inFlight ∧ cluster.id = id := by
  have hitems := (@items_perm texts s selectableQuery none 0).mem_iff (a := id)
  have hquery : selectableQuery.withPage (0 + 1) = selectableQuery := rfl
  have hsize : selectableQuery.size = 500 := rfl
  rw [hquery, hsize, Nat.zero_add, pageOf_one] at hitems
  unfold listSelectableClusterIdsForResourceRead
  rw [hitems]
  simp only [List.mem_map, List.mem_filter]
  constructor
  · rintro ⟨cluster, ⟨hmem, hstatus⟩, rfl⟩
    obtain ⟨honline, hquiet⟩ := statusOf_eq_running.mp (beq_iff_eq.mp hstatus)
    exact ⟨cluster, hmem, honline, hquiet, rfl⟩
  · rintro ⟨cluster, hmem, honline, hquiet, rfl⟩
    exact ⟨cluster, ⟨hmem, beq_iff_eq.mpr (statusOf_eq_running.mpr ⟨honline, hquiet⟩)⟩, rfl⟩

theorem eq_of_id (hids : (s.clusters.map (·.id)).Nodup) {a b : ClusterRecord}
    (ha : a ∈ activeClusters texts s) (hb : b ∈ activeClusters texts s) (hid : a.id = b.id) :
    a = b := by
  have hrow : ∀ {c : ClusterRecord}, c ∈ activeClusters texts s →
      ∃ row ∈ s.clusters, toRecord row = c := by
    intro c hc
    obtain ⟨row, hrow, rfl⟩ := List.mem_map.mp hc
    exact ⟨row, (List.mem_filter.mp ((listed_perm _ _).mem_iff.mp hrow)).1, rfl⟩
  obtain ⟨row, hmem, rfl⟩ := hrow ha
  obtain ⟨row', hmem', rfl⟩ := hrow hb
  rw [List.inj_on_of_nodup_map hids hmem hmem' hid]

theorem selectableExact_iff (texts : Texts) (s : HealthState)
    (hids : (s.clusters.map (·.id)).Nodup) :
    SelectableExact texts s ↔ FirstAndQuiet texts s := by
  have hactive : ∀ {cluster : ClusterRecord}, cluster ∈ (activeClusters texts s).take 500 →
      cluster ∈ activeClusters texts s := List.mem_of_mem_take
  constructor
  · intro h cluster hmem honline
    obtain ⟨other, hother, -, hquiet, hid⟩ :=
      mem_selectable.mp ((h cluster.id).mpr ⟨cluster, hmem, honline, rfl⟩)
    obtain rfl := eq_of_id hids (hactive hother) hmem hid
    exact ⟨hother, hquiet⟩
  · intro h id
    rw [mem_selectable]
    constructor
    · rintro ⟨cluster, hmem, honline, -, hid⟩
      exact ⟨cluster, hactive hmem, honline, hid⟩
    · rintro ⟨cluster, hmem, honline, hid⟩
      obtain ⟨hfirst, hquiet⟩ := h cluster hmem honline
      exact ⟨cluster, hfirst, honline, hquiet, hid⟩

/-- The pages always hold the right clusters, their totals are right if and only if one page is
enough, and the clusters to read from are those online if and only if none of these is being probed
or comes after the first five hundred. -/
theorem health_list_exact_iff (texts : Texts) (s : HealthState) (query : ClusterHealthListQuery)
    (access : Option (List String)) (hids : (s.clusters.map (·.id)).Nodup) :
    (PagesExact texts s query access ↔ OnePage texts s query access) ∧
      (SelectableExact texts s ↔ FirstAndQuiet texts s) :=
  ⟨pagesExact_iff texts s query access, selectableExact_iff texts s hids⟩

def plainTexts : Texts where
  lower := id
  nameCompare a b := if a = b then 0 else if a < b then -1 else 1
  localeCompare a b := if a = b then 0 else if a < b then -1 else 1
  nameContains value keyword := Text.contains keyword value

def onlineCluster (id : String) : ClusterRow where
  id := id
  name := id
  status := "active"
  metadata := ⟨none, none, none, none, some "apiVersion: v1"⟩
  deletedAt := none
  createdAt := 0
  updatedAt := 0
  snapshotStatus := some "running"

def twoOnline (inFlight : List String) : HealthState where
  clusters := [onlineCluster "a", onlineCluster "b"]
  snapshots _ := some ⟨true, 0, none, none, "auto"⟩
  inFlight := inFlight
  now := 0

def runningByOne : ClusterHealthListQuery := { selectableQuery with pageSize := some 1 }

theorem twoOnline_exact_iff :
    (PagesExact plainTexts (twoOnline []) runningByOne none ↔
      OnePage plainTexts (twoOnline []) runningByOne none) ∧
    (SelectableExact plainTexts (twoOnline []) ↔ FirstAndQuiet plainTexts (twoOnline [])) :=
  health_list_exact_iff plainTexts (twoOnline []) runningByOne none (by decide)

/-- A page of one counts one of two clusters, and a probe makes its cluster unreadable. -/
theorem pages_miscounted :
    ¬∀ (texts : Texts) (s : HealthState) (query : ClusterHealthListQuery)
      (access : Option (List String)), (s.clusters.map (·.id)).Nodup →
        PagesExact texts s query access ∧ ∀ inFlight id,
          id ∈ listSelectableClusterIdsForResourceRead texts s ↔
            id ∈ listSelectableClusterIdsForResourceRead texts { s with inFlight := inFlight } := by
  intro h
  obtain ⟨hpages, -⟩ := h plainTexts (twoOnline []) runningByOne none (by decide)
  have htotal := hpages.2 0 (by decide +kernel)
  revert htotal
  decide +kernel

end KubeNova.Clusters.Health
