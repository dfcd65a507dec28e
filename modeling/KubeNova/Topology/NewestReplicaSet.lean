import KubeNova.Topology.ReplicaSets

/-!
# The replica set that is kept

Rows the sync has written carry no revision where the graph looks for it, so the readiest of the
replica sets of a deployment is kept and not the newest.
-/

namespace KubeNova.Topology

open KubeNova.Foundation

variable {locale : Locale}

/-- The comparison of two candidates once their revisions are equal. -/
def readierFirst (locale : Locale) (left right : PersistedResource) : Prop :=
  let l := left.readyReplicas.getD 0
  let r := right.readyReplicas.getD 0
  if l ≠ r then r < l
  else
    let lReplicas := left.replicas.getD 0
    let rReplicas := right.replicas.getD 0
    if lReplicas ≠ rReplicas then rReplicas < lReplicas
    else
      let lt := updatedSecond left
      let rt := updatedSecond right
      if lt ≠ rt then rt < lt else locale.atMost right.name left.name = true

theorem goesFirst_eq (left right : TopologyRow) : goesFirst locale left right =
    if replicaSetRevision locale left.row ≠ replicaSetRevision locale right.row then
      replicaSetRevision locale right.row < replicaSetRevision locale left.row
    else readierFirst locale left.row right.row := rfl

theorem readierFirst_total (a b : PersistedResource) :
    readierFirst locale a b ∨ readierFirst locale b a := by
  have hnames := locale.total b.name a.name
  unfold readierFirst
  grind

theorem readierFirst_trans {a b c : PersistedResource} (hab : readierFirst locale a b)
    (hbc : readierFirst locale b c) : readierFirst locale a c := by
  have hnames := locale.trans c.name b.name a.name
  unfold readierFirst at *
  grind

theorem name_eq_of_readierFirst {a b : PersistedResource}
    (hnames : locale.atMost a.name b.name = true → locale.atMost b.name a.name = true →
      a.name = b.name)
    (hab : readierFirst locale a b) (hba : readierFirst locale b a) : a.name = b.name := by
  unfold readierFirst at *
  grind

instance : Std.Total (goesFirst locale) := ⟨fun a b => by
  have hready := @readierFirst_total locale a.row b.row
  rw [goesFirst_eq, goesFirst_eq]
  rcases lt_trichotomy (replicaSetRevision locale a.row) (replicaSetRevision locale b.row) with
    h | h | h
  · rw [if_pos h.ne, if_pos h.ne']
    exact .inr h
  · rw [if_neg (not_not.mpr h), if_neg (not_not.mpr h.symm)]
    exact hready
  · rw [if_pos h.ne', if_pos h.ne]
    exact .inl h⟩

instance : IsTrans TopologyRow (goesFirst locale) := ⟨fun a b c hab hbc => by
  rw [goesFirst_eq] at hab hbc ⊢
  by_cases h : replicaSetRevision locale a.row = replicaSetRevision locale b.row
  · rw [if_neg (not_not.mpr h)] at hab
    rw [h]
    split at hbc
    · rename_i h'
      rw [if_pos h']
      exact hbc
    · rename_i h'
      rw [if_neg h']
      exact readierFirst_trans hab hbc
  · rw [if_pos h] at hab
    by_cases h' : replicaSetRevision locale b.row = replicaSetRevision locale c.row
    · rw [← h', if_pos h]
      exact hab
    · rw [if_pos h'] at hbc
      have hlt := hbc.trans hab
      rw [if_pos hlt.ne']
      exact hlt⟩

theorem head?_insertionSort {α : Type} {r : α → α → Prop} [DecidableRel r] [Std.Total r]
    [IsTrans α r] {l : List α} {a : α} (h : (l.insertionSort r).head? = some a) :
    a ∈ l ∧ ∀ b ∈ l, r a b := by
  have hsorted := List.pairwise_insertionSort r l
  cases hl : l.insertionSort r with
  | nil =>
      rw [hl] at h
      cases h
  | cons first rest =>
      rw [hl] at h hsorted
      cases h
      have hmem : ∀ b, b ∈ l ↔ b ∈ a :: rest := fun b => by rw [← hl, List.mem_insertionSort]
      refine ⟨(hmem a).mpr List.mem_cons_self, fun b hb => ?_⟩
      rcases List.mem_cons.mp ((hmem b).mp hb) with rfl | hrest
      · exact (Std.Total.total b b).elim id id
      · exact (List.pairwise_cons.mp hsorted).1 b hrest

/-- The rows of the table, of which those of replica sets are from the sync. -/
structure Written (locale : Locale) (records : List WorkloadRecord) : Prop where
  ids : ∀ a ∈ records, ∀ b ∈ records, a.id = b.id → a = b
  keys : ∀ a ∈ records, ∀ b ∈ records, a.clusterId = b.clusterId → a.namespace = b.namespace →
    a.kind = b.kind → a.name = b.name → a = b
  replicaSets : ∀ a ∈ records, a.kind = "ReplicaSet" →
    ∃ id clusterId updatedAt rs, a = replicaSetRecord id clusterId updatedAt rs
  /-- `localeCompare` tells the names apart. -/
  names : ∀ a ∈ records, ∀ b ∈ records, locale.atMost a.name b.name = true →
    locale.atMost b.name a.name = true → a.name = b.name

/-- The rows are those of the table and whatever other tables have, in any order. -/
structure Loaded (records : List WorkloadRecord) (rows : List TopologyRow) : Prop where
  all : ∀ record ∈ records, record.topologyRow ∈ rows
  only : ∀ item ∈ rows, item.source = .workloads →
    ∃ record ∈ records, item = record.topologyRow

theorem field_statusJson (rs : LiveReplicaSet) {name : String}
    (h : name ∉ ["replicas", "uid", "readyReplicas", "availableReplicas", "fullyLabeledReplicas",
      "image", "images", "imageResolution", "ownerReferences", "creationTimestamp"]) :
    rs.statusJson.field name = .undefined := by
  rw [LiveReplicaSet.statusJson, Js.field_clone, Js.field_of_not_mem h]
  rfl

theorem replicaSetRevision_written (id clusterId : String) (updatedAt : Int) (rs : LiveReplicaSet) :
    replicaSetRevision locale (replicaSetRecord id clusterId updatedAt rs).topologyRow.row = 0 := by
  have hmetadata : rs.statusJson.field "metadata" = .undefined := field_statusJson rs (by decide)
  have hannotations : rs.statusJson.field "annotations" = .undefined :=
    field_statusJson rs (by decide)
  show replicaSetRevision locale { (replicaSetRecord id clusterId updatedAt rs).topologyRow.row with
    statusJson := rs.statusJson } = 0
  rw [replicaSetRevision]
  simp only [hmetadata, hannotations]
  rfl

/-! ## What is kept -/

def Owns (deployment record : WorkloadRecord) : Prop :=
  deployment.kind = "Deployment" ∧ record.kind = "ReplicaSet" ∧
    ∃ ref ∈ ownerRefs record.topologyRow.row, ownerKey? record.topologyRow.row ref =
      some (keyOf deployment.topologyRow.row deployment.name)

def Readiest (locale : Locale) (records : List WorkloadRecord) (deployment record : WorkloadRecord) :
    Prop :=
  ∀ other ∈ records, Owns deployment other →
    readierFirst locale record.topologyRow.row other.topologyRow.row

def Newest (locale : Locale) (records : List WorkloadRecord) (deployment record : WorkloadRecord) :
    Prop :=
  ∀ other ∈ records, Owns deployment other →
    revisionOf locale other.annotations ≤ revisionOf locale record.annotations

section Kept

variable {records : List WorkloadRecord} {rows : List TopologyRow}

theorem mem_deploymentKeys (hload : Loaded records rows) {key : WorkloadKey} :
    key ∈ deploymentKeys rows ↔ ∃ deployment ∈ records, deployment.kind = "Deployment" ∧
      keyOf deployment.topologyRow.row deployment.name = key := by
  unfold deploymentKeys
  simp only [List.mem_map, List.mem_filter, decide_eq_true_eq]
  constructor
  · rintro ⟨item, ⟨hitem, hsource, hkind⟩, hkey⟩
    obtain ⟨deployment, hmem, rfl⟩ := hload.only item hitem hsource
    exact ⟨deployment, hmem, hkind, hkey⟩
  · rintro ⟨deployment, hmem, hkind, hkey⟩
    exact ⟨deployment.topologyRow, ⟨hload.all deployment hmem, rfl, hkind⟩, hkey⟩

theorem mem_candidates (hload : Loaded records rows) {deployment : WorkloadRecord}
    (hkind : deployment.kind = "Deployment") {item : TopologyRow} :
    item ∈ candidates rows (keyOf deployment.topologyRow.row deployment.name) ↔
      ∃ record ∈ records, Owns deployment record ∧ item = record.topologyRow := by
  unfold candidates isReplicaSet
  simp only [List.mem_flatMap, List.mem_filter, List.mem_map, Bool.and_eq_true, decide_eq_true_eq]
  constructor
  · rintro ⟨found, ⟨hfound, hsource, hreplica⟩, ref, ⟨href, hkey⟩, rfl⟩
    obtain ⟨record, hmem, rfl⟩ := hload.only found hfound hsource
    exact ⟨record, hmem, ⟨hkind, hreplica, ref, href, hkey⟩, rfl⟩
  · rintro ⟨record, hmem, ⟨-, hreplica, ref, href, hkey⟩, rfl⟩
    exact ⟨record.topologyRow, ⟨hload.all record hmem, rfl, hreplica⟩, ref, ⟨href, hkey⟩, rfl⟩

theorem revision_zero (hwritten : Written locale records) {deployment record : WorkloadRecord}
    (hmem : record ∈ records) (howns : Owns deployment record) :
    replicaSetRevision locale record.topologyRow.row = 0 := by
  obtain ⟨id, clusterId, updatedAt, rs, rfl⟩ := hwritten.replicaSets record hmem howns.2.1
  exact replicaSetRevision_written id clusterId updatedAt rs

theorem eq_of_owns (hwritten : Written locale records) {deployment a b : WorkloadRecord}
    (ha : a ∈ records) (hb : b ∈ records) (howns : Owns deployment a) (howns' : Owns deployment b)
    (hname : a.name = b.name) : a = b := by
  obtain ⟨-, hkind, ref, -, hkey⟩ := howns
  obtain ⟨-, hkind', ref', -, hkey'⟩ := howns'
  have hplace : ∀ {row : PersistedResource} {ref : Js} {key : WorkloadKey},
      ownerKey? row ref = some key → key.1 = row.clusterId ∧ key.2.1 = row.namespace.getD "" := by
    intro row ref key h
    unfold ownerKey? at h
    split at h
    · obtain ⟨name, -, rfl⟩ := Option.map_eq_some_iff.mp h
      exact ⟨rfl, rfl⟩
    · cases h
  obtain ⟨hcluster, hnamespace⟩ := hplace hkey
  obtain ⟨hcluster', hnamespace'⟩ := hplace hkey'
  exact hwritten.keys a ha b hb (hcluster.symm.trans hcluster')
    (hnamespace.symm.trans hnamespace') (hkind.trans hkind'.symm) hname

theorem mem_retained (hwritten : Written locale records) (hload : Loaded records rows)
    {record : WorkloadRecord} (hmem : record ∈ records) :
    record.id ∈ retained locale rows ↔
      ∃ deployment ∈ records, Owns deployment record ∧ Readiest locale records deployment record := by
  have hfirst : ∀ {deployment a b : WorkloadRecord}, a ∈ records → b ∈ records →
      Owns deployment a → Owns deployment b → (goesFirst locale a.topologyRow b.topologyRow ↔
        readierFirst locale a.topologyRow.row b.topologyRow.row) := by
    intro deployment a b ha hb howns howns'
    rw [goesFirst_eq, revision_zero hwritten ha howns, revision_zero hwritten hb howns',
      if_neg (not_not.mpr rfl)]
  unfold retained
  rw [List.mem_filterMap]
  constructor
  · rintro ⟨key, hkey, hhead⟩
    obtain ⟨deployment, hdeployment, hkind, rfl⟩ := (mem_deploymentKeys hload).mp hkey
    obtain ⟨item, hitem, hid⟩ := Option.map_eq_some_iff.mp hhead
    obtain ⟨hcandidate, hall⟩ := head?_insertionSort hitem
    obtain ⟨found, hfound, howns, rfl⟩ := (mem_candidates hload hkind).mp hcandidate
    obtain rfl := hwritten.ids found hfound record hmem hid
    refine ⟨deployment, hdeployment, howns, fun other hother howns' => ?_⟩
    exact (hfirst hfound hother howns howns').mp
      (hall _ ((mem_candidates hload hkind).mpr ⟨other, hother, howns', rfl⟩))
  · rintro ⟨deployment, hdeployment, howns, hready⟩
    refine ⟨_, (mem_deploymentKeys hload).mpr ⟨deployment, hdeployment, howns.1, rfl⟩, ?_⟩
    have hcandidate := (mem_candidates hload howns.1).mpr ⟨record, hmem, howns, rfl⟩
    cases hhead : ((candidates rows (keyOf deployment.topologyRow.row
        deployment.name)).insertionSort (goesFirst locale)).head? with
    | none =>
        rw [List.head?_eq_none_iff] at hhead
        rw [← List.mem_insertionSort (goesFirst locale), hhead] at hcandidate
        exact absurd hcandidate List.not_mem_nil
    | some item =>
        obtain ⟨hitem, hall⟩ := head?_insertionSort hhead
        obtain ⟨found, hfound, howns', rfl⟩ := (mem_candidates hload howns.1).mp hitem
        have hbefore := (hfirst hfound hmem howns' howns).mp (hall _ hcandidate)
        have hname : found.name = record.name :=
          name_eq_of_readierFirst (hwritten.names found hfound record hmem) hbefore
            (hready found hfound howns')
        rw [eq_of_owns hwritten hfound hmem howns' howns hname]
        rfl

theorem mem_collapse (hwritten : Written locale records) (hload : Loaded records rows)
    {record : WorkloadRecord} (hmem : record ∈ records)
    (howned : ∃ deployment ∈ records, Owns deployment record) :
    record.topologyRow ∈ collapseDeploymentReplicaSets locale rows ↔
      ∃ deployment ∈ records, Owns deployment record ∧ Readiest locale records deployment record := by
  obtain ⟨deployment, -, -, hkind, ref, href, hkey⟩ := howned
  have hreplica : isReplicaSet record.topologyRow = true := by
    unfold isReplicaSet
    rw [show record.topologyRow.row.kind = "ReplicaSet" from hkind]
    rfl
  have hdeployed : hasDeploymentOwner record.topologyRow.row = true := by
    refine List.any_eq_true.mpr ⟨ref, href, ?_⟩
    unfold ownerKey? at hkey
    split at hkey
    · rename_i howner
      exact decide_eq_true howner
    · cases hkey
  rw [← mem_retained hwritten hload hmem, collapseDeploymentReplicaSets, List.mem_filter, hreplica,
    hdeployed]
  simp only [Bool.not_true, Bool.or_self, Bool.false_or, List.contains_iff_mem]
  exact and_iff_right (hload.all record hmem)

/-- The graph shows of every deployment the replica set with the highest revision, those that are
live besides, and no others. -/
def ShowsNewest (locale : Locale) (live : WorkloadRecord → Prop) (records : List WorkloadRecord)
    (rows : List TopologyRow) : Prop :=
  ∀ record ∈ records, (∃ deployment ∈ records, Owns deployment record) →
    (record.topologyRow ∈ collapseDeploymentReplicaSets locale rows ↔
      (∃ deployment ∈ records, Owns deployment record ∧ Newest locale records deployment record) ∨
        live record)

/-- Being the readiest replica set of a deployment means to have its highest revision or to be
live. -/
def ReadiestIsNewest (locale : Locale) (live : WorkloadRecord → Prop)
    (records : List WorkloadRecord) : Prop :=
  ∀ record ∈ records, (∃ deployment ∈ records, Owns deployment record) →
    ((∃ deployment ∈ records, Owns deployment record ∧ Readiest locale records deployment record) ↔
      (∃ deployment ∈ records, Owns deployment record ∧ Newest locale records deployment record) ∨
        live record)

theorem showsNewest_iff (locale : Locale) (live : WorkloadRecord → Prop)
    (records : List WorkloadRecord) (rows : List TopologyRow) (hwritten : Written locale records)
    (hload : Loaded records rows) :
    ShowsNewest locale live records rows ↔ ReadiestIsNewest locale live records := by
  unfold ShowsNewest ReadiestIsNewest
  constructor
  · intro h record hmem howned
    rw [← mem_collapse hwritten hload hmem howned]
    exact h record hmem howned
  · intro h record hmem howned
    rw [mem_collapse hwritten hload hmem howned]
    exact h record hmem howned

end Kept

def plainLocale : Locale where
  toNumber text := if text.toList.all Text.isDigit then
    some (text.toList.foldl (fun n c => n * 10 + (c.toNat - 48)) 0 : Nat) else none
  atMost a b := decide (a ≤ b)
  total a b := by simpa using String.le_total a b
  trans a b c hab hbc := by
    rw [decide_eq_true_eq] at *
    exact String.le_trans hab hbc

def rolloutDeployment : WorkloadRecord where
  id := "d"
  clusterId := "c"
  «namespace» := "app"
  kind := "Deployment"
  name := "api"
  state := "active"
  replicas := some 1
  readyReplicas := some 1
  spec := .object []
  statusJson := .object []
  labels := .object []
  annotations := .object []
  updatedAt := 0

def rolloutReplicaSet (name revision : String) (ready : Int) : LiveReplicaSet where
  «namespace» := "app"
  name := name
  uid := none
  labels := []
  annotations := [(revisionKey, revision)]
  ownerReferences := [⟨none, some "Deployment", some "api", none, none, none⟩]
  creationTimestamp := none
  spec := .object []
  specReplicas := some 1
  replicas := some ready
  readyReplicas := some ready
  availableReplicas := none
  fullyLabeledReplicas := none
  image := .null
  images := .array []
  imageResolution := .null

/-- The first revision with a ready pod, and the second one with as many as said. -/
def rollout (ready : Int) : List WorkloadRecord := [
  rolloutDeployment,
  replicaSetRecord "r1" "c" 0 (rolloutReplicaSet "api-1" "1" 1),
  replicaSetRecord "r2" "c" 0 (rolloutReplicaSet "api-2" "2" ready)]

theorem written_rollout (ready : Int) : Written plainLocale (rollout ready) where
  ids := by simp [rollout, rolloutDeployment, replicaSetRecord]
  keys := by simp [rollout, rolloutDeployment, replicaSetRecord, rolloutReplicaSet]
  replicaSets := by
    intro a ha hkind
    simp only [rollout, List.mem_cons, List.not_mem_nil, or_false] at ha
    rcases ha with rfl | rfl | rfl
    · exact absurd hkind (by decide)
    · exact ⟨_, _, _, _, rfl⟩
    · exact ⟨_, _, _, _, rfl⟩
  names := by
    intro a _ b _ hab hba
    exact String.le_antisymm (of_decide_eq_true hab) (of_decide_eq_true hba)

theorem loaded_rollout (ready : Int) :
    Loaded (rollout ready) ((rollout ready).map WorkloadRecord.topologyRow) where
  all record hmem := List.mem_map_of_mem hmem
  only item hitem _ := by
    obtain ⟨record, hmem, rfl⟩ := List.mem_map.mp hitem
    exact ⟨record, hmem, rfl⟩

def hasReadyPods (record : WorkloadRecord) : Prop := 0 < record.readyReplicas.getD 0

theorem rollout_showsNewest_iff :
    ShowsNewest plainLocale hasReadyPods (rollout 2)
      ((rollout 2).map WorkloadRecord.topologyRow) ↔
    ReadiestIsNewest plainLocale hasReadyPods (rollout 2) :=
  showsNewest_iff _ _ _ _ (written_rollout 2) (loaded_rollout 2)

theorem newest_not_shown :
    ¬∀ (locale : Locale) (live : WorkloadRecord → Prop) (records : List WorkloadRecord)
      (rows : List TopologyRow), Written locale records → Loaded records rows →
        ShowsNewest locale live records rows := by
  intro h
  let record := replicaSetRecord "r2" "c" 0 (rolloutReplicaSet "api-2" "2" 0)
  have hrecord : record ∈ rollout 0 := by simp [rollout, record]
  have howns : Owns rolloutDeployment record := by
    have hany : ((ownerRefs record.topologyRow.row).any fun ref =>
        ownerKey? record.topologyRow.row ref = some ("c", "app", "api")) = true := by
      decide +kernel
    obtain ⟨ref, href, hkey⟩ := List.any_eq_true.mp hany
    exact ⟨rfl, rfl, ref, href, of_decide_eq_true hkey⟩
  have hnewest : Newest plainLocale (rollout 0) rolloutDeployment record := by
    intro other hother howns'
    simp only [rollout, List.mem_cons, List.not_mem_nil, or_false] at hother
    rcases hother with rfl | rfl | rfl
    · exact absurd howns'.2.1 (by decide)
    · decide +kernel
    · exact le_refl _
  have hdeployment : rolloutDeployment ∈ rollout 0 := by simp [rollout]
  have hshown := (h plainLocale hasReadyPods (rollout 0) _ (written_rollout 0) (loaded_rollout 0)
    record hrecord ⟨_, hdeployment, howns⟩).mpr (.inl ⟨_, hdeployment, howns, hnewest⟩)
  have hids : "r2" ∉ (collapseDeploymentReplicaSets plainLocale
      ((rollout 0).map WorkloadRecord.topologyRow)).map (·.row.id) := by
    decide +kernel
  exact hids (List.mem_map.mpr ⟨_, hshown, rfl⟩)

end KubeNova.Topology
