import KubeNova.Clusters.ClusterSync
import KubeNova.Foundation.Mirror
import KubeNova.Foundation.Triple
import Mathlib.Data.String.Basic

/-!
# When the rows are the objects

A sync without errors leaves, for every kind, the rows of the live objects and no others,
except where the key of the storage rows is too coarse: two claims of one name share a
row, and the row of a volume or a storage class keeps a namespace it once had.
-/

namespace KubeNova.Clusters

open KubeNova.Foundation

/-! ## What is live, and what is shown -/

def SyncedKind.isNamespaced : SyncedKind → Bool
  | «namespace» => false
  | resource _ => true
  | pv => false
  | pvc => true
  | sc => false

abbrev Identity := Option String × String

def LiveObject.identity (kind : SyncedKind) (o : LiveObject) : Identity :=
  (if kind.isNamespaced then some o.namespace else none, o.name)

/-- What the API server checks of every name and of the label that names a namespace. -/
structure LiveObject.IsValid (kind : SyncedKind) (o : LiveObject) : Prop where
  name : o.name ≠ "" ∧ '/' ∉ o.name.toList
  «namespace» : kind.isNamespaced = true → o.namespace ≠ "" ∧ '/' ∉ o.namespace.toList

/-- The objects of a cluster: the API server keeps at most one under an identity. -/
structure LiveObjects where
  objects : SyncedKind → List LiveObject
  valid : ∀ kind, ∀ o ∈ objects kind, o.IsValid kind
  distinct : ∀ kind, ((objects kind).map (LiveObject.identity kind)).Nodup

def LiveObjects.api (live : LiveObjects) (refused : SyncedKind → Option String) : ClusterApi :=
  fun kind => match refused kind with
    | some message => .error message
    | none => .ok (live.objects kind)

def LiveObjects.identities (live : LiveObjects) (kind : SyncedKind) : List Identity :=
  (live.objects kind).map (LiveObject.identity kind)

namespace Inventory

def liveStorage (s : Inventory) (clusterId kind : String) : List Identity :=
  s.storageResource.select
    (fun k row => (k.clusterId == clusterId && k.kind == kind) && row.state != "deleted")
    fun k row => (row.namespace, k.name)

def liveRows (s : Inventory) (clusterId : String) : SyncedKind → List Identity
  | .namespace => s.namespaceRecord.select
      (fun k row => k.clusterId == clusterId && row.state != "deleted") fun k _ => (none, k.name)
  | .resource kind => (s.resources kind.table).select
      (fun k row => (k.clusterId == clusterId && k.kind == kind.text) && row.state != "deleted")
      fun k _ => (some k.namespace, k.name)
  | .pv => s.liveStorage clusterId "PV"
  | .pvc => s.liveStorage clusterId "PVC"
  | .sc => s.liveStorage clusterId "SC"

end Inventory

def LiveObjects.DistinctClaims (live : LiveObjects) : Prop :=
  ∀ a ∈ live.objects .pvc, ∀ b ∈ live.objects .pvc, a.name = b.name → a.namespace = b.namespace

def Inventory.Unplaced (s : Inventory) (clusterId kind : String) (items : List LiveObject) : Prop :=
  ∀ o ∈ items, ∀ row, s.storageResource.lookup ⟨clusterId, kind, o.name⟩ = some row →
    row.namespace = none

section Mirrors

variable (clusterId : String)

def namespaceMirror : Mirror LiveObject NamespaceKey ResourceRow where
  key o := ⟨clusterId, o.name⟩
  create o := ⟨"active", o.columns⟩
  change o _ := ⟨"active", o.columns⟩
  name o := o.name
  rowName k _ := k.name
  scope k := k.clusterId == clusterId
  alive row := row.state != "deleted"
  retire := ResourceRow.deleted

def resourceMirror (kind : NamespacedKind) : Mirror LiveObject ResourceKey ResourceRow where
  key o := ⟨clusterId, o.namespace, kind.text, o.name⟩
  create o := ⟨"active", o.columns⟩
  change o _ := ⟨"active", o.columns⟩
  name := namespacedKey
  rowName k _ := k.namespace ++ "/" ++ k.name
  scope k := k.clusterId == clusterId && k.kind == kind.text
  alive row := row.state != "deleted"
  retire := ResourceRow.deleted

def clusterStorageMirror (kind : String) : Mirror LiveObject StorageKey StorageRow where
  key o := ⟨clusterId, kind, o.name⟩
  create o := ⟨none, "active", o.columns⟩
  change o row := { row with state := "active", columns := o.columns }
  name := clusterKey
  rowName k row := row.namespace.getD "_cluster" ++ "/" ++ k.name
  scope k := k.clusterId == clusterId && k.kind == kind
  alive row := row.state != "deleted"
  retire := StorageRow.deleted

def claimMirror : Mirror LiveObject StorageKey StorageRow where
  key o := ⟨clusterId, "PVC", o.name⟩
  create o := ⟨some o.namespace, "active", o.columns⟩
  change o _ := ⟨some o.namespace, "active", o.columns⟩
  name := namespacedKey
  rowName k row := row.namespace.getD "_cluster" ++ "/" ++ k.name
  scope k := k.clusterId == clusterId && k.kind == "PVC"
  alive row := row.state != "deleted"
  retire := StorageRow.deleted

variable (live : LiveObjects)

def Inventory.synced : SyncedKind → Inventory → Inventory
  | .namespace, s => s.setNamespaces
      ((namespaceMirror clusterId).apply (live.objects .namespace) s.namespaceRecord)
  | .resource kind, s => s.setResources kind.table
      ((resourceMirror clusterId kind).apply (live.objects (.resource kind)) (s.resources kind.table))
  | .pv, s => s.setStorage
      ((clusterStorageMirror clusterId "PV").apply (live.objects .pv) s.storageResource)
  | .pvc, s => s.setStorage ((claimMirror clusterId).apply (live.objects .pvc) s.storageResource)
  | .sc, s => s.setStorage
      ((clusterStorageMirror clusterId "SC").apply (live.objects .sc) s.storageResource)

end Mirrors

def aloneSync : Contract SyncState where
  env s t := t = s
  guar _ _ := True
  assumes _ := True
  refl _ := trivial

theorem stable_alone (p : SyncState → Prop) : Stable aloneSync p := fun _ _ hs h => h ▸ hs

theorem serve_eq_ok {α : Type} {f : Inventory → α × Inventory} {s : SyncState} {a : α}
    (h : (SyncState.serve f s).1 = .ok a) :
    a = (f s.inventory).1 ∧ (SyncState.serve f s).2.inventory = (f s.inventory).2 := by
  unfold SyncState.serve at h ⊢
  split at h
  · cases h
  · exact ⟨(Except.ok.inj h).symm, rfl⟩

theorem returns_query {α : Type} (f : Inventory → α) (x : Inventory) :
    Returns aloneSync (fun s => s.inventory = x) (query f)
      fun a s => a = f x ∧ s.inventory = x := by
  refine .exec_ofExcept (stable_alone _) (fun s hs _ => ⟨trivial, fun a ha => ?_⟩)
    fun _ => stable_alone _
  obtain ⟨rfl, hinventory⟩ := serve_eq_ok ha
  exact ⟨congrArg f hs, hinventory.trans hs⟩

theorem returns_write (f : Inventory → Inventory) (x : Inventory) :
    Returns aloneSync (fun s => s.inventory = x) (write f) fun _ s => s.inventory = f x := by
  refine .exec_ofExcept (stable_alone _) (fun s hs _ => ⟨trivial, fun a ha => ?_⟩)
    fun _ => stable_alone _
  exact (serve_eq_ok ha).2.trans (congrArg f hs)

theorem returns_syncItems {skipped : LiveObject → Bool} {liveKey : LiveObject → String}
    {upsert : LiveObject → Inventory → Inventory} (items : List LiveObject)
    (hkept : ∀ o ∈ items, skipped o = false) (liveKeys : List String) (x : Inventory) :
    Returns aloneSync (fun s => s.inventory = x) (syncItems skipped liveKey upsert items liveKeys)
      fun keys s => s.inventory = items.foldl (fun x o => upsert o x) x ∧
        ∀ text, text ∈ keys ↔ text ∈ liveKeys ∨ text ∈ items.map liveKey := by
  induction items generalizing liveKeys x with
  | nil => exact .done (stable_alone _) fun s hs => ⟨hs, fun text => by simp⟩
  | cons o rest ih =>
      have hrest := fun x keys => ih (fun o' h => hkept o' (List.mem_cons_of_mem o h)) keys x
      simp only [syncItems, hkept o List.mem_cons_self, Bool.false_eq_true, if_false]
      refine .bind (returns_write (upsert o) x) fun _ => ?_
      refine (hrest (upsert o x) (liveKeys.insert (liveKey o))).conseq (fun _ hs => hs) ?_
      rintro keys s ⟨hinventory, hkeys⟩
      refine ⟨hinventory, fun text => ?_⟩
      rw [hkeys text, List.mem_insert_iff, List.map_cons, List.mem_cons]
      tauto

section Sweeps

variable {clusterId : String}

theorem returns_markDeletedNamespaces {names liveNames : List String} {x : Inventory}
    (hnames : ∀ text, text ∈ liveNames ↔ text ∈ names) :
    Returns aloneSync (fun s => s.inventory = x) (markDeletedNamespaces clusterId liveNames)
      fun _ s => s.inventory =
        x.setNamespaces ((namespaceMirror clusterId).sweep names x.namespaceRecord) := by
  refine (returns_write _ x).conseq (fun _ hs => hs) fun _ s hs => hs.trans (congrArg _ ?_)
  refine Table.updateWhere_congr fun k row _ => ?_
  simp only [Mirror.isStale, namespaceMirror, List.contains_eq_mem, hnames]

theorem updateWhere_stale {κ ν : Type} [DecidableEq κ] (m : Mirror LiveObject κ ν)
    {t : Table κ ν} {names : List String} {stale : List κ}
    (hstale : ∀ k v, t.lookup k = some v → (k ∈ stale ↔ m.isStale names k v = true)) :
    t.updateWhere (fun k _ => stale.contains k) m.retire = m.sweep names t := by
  refine Table.updateWhere_congr fun k v hv => ?_
  rw [List.contains_eq_mem, Bool.eq_iff_iff, decide_eq_true_iff]
  exact hstale k v hv

theorem sweep_of_nil {κ ν : Type} [DecidableEq κ] (m : Mirror LiveObject κ ν)
    {t : Table κ ν} {names : List String}
    (hstale : ∀ k v, t.lookup k = some v → (k ∈ ([] : List κ) ↔ m.isStale names k v = true)) :
    m.sweep names t = t := by
  refine Table.updateWhere_eq_self fun k v hv => ?_
  have hnot : ¬m.isStale names k v = true := fun h => List.not_mem_nil ((hstale k v hv).mpr h)
  exact Bool.eq_false_iff.mpr hnot

theorem setResources_self (x : Inventory) (table : ResourceTable) :
    x.setResources table (x.resources table) = x := by
  unfold Inventory.setResources
  rw [Function.update_eq_self]

theorem returns_markDeletedResources {kind : NamespacedKind} {names liveKeys : List String}
    {x : Inventory} (hnames : ∀ text, text ∈ liveKeys ↔ text ∈ names) :
    Returns aloneSync (fun s => s.inventory = x)
      (markDeletedResources clusterId kind.table kind.text liveKeys) fun _ s => s.inventory =
        x.setResources kind.table
          ((resourceMirror clusterId kind).sweep names (x.resources kind.table)) := by
  refine .bind (returns_query _ x) fun existing => .of_fact fun hexisting => ?_
  dsimp only
  have hstale : ∀ k v, (x.resources kind.table).lookup k = some v →
      (k ∈ existing.filter (fun k => !liveKeys.contains (k.namespace ++ "/" ++ k.name)) ↔
        (resourceMirror clusterId kind).isStale names k v = true) := by
    intro k v hv
    simp only [hexisting, List.mem_filter, Table.mem_select_iff, Mirror.isStale, resourceMirror,
      List.contains_eq_mem, hnames, Bool.and_eq_true]
    constructor
    · rintro ⟨⟨k', v', hv', hp, rfl⟩, hnot⟩
      obtain rfl : v' = v := Option.some.inj (hv'.symm.trans hv)
      exact ⟨hp, hnot⟩
    · rintro ⟨hp, hnot⟩
      exact ⟨⟨k, v, hv, hp, rfl⟩, hnot⟩
  refine .ite (fun hnil => ?_) fun _ => ?_
  · rw [hnil] at hstale
    rw [sweep_of_nil _ hstale, setResources_self]
    exact .done (stable_alone _) fun _ hs => hs
  · refine (returns_write _ x).conseq (fun _ hs => hs) fun _ s hs => hs.trans ?_
    exact congrArg _ (updateWhere_stale _ hstale)

theorem returns_markDeletedStorageResources (m : Mirror LiveObject StorageKey StorageRow)
    {kind : String} {names liveKeys : List String} {x : Inventory}
    (hscope : ∀ k, m.scope k = (k.clusterId == clusterId && k.kind == kind))
    (halive : ∀ row, m.alive row = (row.state != "deleted"))
    (hname : ∀ k row, m.rowName k row = row.namespace.getD "_cluster" ++ "/" ++ k.name)
    (hretire : m.retire = StorageRow.deleted) (hnames : ∀ text, text ∈ liveKeys ↔ text ∈ names) :
    Returns aloneSync (fun s => s.inventory = x)
      (markDeletedStorageResources clusterId kind liveKeys) fun _ s => s.inventory =
        x.setStorage (m.sweep names x.storageResource) := by
  refine .bind (returns_query _ x) fun existing => .of_fact fun hexisting => ?_
  dsimp only
  have hstale : ∀ k v, x.storageResource.lookup k = some v →
      (k ∈ (existing.filter fun row =>
          !liveKeys.contains (row.2.getD "_cluster" ++ "/" ++ row.1.name)).map (·.1) ↔
        m.isStale names k v = true) := by
    intro k v hv
    simp only [hexisting, List.mem_map, List.mem_filter, Table.mem_select_iff, Mirror.isStale,
      List.contains_eq_mem, hnames, hscope, halive, hname, Bool.and_eq_true]
    constructor
    · rintro ⟨row, ⟨⟨k', v', hv', hp, rfl⟩, hnot⟩, rfl⟩
      obtain rfl : v' = v := Option.some.inj (hv'.symm.trans hv)
      exact ⟨hp, hnot⟩
    · rintro ⟨hp, hnot⟩
      exact ⟨(k, v.namespace), ⟨⟨k, v, hv, hp, rfl⟩, hnot⟩, rfl⟩
  refine .ite (fun hnil => ?_) fun _ => ?_
  · rw [hnil] at hstale
    rw [sweep_of_nil _ hstale]
    exact .done (stable_alone _) fun _ hs => hs
  · refine (returns_write _ x).conseq (fun _ hs => hs) fun _ s hs => hs.trans ?_
    exact congrArg _ ((hretire ▸ updateWhere_stale m hstale : _))

end Sweeps

/-! ## The sync of a kind, and of all of them -/

structure TableOf (κ ν : Type) where
  get : Inventory → Table κ ν
  set : Inventory → Table κ ν → Inventory
  set_get : ∀ x, set x (get x) = x
  get_set : ∀ x rows, get (set x rows) = rows
  set_set : ∀ x rows rows', set (set x rows) rows' = set x rows'

def namespaceTable : TableOf NamespaceKey ResourceRow where
  get x := x.namespaceRecord
  set := Inventory.setNamespaces
  set_get _ := rfl
  get_set _ _ := rfl
  set_set _ _ _ := rfl

def storageTable : TableOf StorageKey StorageRow where
  get x := x.storageResource
  set := Inventory.setStorage
  set_get _ := rfl
  get_set _ _ := rfl
  set_set _ _ _ := rfl

def resourceTable (table : ResourceTable) : TableOf ResourceKey ResourceRow where
  get x := x.resources table
  set x rows := x.setResources table rows
  set_get x := setResources_self x table
  get_set x rows := by
    unfold Inventory.setResources
    exact Function.update_self table rows x.resources
  set_set x rows rows' := by
    unfold Inventory.setResources
    rw [Function.update_idem]

theorem TableOf.foldl_put {κ ν : Type} [DecidableEq κ] (f : TableOf κ ν)
    (m : Mirror LiveObject κ ν) (items : List LiveObject) (x : Inventory) :
    items.foldl (fun x o => f.set x (m.put o (f.get x))) x = f.set x (m.putAll items (f.get x)) := by
  induction items generalizing x with
  | nil => exact (f.set_get x).symm
  | cons o rest ih =>
      rw [List.foldl_cons, ih, f.get_set, f.set_set]
      rfl

theorem returns_reported {plural : String} {body : SyncHandler Nat} {x y : Inventory}
    (hbody : Returns aloneSync (fun s => s.inventory = x) body fun _ s => s.inventory = y) :
    Returns aloneSync (fun s => s.inventory = x) (reported plural body)
      fun r s => r.2 = [] → s.inventory = y := by
  refine .tryCatch (.bind hbody fun count => ?_) fun message => ?_
  · exact .done (stable_alone _) fun s hs _ => hs
  · exact .done (stable_alone _) fun s _ hnil => absurd hnil (List.cons_ne_nil _ _)

section Kinds

variable (clusterId : String) (live : LiveObjects) (refused : SyncedKind → Option String)

theorem api_eq_ok {kind : SyncedKind} {items : List LiveObject}
    (h : live.api refused kind = .ok items) : items = live.objects kind := by
  unfold LiveObjects.api at h
  split at h
  · cases h
  · exact (Except.ok.inj h).symm

theorem named_kept {kind : SyncedKind} : ∀ o ∈ live.objects kind, isUnnamed o = false :=
  fun o ho => beq_eq_false_iff_ne.mpr (live.valid kind o ho).name.1

theorem placed_kept {kind : SyncedKind} (hkind : kind.isNamespaced = true) :
    ∀ o ∈ live.objects kind, isUnplaced o = false := by
  intro o ho
  have hvalid := live.valid kind o ho
  have hnamespace := beq_eq_false_iff_ne.mpr (hvalid.namespace hkind).1
  have hname := beq_eq_false_iff_ne.mpr hvalid.name.1
  rw [isUnplaced, hnamespace, hname]
  rfl

def Syncs (kind : SyncedKind) (h : SyncHandler SyncCount) : Prop :=
  ∀ x : Inventory, Returns aloneSync (fun s => s.inventory = x) h
    fun r s => r.2 = [] → s.inventory = x.synced clusterId live kind

variable {clusterId live}

theorem syncs_of_mirror {κ ν : Type} [DecidableEq κ] (f : TableOf κ ν) (m : Mirror LiveObject κ ν)
    {kind : SyncedKind} {plural : String} {skipped : LiveObject → Bool}
    {upsert : LiveObject → Inventory → Inventory} {markDeleted : List String → SyncHandler Unit}
    (hsynced : ∀ x, x.synced clusterId live kind = f.set x (m.apply (live.objects kind) (f.get x)))
    (hupsert : ∀ o x, upsert o x = f.set x (m.put o (f.get x)))
    (hkept : ∀ o ∈ live.objects kind, skipped o = false)
    (hmark : ∀ (names liveKeys : List String) (x : Inventory),
      (∀ text, text ∈ liveKeys ↔ text ∈ names) → Returns aloneSync (fun s => s.inventory = x)
        (markDeleted liveKeys) fun _ s => s.inventory = f.set x (m.sweep names (f.get x))) :
    Syncs clusterId live kind (reported plural do
      let items ← Async.ofExcept (live.api refused kind)
      let liveKeys ← syncItems skipped m.name upsert items []
      markDeleted liveKeys
      return liveKeys.length) := by
  refine fun x => returns_reported (.ofExcept_bind (stable_alone _) fun items hitems => ?_)
  obtain rfl := api_eq_ok live refused hitems
  refine .bind (returns_syncItems _ hkept [] x) fun liveKeys => ?_
  have hput : (live.objects kind).foldl (fun x o => upsert o x) x =
      f.set x (m.putAll (live.objects kind) (f.get x)) := by
    simp only [hupsert]
    exact f.foldl_put m _ x
  intro s ⟨hs, hkeys⟩
  have hmembers : ∀ text, text ∈ liveKeys ↔ text ∈ (live.objects kind).map m.name :=
    fun text => by rw [hkeys text]; simp
  refine Returns.bind (hmark _ liveKeys _ hmembers) (fun _ => ?_) s hs
  refine .done (stable_alone _) fun t ht => ht.trans ?_
  rw [hput, f.get_set, f.set_set, hsynced]
  rfl

theorem syncs_namespaces :
    Syncs clusterId live .namespace (syncNamespaces clusterId (live.api refused)) :=
  syncs_of_mirror refused namespaceTable (namespaceMirror clusterId) (fun _ => rfl)
    (fun _ _ => rfl) (named_kept live) fun _ _ _ hnames => returns_markDeletedNamespaces hnames

theorem syncs_resources (kind : NamespacedKind) (plural : String) :
    Syncs clusterId live (.resource kind) (syncResources clusterId (live.api refused) kind plural
      (markDeletedResources clusterId kind.table)) :=
  syncs_of_mirror refused (resourceTable kind.table) (resourceMirror clusterId kind) (fun _ => rfl)
    (fun _ _ => rfl) (placed_kept live rfl) fun _ _ _ hnames => returns_markDeletedResources hnames

theorem syncs_pv :
    Syncs clusterId live .pv (syncPersistentVolumes clusterId (live.api refused)) :=
  syncs_of_mirror refused storageTable (clusterStorageMirror clusterId "PV") (fun _ => rfl)
    (fun _ _ => rfl) (named_kept live) fun _ _ _ hnames =>
      returns_markDeletedStorageResources _ (fun _ => rfl) (fun _ => rfl) (fun _ _ => rfl) rfl hnames

theorem syncs_sc :
    Syncs clusterId live .sc (syncStorageClasses clusterId (live.api refused)) :=
  syncs_of_mirror refused storageTable (clusterStorageMirror clusterId "SC") (fun _ => rfl)
    (fun _ _ => rfl) (named_kept live) fun _ _ _ hnames =>
      returns_markDeletedStorageResources _ (fun _ => rfl) (fun _ => rfl) (fun _ _ => rfl) rfl hnames

theorem syncs_pvc :
    Syncs clusterId live .pvc (syncPersistentVolumeClaims clusterId (live.api refused)) :=
  syncs_of_mirror refused storageTable (claimMirror clusterId) (fun _ => rfl)
    (fun _ _ => rfl) (placed_kept live rfl) fun _ _ _ hnames =>
      returns_markDeletedStorageResources _ (fun _ => rfl) (fun _ => rfl) (fun _ _ => rfl) rfl hnames

theorem Syncs.after {kind : SyncedKind} {h : SyncHandler SyncCount}
    (hh : Syncs clusterId live kind h) (quiet : Prop) (x : Inventory) :
    Returns aloneSync (fun s => quiet → s.inventory = x) h
      fun r s => quiet ∧ r.2 = [] → s.inventory = x.synced clusterId live kind := by
  intro s hs
  refine ((hh s.inventory).guards rfl).mono fun r t ht a ha hquiet => ?_
  rw [ht a ha hquiet.2, hs hquiet.1]

end Kinds

def SyncedKind.order : List SyncedKind :=
  [.namespace, .resource .pod, .resource .deployment, .resource .replicaSet,
    .resource .statefulSet, .resource .daemonSet, .resource .job, .resource .cronJob,
    .resource .service, .resource .endpoints, .resource .endpointSlice, .resource .ingress,
    .resource .networkPolicy, .resource .ingressRoute, .resource .configMap, .resource .secret,
    .resource .serviceAccount, .pv, .pvc, .sc]

theorem SyncedKind.mem_order (kind : SyncedKind) : kind ∈ SyncedKind.order := by
  cases kind with
  | resource kind => cases kind <;> decide
  | _ => decide

theorem SyncedKind.nodup_order : SyncedKind.order.Nodup := by decide

theorem runClusterSync_synced {clusterId : String} {live : LiveObjects}
    {refused : SyncedKind → Option String} {usage : Option String} {s t : SyncState}
    {result : SyncResult}
    (hrun : (runClusterSync clusterId (live.api refused) usage).run s = (.ok result, t))
    (hok : result.ok = true) :
    t.inventory = SyncedKind.order.foldl (fun x kind => x.synced clusterId live kind) s.inventory := by
  have hreturns : Returns aloneSync (fun t => True → t.inventory = s.inventory)
      (runClusterSync clusterId (live.api refused) usage) fun result t => result.ok = true →
        t.inventory =
          SyncedKind.order.foldl (fun x kind => x.synced clusterId live kind) s.inventory := by
    refine .bind ((syncs_namespaces refused).after _ _) fun namespaces => ?_
    refine .bind ((syncs_resources refused .pod _).after _ _) fun pods => ?_
    refine .bind ((syncs_resources refused .deployment _).after _ _) fun deployments => ?_
    refine .bind ((syncs_resources refused .replicaSet _).after _ _) fun replicasets => ?_
    refine .bind ((syncs_resources refused .statefulSet _).after _ _) fun statefulsets => ?_
    refine .bind ((syncs_resources refused .daemonSet _).after _ _) fun daemonsets => ?_
    refine .bind ((syncs_resources refused .job _).after _ _) fun jobs => ?_
    refine .bind ((syncs_resources refused .cronJob _).after _ _) fun cronjobs => ?_
    refine .bind ((syncs_resources refused .service _).after _ _) fun services => ?_
    refine .bind ((syncs_resources refused .endpoints _).after _ _) fun endpoints => ?_
    refine .bind ((syncs_resources refused .endpointSlice _).after _ _) fun endpointSlices => ?_
    refine .bind ((syncs_resources refused .ingress _).after _ _) fun ingresses => ?_
    refine .bind ((syncs_resources refused .networkPolicy _).after _ _) fun networkPolicies => ?_
    refine .bind ((syncs_resources refused .ingressRoute _).after _ _) fun ingressRoutes => ?_
    refine .bind ((syncs_resources refused .configMap _).after _ _) fun configmaps => ?_
    refine .bind ((syncs_resources refused .secret _).after _ _) fun secrets => ?_
    refine .bind ((syncs_resources refused .serviceAccount _).after _ _) fun serviceaccounts => ?_
    refine .bind ((syncs_pv refused).after _ _) fun pvs => ?_
    refine .bind ((syncs_pvc refused).after _ _) fun pvcs => ?_
    refine .bind ((syncs_sc refused).after _ _) fun storageclasses => ?_
    refine .done (stable_alone _) fun t ht hok => ht ?_
    simp only [beq_iff_eq, List.flatMap_cons, List.flatMap_nil, List.append_eq_nil_iff] at hok
    simp only [hok, and_self]
  exact hreturns.run (fun _ => trivial) (fun _ => rfl) hrun hok

theorem NamespacedKind.text_injective : Function.Injective NamespacedKind.text := by
  have hnodup : ([NamespacedKind.pod, .deployment, .replicaSet, .statefulSet, .daemonSet, .job,
      .cronJob, .service, .endpoints, .endpointSlice, .ingress, .networkPolicy, .ingressRoute,
      .configMap, .secret, .serviceAccount].map NamespacedKind.text).Nodup := by decide
  have hmem : ∀ kind : NamespacedKind, kind ∈ [NamespacedKind.pod, .deployment, .replicaSet,
      .statefulSet, .daemonSet, .job, .cronJob, .service, .endpoints, .endpointSlice, .ingress,
      .networkPolicy, .ingressRoute, .configMap, .secret, .serviceAccount] := by
    intro kind
    cases kind <;> decide
  exact fun a b hsame => List.inj_on_of_nodup_map hnodup (hmem a) (hmem b) hsame

namespace Inventory

def Agree : SyncedKind → Inventory → Inventory → Prop
  | .namespace, x, y => x.namespaceRecord = y.namespaceRecord
  | .resource kind, x, y => ∀ k, k.kind = kind.text →
      (x.resources kind.table).lookup k = (y.resources kind.table).lookup k
  | .pv, x, y => ∀ k, k.kind = "PV" → x.storageResource.lookup k = y.storageResource.lookup k
  | .pvc, x, y => ∀ k, k.kind = "PVC" → x.storageResource.lookup k = y.storageResource.lookup k
  | .sc, x, y => ∀ k, k.kind = "SC" → x.storageResource.lookup k = y.storageResource.lookup k

theorem Agree.refl (kind : SyncedKind) (x : Inventory) : Agree kind x x := by
  cases kind <;> first | rfl | exact fun _ _ => rfl

theorem Agree.trans {kind : SyncedKind} {x y z : Inventory} (h : Agree kind x y)
    (h' : Agree kind y z) : Agree kind x z := by
  cases kind with
  | «namespace» => exact Eq.trans h h'
  | resource kind => exact fun k hk => (h k hk).trans (h' k hk)
  | pv => exact fun k hk => (h k hk).trans (h' k hk)
  | pvc => exact fun k hk => (h k hk).trans (h' k hk)
  | sc => exact fun k hk => (h k hk).trans (h' k hk)

section Rows

variable {clusterId : String}

theorem mem_liveStorage_congr {x y : Inventory} {kind : String}
    (h : ∀ k, k.kind = kind → x.storageResource.lookup k = y.storageResource.lookup k)
    (a : Identity) : a ∈ x.liveStorage clusterId kind ↔ a ∈ y.liveStorage clusterId kind := by
  refine Table.mem_select_congr fun k row hshown => h k ?_
  simp only [Bool.and_eq_true, beq_iff_eq] at hshown
  exact hshown.1.2

theorem Agree.mem_liveRows_iff {kind : SyncedKind} {x y : Inventory} (h : Agree kind x y)
    (a : Identity) : a ∈ x.liveRows clusterId kind ↔ a ∈ y.liveRows clusterId kind := by
  cases kind with
  | «namespace» =>
      have hrows : x.namespaceRecord = y.namespaceRecord := h
      simp only [liveRows, hrows]
  | resource kind =>
      unfold liveRows
      refine Table.mem_select_congr fun k row hshown => h k ?_
      simp only [Bool.and_eq_true, beq_iff_eq] at hshown
      exact hshown.1.2
  | pv => exact mem_liveStorage_congr h a
  | pvc => exact mem_liveStorage_congr h a
  | sc => exact mem_liveStorage_congr h a

theorem nodup_liveStorage (x : Inventory) (kind : String) :
    (x.liveStorage clusterId kind).Nodup := by
  refine Table.nodup_select fun k v k' v' _ _ hp hp' hsame => ?_
  simp only [Bool.and_eq_true, beq_iff_eq] at hp hp'
  have hname : k.name = k'.name := congrArg Prod.snd hsame
  obtain ⟨⟨hcluster, hkind⟩, -⟩ := hp
  obtain ⟨⟨hcluster', hkind'⟩, -⟩ := hp'
  cases k
  cases k'
  simp_all

theorem nodup_liveRows (x : Inventory) (kind : SyncedKind) :
    (x.liveRows clusterId kind).Nodup := by
  cases kind with
  | «namespace» =>
      unfold liveRows
      refine Table.nodup_select fun k v k' v' _ _ hp hp' hsame => ?_
      simp only [Bool.and_eq_true, beq_iff_eq] at hp hp'
      have hname : k.name = k'.name := congrArg Prod.snd hsame
      cases k
      cases k'
      simp_all
  | resource kind =>
      unfold liveRows
      refine Table.nodup_select fun k v k' v' _ _ hp hp' hsame => ?_
      simp only [Bool.and_eq_true, beq_iff_eq] at hp hp'
      have hname : k.name = k'.name := congrArg Prod.snd hsame
      have hnamespace : k.namespace = k'.namespace := Option.some.inj (congrArg Prod.fst hsame)
      cases k
      cases k'
      simp_all
  | pv => exact nodup_liveStorage x "PV"
  | pvc => exact nodup_liveStorage x "PVC"
  | sc => exact nodup_liveStorage x "SC"

variable {live : LiveObjects}

theorem lookup_storage_of_ne {m : Mirror LiveObject StorageKey StorageRow} {text : String}
    (hscope : ∀ k, m.scope k = (k.clusterId == clusterId && k.kind == text))
    (hkey : ∀ o, m.key o = ⟨clusterId, text, o.name⟩) (items : List LiveObject)
    (t : Table StorageKey StorageRow) {k : StorageKey} (hne : k.kind ≠ text) :
    (m.apply items t).lookup k = t.lookup k := by
  refine m.lookup_apply_of_scope (fun o _ => ?_) ?_
  · rw [hkey, hscope]
    simp
  · rw [hscope, beq_eq_false_iff_ne.mpr hne, Bool.and_false]

theorem agree_synced {kind kind' : SyncedKind} (hne : kind ≠ kind') (x : Inventory) :
    Agree kind (x.synced clusterId live kind') x := by
  have hstorage : ∀ text text' : String, text ≠ text' →
      ∀ m : Mirror LiveObject StorageKey StorageRow,
      (∀ k, m.scope k = (k.clusterId == clusterId && k.kind == text')) →
      (∀ o, m.key o = ⟨clusterId, text', o.name⟩) → ∀ items k, k.kind = text →
      (m.apply items x.storageResource).lookup k = x.storageResource.lookup k :=
    fun text text' htext m hscope hkey items k hk =>
      lookup_storage_of_ne hscope hkey items _ (hk ▸ htext)
  cases kind with
  | «namespace» =>
      cases kind' with
      | «namespace» => exact absurd rfl hne
      | _ => rfl
  | resource kind =>
      cases kind' with
      | resource kind' =>
          intro k hk
          have htext : kind.text ≠ kind'.text := fun hsame =>
            hne (congrArg SyncedKind.resource (NamespacedKind.text_injective hsame))
          show (Function.update x.resources kind'.table _ kind.table).lookup k = _
          by_cases htable : kind.table = kind'.table
          · rw [← htable, Function.update_self]
            refine Mirror.lookup_apply_of_scope _ (fun o _ => ?_) ?_
            · simp [resourceMirror]
            · have hkind := beq_eq_false_iff_ne.mpr (hk ▸ htext)
              show (k.clusterId == clusterId && k.kind == kind'.text) = false
              rw [hkind, Bool.and_false]
          · rw [Function.update_of_ne htable]
      | _ => exact fun _ _ => rfl
  | pv =>
      cases kind' with
      | pv => exact absurd rfl hne
      | pvc => exact hstorage "PV" "PVC" (by decide) _ (fun _ => rfl) (fun _ => rfl) _
      | sc => exact hstorage "PV" "SC" (by decide) _ (fun _ => rfl) (fun _ => rfl) _
      | _ => exact fun _ _ => rfl
  | pvc =>
      cases kind' with
      | pv => exact hstorage "PVC" "PV" (by decide) _ (fun _ => rfl) (fun _ => rfl) _
      | pvc => exact absurd rfl hne
      | sc => exact hstorage "PVC" "SC" (by decide) _ (fun _ => rfl) (fun _ => rfl) _
      | _ => exact fun _ _ => rfl
  | sc =>
      cases kind' with
      | pv => exact hstorage "SC" "PV" (by decide) _ (fun _ => rfl) (fun _ => rfl) _
      | pvc => exact hstorage "SC" "PVC" (by decide) _ (fun _ => rfl) (fun _ => rfl) _
      | sc => exact absurd rfl hne
      | _ => exact fun _ _ => rfl

theorem agree_foldl_synced {kind : SyncedKind} {kinds : List SyncedKind} (hkind : kind ∉ kinds)
    (x : Inventory) : Agree kind (kinds.foldl (fun x k => x.synced clusterId live k) x) x := by
  induction kinds generalizing x with
  | nil => exact .refl kind x
  | cons k rest ih =>
      have hne : kind ≠ k := fun h => hkind (h ▸ List.mem_cons_self)
      exact (ih (fun h => hkind (List.mem_cons_of_mem k h)) _).trans (agree_synced hne x)

theorem liveRows_foldl_synced {kind : SyncedKind} {kinds : List SyncedKind} (hnodup : kinds.Nodup)
    (hkind : kind ∈ kinds) (x : Inventory) : ∃ y, Agree kind y x ∧ ∀ a,
      a ∈ (kinds.foldl (fun x k => x.synced clusterId live k) x).liveRows clusterId kind ↔
        a ∈ (y.synced clusterId live kind).liveRows clusterId kind := by
  induction kinds generalizing x with
  | nil => cases hkind
  | cons k rest ih =>
      obtain ⟨hk, hrest⟩ := List.nodup_cons.mp hnodup
      by_cases hsame : kind = k
      · subst hsame
        exact ⟨x, .refl kind x, fun a => (agree_foldl_synced hk _).mem_liveRows_iff a⟩
      · have hmem := (List.mem_cons.mp hkind).resolve_left hsame
        obtain ⟨y, hy, hrows⟩ := ih hrest hmem (x.synced clusterId live k)
        exact ⟨y, hy.trans (agree_synced hsame x), hrows⟩

end Rows
end Inventory

/-! ## Exactness of each kind -/

section Exactness

variable {clusterId : String} {live : LiveObjects}

theorem joined_inj {a b n m : String} (hn : '/' ∉ n.toList) (hm : '/' ∉ m.toList)
    (h : a ++ "/" ++ b = n ++ "/" ++ m) : a = n ∧ b = m := by
  have hlist := congrArg String.toList h
  simp only [String.toList_append, List.append_assoc] at hlist
  have hparts := (List.append_cons_inj_of_notMem hn hm).mp hlist.symm
  exact ⟨String.toList_injective hparts.1.symm, String.toList_injective hparts.2.2.symm⟩

theorem nodup_keys {κ : Type} {kind : SyncedKind} {key : LiveObject → κ}
    (h : ∀ a ∈ live.objects kind, ∀ b ∈ live.objects kind, key a = key b →
      a.identity kind = b.identity kind) : ((live.objects kind).map key).Nodup := by
  refine List.pairwise_map.mpr ?_
  exact (List.pairwise_map.mp (live.distinct kind)).imp_of_mem fun {a b} ha hb hne hsame =>
    hne (h a ha b hb hsame)

theorem exact_namespaces (x : Inventory) :
    Mirror.Exact (namespaceMirror clusterId) (fun k _ => ((none, k.name) : Identity))
      (LiveObject.identity .namespace) (live.objects .namespace) x.namespaceRecord := by
  refine ⟨nodup_keys fun a _ b _ h => ?_, fun _ _ => beq_self_eq_true clusterId, fun o _ => ?_,
    fun _ _ => rfl, fun _ _ => rfl, fun k v _ hscope _ o _ hname => ?_, fun _ => rfl⟩
  · exact congrArg (fun name => ((none, name) : Identity)) (congrArg NamespaceKey.name h)
  · exact Mirror.rowOf_cases _ rfl fun _ _ => rfl
  · have hcluster : k.clusterId = clusterId := beq_iff_eq.mp hscope
    have hsame : k.name = o.name := hname
    cases k
    simp only [namespaceMirror]
    rw [← hcluster, ← hsame]

theorem exact_resources (kind : NamespacedKind) (x : Inventory) :
    Mirror.Exact (resourceMirror clusterId kind)
      (fun k _ => ((some k.namespace, k.name) : Identity)) (LiveObject.identity (.resource kind))
      (live.objects (.resource kind)) (x.resources kind.table) := by
  refine ⟨nodup_keys fun a _ b _ h => ?_, fun o _ => ?_, fun o _ => ?_,
    fun _ _ => rfl, fun _ _ => rfl, fun k v _ hscope _ o ho hname => ?_, fun _ => rfl⟩
  · have hnamespace : a.namespace = b.namespace := congrArg ResourceKey.namespace h
    have hname : a.name = b.name := congrArg ResourceKey.name h
    simp only [LiveObject.identity, hnamespace, hname]
  · simp [resourceMirror]
  · exact Mirror.rowOf_cases _ rfl fun _ _ => rfl
  · have hvalid := live.valid (.resource kind) o ho
    obtain ⟨hns, hn⟩ := joined_inj (hvalid.namespace rfl).2 hvalid.name.2 hname
    obtain ⟨hcluster, hkind⟩ := Bool.and_eq_true_iff.mp hscope
    have hcluster : k.clusterId = clusterId := beq_iff_eq.mp hcluster
    have hkind : k.kind = kind.text := beq_iff_eq.mp hkind
    cases k
    simp only [resourceMirror]
    rw [← hcluster, ← hkind, ← hns, ← hn]

theorem storageKey_eq {k : StorageKey} {text name : String}
    (hscope : (k.clusterId == clusterId && k.kind == text) = true) (hname : k.name = name) :
    (⟨clusterId, text, name⟩ : StorageKey) = k := by
  obtain ⟨hcluster, hkind⟩ := Bool.and_eq_true_iff.mp hscope
  cases k
  simp only [beq_iff_eq] at hcluster hkind hname
  rw [hcluster, hkind, hname]

theorem exact_claims (hclaims : live.DistinctClaims) (x : Inventory) :
    Mirror.Exact (claimMirror clusterId) (fun k row => ((row.namespace, k.name) : Identity))
      (LiveObject.identity .pvc) (live.objects .pvc) x.storageResource := by
  have hrow : ∀ o, (claimMirror clusterId).rowOf x.storageResource o =
      ⟨some o.namespace, "active", o.columns⟩ := fun o => Mirror.rowOf_cases _ rfl fun _ _ => rfl
  refine ⟨nodup_keys fun a ha b hb h => ?_, fun o _ => ?_, fun o _ => ?_, fun o _ => ?_,
    fun o _ => ?_, fun k v _ hscope _ o ho hname => ?_, fun _ => rfl⟩
  · have hname : a.name = b.name := congrArg StorageKey.name h
    simp only [LiveObject.identity, hclaims a ha b hb hname, hname]
  · simp [claimMirror]
  · rw [hrow o]
    rfl
  · rw [hrow o]
    rfl
  · rw [hrow o]
    rfl
  · have hvalid := live.valid .pvc o ho
    exact storageKey_eq hscope (joined_inj (hvalid.namespace rfl).2 hvalid.name.2 hname).2

theorem LiveObject.identity_of_cluster {kind : SyncedKind} (hkind : kind.isNamespaced = false)
    (o : LiveObject) : o.identity kind = (none, o.name) := by
  rw [LiveObject.identity, hkind]
  rfl

theorem nodup_storageKeys {kind : SyncedKind} (hkind : kind.isNamespaced = false) (text : String) :
    ((live.objects kind).map (clusterStorageMirror clusterId text).key).Nodup := by
  refine nodup_keys fun a _ b _ h => ?_
  have hname : a.name = b.name := congrArg StorageKey.name h
  rw [LiveObject.identity_of_cluster hkind, LiveObject.identity_of_cluster hkind, hname]

theorem exact_clusterStorage {kind : SyncedKind} {text : String}
    (hkind : kind.isNamespaced = false) {x : Inventory}
    (hunplaced : x.Unplaced clusterId text (live.objects kind)) :
    Mirror.Exact (clusterStorageMirror clusterId text)
      (fun k row => ((row.namespace, k.name) : Identity)) (LiveObject.identity kind)
      (live.objects kind) x.storageResource := by
  have hrow : ∀ o ∈ live.objects kind,
      ((clusterStorageMirror clusterId text).rowOf x.storageResource o).namespace = none ∧
      ((clusterStorageMirror clusterId text).rowOf x.storageResource o).state = "active" := by
    intro o ho
    exact Mirror.rowOf_cases _ ⟨rfl, rfl⟩ fun row hold => ⟨hunplaced o ho row hold, rfl⟩
  refine ⟨nodup_storageKeys hkind text, fun o _ => ?_, fun o ho => ?_, fun o ho => ?_,
    fun o ho => ?_, fun k v _ hscope _ o ho hname => ?_, fun _ => rfl⟩
  · simp [clusterStorageMirror]
  · show ((clusterStorageMirror clusterId text).rowOf x.storageResource o).state != "deleted"
    rw [(hrow o ho).2]
    rfl
  · rw [(hrow o ho).1, LiveObject.identity_of_cluster hkind]
    rfl
  · show ((clusterStorageMirror clusterId text).rowOf x.storageResource o).namespace.getD _ ++ "/" ++
      o.name = clusterKey o
    rw [(hrow o ho).1]
    rfl
  · have hparts := joined_inj (n := "_cluster") (by decide) (live.valid kind o ho).name.2 hname
    exact storageKey_eq hscope hparts.2

theorem liveStorage_unique {x : Inventory} {kind name : String} {a b : Option String}
    (ha : (a, name) ∈ x.liveStorage clusterId kind) (hb : (b, name) ∈ x.liveStorage clusterId kind) :
    a = b := by
  obtain ⟨k, row, hrow, hshown, hident⟩ := Table.mem_select_iff.mp ha
  obtain ⟨k', row', hrow', hshown', hident'⟩ := Table.mem_select_iff.mp hb
  have hkey := storageKey_eq (Bool.and_eq_true_iff.mp hshown).1 (congrArg Prod.snd hident)
  have hkey' := storageKey_eq (Bool.and_eq_true_iff.mp hshown').1 (congrArg Prod.snd hident')
  rw [← hkey] at hrow
  rw [← hkey'] at hrow'
  obtain rfl : row = row' := Option.some.inj (hrow.symm.trans hrow')
  exact (congrArg Prod.fst hident).symm.trans (congrArg Prod.fst hident')

theorem unplaced_of_shown {kind : SyncedKind} {text : String} (hkind : kind.isNamespaced = false)
    {x : Inventory}
    (hshown : ∀ a ∈ live.identities kind, a ∈ (clusterStorageMirror clusterId text).shown
      (fun k row => ((row.namespace, k.name) : Identity))
      ((clusterStorageMirror clusterId text).apply (live.objects kind) x.storageResource)) :
    x.Unplaced clusterId text (live.objects kind) := by
  intro o ho row hrow
  have hmem := hshown _ (List.mem_map.mpr ⟨o, ho, LiveObject.identity_of_cluster hkind o⟩)
  obtain ⟨k, v, hv, hlive, hident⟩ := Table.mem_select_iff.mp hmem
  have hkey := storageKey_eq (Bool.and_eq_true_iff.mp hlive).1 (congrArg Prod.snd hident)
  subst hkey
  have hput := (clusterStorageMirror clusterId text).lookup_putAll_of_mem
    (t := x.storageResource) (nodup_storageKeys hkind text) ho
  have hkept : ((clusterStorageMirror clusterId text).rowOf x.storageResource o).namespace =
      row.namespace := by
    unfold Mirror.rowOf
    rw [show x.storageResource.lookup ((clusterStorageMirror clusterId text).key o) = some row
      from hrow]
    rfl
  rw [Mirror.apply, Mirror.sweep, Table.lookup_updateWhere] at hv
  rw [show (⟨clusterId, text, o.name⟩ : StorageKey) =
    (clusterStorageMirror clusterId text).key o from rfl, hput, Option.map_some] at hv
  have hnone : v.namespace = none := congrArg Prod.fst hident
  rw [← hkept, ← hnone, ← Option.some.inj hv]
  split <;> rfl

end Exactness

def Corresponds (clusterId : String) (live : LiveObjects) (x : Inventory) (kind : SyncedKind) :
    Prop :=
  (x.liveRows clusterId kind).Perm (live.identities kind)

theorem corresponds_iff {clusterId : String} {live : LiveObjects} {x : Inventory}
    {kind : SyncedKind} : Corresponds clusterId live x kind ↔
      ∀ a, a ∈ x.liveRows clusterId kind ↔ a ∈ live.identities kind :=
  List.perm_ext_iff_of_nodup (x.nodup_liveRows kind) (live.distinct kind)

def Mirrorable (clusterId : String) (live : LiveObjects) (x : Inventory) : SyncedKind → Prop
  | .namespace => True
  | .resource _ => True
  | .pv => x.Unplaced clusterId "PV" (live.objects .pv)
  | .pvc => live.DistinctClaims
  | .sc => x.Unplaced clusterId "SC" (live.objects .sc)

theorem corresponds_synced_iff {clusterId : String} {live : LiveObjects} (x : Inventory)
    (kind : SyncedKind) : (∀ a, a ∈ (x.synced clusterId live kind).liveRows clusterId kind ↔
      a ∈ live.identities kind) ↔ Mirrorable clusterId live x kind := by
  cases kind with
  | «namespace» => exact iff_of_true (fun a => (exact_namespaces x).mem_shown_iff) trivial
  | resource kind =>
      refine iff_of_true (fun a => ?_) trivial
      have hrows : (x.synced clusterId live (.resource kind)).resources kind.table =
          (resourceMirror clusterId kind).apply (live.objects (.resource kind))
            (x.resources kind.table) := (resourceTable kind.table).get_set x _
      have hmem := (@exact_resources clusterId live kind x).mem_shown_iff (x := a)
      rw [← hrows] at hmem
      exact hmem
  | pv =>
      refine ⟨fun h => unplaced_of_shown rfl fun a ha => (h a).mpr ha, fun h a => ?_⟩
      exact (@exact_clusterStorage _ _ .pv _ rfl _ h).mem_shown_iff
  | pvc =>
      refine ⟨fun h a ha b hb hname => ?_, fun h a => (exact_claims h x).mem_shown_iff⟩
      have hrowA := (h _).mpr (List.mem_map.mpr ⟨a, ha, rfl⟩)
      have hrowB := (h _).mpr (List.mem_map.mpr ⟨b, hb, rfl⟩)
      rw [LiveObject.identity, hname] at hrowA
      exact Option.some.inj (liveStorage_unique hrowA hrowB)
  | sc =>
      refine ⟨fun h => unplaced_of_shown rfl fun a ha => (h a).mpr ha, fun h a => ?_⟩
      exact (@exact_clusterStorage _ _ .sc _ rfl _ h).mem_shown_iff

theorem Inventory.Unplaced.congr {clusterId text : String} {items : List LiveObject}
    {x y : Inventory}
    (h : ∀ k, k.kind = text → x.storageResource.lookup k = y.storageResource.lookup k) :
    x.Unplaced clusterId text items ↔ y.Unplaced clusterId text items := by
  have hrow : ∀ o : LiveObject, x.storageResource.lookup ⟨clusterId, text, o.name⟩ =
      y.storageResource.lookup ⟨clusterId, text, o.name⟩ := fun o => h _ rfl
  simp only [Inventory.Unplaced, hrow]

theorem Mirrorable.congr {clusterId : String} {live : LiveObjects} {x y : Inventory}
    {kind : SyncedKind} (h : Inventory.Agree kind x y) :
    Mirrorable clusterId live x kind ↔ Mirrorable clusterId live y kind := by
  cases kind with
  | «namespace» => exact Iff.rfl
  | resource kind => exact Iff.rfl
  | pvc => exact Iff.rfl
  | pv => exact Inventory.Unplaced.congr h
  | sc => exact Inventory.Unplaced.congr h

/-- After a sync that reports no error, the rows of every kind are the live objects of that
kind, exactly when no two live claims have the same name and no volume or storage class is
written to a row that has a namespace. -/
theorem sync_exact_iff (clusterId : String) (live : LiveObjects)
    (refused : SyncedKind → Option String) (usage : Option String) {s t : SyncState}
    {result : SyncResult}
    (hrun : (runClusterSync clusterId (live.api refused) usage).run s = (.ok result, t))
    (hok : result.ok = true) :
    (∀ kind, Corresponds clusterId live t.inventory kind) ↔
      live.DistinctClaims ∧ s.inventory.Unplaced clusterId "PV" (live.objects .pv) ∧
        s.inventory.Unplaced clusterId "SC" (live.objects .sc) := by
  have hkind : ∀ kind, Corresponds clusterId live t.inventory kind ↔
      Mirrorable clusterId live s.inventory kind := by
    intro kind
    obtain ⟨y, hy, hrows⟩ := @Inventory.liveRows_foldl_synced clusterId live kind
      SyncedKind.order SyncedKind.nodup_order (SyncedKind.mem_order kind) s.inventory
    rw [corresponds_iff, runClusterSync_synced hrun hok]
    simp only [hrows]
    rw [corresponds_synced_iff, Mirrorable.congr hy]
  constructor
  · intro h
    exact ⟨(hkind .pvc).mp (h .pvc), (hkind .pv).mp (h .pv), (hkind .sc).mp (h .sc)⟩
  · rintro ⟨hclaims, hvolumes, hclasses⟩ kind
    refine (hkind kind).mpr ?_
    cases kind with
    | «namespace» => trivial
    | resource kind => trivial
    | pv => exact hvolumes
    | pvc => exact hclaims
    | sc => exact hclasses

/-- Two namespaces, each with a claim of the name `data`. -/
def twoClaims : LiveObjects where
  objects
    | .namespace => [⟨"", "a", .null⟩, ⟨"", "b", .null⟩]
    | .pvc => [⟨"a", "data", .null⟩, ⟨"b", "data", .null⟩]
    | _ => []
  valid := by
    intro kind o ho
    cases kind with
    | «namespace» =>
        rcases List.mem_cons.mp ho with rfl | ho
        · exact ⟨by decide, fun h => nomatch h⟩
        · rw [List.mem_singleton.mp ho]
          exact ⟨by decide, fun h => nomatch h⟩
    | pvc =>
        rcases List.mem_cons.mp ho with rfl | ho
        · exact ⟨by decide, fun _ => by decide⟩
        · rw [List.mem_singleton.mp ho]
          exact ⟨by decide, fun _ => by decide⟩
    | _ => cases ho
  distinct := by
    intro kind
    cases kind with
    | resource kind => exact List.nodup_nil
    | _ => decide

def emptyState : SyncState := ⟨⟨∅, fun _ => ∅, ∅⟩, 0, fun _ => none⟩

/-- One row is left for the two claims, though the sync reports no error. -/
theorem sync_merges_claims : ∃ result t,
    (runClusterSync "c" (twoClaims.api fun _ => none) none).run emptyState = (.ok result, t) ∧
      result.ok = true ∧ ¬∀ kind, Corresponds "c" twoClaims t.inventory kind := by
  refine ⟨_, _, rfl, by decide +kernel, fun h => ?_⟩
  have hlength := (h .pvc).length_eq
  revert hlength
  decide +kernel

theorem twoClaims_exact : ∃ result t,
    (runClusterSync "c" (twoClaims.api fun _ => none) none).run emptyState = (.ok result, t) ∧
      ((∀ kind, Corresponds "c" twoClaims t.inventory kind) ↔ twoClaims.DistinctClaims ∧
        emptyState.inventory.Unplaced "c" "PV" (twoClaims.objects .pv) ∧
        emptyState.inventory.Unplaced "c" "SC" (twoClaims.objects .sc)) :=
  ⟨_, _, rfl, sync_exact_iff "c" twoClaims (fun _ => none) none rfl (by decide +kernel)⟩

end KubeNova.Clusters
