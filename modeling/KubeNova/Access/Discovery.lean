import KubeNova.Access.EffectiveGrants

/-!
# Discovering clusters

`listDiscoverableClusterIds` gathers the clusters a user may see from other queries than the check
of one cluster makes.  The interface must not show a cluster that it cannot open, so both have to
agree.
-/

namespace KubeNova.Access

open KubeNova.Foundation KubeNova.Common

inductive BindingTable where
  | rows (bindings : List ClusterRoleBinding)
  | missing
  deriving Repr, DecidableEq

/-- What a query finds: a missing table is taken for an empty one. -/
def BindingTable.found : BindingTable → List ClusterRoleBinding
  | rows bindings => bindings
  | missing => []

structure AccessDatabase where
  directory : Directory
  bindingTable : BindingTable

def AccessDatabase.tables (db : AccessDatabase) : AccessTables :=
  ⟨db.directory, db.bindingTable.found⟩

def Directory.HasClusterIds (d : Directory) : Prop :=
  ∀ clusterId, (d.clusters clusterId).isSome → clusterId ≠ "" ∧ Text.trim clusterId = clusterId

namespace AccessTables

variable (t : AccessTables)

/-- `none` for all clusters. -/
def listDiscoverableClusterIds (now : Nat) (subject : ClusterAccessSubject) :
    Except Exception (Option (List String)) := do
  let legacy ← t.listAccessibleClusterIds subject
  match legacy with
  | none => return none
  | some ids =>
      if !subject.isKnownPlatformRole then return some ids
      else
        let userId ← requireUserId subject
        let grants := t.directory.listEffectiveGrants userId now none
        return some (ids ++ grants.map (·.clusterId)).eraseDups

def assertCanDiscover (now : Nat) (subject : ClusterAccessSubject) (clusterId : String) :
    Except Exception Unit := do
  let id ← requireClusterId clusterId
  if subject.isPlatformAdmin then
    let _ ← t.assertCanRead now subject id
    return ()
  else
    let ids ← t.listDiscoverableClusterIds now subject
    if ids.any (·.contains id) then return () else throw inaccessibleCluster

end AccessTables

namespace Directory

variable {d : Directory} {userId clusterId : String} {now : Nat} {grant : Grant}

theorem mem_listEffectiveGrants_some :
    grant ∈ d.listEffectiveGrants userId now (some clusterId) ↔
      grant ∈ d.listEffectiveGrants userId now none ∧ grant.clusterId = clusterId := by
  unfold listEffectiveGrants
  split_ifs with hblank
  · simp
  simp only [List.mem_filter, List.mem_map, findGrants, isEffective, Option.all_none,
    Option.all_some, Bool.and_eq_true, Bool.true_and, beq_iff_eq]
  constructor
  · rintro ⟨⟨row, ⟨hrow, hfound⟩, rfl⟩, heffective⟩
    exact ⟨⟨⟨row, ⟨hrow, by grind⟩, rfl⟩, by grind⟩, heffective.1.1.1.1.1.2.symm⟩
  · rintro ⟨⟨⟨row, ⟨hrow, hfound⟩, rfl⟩, heffective⟩, hcluster⟩
    exact ⟨⟨row, ⟨hrow, by grind [limitByMembership]⟩, rfl⟩, by grind⟩

end Directory

namespace AccessTables

variable {t : AccessTables} {now : Nat} {subject : ClusterAccessSubject} {userId id : String}

def Reaches (t : AccessTables) (now : Nat) (userId id : String) : Prop :=
  (∃ binding ∈ t.activeBindings userId, binding.clusterId = id) ∨
    ∃ grant ∈ t.directory.listEffectiveGrants userId now none, grant.clusterId = id

theorem reaches_cluster (h : t.Reaches now userId id) : (t.directory.clusters id).isSome := by
  rcases h with ⟨binding, hbinding, rfl⟩ | ⟨grant, hgrant, rfl⟩
  · simp only [activeBindings, List.mem_filter, Bool.and_eq_true] at hbinding
    obtain ⟨cluster, hcluster, -⟩ := (Option.any_eq_true _ _).mp hbinding.2.2
    exact Option.isSome_iff_exists.mpr ⟨cluster, hcluster⟩
  · have hlive := Directory.effective_cluster_of_mem hgrant
    obtain ⟨cluster, hcluster, -⟩ := (Option.any_eq_true _ _).mp hlive
    exact Option.isSome_iff_exists.mpr ⟨cluster, hcluster⟩

theorem requireUserId_error {e : Exception} (h : requireUserId subject = .error e)
    (hadmin : subject.isPlatformAdmin = false) (clusterId : String) :
    (t.assertCanRead now subject clusterId).isOk = false ∧
      t.listDiscoverableClusterIds now subject = .error e := by
  constructor
  · unfold assertCanRead
    cases requireClusterId clusterId <;> simp [hadmin, h, bind, Except.bind, Except.isOk,
      Except.toBool]
  · simp [listDiscoverableClusterIds, listAccessibleClusterIds, hadmin, h, bind, Except.bind]

theorem userAccess_isSome_iff :
    (t.userAccess now userId id).isSome = true ↔ t.Reaches now userId id := by
  unfold userAccess Reaches
  cases hbinding : (t.activeBindings userId).find? fun b => b.clusterId == id with
  | some binding =>
      have hmem := List.mem_of_find?_eq_some hbinding
      have hid := List.find?_some hbinding
      exact iff_of_true rfl (.inl ⟨binding, hmem, by simpa using hid⟩)
  | none =>
      have hnone : ¬∃ binding ∈ t.activeBindings userId, binding.clusterId = id := by
        simpa using hbinding
      rw [or_iff_right hnone, Option.isSome_map, List.find?_isSome]
      constructor
      · rintro ⟨grant, hgrant, -⟩
        exact ⟨grant, Directory.mem_listEffectiveGrants_some.mp hgrant⟩
      · rintro ⟨grant, hgrant, hid⟩
        exact ⟨grant, Directory.mem_listEffectiveGrants_some.mpr ⟨hgrant, hid⟩,
          Directory.effective_role_of_mem hgrant⟩

theorem assertCanRead_isOk_iff (hadmin : subject.isPlatformAdmin = false)
    (huser : requireUserId subject = .ok userId) (clusterId : String) :
    (t.assertCanRead now subject clusterId).isOk = true ↔ Text.trim clusterId ≠ "" ∧
      subject.isKnownPlatformRole = true ∧ t.Reaches now userId (Text.trim clusterId) := by
  by_cases hblank : Text.trim clusterId = ""
  · simp [assertCanRead, requireClusterId, hblank, bind, Except.bind, Except.isOk, Except.toBool]
  by_cases hknown : subject.isKnownPlatformRole = true
  · rw [assertCanRead_eq hadmin huser hknown hblank, ← userAccess_isSome_iff]
    cases t.userAccess now userId (Text.trim clusterId) <;>
      simp [hblank, hknown, Except.isOk, Except.toBool]
  · simp [assertCanRead, requireClusterId, hblank, hadmin, huser, hknown, bind, Except.bind,
      Except.isOk, Except.toBool, throw, throwThe, MonadExceptOf.throw]

theorem listDiscoverableClusterIds_eq (hadmin : subject.isPlatformAdmin = false)
    (huser : requireUserId subject = .ok userId) :
    ∃ ids, t.listDiscoverableClusterIds now subject = .ok (some ids) ∧
      ∀ id, id ∈ ids ↔ subject.isKnownPlatformRole = true ∧ t.Reaches now userId id := by
  by_cases hknown : subject.isKnownPlatformRole = true
  · refine ⟨_, by simp [listDiscoverableClusterIds, listAccessibleClusterIds, hadmin, huser, hknown,
      bind, Except.bind, pure, Except.pure]; rfl, fun id => ?_⟩
    simp [Reaches, hknown]
  · exact ⟨[], by simp [listDiscoverableClusterIds, listAccessibleClusterIds, hadmin, huser, hknown,
      bind, Except.bind, pure, Except.pure], fun id => by simp [hknown]⟩

theorem assertCanDiscover_isOk_iff (hadmin : subject.isPlatformAdmin = false)
    (huser : requireUserId subject = .ok userId) (clusterId : String) :
    (t.assertCanDiscover now subject clusterId).isOk = true ↔ Text.trim clusterId ≠ "" ∧
      subject.isKnownPlatformRole = true ∧ t.Reaches now userId (Text.trim clusterId) := by
  obtain ⟨ids, hlist, hmem⟩ := @listDiscoverableClusterIds_eq t now subject userId hadmin huser
  by_cases hblank : Text.trim clusterId = ""
  · simp [assertCanDiscover, requireClusterId, hblank, bind, Except.bind, Except.isOk,
      Except.toBool]
  have hrequired : requireClusterId clusterId = .ok (Text.trim clusterId) := if_neg hblank
  rw [← hmem, and_iff_right hblank]
  by_cases hin : Text.trim clusterId ∈ ids
  · simp [assertCanDiscover, hrequired, hadmin, hlist, hin, bind, Except.bind, pure, Except.pure,
      Except.isOk, Except.toBool]
  · simp [assertCanDiscover, hrequired, hadmin, hlist, hin, bind, Except.bind, throw, throwThe,
      MonadExceptOf.throw, Except.isOk, Except.toBool]

/-- For a user who is not an administrator, the clusters that are listed are those that can be read,
and discovering a cluster comes to the same as reading it, also where the table of the bindings is
missing. -/
theorem discoverable_iff_readable (db : AccessDatabase) (hids : db.directory.HasClusterIds)
    (now : Nat) (subject : ClusterAccessSubject) (hadmin : subject.isPlatformAdmin = false) :
    (match db.tables.listDiscoverableClusterIds now subject with
      | .ok ids => ∃ listed, ids = some listed ∧ ∀ clusterId, clusterId ∈ listed ↔
          (db.directory.clusters clusterId).isSome = true ∧
            (db.tables.assertCanRead now subject clusterId).isOk = true
      | .error _ => ∀ clusterId, (db.tables.assertCanRead now subject clusterId).isOk = false) ∧
      ∀ clusterId, (db.tables.assertCanDiscover now subject clusterId).isOk =
        (db.tables.assertCanRead now subject clusterId).isOk := by
  cases huser : requireUserId subject with
  | error e =>
      have hboth := fun clusterId =>
        @requireUserId_error db.tables now subject e huser hadmin clusterId
      rw [(hboth "").2]
      refine ⟨fun clusterId => (hboth clusterId).1, fun clusterId => ?_⟩
      rw [(hboth clusterId).1]
      unfold assertCanDiscover
      cases requireClusterId clusterId <;> simp [hadmin, (hboth "").2, bind, Except.bind,
        Except.isOk, Except.toBool]
  | ok userId =>
      obtain ⟨ids, hlist, hmem⟩ :=
        @listDiscoverableClusterIds_eq db.tables now subject userId hadmin huser
      rw [hlist]
      refine ⟨⟨ids, rfl, fun clusterId => ?_⟩, fun clusterId => ?_⟩
      · rw [hmem, assertCanRead_isOk_iff hadmin huser]
        constructor
        · rintro ⟨hknown, hreaches⟩
          have hthere := reaches_cluster hreaches
          obtain ⟨hne, htrim⟩ := hids clusterId hthere
          rw [htrim]
          exact ⟨hthere, hne, hknown, hreaches⟩
        · rintro ⟨hthere, -, hknown, hreaches⟩
          rw [(hids clusterId hthere).2] at hreaches
          exact ⟨hknown, hreaches⟩
      · rw [Bool.eq_iff_iff, assertCanDiscover_isOk_iff hadmin huser,
          assertCanRead_isOk_iff hadmin huser]

def unmigratedDatabase : AccessDatabase where
  directory :=
    { users := []
      groupActive := fun _ => false
      memberships := []
      clusters := fun id => if id = "c1" ∨ id = "c2" then some ⟨none, "ready"⟩ else none
      grants := [⟨"g1", some "ada", none, "c1", "viewer", "active", 0, none, none,
        [⟨"uid", "web"⟩], [], Bool.false_ne_true, Option.not_mem_none ""⟩] }
  bindingTable := .missing

theorem discoverable_without_bindings :
    (∃ listed, unmigratedDatabase.tables.listDiscoverableClusterIds 10
        ⟨some "ada", none, some "user"⟩ = .ok (some listed) ∧ "c1" ∈ listed ∧ "c2" ∉ listed) ∧
      ∀ clusterId, (unmigratedDatabase.tables.assertCanDiscover 10
          ⟨some "ada", none, some "user"⟩ clusterId).isOk =
        (unmigratedDatabase.tables.assertCanRead 10 ⟨some "ada", none, some "user"⟩
          clusterId).isOk := by
  have hids : unmigratedDatabase.directory.HasClusterIds := by
    intro clusterId hthere
    by_cases hid : clusterId = "c1" ∨ clusterId = "c2"
    · rcases hid with rfl | rfl <;> decide +kernel
    · simp [unmigratedDatabase, hid] at hthere
  exact ⟨⟨["c1"], by decide +kernel, by decide, by decide⟩,
    (discoverable_iff_readable unmigratedDatabase hids 10 ⟨some "ada", none, some "user"⟩
      (by decide +kernel)).2⟩

end AccessTables

end KubeNova.Access
