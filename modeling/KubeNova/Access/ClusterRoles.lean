import KubeNova.Access.EffectiveGrants
import Mathlib.Data.Fintype.EquivFin

/-!
# The role on a cluster

`authorize` takes the highest role of the grants behind a decision.  `assertCanRead` takes the role
of the binding, or else that of the grant the database returns first: `reportsHighest_iff` says when
this is the highest role as well.
-/

namespace KubeNova.Access

open KubeNova.Foundation KubeNova.Common

namespace AccessTables

variable {t : AccessTables} {now : Nat} {subject : ClusterAccessSubject} {userId id : String}

def withGrants (t : AccessTables) (grants : List Grant) : AccessTables :=
  ⟨{ t.directory with grants := grants }, t.bindings⟩

def effectiveBinding (t : AccessTables) (userId id : String) : Option ClusterRoleBinding :=
  (t.activeBindings userId).find? fun b => b.clusterId == id

def effectiveGrants (t : AccessTables) (now : Nat) (userId id : String) : List Grant :=
  t.directory.listEffectiveGrants userId now (some id)

def effectiveRoles (t : AccessTables) (now : Nat) (userId id : String) : List String :=
  (t.effectiveBinding userId id).toList.map (·.role) ++
    (t.effectiveGrants now userId id).map (·.role)

/-- The role that is reported is the highest, the order of the grants makes no difference to the
checks that build on it, and a further grant takes nothing away. -/
structure ReportsHighest (t : AccessTables) (now : Nat) (subject : ClusterAccessSubject)
    (clusterId : String) : Prop where
  highest : ∀ grants, grants.Perm t.directory.grants → ∀ access userId,
    (t.withGrants grants).assertCanRead now subject clusterId = .ok access →
    requireUserId subject = .ok userId →
    ∀ role ∈ t.effectiveRoles now userId (Text.trim clusterId),
      roleRank role ≤ roleRank access.accessRole
  mutate_order : ∀ grants, grants.Perm t.directory.grants →
    (t.withGrants grants).assertCanMutate now subject clusterId =
      t.assertCanMutate now subject clusterId
  admin_order : ∀ grants, grants.Perm t.directory.grants →
    (t.withGrants grants).assertClusterAdmin now subject clusterId =
      t.assertClusterAdmin now subject clusterId
  further : ∀ grant grants, grant.id ∉ t.directory.grants.map (·.id) →
    grants.Perm (grant :: t.directory.grants) →
    ((t.assertCanRead now subject clusterId).isOk = true →
      ((t.withGrants grants).assertCanRead now subject clusterId).isOk = true) ∧
    ((t.assertCanMutate now subject clusterId).isOk = true →
      ((t.withGrants grants).assertCanMutate now subject clusterId).isOk = true) ∧
    ((t.assertClusterAdmin now subject clusterId).isOk = true →
      ((t.withGrants grants).assertClusterAdmin now subject clusterId).isOk = true)

def FirstIsHighest (t : AccessTables) (now : Nat) (subject : ClusterAccessSubject)
    (userId id : String) : Prop :=
  match t.effectiveBinding userId id with
  | some binding =>
      ∀ grant ∈ t.effectiveGrants now userId id, roleRank grant.role ≤ roleRank binding.role
  | none =>
      (∀ grant ∈ t.effectiveGrants now userId id, ∀ other ∈ t.effectiveGrants now userId id,
        grant.role = other.role) ∧
      (subject.isPlatformOperator = true →
        ∀ grant ∈ t.effectiveGrants now userId id, grant.role = "viewer")

theorem eq_of_roleRank_eq {role other : String} (hrole : bindingRoles.contains role = true)
    (hother : bindingRoles.contains other = true) (h : roleRank role = roleRank other) :
    role = other := by
  rw [List.contains_iff_mem] at hrole hother
  simp only [bindingRoles, List.mem_cons, List.not_mem_nil, or_false] at hrole hother
  rcases hrole with rfl | rfl | rfl <;> rcases hother with rfl | rfl | rfl <;>
    first
      | rfl
      | exact absurd h (by decide)

theorem userAccess_eq (t : AccessTables) (now : Nat) (userId id : String) :
    t.userAccess now userId id =
      match t.effectiveBinding userId id with
      | some binding => some ⟨binding.clusterId, binding.role, "role-binding"⟩
      | none => (t.effectiveGrants now userId id).head?.map fun grant =>
          ⟨id, grant.role, "access-grant"⟩ := by
  unfold userAccess effectiveBinding
  cases (t.activeBindings userId).find? fun b => b.clusterId == id with
  | some binding => rfl
  | none =>
      have hroles : ∀ grant ∈ t.effectiveGrants now userId id,
          bindingRoles.contains grant.role = true :=
        fun grant hgrant => Directory.effective_role_of_mem hgrant
      change ((t.effectiveGrants now userId id).find? _).map _ = _
      cases hgrants : t.effectiveGrants now userId id with
      | nil => rfl
      | cons first rest =>
          rw [hgrants] at hroles
          have hfirst := hroles first List.mem_cons_self
          simp only [List.find?, hfirst]
          rfl

theorem effectiveBinding_withGrants (grants : List Grant) :
    (t.withGrants grants).effectiveBinding userId id = t.effectiveBinding userId id := rfl

theorem effectiveGrants_perm {grants grants' : List Grant} (h : grants.Perm grants') :
    ((t.withGrants grants).effectiveGrants now userId id).Perm
      ((t.withGrants grants').effectiveGrants now userId id) := by
  unfold effectiveGrants Directory.listEffectiveGrants
  split_ifs
  · exact List.Perm.refl _
  · exact ((h.filter _).map _).filter _

theorem effectiveGrants_append (grants grants' : List Grant) :
    (t.withGrants (grants ++ grants')).effectiveGrants now userId id =
      (t.withGrants grants).effectiveGrants now userId id ++
        (t.withGrants grants').effectiveGrants now userId id := by
  unfold effectiveGrants Directory.listEffectiveGrants
  split_ifs
  · rfl
  · simp only [Directory.findGrants, withGrants, List.filter_append, List.map_append,
      Directory.activeMemberships]

theorem effectiveGrants_singleton (row : Grant) :
    (t.withGrants [row]).effectiveGrants now userId id = [] ∨
      ∃ grant, (t.withGrants [row]).effectiveGrants now userId id = [grant] := by
  have hlength : ((t.withGrants [row]).effectiveGrants now userId id).length ≤ 1 := by
    unfold effectiveGrants Directory.listEffectiveGrants
    split_ifs
    · exact Nat.zero_le 1
    · refine Nat.le_trans (List.length_filter_le _ _) ?_
      rw [List.length_map]
      exact List.length_filter_le _ [row]
  cases hgrants : (t.withGrants [row]).effectiveGrants now userId id with
  | nil => exact .inl rfl
  | cons grant rest =>
      rw [hgrants, List.length_cons] at hlength
      obtain rfl : rest = [] := List.length_eq_zero_iff.mp (by omega)
      exact .inr ⟨grant, rfl⟩

theorem exists_row_of_mem {grants : List Grant} {grant : Grant}
    (h : grant ∈ (t.withGrants grants).effectiveGrants now userId id) :
    ∃ row ∈ grants, (t.withGrants [row]).effectiveGrants now userId id = [grant] := by
  induction grants with
  | nil =>
      unfold effectiveGrants Directory.listEffectiveGrants at h
      split_ifs at h <;> simp [Directory.findGrants, withGrants] at h
  | cons row rest ih =>
      rw [show row :: rest = [row] ++ rest from rfl, effectiveGrants_append, List.mem_append] at h
      rcases h with hrow | hrest
      · rcases @effectiveGrants_singleton t now userId id row
          with hnone | ⟨found, hone⟩
        · rw [hnone] at hrow
          cases hrow
        · rw [hone, List.mem_singleton] at hrow
          exact ⟨row, List.mem_cons_self, hrow ▸ hone⟩
      · obtain ⟨found, hmem, hone⟩ := ih hrest
        exact ⟨found, List.mem_cons_of_mem _ hmem, hone⟩

theorem exists_first {grant : Grant} (h : grant ∈ t.effectiveGrants now userId id) :
    ∃ grants, grants.Perm t.directory.grants ∧
      ((t.withGrants grants).effectiveGrants now userId id).head? = some grant := by
  obtain ⟨row, hrow, hone⟩ := @exists_row_of_mem t now userId id t.directory.grants grant h
  refine ⟨row :: t.directory.grants.erase row, (List.perm_cons_erase hrow).symm, ?_⟩
  rw [show row :: t.directory.grants.erase row = [row] ++ t.directory.grants.erase row from rfl,
    effectiveGrants_append, hone]
  rfl

def viewerGrant (grantId userId id : String) : Grant :=
  ⟨grantId, some userId, none, id, "viewer", "active", 0, none, none, [⟨"uid", "web"⟩], [],
    by simp, by simp⟩

theorem effectiveGrants_viewerGrant {grantId : String} {grant : Grant}
    (h : grant ∈ t.effectiveGrants now userId id) :
    (t.withGrants [viewerGrant grantId userId id]).effectiveGrants now userId id =
      [viewerGrant grantId userId id] := by
  have huser := Directory.userId_ne_empty_of_mem h
  have hcluster : grant.clusterId = id := (Directory.effective_of_mem h).clusterId
  have hlive : (t.directory.clusters id).any ClusterRow.isLive = true := by
    rw [← hcluster]
    exact Directory.effective_cluster_of_mem h
  have hscope : Text.trim "uid" ≠ "" := by decide +kernel
  simp [effectiveGrants, Directory.listEffectiveGrants, huser, Directory.findGrants, withGrants,
    viewerGrant, hlive, Directory.limitByMembership, Directory.membershipExpiry,
    Directory.limitedExpiry, Directory.isEffective, roles, unexpired, hscope]

/-! ## Outcomes of the checks -/

theorem assertCanMutate_isOk_iff (hadmin : subject.isPlatformAdmin = false) (clusterId : String) :
    (t.assertCanMutate now subject clusterId).isOk = true ↔
      ∃ access, t.assertCanRead now subject clusterId = .ok access ∧
        subject.isPlatformOperator = true ∧ access.accessRole ≠ "viewer" := by
  unfold assertCanMutate
  cases t.assertCanRead now subject clusterId with
  | error e => simp [bind, Except.bind, Except.isOk, Except.toBool]
  | ok access =>
      by_cases hoperator : subject.isPlatformOperator = true
      · by_cases hviewer : access.accessRole = "viewer" <;>
          simp [hadmin, hoperator, hviewer, bind, Except.bind, pure, Except.pure, throw, throwThe,
            MonadExceptOf.throw, Except.isOk, Except.toBool]
      · simp [hadmin, hoperator, bind, Except.bind, throw, throwThe, MonadExceptOf.throw,
          Except.isOk, Except.toBool]

theorem assertClusterAdmin_isOk_imp {clusterId : String}
    (h : (t.assertClusterAdmin now subject clusterId).isOk = true) :
    (t.assertCanMutate now subject clusterId).isOk = true := by
  unfold assertClusterAdmin at h
  cases hmutate : t.assertCanMutate now subject clusterId with
  | error e => simp [hmutate, bind, Except.bind, Except.isOk, Except.toBool] at h
  | ok access => rfl

theorem checks_eq {t t' : AccessTables} {clusterId : String}
    (h : t.assertCanRead now subject clusterId = t'.assertCanRead now subject clusterId) :
    t.assertCanMutate now subject clusterId = t'.assertCanMutate now subject clusterId ∧
      t.assertClusterAdmin now subject clusterId = t'.assertClusterAdmin now subject clusterId := by
  have hmutate : t.assertCanMutate now subject clusterId =
      t'.assertCanMutate now subject clusterId := by
    unfold assertCanMutate
    rw [h]
  refine ⟨hmutate, ?_⟩
  unfold assertClusterAdmin
  rw [hmutate]

theorem reportsHighest_of_same {clusterId : String}
    (hsame : ∀ grants, t.assertCanRead now subject clusterId =
      (t.withGrants grants).assertCanRead now subject clusterId)
    (hhighest : ∀ access userId, t.assertCanRead now subject clusterId = .ok access →
      requireUserId subject = .ok userId →
      ∀ role ∈ t.effectiveRoles now userId (Text.trim clusterId),
        roleRank role ≤ roleRank access.accessRole) :
    t.ReportsHighest now subject clusterId where
  highest := fun grants _ access userId hread => hhighest access userId ((hsame grants).trans hread)
  mutate_order := fun grants _ => (checks_eq (hsame grants)).1.symm
  admin_order := fun grants _ => (checks_eq (hsame grants)).2.symm
  further := fun _ grants _ _ => by
    rw [← hsame grants, ← (checks_eq (hsame grants)).1, ← (checks_eq (hsame grants)).2]
    exact ⟨fun h => h, fun h => h, fun h => h⟩

theorem assertCanRead_refused {clusterId : String} (hadmin : subject.isPlatformAdmin = false)
    (h : ¬∃ userId, requireUserId subject = .ok userId ∧ subject.isKnownPlatformRole = true ∧
      Text.trim clusterId ≠ "") :
    ∃ e, ∀ t : AccessTables, t.assertCanRead now subject clusterId = .error e := by
  unfold assertCanRead
  cases hid : requireClusterId clusterId with
  | error e => exact ⟨e, fun _ => by simp [bind, Except.bind]⟩
  | ok found =>
      have hne : Text.trim clusterId ≠ "" := by
        intro hblank
        simp [requireClusterId, hblank] at hid
      cases huser : requireUserId subject with
      | error e => exact ⟨e, fun _ => by simp [hadmin, bind, Except.bind]⟩
      | ok userId =>
          have hunknown : subject.isKnownPlatformRole = false := by
            rw [← Bool.not_eq_true]
            exact fun hknown => h ⟨userId, huser, hknown, hne⟩
          exact ⟨inaccessibleCluster, fun _ => by
            simp [hadmin, hunknown, bind, Except.bind, throw, throwThe, MonadExceptOf.throw]⟩

section Known

variable {clusterId : String} (hadmin : subject.isPlatformAdmin = false)
  (huser : requireUserId subject = .ok userId) (hknown : subject.isKnownPlatformRole = true)
  (hid : Text.trim clusterId ≠ "")

include hadmin huser hknown hid

theorem assertCanRead_of_head (hbinding : t.effectiveBinding userId (Text.trim clusterId) = none)
    {grants : List Grant} {grant : Grant}
    (hhead : ((t.withGrants grants).effectiveGrants now userId (Text.trim clusterId)).head? =
      some grant) :
    (t.withGrants grants).assertCanRead now subject clusterId =
      .ok ⟨Text.trim clusterId, grant.role, "access-grant"⟩ := by
  rw [assertCanRead_eq hadmin huser hknown hid, userAccess_eq, effectiveBinding_withGrants,
    hbinding, hhead]
  rfl

theorem firstIsHighest_of_reportsHighest (h : t.ReportsHighest now subject clusterId) :
    t.FirstIsHighest now subject userId (Text.trim clusterId) := by
  unfold FirstIsHighest
  cases hbinding : t.effectiveBinding userId (Text.trim clusterId) with
  | some binding =>
      intro grant hgrant
      have hread : (t.withGrants t.directory.grants).assertCanRead now subject clusterId =
          .ok ⟨binding.clusterId, binding.role, "role-binding"⟩ := by
        rw [assertCanRead_eq hadmin huser hknown hid, userAccess_eq, effectiveBinding_withGrants,
          hbinding]
        rfl
      exact h.highest _ (List.Perm.refl _) _ userId hread huser grant.role
        (List.mem_append_right _ (List.mem_map.mpr ⟨grant, hgrant, rfl⟩))
  | none =>
      have hle : ∀ grant ∈ t.effectiveGrants now userId (Text.trim clusterId),
          ∀ other ∈ t.effectiveGrants now userId (Text.trim clusterId),
            roleRank other.role ≤ roleRank grant.role := by
        intro grant hgrant other hother
        obtain ⟨grants, hperm, hhead⟩ := exists_first hgrant
        exact h.highest grants hperm _ userId
          (assertCanRead_of_head hadmin huser hknown hid hbinding hhead) huser other.role
          (List.mem_append_right _ (List.mem_map.mpr ⟨other, hother, rfl⟩))
      refine ⟨fun grant hgrant other hother => ?_, fun hoperator grant hgrant => ?_⟩
      · exact eq_of_roleRank_eq (Directory.effective_role_of_mem hgrant)
          (Directory.effective_role_of_mem hother)
          (Nat.le_antisymm (hle other hother grant hgrant) (hle grant hgrant other hother))
      · -- A viewer grant that comes first would take the right to write away.
        by_contra hviewer
        obtain ⟨grants, hperm, hhead⟩ := exists_first hgrant
        have hmutate : (t.assertCanMutate now subject clusterId).isOk = true := by
          rw [← h.mutate_order grants hperm, assertCanMutate_isOk_iff hadmin]
          exact ⟨_, assertCanRead_of_head hadmin huser hknown hid hbinding hhead, hoperator,
            hviewer⟩
        obtain ⟨grantId, hfresh⟩ :=
          Infinite.exists_notMem_finset (t.directory.grants.map (·.id)).toFinset
        rw [List.mem_toFinset] at hfresh
        have hfirst : ((t.withGrants (viewerGrant grantId userId (Text.trim clusterId) ::
            t.directory.grants)).effectiveGrants now userId (Text.trim clusterId)).head? =
              some (viewerGrant grantId userId (Text.trim clusterId)) := by
          rw [← List.singleton_append, effectiveGrants_append, effectiveGrants_viewerGrant hgrant]
          rfl
        have hafter := (h.further (viewerGrant grantId userId (Text.trim clusterId)) _ hfresh
          (List.Perm.refl _)).2.1 hmutate
        obtain ⟨access, hread, -, hrole⟩ := (assertCanMutate_isOk_iff hadmin clusterId).mp hafter
        rw [assertCanRead_of_head hadmin huser hknown hid hbinding hfirst] at hread
        cases hread
        exact hrole rfl

theorem assertCanRead_of_one_role
    (hbinding : t.effectiveBinding userId (Text.trim clusterId) = none)
    (hone : ∀ grant ∈ t.effectiveGrants now userId (Text.trim clusterId),
      ∀ other ∈ t.effectiveGrants now userId (Text.trim clusterId), grant.role = other.role)
    {grants : List Grant} (hperm : grants.Perm t.directory.grants) :
    (t.withGrants grants).assertCanRead now subject clusterId =
      t.assertCanRead now subject clusterId := by
  have hgrants : ((t.withGrants grants).effectiveGrants now userId (Text.trim clusterId)).Perm
      (t.effectiveGrants now userId (Text.trim clusterId)) := effectiveGrants_perm hperm
  have hread := @assertCanRead_eq t now subject userId hadmin huser hknown _ hid
  rw [userAccess_eq, hbinding] at hread
  have hread' := @assertCanRead_eq (t.withGrants grants) now subject userId hadmin huser hknown _ hid
  rw [userAccess_eq, effectiveBinding_withGrants, hbinding] at hread'
  rw [hread, hread']
  cases hlist : t.effectiveGrants now userId (Text.trim clusterId) with
  | nil =>
      rw [hlist] at hgrants
      rw [hgrants.eq_nil]
  | cons first rest =>
      cases hlist' : (t.withGrants grants).effectiveGrants now userId (Text.trim clusterId) with
      | nil =>
          rw [hlist, hlist'] at hgrants
          exact absurd hgrants.symm.eq_nil (List.cons_ne_nil _ _)
      | cons first' rest' =>
          have hmem : first' ∈ t.effectiveGrants now userId (Text.trim clusterId) :=
            hgrants.mem_iff.mp (hlist' ▸ List.mem_cons_self)
          have hrole := hone first' hmem first (hlist ▸ List.mem_cons_self)
          simp only [List.head?_cons, Option.map_some, hrole]

theorem reportsHighest_of_firstIsHighest
    (h : t.FirstIsHighest now subject userId (Text.trim clusterId)) :
    t.ReportsHighest now subject clusterId := by
  unfold FirstIsHighest at h
  cases hbinding : t.effectiveBinding userId (Text.trim clusterId) with
  | some binding =>
      rw [hbinding] at h
      have hread : ∀ grants, (t.withGrants grants).assertCanRead now subject clusterId =
          .ok ⟨binding.clusterId, binding.role, "role-binding"⟩ := by
        intro grants
        rw [assertCanRead_eq hadmin huser hknown hid, userAccess_eq, effectiveBinding_withGrants,
          hbinding]
        rfl
      refine reportsHighest_of_same (fun grants => ?_) fun access other haccess hother role hrole =>
        ?_
      · exact (hread t.directory.grants).trans (hread grants).symm
      · obtain rfl : userId = other := Except.ok.inj (huser.symm.trans hother)
        have hsame : (⟨binding.clusterId, binding.role, "role-binding"⟩ : ClusterAccessContext) =
            access := Except.ok.inj ((hread t.directory.grants).symm.trans haccess)
        rw [← hsame]
        rcases List.mem_append.mp hrole with hbound | hgranted
        · rw [hbinding] at hbound
          obtain rfl : role = binding.role := by simpa using hbound
          exact Nat.le_refl _
        · obtain ⟨grant, hgrant, rfl⟩ := List.mem_map.mp hgranted
          exact h grant hgrant
  | none =>
      rw [hbinding] at h
      obtain ⟨hone, hviewers⟩ := h
      have hsame : ∀ grants : List Grant, grants.Perm t.directory.grants →
          (t.withGrants grants).assertCanRead now subject clusterId =
            t.assertCanRead now subject clusterId := fun grants hperm =>
        assertCanRead_of_one_role hadmin huser hknown hid hbinding hone hperm
      -- Nobody may write here, so there is nothing to lose but the right to read.
      have hread : ∀ access, t.assertCanRead now subject clusterId = .ok access →
          ∃ grant ∈ t.effectiveGrants now userId (Text.trim clusterId),
            access.accessRole = grant.role := by
        intro access haccess
        rw [assertCanRead_eq hadmin huser hknown hid, userAccess_eq, hbinding] at haccess
        cases hlist : t.effectiveGrants now userId (Text.trim clusterId) with
        | nil => simp [hlist] at haccess
        | cons first rest =>
            rw [hlist] at haccess
            cases haccess
            exact ⟨first, List.mem_cons_self, rfl⟩
      have hrefused : ¬(t.assertCanMutate now subject clusterId).isOk = true := by
        rw [assertCanMutate_isOk_iff hadmin]
        rintro ⟨access, haccess, hoperator, hrole⟩
        obtain ⟨grant, hgrant, heq⟩ := hread access haccess
        exact hrole (heq.trans (hviewers hoperator grant hgrant))
      refine ⟨fun grants hperm access other haccess hother role hrole => ?_,
        fun grants hperm => (checks_eq (hsame grants hperm)).1,
        fun grants hperm => (checks_eq (hsame grants hperm)).2,
        fun grant grants _ hperm => ⟨fun hok => ?_, fun hok => absurd hok hrefused,
          fun hok => absurd (assertClusterAdmin_isOk_imp hok) hrefused⟩⟩
      · obtain rfl : userId = other := Except.ok.inj (huser.symm.trans hother)
        rw [hsame grants hperm] at haccess
        obtain ⟨grant, hgrant, heq⟩ := hread access haccess
        rcases List.mem_append.mp hrole with hbound | hgranted
        · rw [hbinding] at hbound
          cases hbound
        · obtain ⟨found, hfound, rfl⟩ := List.mem_map.mp hgranted
          rw [heq, hone found hfound grant hgrant]
      · cases haccess : t.assertCanRead now subject clusterId with
        | error e => simp [haccess, Except.isOk, Except.toBool] at hok
        | ok access =>
            obtain ⟨found, hfound, -⟩ := hread access haccess
            have hmem : found ∈ (t.withGrants grants).effectiveGrants now userId
                (Text.trim clusterId) := by
              refine (effectiveGrants_perm hperm).mem_iff.mpr ?_
              rw [← List.singleton_append, effectiveGrants_append]
              exact List.mem_append_right _ hfound
            obtain ⟨first, hhead⟩ := Option.isSome_iff_exists.mp
              (List.isSome_head?.mpr (List.ne_nil_of_mem hmem))
            rw [assertCanRead_of_head hadmin huser hknown hid hbinding hhead]
            rfl

end Known

/-- The reported role is the highest, and stays so, just when the user is bound to the cluster and
no grant ranks above the binding, or has nothing but grants of one role, which is that of a viewer
for users who may write. -/
theorem reportsHighest_iff (t : AccessTables) (now : Nat) (subject : ClusterAccessSubject)
    (clusterId : String) (hadmin : subject.isPlatformAdmin = false) :
    t.ReportsHighest now subject clusterId ↔ ∀ userId, requireUserId subject = .ok userId →
      subject.isKnownPlatformRole = true → Text.trim clusterId ≠ "" →
        t.FirstIsHighest now subject userId (Text.trim clusterId) := by
  constructor
  · intro h userId huser hknown hid
    exact firstIsHighest_of_reportsHighest hadmin huser hknown hid h
  · intro h
    by_cases hasked : ∃ userId, requireUserId subject = .ok userId ∧
        subject.isKnownPlatformRole = true ∧ Text.trim clusterId ≠ ""
    · obtain ⟨userId, huser, hknown, hid⟩ := hasked
      exact reportsHighest_of_firstIsHighest hadmin huser hknown hid (h userId huser hknown hid)
    · obtain ⟨e, he⟩ := @assertCanRead_refused now subject clusterId hadmin hasked
      refine reportsHighest_of_same (fun grants => (he t).trans (he _).symm) fun access _ hread => ?_
      rw [he t] at hread
      cases hread

def twoGrants : AccessTables where
  directory :=
    { users := []
      groupActive := fun _ => false
      memberships := []
      clusters := fun id => if id = "c1" then some ⟨none, "ready"⟩ else none
      grants := [
        ⟨"g1", some "ada", none, "c1", "viewer", "active", 0, none, none, [⟨"uid", "web"⟩], [],
          by decide, by decide⟩,
        ⟨"g2", some "ada", none, "c1", "operator", "active", 0, none, none, [⟨"uid", "web"⟩], [],
          by decide, by decide⟩] }
  bindings := []

/-- The viewer grant hides the operator grant, and takes the right to write away that the operator
grant alone gives. -/
theorem viewer_hides_operator :
    ¬∀ (t : AccessTables) (now : Nat) (subject : ClusterAccessSubject) (clusterId : String),
      subject.isPlatformAdmin = false → t.ReportsHighest now subject clusterId := by
  intro hall
  have h := hall twoGrants 10 ⟨some "ada", none, some "operator"⟩ "c1" (by decide +kernel)
  have hread : (twoGrants.withGrants twoGrants.directory.grants).assertCanRead 10
      ⟨some "ada", none, some "operator"⟩ "c1" = .ok ⟨"c1", "viewer", "access-grant"⟩ := by
    decide +kernel
  have hle := h.highest _ (List.Perm.refl _) _ "ada" hread (by decide +kernel) "operator"
    (by decide +kernel)
  exact absurd hle (by decide)

def boundOperator : AccessTables :=
  ⟨twoGrants.directory, [⟨"ada", "c1", "operator", "active"⟩]⟩

theorem boundOperator_reportsHighest :
    boundOperator.ReportsHighest 10 ⟨some "ada", none, some "operator"⟩ "c1" := by
  have huser : requireUserId ⟨some "ada", none, some "operator"⟩ = .ok "ada" := by decide +kernel
  have hid : Text.trim "c1" = "c1" := by decide +kernel
  have hbinding : boundOperator.effectiveBinding "ada" "c1" =
      some ⟨"ada", "c1", "operator", "active"⟩ := by decide +kernel
  have hgrants : ∀ grant ∈ boundOperator.effectiveGrants 10 "ada" "c1",
      roleRank grant.role ≤ roleRank "operator" := by decide +kernel
  refine (reportsHighest_iff boundOperator 10 _ "c1" (by decide +kernel)).mpr
    fun userId hfound _ _ => ?_
  obtain rfl : "ada" = userId := Except.ok.inj (huser.symm.trans hfound)
  rw [hid, FirstIsHighest, hbinding]
  exact hgrants

end AccessTables

end KubeNova.Access
