import KubeNova.Access.ClusterAccess
import Mathlib.Data.List.Perm.Basic

/-!
# Which grants count

`listEffectiveGrants` reads grants and memberships in the order the database returns them.  With
one membership for a group and a user, the order makes no difference to the grants it finds, and a
grant counts as long as both its own time and that of the membership behind it last.
-/

namespace KubeNova.Access

open KubeNova.Foundation KubeNova.Common

namespace Directory

structure Reordered (d d' : Directory) : Prop where
  users : d'.users = d.users
  groupActive : d'.groupActive = d.groupActive
  memberships : d'.memberships.Perm d.memberships
  clusters : d'.clusters = d.clusters
  grants : d'.grants.Perm d.grants

structure IsKeyed (d : Directory) : Prop where
  grants : (d.grants.map (·.id)).Nodup
  memberships : ∀ m ∈ d.memberships, ∀ m' ∈ d.memberships, m.groupId = m'.groupId →
    m.userId = m'.userId → m = m'

end Directory

theorem unexpired_limitedExpiry (limit expiresAt : Option Nat) (now : Nat) :
    unexpired (Directory.limitedExpiry limit expiresAt) now =
      (unexpired limit now && unexpired expiresAt now) := by
  cases limit with
  | none => rfl
  | some ends =>
      cases expiresAt with
      | none => simp [Directory.limitedExpiry, unexpired]
      | some stop =>
          by_cases hlt : ends < stop
          · have himp : now < ends → now < stop := fun h => by omega
            simpa [Directory.limitedExpiry, unexpired, hlt] using himp
          · have himp : now < stop → now < ends := fun h => by omega
            simpa [Directory.limitedExpiry, unexpired, hlt, Bool.and_comm] using himp

namespace Directory

variable {d d' : Directory} {userId : String} {now : Nat}

theorem mem_activeMemberships_iff {m : GroupMembership} :
    m ∈ d.activeMemberships userId now ↔ m ∈ d.memberships ∧ m.userId = userId ∧
      m.state = "active" ∧ d.groupActive m.groupId = true ∧ m.validFrom ≤ now ∧
        unexpired m.expiresAt now = true := by
  simp [activeMemberships, and_assoc]

theorem membershipExpiry_eq (hkeyed : d.IsKeyed) {grant : Grant} {m : GroupMembership}
    (hm : m ∈ d.activeMemberships userId now) (hgroup : grant.groupId = some m.groupId)
    (huser : grant.userId ≠ some userId) :
    membershipExpiry (d.activeMemberships userId now) userId grant = m.expiresAt := by
  have hsome : ((d.activeMemberships userId now).find? fun other =>
      some other.groupId == grant.groupId).isSome :=
    List.find?_isSome.mpr ⟨m, hm, by simp [hgroup]⟩
  obtain ⟨found, hfound⟩ := Option.isSome_iff_exists.mp hsome
  have hin := mem_activeMemberships_iff.mp (List.mem_of_find?_eq_some hfound)
  have hat := mem_activeMemberships_iff.mp hm
  have hsame : found.groupId = m.groupId := by
    have hkey := List.find?_some hfound
    rw [hgroup, beq_iff_eq] at hkey
    exact Option.some.inj hkey
  have heq : found = m :=
    hkeyed.memberships found hin.1 m hat.1 hsame (hin.2.1.trans hat.2.1.symm)
  rw [membershipExpiry, if_neg huser, hfound, heq]
  rfl

theorem mem_listEffectiveGrants_iff (hkeyed : d.IsKeyed) {clusterId : Option String}
    {grant : Grant} :
    grant ∈ d.listEffectiveGrants userId now clusterId ↔ Text.trim userId ≠ "" ∧
      ∃ row ∈ d.grants, ∃ limit, grant = { row with expiresAt := limitedExpiry limit row.expiresAt } ∧
        (clusterId.all (· == row.clusterId)) = true ∧ row.state = "active" ∧
        row.revokedAt = none ∧ (d.clusters row.clusterId).any ClusterRow.isLive = true ∧
        roles.contains row.role = true ∧
        (row.namespaces.any fun scope => Text.trim scope.namespaceUid != "") = true ∧
        row.validFrom ≤ now ∧ unexpired row.expiresAt now = true ∧
        ((row.userId = some userId ∧ limit = none) ∨
          row.userId ≠ some userId ∧ ∃ m ∈ d.activeMemberships userId now,
            row.groupId = some m.groupId ∧ limit = m.expiresAt) := by
  unfold listEffectiveGrants
  by_cases hblank : Text.trim userId = ""
  · simp [hblank]
  rw [if_neg hblank]
  simp only [List.mem_filter, List.mem_map, findGrants, Bool.and_eq_true, Bool.or_eq_true,
    beq_iff_eq, Option.isNone_iff_eq_none]
  constructor
  · rintro ⟨⟨row, ⟨hrow, ⟨⟨⟨hcluster, hstate⟩, hrevoked⟩, hlive⟩, hwho⟩, rfl⟩, heffective⟩
    have hexpiry : (limitByMembership (d.activeMemberships userId now) userId row).expiresAt =
        limitedExpiry (membershipExpiry (d.activeMemberships userId now) userId row)
          row.expiresAt := rfl
    simp only [isEffective, hexpiry, unexpired_limitedExpiry, Bool.and_eq_true] at heffective
    obtain ⟨⟨⟨⟨⟨-, hrole⟩, hfrom⟩, -, hrowExpiry⟩, -⟩, hnamespaces⟩ := heffective
    refine ⟨hblank, row, hrow, membershipExpiry (d.activeMemberships userId now) userId row, rfl,
      hcluster, hstate, hrevoked, hlive, hrole, hnamespaces, of_decide_eq_true hfrom, hrowExpiry, ?_⟩
    by_cases huser : row.userId = some userId
    · exact .inl ⟨huser, if_pos huser⟩
    · have hgroup := hwho.resolve_left huser
      obtain ⟨groupId, hgroupId, hcontains⟩ := (Option.any_eq_true _ _).mp hgroup
      obtain ⟨m, hm, rfl⟩ := List.mem_map.mp (List.contains_iff_mem.mp hcontains)
      exact .inr ⟨huser, m, hm, hgroupId, membershipExpiry_eq hkeyed hm hgroupId huser⟩
  · rintro ⟨-, row, hrow, limit, rfl, hcluster, hstate, hrevoked, hlive, hrole, hnamespaces, hfrom,
      hrowExpiry, hwho⟩
    have hprincipal : row.userId = some userId ∨
        ∃ m ∈ d.activeMemberships userId now, row.groupId = some m.groupId :=
      hwho.imp And.left fun h => by
        obtain ⟨-, m, hm, hgroup, -⟩ := h
        exact ⟨m, hm, hgroup⟩
    have hlimit : membershipExpiry (d.activeMemberships userId now) userId row = limit ∧
        unexpired limit now = true := by
      rcases hwho with ⟨huser, rfl⟩ | ⟨huser, m, hm, hgroup, rfl⟩
      · exact ⟨if_pos huser, rfl⟩
      · exact ⟨membershipExpiry_eq hkeyed hm hgroup huser,
          (mem_activeMemberships_iff.mp hm).2.2.2.2.2⟩
    refine ⟨⟨row, ⟨hrow, ⟨⟨⟨hcluster, hstate⟩, hrevoked⟩, hlive⟩, ?_⟩, ?_⟩, ?_⟩
    · refine hprincipal.imp_right ?_
      rintro ⟨m, hm, hgroup⟩
      rw [hgroup, Option.any_some]
      exact List.contains_iff_mem.mpr (List.mem_map.mpr ⟨m, hm, rfl⟩)
    · rw [limitByMembership, hlimit.1]
    · have hwhich : (row.userId == some userId ||
          ((d.activeMemberships userId now).map (·.groupId)).contains (row.groupId.getD "")) = true := by
        rw [Bool.or_eq_true, beq_iff_eq]
        refine hprincipal.imp_right ?_
        rintro ⟨m, hm, hgroup⟩
        rw [hgroup]
        exact List.contains_iff_mem.mpr (List.mem_map.mpr ⟨m, hm, rfl⟩)
      simp only [isEffective, unexpired_limitedExpiry, hwhich, hstate, hcluster, hrole, hlimit.2,
        hrowExpiry, hrevoked, hnamespaces, beq_self_eq_true, decide_eq_true hfrom,
        Option.isNone_none, Bool.and_self]

theorem effective_role_of_mem {clusterId : Option String} {grant : Grant}
    (h : grant ∈ d.listEffectiveGrants userId now clusterId) :
    bindingRoles.contains grant.role = true := by
  unfold listEffectiveGrants at h
  split_ifs at h
  · simp at h
  · simp only [List.mem_filter, isEffective, Bool.and_eq_true] at h
    have hrole : roles.contains grant.role = true := h.2.1.1.1.1.2
    have hsame : ∀ role, roles.contains role = bindingRoles.contains role := by
      intro role
      rw [Bool.eq_iff_iff, List.contains_iff_mem, List.contains_iff_mem]
      simp only [roles, bindingRoles, List.mem_cons, List.not_mem_nil, or_false]
      exact ⟨fun h => by rcases h with h | h | h <;> simp [h],
        fun h => by rcases h with h | h | h <;> simp [h]⟩
    rw [← hsame]
    exact hrole

theorem effective_cluster_of_mem {clusterId : Option String} {grant : Grant}
    (h : grant ∈ d.listEffectiveGrants userId now clusterId) :
    (d.clusters grant.clusterId).any ClusterRow.isLive = true := by
  unfold listEffectiveGrants at h
  split_ifs at h
  · simp at h
  · simp only [List.mem_filter, List.mem_map, findGrants, Bool.and_eq_true] at h
    obtain ⟨⟨row, ⟨-, ⟨-, hlive⟩, -⟩, rfl⟩, -⟩ := h
    exact hlive

theorem Reordered.mem_listEffectiveGrants_iff (h : d.Reordered d') (hkeyed : d.IsKeyed)
    {clusterId : Option String} {grant : Grant} :
    grant ∈ d'.listEffectiveGrants userId now clusterId ↔
      grant ∈ d.listEffectiveGrants userId now clusterId := by
  have hkeyed' : d'.IsKeyed := by
    refine ⟨(h.grants.map _).nodup_iff.mpr hkeyed.grants, fun m hm m' hm' => ?_⟩
    exact hkeyed.memberships m (h.memberships.mem_iff.mp hm) m' (h.memberships.mem_iff.mp hm')
  have hactive : ∀ m, m ∈ d'.activeMemberships userId now ↔ m ∈ d.activeMemberships userId now :=
    fun m => by
      rw [mem_activeMemberships_iff, mem_activeMemberships_iff, h.memberships.mem_iff,
        h.groupActive]
  rw [Directory.mem_listEffectiveGrants_iff hkeyed', Directory.mem_listEffectiveGrants_iff hkeyed]
  simp only [hactive, h.clusters, h.grants.mem_iff]

end Directory

end KubeNova.Access
