import KubeNova.Users.Administrators
import KubeNova.Users.GrantMutations

/-!
# Versions follow what is lost

Whoever loses a grant or a way to log in gets a higher version with the same commit, unless a
group's grant is revoked and the member joined after the revocation had listed the members.
-/

namespace KubeNova.Users

open KubeNova.Common KubeNova.Foundation KubeNova.Auth KubeNova.Access Relation

/-! ## Rights -/

inductive Right where
  | grant (id : String)
  | password (email hash : String)
  | external (issuer subject : String)
  deriving Repr, DecidableEq

def Holds (s : Registry) (userId : String) : Right → Prop
  | .grant id => ∃ g ∈ s.directory.listEffectiveGrants userId s.now none, g.id = id
  | .password email hash => ∃ user, s.users.lookup userId = some user ∧ user.isActive = true ∧
      user.email = email ∧ user.passwordHash = some hash
  | .external issuer subject => (∃ user, s.users.lookup userId = some user ∧ user.isActive = true) ∧
      ∃ id, s.identities.lookup id = some ⟨issuer, subject, userId⟩

def Membership.isLive (row : Membership) (now : Nat) : Bool :=
  row.state == "active" && decide (row.validFrom ≤ now) && unexpired row.expiresAt now

def IsMember (s : Registry) (groupId userId : String) : Prop :=
  groupId ≠ "" ∧ (s.groups.lookup groupId).any (·.active) = true ∧
    ∃ row, s.memberships.lookup (groupId, userId) = some row ∧ row.isLive s.now = true

def Registry.isLive (s : Registry) (grant : Grant) : Bool :=
  (s.clusters grant.clusterId).any ClusterRow.isLive && grant.state == "active" &&
    grant.revokedAt.isNone && roles.contains grant.role && decide (grant.validFrom ≤ s.now) &&
    unexpired grant.expiresAt s.now &&
    grant.namespaces.any fun scope => Text.trim scope.namespaceUid != ""

theorem mem_memberships {s : Registry} {m : GroupMembership} :
    m ∈ s.directory.memberships ↔ s.memberships.lookup (m.groupId, m.userId) =
      some ⟨m.state, m.validFrom, m.expiresAt⟩ := by
  simp only [Registry.directory, List.mem_filterMap]
  constructor
  · rintro ⟨⟨key, row⟩, hrow, hm⟩
    unfold Registry.storedMembership at hm
    split at hm
    · obtain rfl := Option.some.inj hm
      exact Table.mem_entries_iff.mp hrow
    · cases hm
  · intro hrow
    refine ⟨⟨(m.groupId, m.userId), _⟩, Table.mem_entries_iff.mpr hrow, ?_⟩
    exact dif_pos m.groupId_ne_empty

theorem mem_activeMemberships {s : Registry} {userId groupId : String} :
    groupId ∈ (s.directory.activeMemberships userId s.now).map (·.groupId) ↔
      IsMember s groupId userId := by
  simp only [Directory.activeMemberships, List.mem_map, List.mem_filter, mem_memberships,
    Bool.and_eq_true, beq_iff_eq, decide_eq_true_eq]
  constructor
  · rintro ⟨m, ⟨hrow, ⟨⟨⟨rfl, hstate⟩, hactive⟩, hfrom⟩, hexpiry⟩, rfl⟩
    refine ⟨m.groupId_ne_empty, hactive, _, hrow, ?_⟩
    simp [Membership.isLive, hstate, hfrom, hexpiry]
  · rintro ⟨hne, hactive, row, hrow, hlive⟩
    simp only [Membership.isLive, Bool.and_eq_true, beq_iff_eq, decide_eq_true_eq] at hlive
    exact ⟨⟨groupId, userId, row.state, row.validFrom, row.expiresAt, hne⟩,
      ⟨hrow, ⟨⟨⟨rfl, hlive.1.1⟩, hactive⟩, hlive.1.2⟩, hlive.2⟩, rfl⟩

theorem unexpired_limitByMembership {memberships : List GroupMembership} {userId : String}
    {grant : Grant} {now : Nat} (h : ∀ m ∈ memberships, unexpired m.expiresAt now = true) :
    unexpired (Directory.limitByMembership memberships userId grant).expiresAt now =
      unexpired grant.expiresAt now := by
  have hends : unexpired (Directory.membershipExpiry memberships userId grant) now = true := by
    unfold Directory.membershipExpiry
    split
    · rfl
    · cases hfind : memberships.find? fun m => some m.groupId == grant.groupId with
      | none => rfl
      | some m => exact h m (List.mem_of_find?_eq_some hfind)
  show unexpired (Directory.limitedExpiry _ grant.expiresAt) now = _
  cases hexpiry : Directory.membershipExpiry memberships userId grant with
  | none => rfl
  | some ends =>
      rw [hexpiry] at hends
      have hahead : now < ends := by simpa [unexpired] using hends
      unfold Directory.limitedExpiry
      cases hgrant : grant.expiresAt with
      | none => simpa [unexpired] using hahead
      | some stop =>
          by_cases hlt : ends < stop
          · have hstop : now < stop := by omega
            simp [unexpired, hlt, hahead, hstop]
          · simp [hlt]

theorem mem_grants {s : Registry} {grant : Grant} : grant ∈ s.directory.grants ↔
    ∃ row, s.grants.lookup grant.id = some row ∧ { row.grant with id := grant.id } = grant := by
  simp only [Registry.directory, List.mem_map]
  constructor
  · rintro ⟨⟨id, row⟩, hrow, rfl⟩
    exact ⟨row, Table.mem_entries_iff.mp hrow, rfl⟩
  · rintro ⟨row, hrow, heq⟩
    exact ⟨⟨grant.id, row⟩, Table.mem_entries_iff.mpr hrow, heq⟩

theorem isEffective_limit_iff {s : Registry} {userId : String} {grant : Grant}
    (hgroups : ∀ groupId, groupId ∈ (s.directory.activeMemberships userId s.now).map (·.groupId) ↔
      IsMember s groupId userId) :
    (grant ∈ s.directory.findGrants userId
        ((s.directory.activeMemberships userId s.now).map (·.groupId)) none ∧
      Directory.isEffective userId ((s.directory.activeMemberships userId s.now).map (·.groupId))
        s.now none (Directory.limitByMembership (s.directory.activeMemberships userId s.now) userId
          grant) = true) ↔
      grant ∈ s.directory.grants ∧ s.isLive grant = true ∧ (grant.userId = some userId ∨
        ∃ groupId, grant.groupId = some groupId ∧ IsMember s groupId userId) := by
  have hexpiry := @unexpired_limitByMembership (s.directory.activeMemberships userId s.now) userId grant
    s.now fun m hm => by
      simp only [Directory.activeMemberships, List.mem_filter, Bool.and_eq_true] at hm
      exact hm.2.2
  have hprincipal : (grant.groupId.any fun groupId =>
      ((s.directory.activeMemberships userId s.now).map (·.groupId)).contains groupId) = true ↔
      ∃ groupId, grant.groupId = some groupId ∧ IsMember s groupId userId := by
    rw [Option.any_eq_true]
    refine exists_congr fun groupId => and_congr_right fun _ => ?_
    rw [List.contains_iff_mem, hgroups]
  have hnamed : ∀ groupId, grant.groupId = some groupId → IsMember s groupId userId →
      ((s.directory.activeMemberships userId s.now).map (·.groupId)).contains
        (grant.groupId.getD "") = true := by
    intro groupId hgroup hmember
    rw [hgroup, Option.getD_some, List.contains_iff_mem, hgroups]
    exact hmember
  unfold Directory.isEffective
  rw [hexpiry]
  simp only [Directory.findGrants, List.mem_filter, Registry.isLive, Directory.limitByMembership,
    Option.all_none, Bool.true_and, Bool.and_true, Bool.and_eq_true, Bool.or_eq_true,
    decide_eq_true_eq, beq_iff_eq, hprincipal]
  constructor
  · rintro ⟨⟨hgrant, ⟨⟨hstate, hrevoked⟩, hcluster⟩, hwho⟩,
      ⟨⟨⟨⟨⟨-, -⟩, hrole⟩, hfrom⟩, hstop⟩, -⟩, hscope⟩
    have hstarted := of_decide_eq_true hfrom
    exact ⟨hgrant, ⟨⟨⟨⟨⟨⟨hcluster, hstate⟩, hrevoked⟩, hrole⟩, hstarted⟩, hstop⟩, hscope⟩, hwho⟩
  · rintro ⟨hgrant, ⟨⟨⟨⟨⟨⟨hcluster, hstate⟩, hrevoked⟩, hrole⟩, hfrom⟩, hstop⟩, hscope⟩, hwho⟩
    refine ⟨⟨hgrant, ⟨⟨hstate, hrevoked⟩, hcluster⟩, hwho⟩,
      ⟨⟨⟨⟨⟨?_, hstate⟩, hrole⟩, decide_eq_true hfrom⟩, hstop⟩, hrevoked⟩, hscope⟩
    rcases hwho with huser | ⟨groupId, hgroup, hmember⟩
    · exact .inl huser
    · exact .inr (hnamed groupId hgroup hmember)

theorem holds_grant_iff {s : Registry} {userId id : String} :
    Holds s userId (.grant id) ↔ Text.trim userId ≠ "" ∧ ∃ row, s.grants.lookup id = some row ∧
      s.isLive row.grant = true ∧ (row.grant.userId = some userId ∨
        ∃ groupId, row.grant.groupId = some groupId ∧ IsMember s groupId userId) := by
  unfold Holds Directory.listEffectiveGrants
  by_cases hblank : Text.trim userId = ""
  · simp [hblank]
  rw [if_neg hblank]
  simp only [List.mem_filter, List.mem_map, ne_eq, hblank, not_false_eq_true, true_and]
  constructor
  · rintro ⟨_, ⟨⟨grant, hfound, rfl⟩, heffective⟩, rfl⟩
    obtain ⟨hgrant, hlive, hwho⟩ :=
      (isEffective_limit_iff fun _ => mem_activeMemberships).mp ⟨hfound, heffective⟩
    obtain ⟨row, hrow, heq⟩ := mem_grants.mp hgrant
    refine ⟨row, hrow, ?_⟩
    rw [← heq] at hlive hwho
    exact ⟨hlive, hwho⟩
  · rintro ⟨row, hrow, hlive, hwho⟩
    have hgrant : { row.grant with id := id } ∈ s.directory.grants :=
      mem_grants.mpr ⟨row, hrow, rfl⟩
    obtain ⟨hfound, heffective⟩ :=
      (isEffective_limit_iff fun _ => mem_activeMemberships).mpr ⟨hgrant, hlive, hwho⟩
    exact ⟨_, ⟨⟨_, hfound, rfl⟩, heffective⟩, rfl⟩

/-- Whatever version of the user was read before is not the one stored after, if the user is still
there. -/
def IsOutdated (s t : Registry) (userId : String) : Prop :=
  ∀ row', t.users.lookup userId = some row' →
    ∃ row, s.users.lookup userId = some row ∧ row.authzVersion < row'.authzVersion

def Accepted.isAudited : Accepted → Bool
  | identityBound _ => true
  | identityUnbound => true
  | memberSet _ _ _ => true
  | groupCreated _ => true
  | grantCreated _ => true
  | grantRevoked _ _ => true
  | noMember _ _ => false
  | alreadyRevoked _ => false
  | userCreated _ => false
  | userUpdated _ => false
  | userDeleted _ => false

structure Registry.IsConsistent (s : Registry) : Prop where
  members : ∀ groupId userId row, s.memberships.lookup (groupId, userId) = some row →
    (s.users.lookup userId).isSome = true
  principals : ∀ id row userId, s.grants.lookup id = some row → row.grant.userId = some userId →
    (s.users.lookup userId).isSome = true
  ids : ∀ userId, (s.users.lookup userId).isSome = true → userId ∈ s.userIds

structure KeepsRights (revoked : Option String) (s t : Registry) (userId : String) : Prop where
  user : ∀ row, s.users.lookup userId = some row → ∃ row', t.users.lookup userId = some row' ∧
    row'.isActive = row.isActive ∧ row'.email = row.email ∧ row'.passwordHash = row.passwordHash
  memberships : ∀ groupId, t.memberships.lookup (groupId, userId) =
    s.memberships.lookup (groupId, userId)
  identities : ∀ id row, s.identities.lookup id = some row → row.userId = userId →
    t.identities.lookup id = some row
  grants : ∀ id row, s.grants.lookup id = some row → revoked ≠ some id →
    (∃ other, row.grant.userId = some other ∧ other ≠ userId) ∨ t.grants.lookup id = some row

def Accepted.revoked? : Accepted → Option String
  | grantRevoked grantId _ => some grantId
  | _ => none

structure Commit (accepted : Accepted) (s t : Registry) : Prop where
  now : t.now = s.now
  clusters : t.clusters = s.clusters
  groups : ∀ id row, s.groups.lookup id = some row → t.groups.lookup id = some row
  userIds : ∀ id ∈ s.userIds, id ∈ t.userIds
  versions : ∀ id ∈ s.userIds, ∀ row', t.users.lookup id = some row' →
    ∃ row, s.users.lookup id = some row ∧ row.authzVersion ≤ row'.authzVersion
  rights : ∀ userId, IsOutdated s t userId ∨ KeepsRights accepted.revoked? s t userId
  recorded : accepted.isAudited = true ↔ ∃ change, t.changes = s.changes ++ [change]
  consistent : t.IsConsistent
  revoked : ∀ grantId userIds, accepted = .grantRevoked grantId userIds →
    (∀ userId, ¬Holds t userId (.grant grantId)) ∧ (∀ userId ∈ userIds, IsOutdated s t userId) ∧
      ∀ userId, userId ∉ userIds → t.users.lookup userId = s.users.lookup userId

theorem isMember_of_keeps {s t : Registry} {groupId userId : String} (hnow : t.now = s.now)
    (hgroups : ∀ id row, s.groups.lookup id = some row → t.groups.lookup id = some row)
    (hmembers : t.memberships.lookup (groupId, userId) = s.memberships.lookup (groupId, userId))
    (h : IsMember s groupId userId) : IsMember t groupId userId := by
  obtain ⟨hne, hactive, row, hrow, hlive⟩ := h
  refine ⟨hne, ?_, row, hmembers.trans hrow, ?_⟩
  · obtain ⟨group, hgroup, hgroupActive⟩ := Option.any_eq_true _ _ |>.mp hactive
    rw [hgroups groupId group hgroup]
    exact hgroupActive
  · rw [hnow]
    exact hlive

theorem Commit.holds {accepted : Accepted} {s t : Registry} {userId : String} {right : Right}
    (h : Commit accepted s t) (hkeeps : KeepsRights accepted.revoked? s t userId)
    (hright : ∀ id, right = .grant id → accepted.revoked? ≠ some id)
    (hs : Holds s userId right) : Holds t userId right := by
  cases right with
  | grant id =>
      obtain ⟨hid, row, hrow, hlive, hwho⟩ := holds_grant_iff.mp hs
      have hmember : ∀ groupId, IsMember s groupId userId → IsMember t groupId userId :=
        fun groupId => isMember_of_keeps h.now h.groups (hkeeps.memberships groupId)
      have hgrant : t.grants.lookup id = some row := by
        rcases hkeeps.grants id row hrow (hright id rfl) with ⟨other, hother, hne⟩ | hkept
        · rcases hwho with huser | ⟨groupId, hgroup, -⟩
          · exact absurd (Option.some.inj (hother.symm.trans huser)) hne
          · have hone := row.grant.exactlyOnePrincipal
            simp [hother, hgroup] at hone
        · exact hkept
      refine holds_grant_iff.mpr ⟨hid, row, hgrant, ?_, ?_⟩
      · unfold Registry.isLive at hlive ⊢
        rw [h.clusters, h.now]
        exact hlive
      · exact hwho.imp_right fun ⟨groupId, hgroup, hm⟩ => ⟨groupId, hgroup, hmember groupId hm⟩
  | password email hash =>
      obtain ⟨row, hrow, hactive, hemail, hhash⟩ := hs
      obtain ⟨row', hrow', heqActive, heqEmail, heqHash⟩ := hkeeps.user row hrow
      exact ⟨row', hrow', heqActive.trans hactive, heqEmail.trans hemail, heqHash.trans hhash⟩
  | external issuer subject =>
      obtain ⟨⟨row, hrow, hactive⟩, id, hid⟩ := hs
      obtain ⟨row', hrow', heqActive, -⟩ := hkeeps.user row hrow
      exact ⟨⟨row', hrow', heqActive.trans hactive⟩, id, hkeeps.identities id _ hid rfl⟩

/-- Whoever loses a right gets a new version, and the change is written down. -/
structure Sound (s t : Registry) : Prop where
  outdated : ∀ userId right, Holds s userId right → ¬Holds t userId right → IsOutdated s t userId
  recorded : ∃ change, t.changes = s.changes ++ [change]

/-- An audited mutation; a grant's revocation has listed all those it takes the grant from. -/
def Fits (accepted : Accepted) (s : Registry) : Prop :=
  accepted.isAudited = true ∧ ∀ grantId userIds, accepted = .grantRevoked grantId userIds →
    ∀ userId, Holds s userId (.grant grantId) → userId ∈ userIds

theorem Registry.IsConsistent.user_of_grant {s : Registry} (h : s.IsConsistent) {userId id : String}
    (hs : Holds s userId (.grant id)) : ∃ row, s.users.lookup userId = some row := by
  obtain ⟨-, row, hrow, -, huser | ⟨groupId, -, -, -, member, hmember, -⟩⟩ := holds_grant_iff.mp hs
  · exact Option.isSome_iff_exists.mp (h.principals id row userId hrow huser)
  · exact Option.isSome_iff_exists.mp (h.members groupId userId member hmember)

theorem Commit.outdated {accepted : Accepted} {s t : Registry} (h : Commit accepted s t)
    (hfits : ∀ grantId userIds, accepted = .grantRevoked grantId userIds →
      ∀ userId, Holds s userId (.grant grantId) → userId ∈ userIds)
    {userId : String} {right : Right} (hs : Holds s userId right) (ht : ¬Holds t userId right) :
    IsOutdated s t userId := by
  rcases h.rights userId with hout | hkeeps
  · exact hout
  by_cases hright : ∀ id, right = .grant id → accepted.revoked? ≠ some id
  · exact absurd (h.holds hkeeps hright hs) ht
  · push Not at hright
    obtain ⟨id, rfl, hrevoked⟩ := hright
    cases accepted with
    | grantRevoked grantId userIds =>
        obtain rfl : grantId = id := Option.some.inj hrevoked
        exact (h.revoked grantId userIds rfl).2.1 userId (hfits grantId userIds rfl userId hs)
    | _ => cases hrevoked

theorem Commit.sound_iff {accepted : Accepted} {s t : Registry} (h : Commit accepted s t)
    (hs : s.IsConsistent) : Sound s t ↔ Fits accepted s := by
  constructor
  · intro hsound
    refine ⟨h.recorded.mpr hsound.recorded, fun grantId userIds haccepted userId hholds => ?_⟩
    obtain ⟨hgone, -, hsame⟩ := h.revoked grantId userIds haccepted
    by_contra hmissing
    obtain ⟨row, hrow⟩ := hs.user_of_grant hholds
    obtain ⟨old, hold, hlt⟩ := hsound.outdated userId (.grant grantId) hholds (hgone userId) row
      ((hsame userId hmissing).trans hrow)
    obtain rfl : row = old := Option.some.inj (hrow.symm.trans hold)
    omega
  · rintro ⟨haudited, hfits⟩
    exact ⟨fun userId right hholds hlost => h.outdated hfits hholds hlost,
      h.recorded.mp haudited⟩

/-! ## Transactions -/

theorem lookup_incrementVersions (ids : List String) (s : Registry) (userId : String) :
    (s.incrementVersions ids).users.lookup userId = (s.users.lookup userId).map fun user =>
      if ids.contains userId then { user with authzVersion := user.authzVersion + 1 } else user :=
  Table.lookup_updateWhere _ _ _ _

theorem isSome_incrementVersions (ids : List String) (s : Registry) (userId : String) :
    ((s.incrementVersions ids).users.lookup userId).isSome = (s.users.lookup userId).isSome := by
  rw [lookup_incrementVersions, Option.isSome_map]

theorem commit_of_increment {accepted : Accepted} {s t : Registry} (ids : List String)
    (hs : s.IsConsistent) (hnow : t.now = s.now) (hclusters : t.clusters = s.clusters)
    (huserIds : t.userIds = s.userIds) (husers : t.users = (s.incrementVersions ids).users)
    (hgroups : ∀ id row, s.groups.lookup id = some row → t.groups.lookup id = some row)
    (hmemberships : ∀ groupId userId, userId ∉ ids →
      t.memberships.lookup (groupId, userId) = s.memberships.lookup (groupId, userId))
    (hmembers : ∀ groupId userId row, t.memberships.lookup (groupId, userId) = some row →
      (s.users.lookup userId).isSome = true)
    (hidentities : ∀ id row, s.identities.lookup id = some row → row.userId ∉ ids →
      t.identities.lookup id = some row)
    (hgrants : ∀ id row, s.grants.lookup id = some row → accepted.revoked? ≠ some id →
      t.grants.lookup id = some row)
    (hprincipals : ∀ id row userId, t.grants.lookup id = some row →
      row.grant.userId = some userId → (s.users.lookup userId).isSome = true)
    (haudited : accepted.isAudited = true) (hrecorded : ∃ change, t.changes = s.changes ++ [change])
    (hrevoked : ∀ grantId userIds, accepted = .grantRevoked grantId userIds → userIds = ids ∧
      ∀ userId, ¬Holds t userId (.grant grantId)) :
    Commit accepted s t := by
  have hlookup := lookup_incrementVersions ids s
  have hkept : ∀ userId, (t.users.lookup userId).isSome = (s.users.lookup userId).isSome := by
    intro userId
    rw [husers]
    exact isSome_incrementVersions ids s userId
  have houtdated : ∀ userId ∈ ids, IsOutdated s t userId := by
    intro userId hid row' hrow'
    rw [husers, hlookup] at hrow'
    obtain ⟨row, hrow, rfl⟩ := Option.map_eq_some_iff.mp hrow'
    refine ⟨row, hrow, ?_⟩
    rw [if_pos (List.contains_iff_mem.mpr hid)]
    exact Int.lt_succ _
  have hsame : ∀ userId, userId ∉ ids → t.users.lookup userId = s.users.lookup userId := by
    intro userId hid
    rw [husers, hlookup]
    cases s.users.lookup userId with
    | none => rfl
    | some row => simp [hid]
  refine ⟨hnow, hclusters, hgroups, fun id hid => huserIds ▸ hid, ?_, ?_, ?_, ?_, ?_⟩
  · intro userId _ row' hrow'
    by_cases hid : userId ∈ ids
    · obtain ⟨row, hrow, hlt⟩ := houtdated userId hid row' hrow'
      exact ⟨row, hrow, Int.le_of_lt hlt⟩
    · exact ⟨row', (hsame userId hid) ▸ hrow', Int.le_refl _⟩
  · intro userId
    by_cases hid : userId ∈ ids
    · exact .inl (houtdated userId hid)
    · refine .inr ⟨fun row hrow => ⟨row, (hsame userId hid).trans hrow, rfl, rfl, rfl⟩,
        fun groupId => hmemberships groupId userId hid, fun id row hrow huser => ?_,
        fun id row hrow hid => .inr (hgrants id row hrow hid)⟩
      exact hidentities id row hrow (huser ▸ hid)
  · exact ⟨fun _ => hrecorded, fun _ => haudited⟩
  · exact ⟨fun groupId userId row hrow => (hkept userId).trans (hmembers groupId userId row hrow),
      fun id row userId hrow huser => (hkept userId).trans (hprincipals id row userId hrow huser),
      fun userId hsome => huserIds ▸ hs.ids userId ((hkept userId) ▸ hsome)⟩
  · intro grantId userIds haccepted
    obtain ⟨rfl, hgone⟩ := hrevoked grantId userIds haccepted
    exact ⟨hgone, houtdated, hsame⟩

theorem commit_refl {accepted : Accepted} {s : Registry} (hs : s.IsConsistent)
    (haudited : accepted.isAudited = false)
    (hrevoked : ∀ grantId userIds, accepted ≠ .grantRevoked grantId userIds) :
    Commit accepted s s where
  now := rfl
  clusters := rfl
  groups _ _ h := h
  userIds _ h := h
  versions _ _ row h := ⟨row, h, Int.le_refl _⟩
  rights _ := .inr ⟨fun row h => ⟨row, h, rfl, rfl, rfl⟩, fun _ => rfl, fun _ _ h _ => h,
    fun _ _ h _ => .inr h⟩
  recorded := by
    rw [haudited]
    refine ⟨fun h => (nomatch h), fun ⟨change, h⟩ => ?_⟩
    exact absurd h (by simp)
  consistent := hs
  revoked grantId userIds h := absurd h (hrevoked grantId userIds)

namespace RegistryWrite

variable {s t u : Registry}

theorem apply_lockUser {id : String} {activeOnly : Bool} {missing : Exception}
    (h : apply (.lockUser id activeOnly missing) s = .ok t) : t = s.incrementVersions [id] := by
  simp only [apply] at h
  split at h
  · split at h
    · cases h
    · exact (Except.ok.inj h).symm
  · cases h

theorem apply_createIdentity {id : String} {row : ExternalIdentity}
    (h : apply (.createIdentity id row) s = .ok t) :
    id ∉ s.identities ∧ t = { s with identities := s.identities.insert id row } := by
  simp only [apply] at h
  split at h
  · cases h
  · split at h
    · cases h
    · rename_i hfree
      exact ⟨fun hmem => hfree (.inl hmem), (Except.ok.inj h).symm⟩

theorem apply_deleteIdentity {id userId : String}
    (h : apply (.deleteIdentity id userId) s = .ok t) :
    (s.identities.lookup id).any (·.userId == userId) = true ∧
      t = { s with identities := s.identities.erase id } := by
  simp only [apply] at h
  split at h
  · rename_i howner
    exact ⟨howner, (Except.ok.inj h).symm⟩
  · cases h

theorem apply_createGroup {id : String} {row : IdentityGroup}
    (h : apply (.createGroup id row) s = .ok t) :
    id ∉ s.groups ∧ t = { s with groups := s.groups.insert id row } := by
  simp only [apply] at h
  split at h
  · cases h
  · rename_i hfree
    exact ⟨hfree, (Except.ok.inj h).symm⟩

theorem apply_createGrant {id : String} {row : AccessGrant}
    (h : apply (.createGrant id row) s = .ok t) : id ∉ s.grants ∧ refersToRows row s = true ∧
      t = { s with grants := s.grants.insert id row } := by
  simp only [apply] at h
  split at h
  · cases h
  · rename_i hfree
    exact ⟨fun hmem => hfree (.inl hmem), by simpa using fun hrefers => hfree (.inr hrefers),
      (Except.ok.inj h).symm⟩

theorem apply_revokeGrant {id actorId : String} {version : Int} {revokedAt : Nat}
    (h : apply (.revokeGrant id version actorId revokedAt) s = .ok t) :
    ∃ row, s.grants.lookup id = some row ∧
      t = { s with grants := s.grants.insert id (revoked actorId revokedAt row) } := by
  simp only [apply] at h
  split at h
  · rename_i row hrow
    split at h
    · cases h
    · split at h
      · cases h
      · exact ⟨row, hrow, (Except.ok.inj h).symm⟩
  · cases h

theorem apply_appendChange {change : GrantChange} (h : apply (.appendChange change) s = .ok t) :
    t = { s with changes := s.changes ++ [change] } := (Except.ok.inj h).symm

theorem apply_incrementVersions {ids : List String} (h : apply (.incrementVersions ids) s = .ok t) :
    t = s.incrementVersions ids := (Except.ok.inj h).symm

theorem applyAll_cons {w : RegistryWrite} {ws : List RegistryWrite}
    (h : applyAll apply (w :: ws) s = .ok u) :
    ∃ v, apply w s = .ok v ∧ applyAll apply ws v = .ok u := exists_of_bind_eq_ok h

theorem applyAll_three {w₁ w₂ w₃ : RegistryWrite} (h : applyAll apply [w₁, w₂, w₃] s = .ok t) :
    ∃ s₁ s₂, apply w₁ s = .ok s₁ ∧ apply w₂ s₁ = .ok s₂ ∧ apply w₃ s₂ = .ok t := by
  obtain ⟨s₁, h₁, h⟩ := applyAll_cons h
  obtain ⟨s₂, h₂, h⟩ := applyAll_cons h
  obtain ⟨s₃, h₃, h⟩ := applyAll_cons h
  obtain rfl : s₃ = t := Except.ok.inj h
  exact ⟨s₁, s₂, h₁, h₂, h₃⟩

end RegistryWrite

theorem lookup_of_insert_fresh {ν : Type} {id id' : String} {row row' : ν} {table : Table String ν}
    (hfresh : id ∉ table) (h : table.lookup id' = some row') :
    (table.insert id row).lookup id' = some row' := by
  have hne : id' ≠ id := by
    rintro rfl
    rw [AList.lookup_eq_none.mpr hfresh] at h
    cases h
  rw [AList.lookup_insert_ne hne]
  exact h

theorem commit_bind {s t : Registry} {identityId : String} {row : ExternalIdentity}
    {missing : Exception} {change : GrantChange} (hs : s.IsConsistent)
    (h : applyAll RegistryWrite.apply [.lockUser row.userId true missing,
      .createIdentity identityId row, .appendChange change] s = .ok t) :
    Commit (.identityBound identityId) s t := by
  obtain ⟨s₁, s₂, h₁, h₂, h₃⟩ := RegistryWrite.applyAll_three h
  obtain rfl := RegistryWrite.apply_lockUser h₁
  obtain ⟨hfresh, rfl⟩ := RegistryWrite.apply_createIdentity h₂
  obtain rfl := RegistryWrite.apply_appendChange h₃
  exact commit_of_increment [row.userId] hs rfl rfl rfl rfl (fun _ _ h => h)
    (fun _ _ _ => rfl) hs.members (fun id row' hrow _ => lookup_of_insert_fresh hfresh hrow)
    (fun _ _ h _ => h) hs.principals rfl ⟨change, rfl⟩ fun _ _ h => (nomatch h)

theorem commit_unbind {s t : Registry} {userId identityId : String} {missing : Exception}
    {change : GrantChange} (hs : s.IsConsistent)
    (h : applyAll RegistryWrite.apply [.lockUser userId false missing,
      .deleteIdentity identityId userId, .appendChange change] s = .ok t) :
    Commit .identityUnbound s t := by
  obtain ⟨s₁, s₂, h₁, h₂, h₃⟩ := RegistryWrite.applyAll_three h
  obtain rfl := RegistryWrite.apply_lockUser h₁
  obtain ⟨howner, rfl⟩ := RegistryWrite.apply_deleteIdentity h₂
  obtain rfl := RegistryWrite.apply_appendChange h₃
  have hothers : ∀ id row, s.identities.lookup id = some row → row.userId ∉ [userId] →
      (s.identities.erase identityId).lookup id = some row := by
    intro id row hrow hother
    have hne : id ≠ identityId := by
      rintro rfl
      have hsame : row.userId = userId := by
        have howner' : (s.identities.lookup id).any (·.userId == userId) = true := howner
        rw [hrow] at howner'
        exact eq_of_beq howner'
      exact hother (List.mem_singleton.mpr hsame)
    rw [AList.lookup_erase_ne hne]
    exact hrow
  exact commit_of_increment [userId] hs rfl rfl rfl rfl (fun _ _ h => h)
    (fun _ _ _ => rfl) hs.members hothers (fun _ _ h _ => h) hs.principals rfl ⟨change, rfl⟩
    fun _ _ h => (nomatch h)

theorem incrementVersions_nil (s : Registry) : (s.incrementVersions []).users = s.users := by
  dsimp only [Registry.incrementVersions]
  apply Table.updateWhere_eq_self
  intro id user hrow
  rfl

theorem commit_createGroup {s t : Registry} {groupId : String} {row : IdentityGroup}
    {change : GrantChange} (hs : s.IsConsistent)
    (h : applyAll RegistryWrite.apply [.createGroup groupId row, .appendChange change] s = .ok t) :
    Commit (.groupCreated groupId) s t := by
  obtain ⟨s₁, h₁, h⟩ := RegistryWrite.applyAll_cons h
  obtain ⟨s₂, h₂, h⟩ := RegistryWrite.applyAll_cons h
  obtain rfl : s₂ = t := Except.ok.inj h
  obtain ⟨hfresh, rfl⟩ := RegistryWrite.apply_createGroup h₁
  obtain rfl := RegistryWrite.apply_appendChange h₂
  exact commit_of_increment [] hs rfl rfl rfl (incrementVersions_nil s).symm
    (fun id row' hrow => lookup_of_insert_fresh hfresh hrow) (fun _ _ _ => rfl) hs.members
    (fun _ _ h _ => h) (fun _ _ h _ => h) hs.principals rfl ⟨change, rfl⟩ fun _ _ h => (nomatch h)

theorem commit_createGrant {s t : Registry} {grantId : String} {row : AccessGrant}
    {userIds : List String} {change : GrantChange} (hs : s.IsConsistent)
    (h : applyAll RegistryWrite.apply [.createGrant grantId row, .incrementVersions userIds,
      .appendChange change] s = .ok t) :
    Commit (.grantCreated grantId) s t := by
  obtain ⟨s₁, s₂, h₁, h₂, h₃⟩ := RegistryWrite.applyAll_three h
  obtain ⟨hfresh, hrefers, rfl⟩ := RegistryWrite.apply_createGrant h₁
  obtain rfl := RegistryWrite.apply_incrementVersions h₂
  obtain rfl := RegistryWrite.apply_appendChange h₃
  have hprincipals : ∀ id row' userId, (s.grants.insert grantId row).lookup id = some row' →
      row'.grant.userId = some userId → (s.users.lookup userId).isSome = true := by
    intro id row' userId hrow huser
    rw [Table.lookup_insert] at hrow
    split at hrow
    · obtain rfl := Option.some.inj hrow
      simp only [RegistryWrite.refersToRows, Bool.and_eq_true, huser, Option.all_some] at hrefers
      exact hrefers.1.1.1
    · exact hs.principals id row' userId hrow huser
  exact commit_of_increment userIds hs rfl rfl rfl rfl (fun _ _ h => h)
    (fun _ _ _ => rfl) hs.members (fun _ _ h _ => h)
    (fun id row' hrow _ => lookup_of_insert_fresh hfresh hrow) hprincipals rfl ⟨change, rfl⟩
    fun _ _ h => (nomatch h)

theorem commit_revoke {s t : Registry} {grantId actorId : String} {version : Int} {revokedAt : Nat}
    {userIds : List String} {change : GrantChange} (hs : s.IsConsistent)
    (h : applyAll RegistryWrite.apply [.revokeGrant grantId version actorId revokedAt,
      .incrementVersions userIds, .appendChange change] s = .ok t) :
    Commit (.grantRevoked grantId userIds) s t := by
  obtain ⟨s₁, s₂, h₁, h₂, h₃⟩ := RegistryWrite.applyAll_three h
  obtain ⟨row, hrow, rfl⟩ := RegistryWrite.apply_revokeGrant h₁
  obtain rfl := RegistryWrite.apply_incrementVersions h₂
  obtain rfl := RegistryWrite.apply_appendChange h₃
  have hothers : ∀ id row', s.grants.lookup id = some row' → some grantId ≠ some id →
      (s.grants.insert grantId (RegistryWrite.revoked actorId revokedAt row)).lookup id =
        some row' := by
    intro id row' hrow' hne
    have hkey : id ≠ grantId := fun heq => hne (congrArg some heq.symm)
    rw [AList.lookup_insert_ne hkey]
    exact hrow'
  have hprincipals : ∀ id row' userId,
      (s.grants.insert grantId (RegistryWrite.revoked actorId revokedAt row)).lookup id =
        some row' → row'.grant.userId = some userId → (s.users.lookup userId).isSome = true := by
    intro id row' userId hrow' huser
    rw [Table.lookup_insert] at hrow'
    split at hrow'
    · obtain rfl := Option.some.inj hrow'
      exact hs.principals grantId row userId hrow huser
    · exact hs.principals id row' userId hrow' huser
  refine commit_of_increment userIds hs rfl rfl rfl rfl (fun _ _ h => h)
    (fun _ _ _ => rfl) hs.members (fun _ _ h _ => h) hothers hprincipals rfl ⟨change, rfl⟩ ?_
  intro grantId' userIds' haccepted
  obtain ⟨rfl, rfl⟩ := Accepted.grantRevoked.inj haccepted
  refine ⟨rfl, fun userId hholds => ?_⟩
  obtain ⟨-, row', hrow', hlive, -⟩ := holds_grant_iff.mp hholds
  have hrevoked : (s.grants.insert grantId (RegistryWrite.revoked actorId revokedAt row)).lookup
      grantId = some row' := hrow'
  rw [AList.lookup_insert] at hrevoked
  obtain rfl := Option.some.inj hrevoked
  simp [Registry.isLive, RegistryWrite.revoked] at hlive

theorem commit_setMember {s : Registry} {actorId groupId userId : String} {active : Bool}
    (hs : s.IsConsistent) (huser : (s.users.lookup userId).isSome = true) :
    Commit (.memberSet groupId userId active) s (setMember actorId groupId userId active s) := by
  have hmembers : ∀ groupId' userId' row,
      (setMember actorId groupId userId active s).memberships.lookup (groupId', userId') =
        some row →
      (s.users.lookup userId').isSome = true := by
    intro groupId' userId' row hrow
    by_cases hkey : (groupId', userId') = (groupId, userId)
    · obtain ⟨-, rfl⟩ := Prod.mk.inj hkey
      exact huser
    · refine hs.members groupId' userId' row ?_
      rwa [setMember, AList.lookup_insert_ne hkey] at hrow
  refine commit_of_increment [userId] hs rfl rfl rfl rfl (fun _ _ h => h) ?_ hmembers
    (fun _ _ h _ => h) (fun _ _ h _ => h) hs.principals rfl ⟨_, rfl⟩ fun _ _ h => (nomatch h)
  intro groupId' userId' hother
  have hkey : (groupId', userId') ≠ (groupId, userId) := fun heq =>
    hother (List.mem_singleton.mpr (Prod.mk.inj heq).2)
  rw [setMember, AList.lookup_insert_ne hkey]

/-! ## How the handlers end -/

theorem quietly_onAccounts {α : Type} {h : Handler α} (hh : Obeys readOnly h) :
    Quietly Eq (fun _ => True) (onAccounts h) :=
  Quietly.of_readOnly (.zoom hh (fun _ _ => trivial) fun _ _ _ heq => heq ▸ rfl)

abbrev Commits (h : RegistryHandler) : Prop :=
  EndsWith (fun accepted s t => s.IsConsistent → Commit accepted s t) h

theorem quietly_assertAdministrator (actor : Option Actor) :
    Quietly Eq (fun _ => True) (assertAdministrator actor) := Quietly.of_ofExcept _

theorem commits_transaction {body : RegistryTx Accepted} {P : Accepted × List RegistryWrite → Prop}
    (hbody : Quietly Eq P (body []))
    (hcommit : ∀ accepted ws s t, P (accepted, ws) → applyAll RegistryWrite.apply ws s = .ok t →
      s.IsConsistent → Commit accepted s t) : Commits (RegistryTx.commit body) where
  running := Tx.isRunning_commit _ _
  concludes := Tx.concludes_commit (fun _ => rfl) hbody hcommit

theorem quietly_write {w : RegistryWrite} {ws : List RegistryWrite} :
    Quietly Eq (fun r => r.2 = ws ++ [w]) (RegistryTx.write w ws) :=
  Tx.quietly_write (fun _ => rfl) rfl

theorem quietly_read {α : Type} {q : Registry → α} {ws : List RegistryWrite} :
    Quietly Eq (fun r => r.2 = ws) (RegistryTx.read q ws) :=
  Tx.quietly_read (fun _ => rfl) fun _ _ _ => rfl

theorem quietly_write_bind {α : Type} {w : RegistryWrite} {ws : List RegistryWrite}
    {k : Unit → RegistryTx α} {P : α × List RegistryWrite → Prop}
    (hk : Quietly Eq P (k () (ws ++ [w]))) : Quietly Eq P ((RegistryTx.write w >>= k) ws) := by
  refine Tx.quietly_bind quietly_write fun _ vs hvs => ?_
  obtain rfl : vs = ws ++ [w] := hvs
  exact hk

theorem quietly_read_bind {α β : Type} {q : Registry → α} {ws : List RegistryWrite}
    {k : α → RegistryTx β} {P : β × List RegistryWrite → Prop}
    (hk : ∀ a, Quietly Eq P (k a ws)) : Quietly Eq P ((RegistryTx.read q >>= k) ws) :=
  Tx.quietly_then quietly_read hk

theorem commits_bindBody (actorId identityId : String) (row : ExternalIdentity) :
    Commits (RegistryTx.commit (bindBody actorId identityId row)) := by
  refine commits_transaction (P := fun r => r.1 = .identityBound identityId ∧ ∃ missing change,
    r.2 = [.lockUser row.userId true missing, .createIdentity identityId row,
      .appendChange change]) ?_ ?_
  · refine quietly_write_bind (quietly_write_bind (quietly_read_bind fun version => ?_))
    exact quietly_write_bind (.done ⟨rfl, _, _, rfl⟩)
  · rintro accepted ws s t ⟨rfl, missing, change, rfl⟩ h hs
    exact commit_bind hs h

theorem commits_unbindBody (actorId userId identityId : String) :
    Commits (RegistryTx.commit (unbindBody actorId userId identityId)) := by
  refine commits_transaction (P := fun r => r.1 = .identityUnbound ∧ ∃ missing change,
    r.2 = [.lockUser userId false missing, .deleteIdentity identityId userId,
      .appendChange change]) ?_ ?_
  · refine quietly_write_bind (quietly_write_bind (quietly_read_bind fun version => ?_))
    exact quietly_write_bind (.done ⟨rfl, _, _, rfl⟩)
  · rintro accepted ws s t ⟨rfl, missing, change, rfl⟩ h hs
    exact commit_unbind hs h

theorem commits_createGroupBody (actorId groupId name : String) :
    Commits (RegistryTx.commit (createGroupBody actorId groupId name)) := by
  refine commits_transaction (P := fun r => r.1 = .groupCreated groupId ∧ ∃ row change,
    r.2 = [.createGroup groupId row, .appendChange change]) ?_ ?_
  · exact quietly_write_bind (quietly_write_bind (.done ⟨rfl, _, _, rfl⟩))
  · rintro accepted ws s t ⟨rfl, row, change, rfl⟩ h hs
    exact commit_createGroup hs h

theorem quietly_affectedUsers (grant : Grant) (ws : List RegistryWrite) :
    Quietly Eq (fun r => r.2 = ws) (affectedUsers grant ws) := by
  unfold affectedUsers
  cases grant.userId with
  | some userId => exact .done rfl
  | none =>
      cases grant.groupId with
      | some groupId => exact quietly_read
      | none => exact .done rfl

theorem quietly_assertPrincipal (principal : Principal) (ws : List RegistryWrite) :
    Quietly Eq (fun r => r.2 = ws) (assertPrincipal principal ws) := by
  cases principal with
  | user id => exact quietly_read_bind fun user => Tx.quietly_ensure _ _ fun _ => rfl
  | group id hne => exact quietly_read_bind fun group => Tx.quietly_ensure _ _ fun _ => rfl

theorem commits_createGrantBody (actorId grantId : String) (request : GrantRequest)
    (scopes : List NamespaceScope) :
    Commits (RegistryTx.commit (createGrantBody actorId grantId request scopes)) := by
  refine commits_transaction (P := fun r => r.1 = .grantCreated grantId ∧ ∃ row userIds change,
    r.2 = [.createGrant grantId row, .incrementVersions userIds, .appendChange change]) ?_ ?_
  · refine quietly_read_bind fun cluster => ?_
    refine Tx.quietly_then (Tx.quietly_ensure _ _ fun _ => rfl) fun _ => ?_
    refine Tx.quietly_then (quietly_assertPrincipal _ _) fun _ => quietly_write_bind ?_
    refine Tx.quietly_then (quietly_affectedUsers _ _) fun userIds => quietly_write_bind ?_
    exact quietly_write_bind (.done ⟨rfl, _, _, _, rfl⟩)
  · rintro accepted ws s t ⟨rfl, row, userIds, change, rfl⟩ h hs
    exact commit_createGrant hs h

theorem commits_revokeBody (actorId grantId : String) :
    Commits (RegistryTx.commit (revokeBody actorId grantId)) := by
  refine commits_transaction (P := fun r => r = (.alreadyRevoked grantId, []) ∨
    ∃ version revokedAt userIds change, r = (.grantRevoked grantId userIds,
      [.revokeGrant grantId version actorId revokedAt, .incrementVersions userIds,
        .appendChange change])) ?_ ?_
  · refine quietly_read_bind fun grant => ?_
    cases grant with
    | none => exact .fail _
    | some row =>
        dsimp only
        split
        · exact .done (.inl rfl)
        · refine quietly_read_bind fun revokedAt => quietly_write_bind ?_
          refine Tx.quietly_then (quietly_affectedUsers _ _) fun userIds => quietly_write_bind ?_
          exact quietly_write_bind (.done (.inr ⟨_, _, _, _, rfl⟩))
  · rintro accepted ws s t (heq | ⟨version, revokedAt, userIds, change, heq⟩) h hs
    · obtain ⟨rfl, rfl⟩ := Prod.mk.inj heq
      obtain rfl : s = t := Except.ok.inj h
      exact commit_refl hs rfl fun _ _ heq => (nomatch heq)
    · obtain ⟨rfl, rfl⟩ := Prod.mk.inj heq
      exact commit_revoke hs h

section Requests

variable (config : Config) (actor : Option Actor)

theorem commits_bindExternalIdentity (parseUrl : UrlParser) (userId : String)
    (input : IdentityInput) (identityId : String) :
    Commits (bindExternalIdentity parseUrl config actor userId input identityId) := by
  refine EndsWith.skip (quietly_assertAdministrator actor) fun _ => ?_
  refine EndsWith.skip (quietly_onAccounts (obeys_assertSuperadministrator _ _ _)) fun _ => ?_
  refine EndsWith.skip (Quietly.of_ofExcept _) fun actorId => ?_
  refine EndsWith.skip (Quietly.of_ofExcept _) fun row => ?_
  have hcommits := commits_bindBody actorId identityId row
  exact ⟨Async.isRunning_tryCatch hcommits.running fun _ => rfl,
    hcommits.concludes.tryCatch (fun _ => rfl) fun _ => .fail _⟩

theorem commits_unbindExternalIdentity (userId identityId : String) :
    Commits (unbindExternalIdentity config actor userId identityId) := by
  refine EndsWith.skip (quietly_assertAdministrator actor) fun _ => ?_
  refine EndsWith.skip (quietly_onAccounts (obeys_assertSuperadministrator _ _ _)) fun _ => ?_
  refine EndsWith.skip (Quietly.of_ofExcept _) fun actorId => ?_
  refine EndsWith.skip (Quietly.of_ensure _ _) fun _ => ?_
  exact commits_unbindBody actorId userId identityId

theorem membershipBody_eq_ok {actorId groupId userId : String} {active : Bool}
    {accepted : Accepted} {s t : Registry}
    (h : membershipBody actorId groupId userId active s = .ok (accepted, t)) :
    (accepted = .noMember groupId userId ∧ t = s) ∨
      ((s.users.lookup userId).isSome = true ∧ accepted = .memberSet groupId userId active ∧
        t = setMember actorId groupId userId active s) := by
  unfold membershipBody at h
  cases hgroup : s.groups.lookup groupId with
  | none => simp [hgroup] at h
  | some group =>
      simp only [hgroup] at h
      split at h
      · cases h
      split at h
      · cases h
      split at h
      · cases h
      rename_i hguard
      have huser : (s.users.lookup userId).isSome = true := by
        rw [← Option.not_isNone, Bool.not_eq_true', ← Bool.not_eq_true]
        exact fun hnone => hguard (.inl hnone)
      split at h
      · obtain ⟨rfl, rfl⟩ := Prod.mk.inj (Except.ok.inj h)
        exact .inl ⟨rfl, rfl⟩
      · obtain ⟨rfl, rfl⟩ := Prod.mk.inj (Except.ok.inj h)
        exact .inr ⟨huser, rfl, rfl⟩

theorem commits_setGroupMembership (groupId userId : String) (active : Bool)
    (abort : Option String) : Commits (setGroupMembership actor groupId userId active abort) := by
  refine EndsWith.skip (quietly_assertAdministrator actor) fun _ => ?_
  refine EndsWith.skip (Quietly.of_ofExcept _) fun actorId => ?_
  refine EndsWith.skip (Quietly.of_ensure _ _) fun _ => .attempt fun accepted s t h hs => ?_
  cases abort with
  | some code => cases h
  | none =>
      rcases membershipBody_eq_ok h with ⟨rfl, rfl⟩ | ⟨huser, rfl, rfl⟩
      · exact commit_refl hs rfl fun _ _ heq => (nomatch heq)
      · exact commit_setMember hs huser

theorem commits_createIdentityGroup (name : Option String) (groupId : String) :
    Commits (createIdentityGroup actor name groupId) := by
  refine EndsWith.skip (quietly_assertAdministrator actor) fun _ => ?_
  refine EndsWith.skip (Quietly.of_ofExcept _) fun actorId => ?_
  refine EndsWith.skip (Quietly.of_ofExcept _) fun name => ?_
  exact commits_createGroupBody actorId groupId name

theorem commits_createAccessGrant (readNamespace : String → String → Option String)
    (input : GrantInput) (grantId : String) :
    Commits (createAccessGrant readNamespace actor input grantId) := by
  refine EndsWith.skip (quietly_assertAdministrator actor) fun _ => ?_
  refine EndsWith.skip (Quietly.of_ofExcept _) fun actorId => ?_
  refine EndsWith.skip (Quietly.of_query _) fun now => ?_
  refine EndsWith.skip (Quietly.of_ofExcept _) fun request => ?_
  refine EndsWith.skip (Quietly.of_ofExcept _) fun scopes => ?_
  exact commits_createGrantBody actorId grantId request scopes

theorem commits_revokeAccessGrant (grantId : String) :
    Commits (revokeAccessGrant actor grantId) := by
  refine EndsWith.skip (quietly_assertAdministrator actor) fun _ => ?_
  refine EndsWith.skip (Quietly.of_ofExcept _) fun actorId => ?_
  exact commits_revokeBody actorId grantId

end Requests

/-! ## Requests on accounts -/

theorem recorded_of_length {accepted : Accepted} {s t : Registry}
    (haudited : accepted.isAudited = false) (hlength : t.changes.length = s.changes.length) :
    accepted.isAudited = true ↔ ∃ change, t.changes = s.changes ++ [change] := by
  rw [haudited]
  refine ⟨fun h => (nomatch h), fun ⟨change, h⟩ => ?_⟩
  rw [h, List.length_append, List.length_singleton] at hlength
  omega

theorem commit_updateUser {s : Registry} {id : String} {f : User → User} {item : UserListItem}
    (hs : s.IsConsistent)
    (hf : (∀ user, user.authzVersion < (f user).authzVersion) ∨
      ∀ user, (f user).authzVersion = user.authzVersion ∧ (f user).isActive = user.isActive ∧
        (f user).email = user.email ∧ (f user).passwordHash = user.passwordHash) :
    Commit (.userUpdated item) s { s with users := s.users.update id f } := by
  have hlookup : ∀ userId, (s.users.update id f).lookup userId = (s.users.lookup userId).map
      fun user => if userId = id then f user else user := by
    intro userId
    have hrow := Table.lookup_updateWhere (fun k _ => decide (k = id)) f s.users userId
    simpa [Table.update] using hrow
  have hsome : ∀ userId, ((s.users.update id f).lookup userId).isSome =
      (s.users.lookup userId).isSome := by
    intro userId
    rw [hlookup, Option.isSome_map]
  have hversion : ∀ user, user.authzVersion ≤ (f user).authzVersion := by
    intro user
    rcases hf with hnew | hsame
    · exact Int.le_of_lt (hnew user)
    · exact Int.le_of_eq (hsame user).1.symm
  refine ⟨rfl, rfl, fun _ _ h => h, fun _ h => h, ?_, ?_, recorded_of_length rfl rfl, ?_,
    fun _ _ h => by cases h⟩
  · intro userId _ row' hrow'
    obtain ⟨row, hrow, rfl⟩ := Option.map_eq_some_iff.mp ((hlookup userId).symm.trans hrow')
    refine ⟨row, hrow, ?_⟩
    split
    · exact hversion row
    · exact Int.le_refl _
  · intro userId
    by_cases hid : userId = id
    · subst hid
      rcases hf with hnew | hsame
      · refine .inl fun row' hrow' => ?_
        obtain ⟨row, hrow, rfl⟩ := Option.map_eq_some_iff.mp ((hlookup userId).symm.trans hrow')
        rw [if_pos rfl]
        exact ⟨row, hrow, hnew row⟩
      · refine .inr ⟨fun row hrow => ⟨f row, ?_, (hsame row).2⟩, fun _ => rfl, fun _ _ h _ => h,
          fun _ _ h _ => .inr h⟩
        rw [hlookup, hrow, Option.map_some, if_pos rfl]
    · refine .inr ⟨fun row hrow => ⟨row, ?_, rfl, rfl, rfl⟩, fun _ => rfl, fun _ _ h _ => h,
        fun _ _ h _ => .inr h⟩
      rw [hlookup, hrow, Option.map_some, if_neg hid]
  · exact ⟨fun groupId userId row hrow => (hsome userId).trans (hs.members groupId userId row hrow),
      fun grantId row userId hrow huser =>
        (hsome userId).trans (hs.principals grantId row userId hrow huser),
      fun userId huser => hs.ids userId ((hsome userId) ▸ huser)⟩

theorem insertUser_eq_ok {id : String} {user : User} {accepted : Accepted} {s t : Registry}
    (h : insertUser id user s = .ok (accepted, t)) : id ∉ s.userIds ∧
      accepted = .userCreated id ∧
      t = { s with users := s.users.insert id user, userIds := id :: s.userIds } := by
  unfold insertUser at h
  split at h
  · cases h
  · rename_i hfree
    obtain ⟨rfl, rfl⟩ := Prod.mk.inj (Except.ok.inj h)
    exact ⟨fun hmem => hfree (.inl hmem), rfl, rfl⟩

theorem commit_createUser {s : Registry} {id : String} {user : User} (hs : s.IsConsistent)
    (hfresh : id ∉ s.userIds) : Commit (.userCreated id) s
      { s with users := s.users.insert id user, userIds := id :: s.userIds } := by
  have hlookup : ∀ userId, userId ≠ id →
      (s.users.insert id user).lookup userId = s.users.lookup userId :=
    fun userId hne => AList.lookup_insert_ne hne
  have hgrow : ∀ userId, (s.users.lookup userId).isSome = true →
      ((s.users.insert id user).lookup userId).isSome = true := by
    intro userId hsome
    rw [Table.lookup_insert]
    split
    · rfl
    · exact hsome
  have hne : ∀ userId, userId ∈ s.userIds → userId ≠ id := by
    rintro userId hmem rfl
    exact hfresh hmem
  refine ⟨rfl, rfl, fun _ _ h => h, fun _ h => List.mem_cons_of_mem _ h, ?_, ?_,
    recorded_of_length rfl rfl, ?_, fun _ _ h => (nomatch h)⟩
  · intro userId hmem row' hrow'
    exact ⟨row', (hlookup userId (hne userId hmem)) ▸ hrow', Int.le_refl _⟩
  · intro userId
    refine .inr ⟨fun row hrow => ⟨row, ?_, rfl, rfl, rfl⟩, fun _ => rfl, fun _ _ h _ => h,
      fun _ _ h _ => .inr h⟩
    have hmem := hs.ids userId (by rw [hrow]; rfl)
    rw [hlookup userId (hne userId hmem)]
    exact hrow
  · refine ⟨fun groupId userId row hrow => hgrow userId (hs.members groupId userId row hrow),
      fun grantId row userId hrow huser =>
        hgrow userId (hs.principals grantId row userId hrow huser), fun userId hsome => ?_⟩
    by_cases hid : userId = id
    · rw [hid]
      exact List.mem_cons_self
    · exact List.mem_cons_of_mem _ (hs.ids userId ((hlookup userId hid) ▸ hsome))

theorem deleteUserRow_eq_ok {id : String} {accepted : Accepted} {s t : Registry}
    (h : deleteUserRow id s = .ok (accepted, t)) : accepted = .userDeleted ⟨id, true, "deleted"⟩ ∧
      t = { s with
        users := s.users.erase id
        identities := s.identities.deleteWhere fun _ row => row.userId == id
        memberships := s.memberships.deleteWhere fun key _ => key.2 == id
        grants := s.grants.deleteWhere fun _ row => row.grant.userId == some id
        changes := s.changes.map (forgetUser id s) } := by
  unfold deleteUserRow at h
  split at h
  · cases h
  split at h
  · cases h
  obtain ⟨rfl, rfl⟩ := Prod.mk.inj (Except.ok.inj h)
  exact ⟨rfl, rfl⟩

theorem commit_deleteUser {id : String} {accepted : Accepted} {s t : Registry}
    (hs : s.IsConsistent) (h : deleteUserRow id s = .ok (accepted, t)) : Commit accepted s t := by
  obtain ⟨rfl, rfl⟩ := deleteUserRow_eq_ok h
  have husers : ∀ userId, userId ≠ id → (s.users.erase id).lookup userId = s.users.lookup userId :=
    fun userId hne => AList.lookup_erase_ne hne
  have hgone : (s.users.erase id).lookup id = none := AList.lookup_erase id s.users
  refine ⟨rfl, rfl, fun _ _ h => h, fun _ h => h, ?_, ?_, ?_, ?_, fun _ _ h => (nomatch h)⟩
  · intro userId _ row' hrow'
    have hne : userId ≠ id := by
      rintro rfl
      have hrow : (s.users.erase userId).lookup userId = some row' := hrow'
      rw [hgone] at hrow
      cases hrow
    exact ⟨row', (husers userId hne) ▸ hrow', Int.le_refl _⟩
  · intro userId
    by_cases hid : userId = id
    · subst hid
      refine .inl fun row' hrow' => ?_
      have hrow : (s.users.erase userId).lookup userId = some row' := hrow'
      rw [hgone] at hrow
      cases hrow
    · refine .inr ⟨fun row hrow => ⟨row, (husers userId hid).trans hrow, rfl, rfl, rfl⟩,
        fun groupId => ?_, fun identityId row hrow huser => ?_, fun grantId row hrow _ => ?_⟩
      · rw [Table.lookup_deleteWhere]
        cases s.memberships.lookup (groupId, userId) with
        | none => rfl
        | some row => simp [hid]
      · have hother : ¬row.userId = id := fun heq => hid (huser ▸ heq)
        rw [Table.lookup_deleteWhere, hrow]
        simp [hother]
      · by_cases howner : row.grant.userId = some id
        · exact .inl ⟨id, howner, fun heq => hid heq.symm⟩
        · refine .inr ?_
          rw [Table.lookup_deleteWhere, hrow]
          simp [howner]
  · refine recorded_of_length rfl ?_
    exact List.length_map _
  · refine ⟨fun groupId userId row hrow => ?_, fun grantId row userId hrow huser => ?_,
      fun userId hsome => ?_⟩
    · rw [Table.lookup_deleteWhere, Option.filter_eq_some_iff] at hrow
      have hid : userId ≠ id := by simpa using hrow.2
      rw [husers userId hid]
      exact hs.members groupId userId row hrow.1
    · rw [Table.lookup_deleteWhere, Option.filter_eq_some_iff] at hrow
      have hid : userId ≠ id := by
        rintro rfl
        simp [huser] at hrow
      rw [husers userId hid]
      exact hs.principals grantId row userId hrow.1 huser
    · by_cases hid : userId = id
      · subst hid
        rw [hgone] at hsome
        cases hsome
      · exact hs.ids userId ((husers userId hid) ▸ hsome)

section Accounts

variable (crypto : Crypto) (config : Config) (actor : Option Actor) (id : String)

theorem commits_createUser (body : CreateUserRequest) (salt : String) :
    Commits (createUser crypto actor body id salt) := by
  refine EndsWith.skip (quietly_assertAdministrator actor) fun _ => ?_
  refine EndsWith.skip (Quietly.of_ensure _ _) fun _ => ?_
  refine EndsWith.skip (Quietly.of_ofExcept _) fun username => ?_
  refine EndsWith.skip (Quietly.of_ofExcept _) fun password => ?_
  refine EndsWith.skip (Quietly.of_query _) fun existing => ?_
  refine EndsWith.skip (Quietly.of_ensure _ _) fun _ => .attempt fun accepted s t h hs => ?_
  obtain ⟨hfresh, rfl, rfl⟩ := insertUser_eq_ok h
  exact commit_createUser hs hfresh

theorem commits_removeUser : Commits (removeUser config actor id) := by
  refine EndsWith.skip (quietly_assertAdministrator actor) fun _ => ?_
  refine EndsWith.skip (quietly_onAccounts (obeys_assertSuperadministrator _ _ _)) fun _ => ?_
  refine EndsWith.skip (quietly_onAccounts (obeys_mustFindUser _)) fun _ => ?_
  refine EndsWith.skip (quietly_onAccounts (obeys_assertNotLastAdministrator _ _ _)) fun _ => ?_
  exact .attempt fun accepted s t h hs => commit_deleteUser hs h

/-- What the last statement of a handler on the accounts does to them. -/
def ChangesUser (_ : UserListItem) (s t : State) : Prop := ∃ f : User → User,
  t = s.updateUser id f ∧ ((∀ user, user.authzVersion < (f user).authzVersion) ∨
    ∀ user, (f user).authzVersion = user.authzVersion ∧ (f user).isActive = user.isActive ∧
      (f user).email = user.email ∧ (f user).passwordHash = user.passwordHash)

theorem commits_onAccounts {h : Handler UserListItem} (hh : EndsWith (ChangesUser id) h) :
    Commits (onAccounts h >>= fun item => .done (.userUpdated item)) := by
  refine EndsWith.map (hh.zoom (fun _ => rfl) fun item s t hchanges hs => ?_)
  obtain ⟨f, rfl, hf⟩ := hchanges
  exact commit_updateUser hs hf

theorem endsWith_setState (isActive : Bool) :
    EndsWith (ChangesUser id) (setState config actor id isActive) := by
  have hlast : EndsWith (ChangesUser id) ((Async.attempt (updateRow id fun user =>
      { user with isActive := isActive, authzVersion := user.authzVersion + 1 })) >>= fun row =>
        .done (toUserItem id row)) := by
    refine EndsWith.map (.attempt fun row s t h => ?_)
    obtain ⟨old, -, -, rfl⟩ := updateRow_eq_ok h
    exact ⟨_, rfl, .inl fun user => Int.lt_succ _⟩
  refine .skip (Quietly.of_ofExcept _) fun _ => ?_
  refine .skip (Quietly.of_readOnly (obeys_assertSuperadministrator _ _ _)) fun _ => ?_
  refine .skip (Quietly.of_readOnly (obeys_mustFindUser _)) fun _ => ?_
  cases isActive with
  | true => exact hlast
  | false =>
      exact .skip (Quietly.of_readOnly (obeys_assertNotLastAdministrator _ _ _)) fun _ => hlast

def FromRequest (body : UpdateUserRequest) (data : UserChange) : Prop :=
  (data.email.isSome = true → body.username.isSome = true) ∧
    (data.passwordHash.isSome = true → body.password.isSome = true)

theorem quietly_usernameChange (body : UpdateUserRequest) :
    Quietly Eq (FromRequest body) (usernameChange id body.username) := by
  cases husername : body.username with
  | none => exact .done ⟨fun h => (nomatch h), fun h => (nomatch h)⟩
  | some value =>
      refine .bind (Quietly.of_ofExcept _) fun username _ => ?_
      refine .bind (Quietly.of_query _) fun existing _ => ?_
      refine .bind (Quietly.of_ensure _ _) fun _ _ => .done ⟨fun _ => ?_, fun h => (nomatch h)⟩
      rw [husername]
      rfl

theorem quietly_nameChange (body : UpdateUserRequest) {data : UserChange}
    (hdata : FromRequest body data) :
    Quietly Eq (FromRequest body) (nameChange data body.name) := by
  cases body.name with
  | none => exact .done hdata
  | some value => exact .bind (Quietly.of_ofExcept _) fun name _ => .done hdata

theorem quietly_passwordChange (body : UpdateUserRequest) (salt : String) {data : UserChange}
    (hdata : FromRequest body data) :
    Quietly Eq (FromRequest body) (passwordChange crypto salt data body.password) := by
  cases hpassword : body.password with
  | none => exact .done hdata
  | some value =>
      refine .bind (Quietly.of_ensure _ _) fun _ _ => .done ⟨hdata.1, fun _ => ?_⟩
      rw [hpassword]
      rfl

theorem updateProfile_eq_ok {data : UserChange} {s t : State} {user : User}
    (h : updateProfile id data s = .ok (user, t)) : t = s.updateUser id data.apply := by
  unfold updateProfile at h
  split at h
  · cases h
  · obtain ⟨old, -, -, rfl⟩ := updateRow_eq_ok h
    rfl

theorem changesUser_profile (body : UpdateUserRequest) {data : UserChange}
    (hdata : FromRequest body data) {item : UserListItem} {s t : State} {user : User}
    (h : updateProfile id { data with
      bumpAuthzVersion := body.password.isSome || body.username.isSome } s = .ok (user, t)) :
    ChangesUser id item s t := by
  refine ⟨_, updateProfile_eq_ok id h, ?_⟩
  cases hbump : body.password.isSome || body.username.isSome with
  | true => exact .inl fun user => Int.lt_succ _
  | false =>
      obtain ⟨hpassword, husername⟩ := Bool.or_eq_false_iff.mp hbump
      have hemail : data.email = none := by
        rw [← Option.not_isSome_iff_eq_none]
        exact fun hsome => by simp [hdata.1 hsome] at husername
      have hhash : data.passwordHash = none := by
        rw [← Option.not_isSome_iff_eq_none]
        exact fun hsome => by simp [hdata.2 hsome] at hpassword
      refine .inr fun user => ⟨rfl, rfl, ?_, ?_⟩
      · simp [UserChange.apply, hemail]
      · simp [UserChange.apply, hhash]

theorem endsWith_updateUser (body : UpdateUserRequest) (salt : String) :
    EndsWith (ChangesUser id) (updateUser crypto config actor id body salt) := by
  refine .skip (Quietly.of_ofExcept _) fun _ => ?_
  refine .skip (Quietly.of_readOnly (obeys_assertSuperadministrator _ _ _)) fun _ => ?_
  refine .skip (Quietly.of_ensure _ _) fun _ => ?_
  refine .skip (Quietly.of_readOnly (obeys_mustFindUser _)) fun _ => ?_
  refine .guard (quietly_usernameChange id body) (fun data hdata => ?_) fun _ => ?_
  · refine .guard (quietly_nameChange body hdata) (fun data hdata => ?_) fun _ => ?_
    · refine .guard (quietly_passwordChange crypto body salt hdata) (fun data hdata => ?_)
        fun _ => ?_
      · refine .skip (Quietly.of_ensure _ _) fun _ => EndsWith.map (.attempt fun user s t h => ?_)
        exact changesUser_profile id body hdata h
      · exact Async.isRunning_bind _ fun _ => rfl
    · exact Async.isRunning_bind _ fun _ => Async.isRunning_bind _ fun _ => rfl
  · exact Async.isRunning_bind _ fun _ => Async.isRunning_bind _ fun _ =>
      Async.isRunning_bind _ fun _ => rfl

end Accounts

theorem commits_serveMutation (context : RegistryContext) (actor : Option Actor)
    (request : Mutation) : Commits (serveMutation context actor request) := by
  cases request with
  | bindExternalIdentity userId input identityId =>
      exact commits_bindExternalIdentity context.config actor context.parseUrl userId input
        identityId
  | unbindExternalIdentity userId identityId =>
      exact commits_unbindExternalIdentity context.config actor userId identityId
  | setGroupMembership groupId userId active abort =>
      exact commits_setGroupMembership actor groupId userId active abort
  | createIdentityGroup name groupId => exact commits_createIdentityGroup actor name groupId
  | createAccessGrant input grantId =>
      exact commits_createAccessGrant actor context.readNamespace input grantId
  | revokeAccessGrant grantId => exact commits_revokeAccessGrant actor grantId
  | createUser body id salt => exact commits_createUser context.crypto actor id body salt
  | updateUser id body salt =>
      exact commits_onAccounts id
        (endsWith_updateUser context.crypto context.config actor id body salt)
  | setState id isActive =>
      exact commits_onAccounts id (endsWith_setState context.config actor id isActive)
  | deleteUser id => exact commits_removeUser context.config actor id

abbrev RegistryPool := Pool Exception Registry Accepted

abbrev RegistryStep (context : RegistryContext) : RegistryPool → RegistryPool → Prop :=
  Step (isMutation context) registryClock

variable {context : RegistryContext} {c c' : RegistryPool}

theorem registryClock_refl (s : Registry) : registryClock s s := ⟨s.now, rfl⟩

theorem step_cases (hc : ∀ h ∈ c.handlers, Concludes Eq
      (fun accepted s t => s.IsConsistent → Commit accepted s t) h)
    (hstep : RegistryStep context c c') : registryClock c.shared c'.shared ∨
      ∃ accepted, c.Ends c' accepted ∧
        (c.shared.IsConsistent → Commit accepted c.shared c'.shared) := by
  cases hstep with
  | arrive h hh => exact .inl (registryClock_refl _)
  | crash h => exact .inl (registryClock_refl _)
  | environment hst => exact .inl hst
  | @statement s l r u n =>
      rcases Concludes.stmt_iff.mp (hc (.stmt u n) (by simp)) s with
        ⟨accepted, hdone, hcommit⟩ | ⟨hquiet, -, -⟩
      · exact .inr ⟨accepted, ⟨s, l, r, u, n, rfl, by rw [hdone], hdone⟩, hcommit⟩
      · refine .inl ?_
        show registryClock s (u s)
        rw [← hquiet]
        exact registryClock_refl s

theorem concluding_of_reach {init : Registry}
    (hc : Reach (isMutation context) registryClock init c) :
    c.Concluding Eq fun accepted s t => s.IsConsistent → Commit accepted s t := by
  refine Pool.Concluding.of_reach (fun h hh => ?_) hc
  obtain ⟨actor, request, rfl⟩ := hh
  exact (commits_serveMutation context actor request).concludes

theorem Registry.IsConsistent.clock {s t : Registry} (hs : s.IsConsistent) (h : registryClock s t) :
    t.IsConsistent := by
  obtain ⟨now, rfl⟩ := h
  exact ⟨hs.members, hs.principals, hs.ids⟩

theorem consistent_of_reach {init : Registry} (hinit : init.IsConsistent)
    (hc : Reach (isMutation context) registryClock init c) : c.shared.IsConsistent := by
  induction hc with
  | refl => exact hinit
  | tail hrun hstep ih =>
      rcases step_cases (concluding_of_reach hrun) hstep with hclock | ⟨accepted, -, hcommit⟩
      · exact ih.clock hclock
      · exact (hcommit ih).consistent

theorem versions_le_of_run {init : Registry} (hinit : init.IsConsistent)
    (hc : Reach (isMutation context) registryClock init c)
    (hrun : ReflTransGen (RegistryStep context) c c') {userId : String}
    (hid : userId ∈ c.shared.userIds) : userId ∈ c'.shared.userIds ∧
      ∀ row', c'.shared.users.lookup userId = some row' →
        ∃ row, c.shared.users.lookup userId = some row ∧ row.authzVersion ≤ row'.authzVersion := by
  induction hrun with
  | refl => exact ⟨hid, fun row' hrow' => ⟨row', hrow', Int.le_refl _⟩⟩
  | @tail d d' hbefore hstep ih =>
      have hd : Reach (isMutation context) registryClock init d := hc.trans hbefore
      obtain ⟨hmem, hle⟩ := ih
      rcases step_cases (concluding_of_reach hd) hstep with ⟨now, hclock⟩ | ⟨accepted, -, hcommit⟩
      · rw [hclock]
        exact ⟨hmem, hle⟩
      · have h := hcommit (consistent_of_reach hinit hd)
        refine ⟨h.userIds userId hmem, fun row' hrow' => ?_⟩
        obtain ⟨row, hrow, hlast⟩ := h.versions userId hmem row' hrow'
        obtain ⟨first, hfirst, hearlier⟩ := hle row hrow
        exact ⟨first, hfirst, Int.le_trans hearlier hlast⟩

def listsAll (s : Registry) (grantId : String) (userIds : List String) : Bool :=
  (s.grants.lookup grantId).all fun row => row.grant.userId.all userIds.contains &&
    row.grant.groupId.all fun groupId => (memberIds groupId s).all userIds.contains

theorem fits_of_listsAll {s : Registry} {grantId : String} {userIds : List String}
    (h : listsAll s grantId userIds = true) : Fits (.grantRevoked grantId userIds) s := by
  refine ⟨rfl, fun grantId' userIds' heq userId hholds => ?_⟩
  obtain ⟨rfl, rfl⟩ := Accepted.grantRevoked.inj heq
  obtain ⟨-, row, hrow, -, hwho⟩ := holds_grant_iff.mp hholds
  rw [listsAll, hrow, Option.all_some, Bool.and_eq_true] at h
  rcases hwho with huser | ⟨groupId, hgroup, -, -, member, hmember, -⟩
  · rw [huser, Option.all_some] at h
    exact List.contains_iff_mem.mp h.1
  · rw [hgroup, Option.all_some, List.all_eq_true] at h
    refine List.contains_iff_mem.mp (h.2 userId ?_)
    refine Table.mem_select_iff.mpr ⟨(groupId, userId), member, hmember, ?_, rfl⟩
    exact beq_self_eq_true groupId

def opsGrant : AccessGrant where
  grant := ⟨"grant", none, some "ops", "c", "viewer", "active", 0, none, none, [⟨"uid", "ns"⟩], [],
    by decide, by decide⟩
  version := 1
  createdByUserId := "a"
  updatedByUserId := "a"

def emptyGroup : Registry where
  now := 5
  users := List.toAList [⟨"a", administrator "ann"⟩, ⟨"bob", administrator "bob"⟩]
  userIds := ["a", "bob"]
  identities := ∅
  groups := List.toAList [⟨"ops", ⟨none, "ops", true⟩⟩]
  memberships := ∅
  grants := List.toAList [⟨"grant", opsGrant⟩]
  clusters _ := some ⟨none, "ready"⟩
  changes := []

theorem emptyGroup_consistent : emptyGroup.IsConsistent where
  members _ _ _ h := by cases h
  principals id row userId hrow huser := by
    have hall : emptyGroup.grants.entries.all (fun r => r.2.grant.userId.isNone) = true := by
      decide +kernel
    have hnone := List.all_eq_true.mp hall _ (Table.mem_entries_iff.mpr hrow)
    rw [huser] at hnone
    cases hnone
  ids userId hsome := by
    obtain ⟨row, hrow⟩ := Option.isSome_iff_exists.mp hsome
    have hall : emptyGroup.users.entries.all (fun r => emptyGroup.userIds.contains r.1) = true := by
      decide +kernel
    exact List.contains_iff_mem.mp
      (List.all_eq_true.mp hall _ (Table.mem_entries_iff.mpr hrow))

def sampleContext : RegistryContext where
  crypto := .ofDigests []
  config := plainConfig
  parseUrl _ := none
  readNamespace _ _ := none

def revokeAndJoin (context : RegistryContext) : RegistryPool :=
  ⟨emptyGroup, [serveMutation context annActs (.revokeAccessGrant "grant"),
    serveMutation context annActs (.setGroupMembership "ops" "bob" true none)]⟩

theorem revokeAndJoin_reach (context : RegistryContext) :
    Reach (isMutation context) registryClock emptyGroup (revokeAndJoin context) := by
  refine Reach.arrive_all (c := ⟨emptyGroup, []⟩) .refl _ fun h hh => ?_
  rcases List.mem_cons.mp hh with rfl | hh
  · exact ⟨annActs, _, rfl⟩
  · rw [List.mem_singleton.mp hh]
    exact ⟨annActs, _, rfl⟩

/-- Bob joins, and then Ann's revocation runs up to its commit. -/
def joinedBefore : RegistryPool :=
  (revokeAndJoin sampleContext).play [1, 0, 0, 0, 0, 0, 0]

def joinedBetween : RegistryPool :=
  (revokeAndJoin sampleContext).play [0, 0, 0, 0, 1, 0, 0]

end KubeNova.Users
