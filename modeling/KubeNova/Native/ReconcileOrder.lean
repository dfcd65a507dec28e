import KubeNova.Native.ReconcileOutcome

/-!
# The order of the rows, and stale scopes

A scope that names a deleted or recreated namespace stops the synchronisation where it is met,
so what is left depends on the order in which users, grants and scopes are read, and on the
stale scope itself.
-/

namespace KubeNova.Native

open KubeNova.Foundation KubeNova.Common KubeNova.Access

def Grant.withNamespaces (g : Grant) (namespaces : List NamespaceScope) : Grant :=
  { g with namespaces := namespaces }

/-- The same rows: users and grants, and the scopes of each grant, may be in another order. -/
structure Reordered (d d' : Directory) : Prop where
  users : d.users.Perm d'.users
  grants : ∃ grants, d.grants.Perm grants ∧ List.Forall₂ (fun g g' => ∃ namespaces,
    g' = Grant.withNamespaces g namespaces ∧ g.namespaces.Perm namespaces) grants d'.grants
  groupActive : d'.groupActive = d.groupActive
  memberships : d'.memberships = d.memberships
  clusters : d'.clusters = d.clusters

instance (c : RbacCluster) (scope : NamespaceScope) : Decidable (IsStale c scope) :=
  inferInstanceAs (Decidable (_ ∧ _))

def dropStale (c : RbacCluster) (d : Directory) : Directory :=
  { d with grants := d.grants.map fun g =>
      Grant.withNamespaces g (g.namespaces.filter fun scope => !decide (IsStale c scope)) }

structure SameRights (c : RbacCluster) (d d' : Directory) : Prop where
  users : d.users.Perm d'.users
  there : ∀ g ∈ d.grants, ∃ namespaces, Grant.withNamespaces g namespaces ∈ d'.grants ∧
    ∀ scope, ¬IsStale c scope → (scope ∈ g.namespaces ↔ scope ∈ namespaces)
  back : ∀ g ∈ d'.grants, ∃ namespaces, Grant.withNamespaces g namespaces ∈ d.grants ∧
    ∀ scope, ¬IsStale c scope → (scope ∈ g.namespaces ↔ scope ∈ namespaces)
  groupActive : d'.groupActive = d.groupActive
  memberships : d'.memberships = d.memberships
  clusters : d'.clusters = d.clusters

theorem SameRights.symm {c : RbacCluster} {d d' : Directory} (h : SameRights c d d') :
    SameRights c d' d where
  users := h.users.symm
  there := h.back
  back := h.there
  groupActive := h.groupActive.symm
  memberships := h.memberships.symm
  clusters := h.clusters.symm

theorem exists_related {α β : Type} {R : α → β → Prop} {l : List α} {l' : List β}
    (h : List.Forall₂ R l l') {a : α} (ha : a ∈ l) : ∃ b ∈ l', R a b := by
  induction h with
  | nil => cases ha
  | cons hhead htail ih =>
      rcases List.mem_cons.mp ha with rfl | ha
      · exact ⟨_, List.mem_cons_self, hhead⟩
      · obtain ⟨b, hb, hrel⟩ := ih ha
        exact ⟨b, List.mem_cons_of_mem _ hb, hrel⟩

theorem Reordered.exists_mem {d d' : Directory} (h : Reordered d d') {g : Grant} (hg : g ∈ d.grants) :
    ∃ namespaces, Grant.withNamespaces g namespaces ∈ d'.grants ∧ g.namespaces.Perm namespaces := by
  obtain ⟨grants, hperm, hrel⟩ := h.grants
  obtain ⟨g', hg', namespaces, rfl, hscopes⟩ := exists_related hrel (hperm.mem_iff.mp hg)
  exact ⟨namespaces, hg', hscopes⟩

theorem Reordered.exists_mem_back {d d' : Directory} (h : Reordered d d') {g : Grant}
    (hg : g ∈ d'.grants) :
    ∃ namespaces, Grant.withNamespaces g namespaces ∈ d.grants ∧ g.namespaces.Perm namespaces := by
  obtain ⟨grants, hperm, hrel⟩ := h.grants
  have hback := List.Forall₂.flip (R := flip fun g g' => ∃ namespaces,
    g' = Grant.withNamespaces g namespaces ∧ g.namespaces.Perm namespaces) hrel
  obtain ⟨g', hg', namespaces, rfl, hscopes⟩ := exists_related hback hg
  exact ⟨g'.namespaces, hperm.mem_iff.mpr hg', hscopes.symm⟩

theorem Reordered.sameRights {d d' : Directory} (h : Reordered d d') (c : RbacCluster) :
    SameRights c d d' := by
  refine ⟨h.users, fun g hg => ?_, fun g hg => ?_, h.groupActive, h.memberships, h.clusters⟩
  · obtain ⟨namespaces, hmem, hperm⟩ := h.exists_mem hg
    exact ⟨namespaces, hmem, fun scope _ => hperm.mem_iff⟩
  · obtain ⟨namespaces, hmem, hperm⟩ := h.exists_mem_back hg
    exact ⟨namespaces, hmem, fun scope _ => hperm.mem_iff⟩

theorem sameRights_dropStale (c : RbacCluster) (d : Directory) : SameRights c d (dropStale c d) := by
  refine ⟨.refl _, fun g hg => ?_, fun g hg => ?_, rfl, rfl, rfl⟩
  · refine ⟨_, List.mem_map_of_mem hg, fun scope hlive => ?_⟩
    simp [List.mem_filter, hlive]
  · obtain ⟨stored, hstored, rfl⟩ := List.mem_map.mp hg
    refine ⟨stored.namespaces, hstored, fun scope hlive => ?_⟩
    simp [Grant.withNamespaces, List.mem_filter, hlive]

/-! ## The grants that count -/

section Rights

variable {crypto : Crypto} {clusterId userId : String} {now : Nat} {c : RbacCluster}
  {d d' : Directory} {name uid : String}

/-- The grant as `listEffectiveGrants` returns it. -/
abbrev limited (d : Directory) (userId : String) (now : Nat) (g : Grant) : Grant :=
  Directory.limitByMembership (d.activeMemberships userId now) userId g

/-- `listEffectiveGrants` returns the stored grant. -/
def Admitted (d : Directory) (userId : String) (now : Nat) (clusterId : String) (g : Grant) : Prop :=
  g ∈ Directory.findGrants { d with grants := [g] } userId
      ((d.activeMemberships userId now).map (·.groupId)) (some clusterId) ∧
    Directory.isEffective userId ((d.activeMemberships userId now).map (·.groupId)) now
      (some clusterId) (limited d userId now g) = true

theorem mem_listEffectiveGrants_iff {g : Grant} :
    g ∈ d.listEffectiveGrants userId now (some clusterId) ↔ Text.trim userId ≠ "" ∧
      ∃ stored ∈ d.grants, Admitted d userId now clusterId stored ∧ limited d userId now stored = g := by
  by_cases hblank : Text.trim userId = ""
  · simp [Directory.listEffectiveGrants, hblank]
  · rw [Directory.listEffectiveGrants, if_neg hblank]
    simp only [List.mem_filter, List.mem_map, Admitted, Directory.findGrants, List.mem_singleton,
      true_and, ne_eq, hblank, not_false_eq_true]
    constructor
    · rintro ⟨⟨stored, ⟨hstored, hfound⟩, rfl⟩, heffective⟩
      exact ⟨stored, hstored, ⟨hfound, heffective⟩, rfl⟩
    · rintro ⟨stored, hstored, ⟨hfound, heffective⟩, rfl⟩
      exact ⟨⟨stored, ⟨hstored, hfound⟩, rfl⟩, heffective⟩

theorem Admitted.withNamespaces {g : Grant} (h : Admitted d userId now clusterId g)
    {namespaces : List NamespaceScope}
    (huid : ∃ scope ∈ namespaces, Text.trim scope.namespaceUid ≠ "") :
    Admitted d userId now clusterId (Grant.withNamespaces g namespaces) := by
  obtain ⟨hfound, heffective⟩ := h
  have hany : namespaces.any (fun scope => Text.trim scope.namespaceUid != "") = true := by
    simpa [List.any_eq_true] using huid
  refine ⟨?_, ?_⟩
  · simp only [Directory.findGrants, List.mem_filter, List.mem_singleton, true_and] at hfound ⊢
    exact hfound
  · simp only [Directory.isEffective, limited, Directory.limitByMembership, Grant.withNamespaces,
      Bool.and_eq_true] at heffective ⊢
    exact ⟨heffective.1, hany⟩

theorem Admitted.congr {g : Grant} (h : Admitted d userId now clusterId g)
    (hgroups : d'.groupActive = d.groupActive) (hmemberships : d'.memberships = d.memberships)
    (hclusters : d'.clusters = d.clusters) : Admitted d' userId now clusterId g := by
  simpa only [Admitted, limited, Directory.findGrants, Directory.activeMemberships, hgroups,
    hmemberships, hclusters] using h

theorem limited_withNamespaces (hgroups : d'.groupActive = d.groupActive)
    (hmemberships : d'.memberships = d.memberships) (g : Grant) (namespaces : List NamespaceScope) :
    limited d' userId now (Grant.withNamespaces g namespaces) =
      Grant.withNamespaces (limited d userId now g) namespaces := by
  have hactive : d'.activeMemberships userId now = d.activeMemberships userId now := by
    simp only [Directory.activeMemberships, hgroups, hmemberships]
  simp only [limited, hactive]
  rfl

theorem SameRights.plannedGrants (h : SameRights c d d') {namespaces : List PlanNamespace}
    (hlive : c.namespaces.lookup name = some uid) (huid : Text.trim uid ≠ "") {g : Grant}
    (hg : g ∈ plannedGrants ⟨userId, clusterId, d.listEffectiveGrants userId now (some clusterId),
      namespaces, now⟩ ⟨name, uid⟩) :
    ∃ g' ∈ plannedGrants ⟨userId, clusterId, d'.listEffectiveGrants userId now (some clusterId),
      namespaces, now⟩ ⟨name, uid⟩, g'.capabilities = g.capabilities := by
  simp only [KubeNova.Native.plannedGrants, List.mem_filter, Bool.and_eq_true, List.any_eq_true,
    beq_iff_eq] at hg
  obtain ⟨hg, ⟨hfields, scope, hscope, rfl, rfl⟩, hkubeconfig⟩ := hg
  obtain ⟨hblank, stored, hstored, hadmitted, rfl⟩ := mem_listEffectiveGrants_iff.mp hg
  obtain ⟨kept, hkept, hiff⟩ := h.there stored hstored
  have hscope' : scope ∈ kept := (hiff scope fun hstale => hstale.2 hlive).mp hscope
  have hadmitted' := (hadmitted.withNamespaces ⟨scope, hscope', huid⟩).congr h.groupActive
    h.memberships h.clusters
  have hlimited := @limited_withNamespaces userId now _ _ h.groupActive h.memberships
    stored kept
  refine ⟨limited d' userId now (Grant.withNamespaces stored kept), ?_, rfl⟩
  simp only [KubeNova.Native.plannedGrants, List.mem_filter, Bool.and_eq_true, List.any_eq_true,
    beq_iff_eq]
  refine ⟨mem_listEffectiveGrants_iff.mpr ⟨hblank, _, hkept, hadmitted', rfl⟩, ⟨?_, scope, hscope',
    rfl, rfl⟩, ?_⟩
  · rw [hlimited]
    exact hfields
  · rw [hlimited]
    exact hkubeconfig

theorem planPair_congr {input input' : PlanInput} {subject : String} {scope : PlanNamespace}
    (huser : input.userId = input'.userId) (hcluster : input.clusterId = input'.clusterId)
    (hthere : ∀ g ∈ plannedGrants input scope,
      ∃ g' ∈ plannedGrants input' scope, g'.capabilities = g.capabilities)
    (hback : ∀ g ∈ plannedGrants input' scope,
      ∃ g' ∈ plannedGrants input scope, g'.capabilities = g.capabilities) :
    planPair crypto input subject scope = planPair crypto input' subject scope := by
  have hempty : plannedGrants input scope = [] ↔ plannedGrants input' scope = [] := by
    simp only [List.eq_nil_iff_forall_not_mem]
    constructor
    · intro hnone g hg
      obtain ⟨g', hg', -⟩ := hback g hg
      exact hnone g' hg'
    · intro hnone g hg
      obtain ⟨g', hg', -⟩ := hthere g hg
      exact hnone g' hg'
  have hcapabilities : (fun capability => (plannedGrants input scope).any
      (Grant.hasCapability · capability)) = fun capability => (plannedGrants input' scope).any
      (Grant.hasCapability · capability) := by
    funext capability
    rw [Bool.eq_iff_iff, List.any_eq_true, List.any_eq_true]
    constructor
    · rintro ⟨g, hg, hhas⟩
      obtain ⟨g', hg', hsame⟩ := hthere g hg
      exact ⟨g', hg', by rw [Grant.hasCapability, hsame]; exact hhas⟩
    · rintro ⟨g, hg, hhas⟩
      obtain ⟨g', hg', hsame⟩ := hback g hg
      exact ⟨g', hg', by rw [Grant.hasCapability, hsame]; exact hhas⟩
  unfold planPair
  simp only [hempty, hcapabilities, huser, hcluster]

theorem SameRights.plannedFor_iff (h : SameRights c d d') (plan : NativeRbac) :
    PlannedFor crypto clusterId now d' c userId plan ↔
      PlannedFor crypto clusterId now d c userId plan := by
  rw [KubeNova.Native.plannedFor_iff, KubeNova.Native.plannedFor_iff]
  refine exists_congr fun name => exists_congr fun uid => and_congr_right fun hlive =>
    and_congr_right fun _ => and_congr_right fun hvalid => ?_
  rw [@planPair_congr _ ⟨userId, clusterId, d'.listEffectiveGrants userId now (some clusterId),
    [⟨name, uid⟩], now⟩ ⟨userId, clusterId, d.listEffectiveGrants userId now
      (some clusterId), [⟨name, uid⟩], now⟩ _ _ rfl rfl
    (fun g hg => h.symm.plannedGrants hlive hvalid.2 hg)
    fun g hg => h.plannedGrants hlive hvalid.2 hg]

theorem SameRights.planned_iff (h : SameRights c d d') (plan : NativeRbac) :
    Planned crypto clusterId now d' c plan ↔ Planned crypto clusterId now d c plan := by
  simp only [Planned, h.plannedFor_iff, h.users.mem_iff]

theorem SameRights.findUsers_perm (h : SameRights c d d') :
    (findUsers d clusterId).Perm (findUsers d' clusterId) := by
  have hgranted : ∀ p : Grant → Bool,
      (∀ g namespaces, p (Grant.withNamespaces g namespaces) = p g) →
      grantedIn (d'.grants.filter p) clusterId = grantedIn (d.grants.filter p) clusterId := by
    intro p hp
    rw [Bool.eq_iff_iff]
    simp only [grantedIn, List.any_eq_true, List.mem_filter]
    constructor
    · rintro ⟨g, ⟨hg, hpg⟩, hcluster⟩
      obtain ⟨namespaces, hmem, -⟩ := h.back g hg
      exact ⟨_, ⟨hmem, (hp g namespaces).trans hpg⟩, hcluster⟩
    · rintro ⟨g, ⟨hg, hpg⟩, hcluster⟩
      obtain ⟨namespaces, hmem, -⟩ := h.there g hg
      exact ⟨_, ⟨hmem, (hp g namespaces).trans hpg⟩, hcluster⟩
  have huser : ∀ id, grantedIn (d'.grants.filter (·.userId == some id)) clusterId =
      grantedIn (d.grants.filter (·.userId == some id)) clusterId :=
    fun id => hgranted (·.userId == some id) fun _ _ => rfl
  have hgroup : ∀ id, grantedIn (d'.grants.filter (·.groupId == some id)) clusterId =
      grantedIn (d.grants.filter (·.groupId == some id)) clusterId :=
    fun id => hgranted (·.groupId == some id) fun _ _ => rfl
  simp only [findUsers, huser, hgroup, h.memberships]
  exact h.users.filter _

end Rights

def World.withDirectory (s : World) (d : Directory) : World := { s with directory := d }

@[simp] theorem World.withDirectory_directory (s : World) (d : Directory) :
    (s.withDirectory d).directory = d := rfl

@[simp] theorem World.withDirectory_now (s : World) (d : Directory) :
    (s.withDirectory d).now = s.now := rfl

section Rights

variable {crypto : Crypto} {actor : Option Actor} {clusterId : String} {s : World} {d' : Directory}

theorem Unhindered.withDirectory (h : Unhindered crypto actor clusterId s)
    (hrights : SameRights s.cluster s.directory d') :
    Unhindered crypto actor clusterId (s.withDirectory d') := by
  have hplanned : ∀ plan, Planned crypto clusterId s.now d' s.cluster plan ↔
      Planned crypto clusterId s.now s.directory s.cluster plan := hrights.planned_iff
  have husers : ∀ user, user ∈ d'.users ↔ user ∈ s.directory.users :=
    fun user => hrights.users.mem_iff.symm
  refine ⟨h.answered, h.caller, ?_, h.namedCluster, h.settings, ?_, h.kubeconfig, ?_, ?_, ?_, h.valid,
    h.namespaces, ?_, fun plan hplan => h.claimable plan ((hplanned plan).mp hplan),
    fun key b hb hleftover => h.revocable key b hb ⟨hleftover.1, fun plan hplan =>
      hleftover.2 plan ((hplanned plan).mpr hplan)⟩⟩
  · obtain ⟨admin, hadmin, hrest⟩ := h.administrator
    exact ⟨admin, (husers admin).mpr hadmin, hrest⟩
  · show (d'.clusters clusterId).any ClusterRow.isLive = true
    rw [hrights.clusters]
    exact h.live
  · exact (hrights.users.map _).nodup_iff.mp h.userIds
  · exact fun user huser => h.namedUsers user ((husers user).mp huser)
  · show (findUsers d' clusterId).length ≤ 5000
    rw [← hrights.findUsers_perm.length_eq]
    exact h.userLimit
  · intro user huser user' huser' name uid hlive
    exact h.collisionFree user ((husers user).mp huser) user' ((husers user').mp huser') name uid hlive

end Rights

def nativeBindings (clusterId : String) (c : RbacCluster) :
    Set (ObjectKey × Option (List Subject) × RoleRef) :=
  {x | ∃ b, c.bindings.lookup x.1 = some b ∧ b.isNative clusterId = true ∧
    x.2 = (b.subjects, b.roleRef)}

/-- The KubeNova bindings that `reconcile` leaves. -/
def leftBindings (crypto : Crypto) (actor : Option Actor) (clusterId : String) (s : World) :
    Set (ObjectKey × Option (List Subject) × RoleRef) :=
  nativeBindings clusterId ((reconcile crypto actor clusterId).run s).2.cluster

def finalBindings (clusterId : String) (planned : NativeRbac → Prop) (c : RbacCluster) :
    Set (ObjectKey × Option (List Subject) × RoleRef) :=
  {x | (∃ plan, planned plan ∧ plan.key = x.1 ∧
      x.2 = (some plan.binding.subjects, plan.binding.roleRef)) ∨
    (∀ plan, planned plan → plan.key ≠ x.1) ∧ ¬Leftover clusterId planned c x.1 ∧
      x ∈ nativeBindings clusterId c}

def Settled (clusterId : String) (planned : NativeRbac → Prop) (c : RbacCluster) : Prop :=
  (∀ plan, planned plan → ∃ b, c.bindings.lookup plan.key = some b ∧ b.isNative clusterId = true ∧
    bindingMatches plan b = true) ∧
  ∀ key b, c.bindings.lookup key = some b → b.isNative clusterId = true →
    ∃ plan, planned plan ∧ plan.role.metadata.name = key.2

section Bindings

variable {clusterId : String} {planned : NativeRbac → Prop} {c c' : RbacCluster}

theorem bindingMatches_iff {plan : NativeRbac} {b : RoleBinding} : bindingMatches plan b = true ↔
    (b.subjects, b.roleRef) = (some plan.binding.subjects, plan.binding.roleRef) := by
  simp [bindingMatches]

theorem mem_nativeBindings_of_matches {key : ObjectKey} {plan : NativeRbac} {b : RoleBinding}
    (hb : c.bindings.lookup key = some b) (hnative : b.isNative clusterId = true)
    (hmatches : bindingMatches plan b = true) (y : Option (List Subject) × RoleRef) :
    (key, y) ∈ nativeBindings clusterId c ↔
      y = (some plan.binding.subjects, plan.binding.roleRef) := by
  rw [← bindingMatches_iff.mp hmatches]
  constructor
  · rintro ⟨b', hb', -, hy⟩
    obtain rfl : b = b' := Option.some.inj (hb.symm.trans hb')
    exact hy
  · exact fun hy => ⟨b, hb, hnative, hy⟩

theorem Finished.nativeBindings_eq (h : Finished clusterId planned c c')
    (hcluster : ∀ plan, planned plan → plan.role.metadata.target.clusterId = clusterId) :
    nativeBindings clusterId c' = finalBindings clusterId planned c := by
  ext ⟨key, y⟩
  by_cases hplanned : ∃ plan, planned plan ∧ plan.key = key
  · obtain ⟨plan, hplan, rfl⟩ := hplanned
    obtain ⟨b, hb, hmatches, howned⟩ := (h.inPlace plan hplan).binding
    rw [mem_nativeBindings_of_matches hb (isNative_of_isOwned howned (hcluster plan hplan)) hmatches]
    constructor
    · exact fun hy => .inl ⟨plan, hplan, rfl, hy⟩
    · rintro (⟨plan', hplan', hkey, hy⟩ | ⟨hnone, -⟩)
      · obtain ⟨b', hb', hmatches', -⟩ := (h.inPlace plan' hplan').binding
        have hkey' : plan'.key = plan.key := hkey
        rw [hkey', hb] at hb'
        obtain rfl := Option.some.inj hb'
        exact hy.trans ((bindingMatches_iff.mp hmatches').symm.trans (bindingMatches_iff.mp hmatches))
      · exact absurd rfl (hnone plan hplan)
  · push Not at hplanned
    by_cases hleftover : Leftover clusterId planned c key
    · refine iff_of_false ?_ ?_
      · rintro ⟨b, hb, -⟩
        rw [h.gone key hleftover] at hb
        cases hb
      · rintro (⟨plan, hplan, hkey, -⟩ | ⟨-, hkept, -⟩)
        · exact hplanned plan hplan hkey
        · exact hkept hleftover
    · have hsame := h.kept key hplanned hleftover
      have hiff : (key, y) ∈ nativeBindings clusterId c' ↔ (key, y) ∈ nativeBindings clusterId c := by
        simp only [nativeBindings, Set.mem_ofPred_eq, hsame]
      rw [hiff]
      constructor
      · exact fun hy => .inr ⟨hplanned, hleftover, hy⟩
      · rintro (⟨plan, hplan, hkey, -⟩ | ⟨-, -, hy⟩)
        · exact absurd hkey (hplanned plan hplan)
        · exact hy

theorem settled_of_finalBindings_eq
    (hsame : finalBindings clusterId planned c = nativeBindings clusterId c) :
    Settled clusterId planned c := by
  refine ⟨fun plan hplan => ?_, fun key b hb hnative => ?_⟩
  · have hmem : (plan.key, some plan.binding.subjects, plan.binding.roleRef) ∈
        finalBindings clusterId planned c := .inl ⟨plan, hplan, rfl, rfl⟩
    rw [hsame] at hmem
    obtain ⟨b, hb, hnative, hcontent⟩ := hmem
    exact ⟨b, hb, hnative, bindingMatches_iff.mpr hcontent.symm⟩
  · have hmem : (key, b.subjects, b.roleRef) ∈ nativeBindings clusterId c := ⟨b, hb, hnative, rfl⟩
    rw [← hsame] at hmem
    rcases hmem with ⟨plan, hplan, hkey, -⟩ | ⟨-, hkept, -⟩
    · exact ⟨plan, hplan, congrArg Prod.snd hkey⟩
    · by_contra hnone
      push Not at hnone
      exact hkept ⟨⟨b, hb, hnative⟩, hnone⟩

theorem Settled.brought (h : Settled clusterId planned c) {part : NativeRbac → Prop}
    (hpart : ∀ p, part p → planned p) (hbrought : Brought part c c')
    (hcluster : ∀ plan, planned plan → plan.role.metadata.target.clusterId = clusterId) :
    nativeBindings clusterId c' = nativeBindings clusterId c := by
  ext ⟨key, y⟩
  by_cases hin : ∃ plan, part plan ∧ plan.key = key
  · obtain ⟨plan, hplan, rfl⟩ := hin
    obtain ⟨b, hb, hmatches, howned⟩ := (hbrought.inPlace plan hplan).binding
    obtain ⟨b₀, hb₀, hnative₀, hmatches₀⟩ := h.1 plan (hpart plan hplan)
    rw [mem_nativeBindings_of_matches hb (isNative_of_isOwned howned (hcluster plan
      (hpart plan hplan))) hmatches, mem_nativeBindings_of_matches hb₀ hnative₀ hmatches₀]
  · push Not at hin
    simp only [nativeBindings, Set.mem_ofPred_eq, (hbrought.untouched key hin).2]

theorem Settled.finished (h : Settled clusterId planned c) :
    finalBindings clusterId planned c = nativeBindings clusterId c := by
  ext ⟨key, y⟩
  constructor
  · rintro (⟨plan, hplan, hkey, hy⟩ | ⟨-, -, hy⟩)
    · obtain ⟨b, hb, hnative, hmatches⟩ := h.1 plan hplan
      have hkey' : plan.key = key := hkey
      rw [hkey'] at hb
      exact (mem_nativeBindings_of_matches hb hnative hmatches y).mpr hy
    · exact hy
  · intro hy
    by_cases hplanned : ∃ plan, planned plan ∧ plan.key = key
    · obtain ⟨plan, hplan, rfl⟩ := hplanned
      obtain ⟨b, hb, hnative, hmatches⟩ := h.1 plan hplan
      exact .inl ⟨plan, hplan, rfl, (mem_nativeBindings_of_matches hb hnative hmatches y).mp hy⟩
    · push Not at hplanned
      refine .inr ⟨hplanned, fun hleftover => ?_, hy⟩
      obtain ⟨b, hb, hnative, -⟩ := hy
      obtain ⟨plan, hplan, hname⟩ := h.2 key b hb hnative
      exact hleftover.2 plan hplan hname

end Bindings

/-! ## Stale scopes -/

def NoStale (clusterId : String) (s : World) : Prop :=
  ∀ user ∈ s.directory.users, user.isActive = true →
    ∀ g ∈ kubeconfigGrants clusterId s.now s.directory user.id, ∀ scope ∈ g.namespaces,
      ¬IsStale s.cluster scope

section Stale

variable {crypto : Crypto} {actor : Option Actor} {clusterId : String} {s : World} {d' : Directory}

theorem Reordered.noStale (h : Reordered s.directory d') (hno : NoStale clusterId s) :
    NoStale clusterId (s.withDirectory d') := by
  intro user huser hactive g hg scope hscope
  obtain ⟨heffective, hkubeconfig⟩ := List.mem_filter.mp hg
  obtain ⟨hblank, stored, hstored, hadmitted, rfl⟩ := mem_listEffectiveGrants_iff.mp heffective
  obtain ⟨namespaces, hmem, hperm⟩ := h.exists_mem_back hstored
  have huid : ∃ scope ∈ namespaces, Text.trim scope.namespaceUid ≠ "" := by
    have hany := hadmitted.2
    simp only [Directory.isEffective, Bool.and_eq_true, List.any_eq_true, bne_iff_ne] at hany
    obtain ⟨-, scope, hscope, huid⟩ := hany
    exact ⟨scope, hperm.mem_iff.mp hscope, huid⟩
  have hadmitted' := (hadmitted.withNamespaces huid).congr h.groupActive.symm h.memberships.symm
    h.clusters.symm
  have hlimited := @limited_withNamespaces user.id s.now _ _ h.groupActive.symm
    h.memberships.symm stored namespaces
  refine hno user (h.users.mem_iff.mpr huser) hactive _ (List.mem_filter.mpr
    ⟨mem_listEffectiveGrants_iff.mpr ⟨hblank, _, hmem, hadmitted', hlimited⟩, hkubeconfig⟩) scope ?_
  exact hperm.mem_iff.mp hscope

theorem noStale_dropStale (clusterId : String) (s : World) :
    NoStale clusterId (s.withDirectory (dropStale s.cluster s.directory)) := by
  intro user huser hactive g hg scope hscope
  obtain ⟨heffective, -⟩ := List.mem_filter.mp hg
  obtain ⟨-, stored, hstored, -, rfl⟩ := mem_listEffectiveGrants_iff.mp heffective
  obtain ⟨original, -, rfl⟩ := List.mem_map.mp hstored
  have hmem : scope ∈ original.namespaces.filter fun scope => !decide (IsStale s.cluster scope) :=
    hscope
  have hlive : ¬IsStale s.cluster scope := by simpa using (List.mem_filter.mp hmem).2
  exact hlive

theorem leftBindings_of_answer (h : Unhindered crypto actor clusterId s) {answer : ReconcileAnswer}
    (hanswer : ((reconcile crypto actor clusterId).run s).1 = .ok answer) :
    leftBindings crypto actor clusterId s =
      finalBindings clusterId (Plans crypto clusterId s) s.cluster := by
  obtain ⟨settings, hsettings, henabled⟩ := h.settings
  have hcalm : Calm clusterId settings.revision s s.now s :=
    ⟨rfl, rfl, rfl, rfl, rfl, settings, hsettings, henabled, rfl⟩
  have hreturns := @returns_reconcile _ _ _ _ _ s.now _
    (reads_calm clusterId settings.revision s) (fun _ _ => trivial) actor h.valid h.collisionFree
  have hrun : (reconcile crypto actor clusterId).run s =
      (.ok answer, ((reconcile crypto actor clusterId).run s).2) := by rw [← hanswer]
  obtain ⟨now, hreads, hfinished⟩ := hreturns.run (fun _ => trivial) ⟨hcalm, rfl⟩ hrun
  obtain rfl := hreads.now
  exact hfinished.nativeBindings_eq fun plan hplan => hplan.clusterId_eq

theorem leftBindings_of_noStale (h : Unhindered crypto actor clusterId s)
    (hno : NoStale clusterId s) : leftBindings crypto actor clusterId s =
      finalBindings clusterId (Plans crypto clusterId s) s.cluster := by
  rcases reconcile_outcome h with ⟨answer, hanswer⟩ | ⟨⟨user, huser, hactive, scope, hscope, hstale⟩, -⟩
  · exact leftBindings_of_answer h hanswer
  · obtain ⟨g, hg, hmem⟩ := List.mem_flatMap.mp (mem_scopesByName hscope)
    exact absurd hstale (hno user huser hactive g hg scope hmem)

theorem leftBindings_of_settled (h : Unhindered crypto actor clusterId s)
    (hsettled : Settled clusterId (Plans crypto clusterId s) s.cluster) :
    leftBindings crypto actor clusterId s = nativeBindings clusterId s.cluster := by
  rcases reconcile_outcome h with ⟨answer, hanswer⟩ | ⟨-, part, hpart, hbrought⟩
  · rw [leftBindings_of_answer h hanswer, hsettled.finished]
  · exact hsettled.brought hpart hbrought fun plan hplan => hplan.clusterId_eq

theorem SameRights.plans_eq (h : SameRights s.cluster s.directory d') :
    Plans crypto clusterId (s.withDirectory d') = Plans crypto clusterId s := by
  funext plan
  exact propext (h.planned_iff plan)

theorem exists_effective_last {d : Directory} {userId : String} {now : Nat} {rest : List Grant}
    {stored : Grant} (hgrants : d.grants = rest ++ [stored]) (hblank : Text.trim userId ≠ "")
    (hadmitted : Admitted d userId now clusterId stored) :
    ∃ others, d.listEffectiveGrants userId now (some clusterId) =
      others ++ [limited d userId now stored] := by
  have hfound : Directory.findGrants { d with grants := [stored] } userId
      ((d.activeMemberships userId now).map (·.groupId)) (some clusterId) = [stored] := by
    have hmem := hadmitted.1
    simp only [Directory.findGrants, List.mem_filter] at hmem
    exact List.filter_cons_of_pos hmem.2
  have hsplit : d.findGrants userId ((d.activeMemberships userId now).map (·.groupId))
      (some clusterId) = Directory.findGrants { d with grants := rest } userId
        ((d.activeMemberships userId now).map (·.groupId)) (some clusterId) ++ [stored] := by
    rw [← hfound]
    simp only [Directory.findGrants, hgrants, List.filter_append]
  rw [Directory.listEffectiveGrants, if_neg hblank]
  dsimp only
  rw [hsplit, List.map_append, List.filter_append, List.map_singleton,
    List.filter_cons_of_pos hadmitted.2]
  exact ⟨_, rfl⟩

theorem exists_stale_first (h : Unhindered crypto actor clusterId s) {user : UserRow}
    (huser : user ∈ s.directory.users) (hactive : user.isActive = true) {g : Grant}
    (hg : g ∈ kubeconfigGrants clusterId s.now s.directory user.id) {scope : NamespaceScope}
    (hscope : scope ∈ g.namespaces) (hstale : IsStale s.cluster scope) :
    ∃ d', Reordered s.directory d' ∧
      leftBindings crypto actor clusterId (s.withDirectory d') = nativeBindings clusterId s.cluster := by
  obtain ⟨heffective, hkubeconfig⟩ := List.mem_filter.mp hg
  obtain ⟨hblank, stored, hstored, hadmitted, rfl⟩ := mem_listEffectiveGrants_iff.mp heffective
  have hmember : scope ∈ stored.namespaces := hscope
  have hscopes : stored.namespaces.Perm (stored.namespaces.erase scope ++ [scope]) :=
    (List.perm_cons_erase hmember).trans (@List.perm_append_comm _ [scope] _)
  let last := Grant.withNamespaces stored (stored.namespaces.erase scope ++ [scope])
  let d' : Directory := { s.directory with
    users := user :: s.directory.users.erase user
    grants := s.directory.grants.erase stored ++ [last] }
  have hreordered : Reordered s.directory d' := by
    refine ⟨List.perm_cons_erase huser, ⟨s.directory.grants.erase stored ++ [stored],
      (List.perm_cons_erase hstored).trans (@List.perm_append_comm _ [stored] _), ?_⟩, rfl, rfl, rfl⟩
    refine List.rel_append (List.forall₂_same.mpr fun other _ => ⟨other.namespaces, rfl, .refl _⟩) ?_
    exact .cons ⟨_, rfl, hscopes⟩ .nil
  have huid : ∃ other ∈ stored.namespaces.erase scope ++ [scope],
      Text.trim other.namespaceUid ≠ "" := by
    have hany := hadmitted.2
    simp only [Directory.isEffective, Bool.and_eq_true, List.any_eq_true, bne_iff_ne] at hany
    obtain ⟨-, other, hother, huid⟩ := hany
    exact ⟨other, hscopes.mem_iff.mp hother, huid⟩
  have hadmitted' : Admitted d' user.id s.now clusterId last :=
    (hadmitted.withNamespaces huid).congr rfl rfl rfl
  obtain ⟨others, heffective'⟩ := exists_effective_last (d := d') rfl hblank hadmitted'
  have hkube : kubeconfigGrants clusterId s.now d' user.id =
      others.filter (·.hasCapability .kubeconfig) ++ [limited d' user.id s.now last] := by
    rw [kubeconfigGrants, heffective', List.filter_append, List.filter_cons_of_pos]
    · rfl
    · exact hkubeconfig
  have hmem : scope ∈ userScopes clusterId (s.withDirectory d') user.id := by
    have hflat : (kubeconfigGrants clusterId s.now d' user.id).flatMap (·.namespaces) =
        ((others.filter (·.hasCapability .kubeconfig)).flatMap (·.namespaces) ++
          stored.namespaces.erase scope) ++ [scope] := by
      have hlast : (limited d' user.id s.now last).namespaces =
          stored.namespaces.erase scope ++ [scope] := rfl
      rw [hkube, List.flatMap_append, List.flatMap_singleton, hlast, List.append_assoc]
    rw [userScopes, World.withDirectory_now, World.withDirectory_directory, hflat]
    exact last_mem_scopesByName _ _
  have hfirst : ∃ rest, findUsers d' clusterId = user :: rest := by
    have hvisited : user ∈ findUsers d' clusterId := mem_findUsers List.mem_cons_self hactive
      (List.mem_of_mem_filter (hkube ▸ List.mem_append_right _ List.mem_cons_self))
    exact ⟨_, List.filter_cons_of_pos (List.mem_filter.mp hvisited).2⟩
  obtain ⟨rest, hrest⟩ := hfirst
  refine ⟨d', hreordered, ?_⟩
  have hkept := reconcile_first_stale (h.withDirectory (hreordered.sameRights s.cluster)) hrest hmem
    hstale
  exact congrArg (nativeBindings clusterId) hkept

end Stale

theorem unhindered_readerWorld : Unhindered readerCrypto administrator "c" (readerWorld ∅) where
  answered _ := rfl
  caller := rfl
  administrator := ⟨⟨"a", true, "admin", 0⟩, List.mem_cons_self, rfl, by decide, rfl, rfl⟩
  namedCluster := by decide
  settings := ⟨⟨true, 1, "pending", none, none, none⟩, rfl, rfl⟩
  live := rfl
  kubeconfig := ⟨⟨false, .ok "https:"⟩, rfl, rfl, rfl⟩
  userIds := by decide
  namedUsers := by decide
  userLimit := by decide
  valid _ _ h := by cases h
  namespaces name uid hlive := by
    rcases live_readerCluster hlive with ⟨rfl, rfl⟩ | ⟨rfl, rfl⟩ <;> decide
  collisionFree := collisionFree_reader ∅
  claimable _ _ := ⟨fun _ h => (by cases h), fun _ h => (by cases h)⟩
  revocable _ _ h := by cases h

/-- The reader's grant for `apps`, with the scope it had before `apps` was recreated. -/
def recreatedDirectory (namespaces : List NamespaceScope) : Directory :=
  { readerDirectory with grants := [Grant.withNamespaces readerGrant namespaces] }

def oldScope : NamespaceScope := ⟨"uid-9", "apps"⟩

def newScope : NamespaceScope := ⟨"uid-1", "apps"⟩

/-- The old scope is read last, and a revoked user's binding is still there. -/
def recreatedWorld : World := revokedWorld.withDirectory (recreatedDirectory [newScope, oldScope])

end KubeNova.Native
