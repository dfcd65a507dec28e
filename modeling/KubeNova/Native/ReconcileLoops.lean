import KubeNova.Native.Reconcile
import KubeNova.Native.RbacSyncSafety

/-!
# The loops of the synchronisation

The loop over the users brings every planned pair in place and touches no other key.  The
sweep removes the KubeNova bindings whose names were not collected, and nothing else.
-/

namespace KubeNova.Native

open KubeNova.Foundation KubeNova.Common KubeNova.Access

/-! ## The planned pairs -/

abbrev NativeRbac.key (plan : NativeRbac) : ObjectKey := plan.role.metadata.target.key

/-- What `planNativeRbac` plans for a user in the live namespaces. -/
def PlannedFor (crypto : Crypto) (clusterId : String) (now : Nat) (d : Directory) (c : RbacCluster)
    (userId : String) (plan : NativeRbac) : Prop :=
  ∃ name uid, c.namespaces.lookup name = some uid ∧ ∃ plans, planNativeRbac crypto ⟨userId, clusterId,
    d.listEffectiveGrants userId now (some clusterId), [⟨name, uid⟩], now⟩ = .ok plans ∧ plan ∈ plans

def Planned (crypto : Crypto) (clusterId : String) (now : Nat) (d : Directory) (c : RbacCluster)
    (plan : NativeRbac) : Prop :=
  ∃ user ∈ d.users, user.isActive = true ∧ PlannedFor crypto clusterId now d c user.id plan

def pairText (clusterId userId namespaceUid : String) : String :=
  Json.stringifyStrings [clusterId, userId, namespaceUid]

def CollisionFree (crypto : Crypto) (clusterId : String) (d : Directory) (c : RbacCluster) : Prop :=
  ∀ user ∈ d.users, ∀ user' ∈ d.users, ∀ name uid, c.namespaces.lookup name = some uid →
    digest crypto (pairText clusterId user.id uid) = digest crypto (pairText clusterId user'.id uid) →
    pairText clusterId user.id uid = pairText clusterId user'.id uid

section Plans

variable {crypto : Crypto} {clusterId userId : String} {now : Nat} {grants : List Grant}

def nativeSubjectText (crypto : Crypto) (clusterId userId : String) : String :=
  "kubenova:native:" ++ digest crypto (Json.stringifyStrings [clusterId, userId])

theorem planNamespaces_eq_ok {input : PlanInput} {subject : String} {seen : List String}
    {scopes : List PlanNamespace} {plans : List NativeRbac}
    (h : planNamespaces crypto input subject seen scopes = .ok plans) :
    (∀ scope ∈ scopes, isNamespaceName scope.name = true ∧ Text.trim scope.uid ≠ "") ∧
      ∀ plan, plan ∈ plans ↔ ∃ scope ∈ scopes, planPair crypto input subject scope = some plan := by
  induction scopes generalizing seen plans with
  | nil =>
      obtain rfl : [] = plans := by simpa [planNamespaces] using h
      simp
  | cons scope scopes ih =>
      simp only [planNamespaces] at h
      split at h
      · cases h
      rename_i hvalid
      push Not at hvalid
      cases hrest : planNamespaces crypto input subject (scope.name :: seen) scopes with
      | error e => simp [hrest, bind, Except.bind] at h
      | ok rest =>
          simp only [hrest, bind, Except.bind, pure, Except.pure, Except.ok.injEq] at h
          subst h
          obtain ⟨hscopes, hplans⟩ := ih hrest
          refine ⟨fun s hs => ?_, fun plan => ?_⟩
          · rcases List.mem_cons.mp hs with rfl | hs
            · exact ⟨by simpa using hvalid.1, hvalid.2.1⟩
            · exact hscopes s hs
          · simp [List.mem_append, hplans, Option.mem_toList]

theorem planNativeRbac_eq_ok {input : PlanInput} {plans : List NativeRbac}
    (h : planNativeRbac crypto input = .ok plans) :
    (Text.trim input.userId ≠ "" ∧ Text.trim input.clusterId ≠ "") ∧
      planNamespaces crypto input (nativeSubjectText crypto input.clusterId input.userId) []
        input.namespaces = .ok plans := by
  unfold planNativeRbac nativeRbacSubject at h
  split at h
  · cases h
  · rename_i hblank
    push Not at hblank
    exact ⟨hblank, h⟩

theorem planPair_eq_some {input : PlanInput} {subject : String} {scope : PlanNamespace}
    {plan : NativeRbac} (h : planPair crypto input subject scope = some plan) :
    plannedGrants input scope ≠ [] ∧ plan.role.metadata = plan.binding.metadata ∧
      plan.role.metadata = ⟨nativeRbacName crypto input.clusterId input.userId scope.uid, scope.name,
        "kubenova", scope.uid, input.clusterId⟩ := by
  unfold planPair at h
  dsimp only at h
  split at h
  · cases h
  · rename_i hgrants
    cases h
    exact ⟨hgrants, rfl, rfl⟩

theorem planPair_kubeconfig (namespaces namespaces' : List PlanNamespace) (subject : String)
    (scope : PlanNamespace) :
    planPair crypto ⟨userId, clusterId, grants.filter (·.hasCapability .kubeconfig), namespaces, now⟩
        subject scope =
      planPair crypto ⟨userId, clusterId, grants, namespaces', now⟩ subject scope := by
  have hgrants : plannedGrants ⟨userId, clusterId, grants.filter (·.hasCapability .kubeconfig),
      namespaces, now⟩ scope = plannedGrants ⟨userId, clusterId, grants, namespaces', now⟩ scope := by
    simp only [plannedGrants, List.filter_filter]
    refine List.filter_congr fun g _ => ?_
    cases g.hasCapability .kubeconfig <;> simp
  unfold planPair
  rw [hgrants]

theorem exists_plan_single_iff {name uid : String} {plan : NativeRbac} :
    (∃ plans, planNativeRbac crypto ⟨userId, clusterId, grants, [⟨name, uid⟩], now⟩ = .ok plans ∧
        plan ∈ plans) ↔
      (Text.trim userId ≠ "" ∧ Text.trim clusterId ≠ "") ∧
        (isNamespaceName name = true ∧ Text.trim uid ≠ "") ∧
        planPair crypto ⟨userId, clusterId, grants, [⟨name, uid⟩], now⟩
          (nativeSubjectText crypto clusterId userId) ⟨name, uid⟩ = some plan := by
  constructor
  · rintro ⟨plans, hplans, hplan⟩
    obtain ⟨hblank, hnamespaces⟩ := planNativeRbac_eq_ok hplans
    obtain ⟨hvalid, hmem⟩ := planNamespaces_eq_ok hnamespaces
    obtain ⟨scope, hscope, hpair⟩ := (hmem plan).mp hplan
    obtain rfl : scope = ⟨name, uid⟩ := by simpa using hscope
    exact ⟨hblank, hvalid ⟨name, uid⟩ (by simp), hpair⟩
  · rintro ⟨⟨huser, hcluster⟩, ⟨hname, huid⟩, hpair⟩
    unfold nativeSubjectText at hpair
    refine ⟨[plan], ?_, by simp⟩
    simp [planNativeRbac, nativeRbacSubject, huser, hcluster, planNamespaces, hname, huid, hpair,
      bind, Except.bind, pure, Except.pure]

end Plans

section Planned

variable {crypto : Crypto} {clusterId userId : String} {now : Nat} {d : Directory} {c : RbacCluster}
  {plan : NativeRbac}

theorem plannedFor_iff : PlannedFor crypto clusterId now d c userId plan ↔
    ∃ name uid, c.namespaces.lookup name = some uid ∧
      (Text.trim userId ≠ "" ∧ Text.trim clusterId ≠ "") ∧
      (isNamespaceName name = true ∧ Text.trim uid ≠ "") ∧
      planPair crypto ⟨userId, clusterId, d.listEffectiveGrants userId now (some clusterId),
        [⟨name, uid⟩], now⟩ (nativeSubjectText crypto clusterId userId) ⟨name, uid⟩ = some plan := by
  simp only [PlannedFor, exists_plan_single_iff]

theorem PlannedFor.metadata (h : PlannedFor crypto clusterId now d c userId plan) :
    plan.role.metadata = plan.binding.metadata ∧ ∃ name uid, c.namespaces.lookup name = some uid ∧
      plan.role.metadata =
        ⟨nativeRbacName crypto clusterId userId uid, name, "kubenova", uid, clusterId⟩ := by
  obtain ⟨name, uid, hlive, -, -, hpair⟩ := plannedFor_iff.mp h
  obtain ⟨-, hsame, hmetadata⟩ := planPair_eq_some hpair
  exact ⟨hsame, name, uid, hlive, hmetadata⟩

theorem Planned.unique (hfree : CollisionFree crypto clusterId d c) {plan' : NativeRbac}
    (h : Planned crypto clusterId now d c plan) (h' : Planned crypto clusterId now d c plan')
    (hkey : plan.key = plan'.key) : plan = plan' := by
  obtain ⟨user, huser, -, hplan⟩ := h
  obtain ⟨user', huser', -, hplan'⟩ := h'
  obtain ⟨name, uid, hlive, -, -, hpair⟩ := plannedFor_iff.mp hplan
  obtain ⟨name', uid', hlive', -, -, hpair'⟩ := plannedFor_iff.mp hplan'
  have hmeta := (planPair_eq_some hpair).2.2
  have hmeta' := (planPair_eq_some hpair').2.2
  simp only [NativeRbac.key, PairTarget.key, PlanMetadata.target, hmeta, hmeta',
    Prod.mk.injEq] at hkey
  obtain ⟨rfl, hname⟩ := hkey
  obtain rfl : uid = uid' := Option.some.inj (hlive.symm.trans hlive')
  have hdigest : digest crypto (pairText clusterId user.id uid) =
      digest crypto (pairText clusterId user'.id uid) := by
    simpa [nativeRbacName, pairText] using hname
  have htext := hfree user huser user' huser' name uid hlive hdigest
  obtain ⟨-, hid, -⟩ : clusterId = clusterId ∧ user.id = user'.id ∧ uid = uid := by
    simpa using Json.stringifyStrings_injective htext
  rw [← hid] at hpair'
  exact Option.some.inj (hpair.symm.trans hpair')

end Planned

theorem mem_setScope {scope first : NamespaceScope} {map : List NamespaceScope} :
    first ∈ setScope scope map → first = scope ∨ first ∈ map := by
  induction map with
  | nil => simp [setScope]
  | cons head rest ih =>
      simp only [setScope]
      split
      · intro h
        rcases List.mem_cons.mp h with rfl | h
        · exact .inl rfl
        · exact .inr (List.mem_cons_of_mem _ h)
      · intro h
        rcases List.mem_cons.mp h with rfl | h
        · exact .inr List.mem_cons_self
        · exact (ih h).imp_right (List.mem_cons_of_mem _)

theorem mem_setScope_self (scope : NamespaceScope) (map : List NamespaceScope) :
    scope ∈ setScope scope map := by
  induction map with
  | nil => simp [setScope]
  | cons head rest ih =>
      simp only [setScope]
      split
      · exact List.mem_cons_self
      · exact List.mem_cons_of_mem _ ih

theorem names_setScope (scope : NamespaceScope) (map : List NamespaceScope) {name : String} :
    name ∈ (setScope scope map).map (·.namespaceName) ↔
      name = scope.namespaceName ∨ name ∈ map.map (·.namespaceName) := by
  induction map with
  | nil => simp [setScope]
  | cons head rest ih =>
      simp only [setScope]
      split
      · rename_i hsame
        simp [hsame]
      · simp only [List.map_cons, List.mem_cons, ih]
        tauto

theorem mem_scopesByName {scopes : List NamespaceScope} {scope : NamespaceScope}
    (h : scope ∈ scopesByName scopes) : scope ∈ scopes := by
  suffices ∀ map, scope ∈ scopes.foldl (fun map s => setScope s map) map →
      scope ∈ map ∨ scope ∈ scopes by simpa using this [] h
  clear h
  induction scopes with
  | nil => exact fun map h => .inl h
  | cons first rest ih =>
      intro map h
      rcases ih _ h with h | h
      · rcases mem_setScope h with rfl | h
        · exact .inr List.mem_cons_self
        · exact .inl h
      · exact .inr (List.mem_cons_of_mem _ h)

theorem exists_mem_scopesByName {scopes : List NamespaceScope} {scope : NamespaceScope}
    (h : scope ∈ scopes) :
    ∃ last ∈ scopesByName scopes, last.namespaceName = scope.namespaceName := by
  have hnames : ∀ (map : List NamespaceScope) (name : String),
      name ∈ (scopes.foldl (fun map s => setScope s map) map).map (·.namespaceName) ↔
        name ∈ map.map (·.namespaceName) ∨ name ∈ scopes.map (·.namespaceName) := by
    clear h
    induction scopes with
    | nil => simp
    | cons first rest ih =>
        intro map name
        rw [List.foldl_cons, ih, names_setScope]
        simp only [List.map_cons, List.mem_cons]
        tauto
  have hname := (hnames [] scope.namespaceName).mpr (.inr (List.mem_map.mpr ⟨scope, h, rfl⟩))
  simpa [scopesByName] using hname

structure Resolved (c : RbacCluster) (scopes : List NamespaceScope)
    (namespaces : List PlanNamespace) : Prop where
  live : ∀ scope ∈ scopes, scope.namespaceName ≠ "" →
    c.namespaces.lookup scope.namespaceName = some scope.namespaceUid
  namespaces_eq : namespaces = (scopes.filter (·.namespaceName != "")).map fun scope =>
    ⟨scope.namespaceName, scope.namespaceUid⟩

theorem Resolved.mem_iff {c : RbacCluster} {scopes : List NamespaceScope}
    {namespaces : List PlanNamespace} (h : Resolved c scopes namespaces) (ns : PlanNamespace) :
    ns ∈ namespaces ↔ ∃ scope ∈ scopes, scope.namespaceName ≠ "" ∧
      ns = ⟨scope.namespaceName, scope.namespaceUid⟩ := by
  simp only [h.namespaces_eq, List.mem_map, List.mem_filter, bne_iff_ne, and_assoc]
  exact exists_congr fun scope => and_congr_right fun _ => and_congr_right fun _ => eq_comm

theorem mem_userPlans_iff {crypto : Crypto} {clusterId userId : String} {now : Nat} {d : Directory}
    {c : RbacCluster} {namespaces : List PlanNamespace} {plans : List NativeRbac}
    (hresolved : Resolved c (scopesByName ((kubeconfigGrants clusterId now d userId).flatMap
      (·.namespaces))) namespaces)
    (hplans : planNativeRbac crypto
      ⟨userId, clusterId, kubeconfigGrants clusterId now d userId, namespaces, now⟩ = .ok plans)
    (plan : NativeRbac) :
    plan ∈ plans ↔ PlannedFor crypto clusterId now d c userId plan := by
  obtain ⟨hblank, hnamespaces⟩ := planNativeRbac_eq_ok hplans
  obtain ⟨hvalid, hmem⟩ := planNamespaces_eq_ok hnamespaces
  rw [hmem, plannedFor_iff]
  constructor
  · rintro ⟨ns, hns, hpair⟩
    obtain ⟨scope, hscope, hname, rfl⟩ := (hresolved.mem_iff ns).mp hns
    refine ⟨_, _, hresolved.live scope hscope hname, hblank,
      hvalid ⟨scope.namespaceName, scope.namespaceUid⟩ hns, ?_⟩
    rw [← hpair]
    exact (planPair_kubeconfig _ _ _ _).symm
  · rintro ⟨name, uid, hlive, -, ⟨hname, huid⟩, hpair⟩
    obtain ⟨hgrants, -, -⟩ := planPair_eq_some hpair
    obtain ⟨g, hg⟩ := List.exists_mem_of_ne_nil _ hgrants
    simp only [plannedGrants, List.mem_filter, Bool.and_eq_true, List.any_eq_true,
      beq_iff_eq] at hg
    obtain ⟨hg, ⟨-, scope, hscope, hscopeUid, hscopeName⟩, hkubeconfig⟩ := hg
    -- the name is kept, and its last scope is the live one
    have hall : scope ∈ (kubeconfigGrants clusterId now d userId).flatMap (·.namespaces) :=
      List.mem_flatMap.mpr ⟨g, List.mem_filter.mpr ⟨hg, hkubeconfig⟩, hscope⟩
    obtain ⟨last, hlast, hlastName⟩ := exists_mem_scopesByName hall
    have hnonempty : last.namespaceName ≠ "" := by
      intro hempty
      rw [hlastName, hscopeName] at hempty
      rw [hempty] at hname
      exact absurd hname (by decide)
    have hlastLive := hresolved.live last hlast hnonempty
    rw [hlastName, hscopeName, hlive] at hlastLive
    refine ⟨⟨name, uid⟩, (hresolved.mem_iff _).mpr ⟨last, hlast, hnonempty, ?_⟩, ?_⟩
    · rw [hlastName, hscopeName, Option.some.inj hlastLive]
    · rw [← hpair]
      exact planPair_kubeconfig _ _ _ _

theorem PlannedFor.congr {crypto : Crypto} {clusterId userId : String} {now : Nat} {d : Directory}
    {c c' : RbacCluster} (hsame : c'.namespaces = c.namespaces) (plan : NativeRbac) :
    PlannedFor crypto clusterId now d c' userId plan ↔
      PlannedFor crypto clusterId now d c userId plan := by
  simp only [PlannedFor, hsame]

section Loops

variable {C : Contract World} {F : World → Prop} {α : Type} {crypto : Crypto} {clusterId : String}
  {revision now : Nat} {d : Directory} {c : RbacCluster}

theorem returns_at {P : RbacCluster → Prop} {h : RbacHandler α} {R : α → World → Prop}
    (hh : ∀ c, P c → Returns C (At F (· = c)) h R) : Returns C (At F P) h R :=
  fun s hs => (hh s.cluster hs.2).guards ⟨hs.1, rfl⟩

variable (hC : Alone C F) (hguar : ∀ s t, C.guar s t) (hdir : ∀ s, F s → s.directory = d)

include hC hguar

theorem triple_readCall {f : RbacCluster → Except Exception α} {P : RbacCluster → Prop} :
    Triple C (At F P) (readCall f) fun r => At F fun c => P c ∧ ∀ a, r = .ok a → f c = .ok a := by
  refine .exec_ofExcept (hC.stable P) (fun s hs _ => ⟨hguar _ _, ?_⟩) fun r =>
    hC.stable fun c => P c ∧ ∀ a, r = .ok a → f c = .ok a
  have hserved := hC.served s s.cluster hs.1
  unfold World.serve
  split
  · exact ⟨hserved, hs.2, fun a ha => ha⟩
  · exact ⟨hserved, hs.2, fun a ha => by cases ha⟩
  · exact ⟨hserved, hs.2, fun a ha => by cases ha⟩

omit hguar in
theorem quiet_assertConfig : Quiet C F (assertConfig clusterId revision) := by
  intro P
  refine .bind (S := fun _ => At F P) (.query_bind (hC.stable P) fun s hs _ => ⟨At F P, hs, ?_⟩)
    fun current => ?_
  · split
    · exact .done (hC.stable P) fun _ hs => hs
    · exact .fail (hC.stable P)
  · exact .conseq (.ensure (hC.stable P)) (fun _ hs => hs) fun _ _ hs => hs.2

omit hguar in
theorem quiet_assertCurrent {userId : String} {authzVersion : Nat} :
    Quiet C F (assertCurrent clusterId revision userId authzVersion) := by
  intro P
  refine .bind (quiet_assertConfig hC P) fun _ => ?_
  refine .query_bind (hC.stable P) fun s hs _ => ⟨At F P, hs, ?_⟩
  exact .conseq (.ensure (hC.stable P)) (fun _ hs => hs) fun _ _ hs => hs.2

theorem returns_readIdentity {namespaceName : String} :
    Returns C (At F (· = c)) (readIdentity namespaceName) fun answer => At F fun c' =>
      c' = c ∧ ∀ uid, answer = some uid → c.namespaces.lookup namespaceName = some uid := by
  refine .query_bind (hC.stable (· = c)) fun s hs _ => ⟨At F (· = c), hs, ?_⟩
  refine .ite (fun _ => ?_) fun _ => ?_
  · exact .done (hC.stable (· = c)) fun s hs => ⟨hs.1, hs.2, fun uid h => by cases h⟩
  · refine .bind (S := fun r => At F fun c' => c' = c ∧ ∀ uid, r = .ok uid →
      c.namespaces.lookup namespaceName = some uid)
      ((triple_readCall hC hguar (P := (· = c))).toExcept.conseq (fun _ hs => hs) ?_) fun r => ?_
    · rintro r s ⟨r', rfl, hF, rfl, hr⟩ a ha
      obtain rfl := Except.ok.inj ha
      refine ⟨hF, rfl, fun uid huid => ?_⟩
      have hfound := hr uid huid
      split at hfound
      · rename_i found hlookup
        obtain rfl := Except.ok.inj hfound
        exact hlookup
      · cases hfound
    · refine .done (hC.stable fun c' => c' = c ∧ ∀ uid, r = .ok uid →
        c.namespaces.lookup namespaceName = some uid) fun s hs => ⟨hs.1, hs.2.1, fun uid huid => ?_⟩
      cases r with
      | ok found => exact hs.2.2 uid (congrArg Except.ok (Option.some.inj huid))
      | error e => cases huid

theorem returns_resolveIdentity {namespaceName : String} :
    Returns C (At F (· = c)) (resolveIdentity clusterId namespaceName) fun uid => At F fun c' =>
      c' = c ∧ c.namespaces.lookup namespaceName = some uid := by
  have hstable : ∀ answer : Option String, Stable C (At F fun c' => c' = c ∧ ∀ uid,
      answer = some uid → c.namespaces.lookup namespaceName = some uid) := fun answer => hC.stable _
  refine .bind (S := fun answer => At F fun c' => c' = c ∧ ∀ uid, answer = some uid →
    c.namespaces.lookup namespaceName = some uid) ?_ fun answer => ?_
  · refine .ite (fun _ => ?_) fun _ => ?_
    · exact .done (hC.stable (· = c)) fun s hs => ⟨hs.1, hs.2, fun uid h => by cases h⟩
    · exact returns_readIdentity hC hguar
  · cases hresolved : resolveNamespace (fun _ _ => answer) clusterId namespaceName with
    | error e => exact .fail (hstable answer)
    | ok uid =>
        obtain ⟨hanswer, -, -⟩ := resolveNamespace_eq_ok hresolved
        exact .done (hstable answer) fun s hs => ⟨hs.1, hs.2.1, hs.2.2 uid hanswer⟩

theorem returns_resolveScopes (scopes : List NamespaceScope) :
    Returns C (At F (· = c)) (resolveScopes clusterId scopes) fun namespaces => At F fun c' =>
      c' = c ∧ Resolved c scopes namespaces := by
  induction scopes with
  | nil => exact .done (hC.stable (· = c)) fun s hs => ⟨hs.1, hs.2, by simp, by simp⟩
  | cons scope rest ih =>
      unfold resolveScopes
      refine .ite (fun hempty => ?_) fun hname => ?_
      · refine .conseq ih (fun _ hs => hs) fun namespaces s hs => ⟨hs.1, hs.2.1, ?_, ?_⟩
        · simpa [hempty] using hs.2.2.live
        · simpa [hempty] using hs.2.2.namespaces_eq
      · refine .bind (returns_resolveIdentity hC hguar) fun uid => ?_
        refine .ensure_bind (hC.stable fun c' => c' = c ∧
          c.namespaces.lookup scope.namespaceName = some uid) fun huid => ?_
        subst huid
        refine fun s hs => ?_
        obtain ⟨hF, hc, hlive⟩ := hs
        refine Returns.guards (p := At F (· = c)) (.bind ih fun namespaces => ?_) ⟨hF, hc⟩
        refine .done (hC.stable fun c' => c' = c ∧ Resolved c rest namespaces) fun s hs => ?_
        obtain ⟨hF, hc, hrest⟩ := hs
        refine ⟨hF, hc, fun other hother => ?_, ?_⟩
        · rcases List.mem_cons.mp hother with rfl | hother
          · exact fun _ => hlive
          · exact hrest.live other hother
        · simp [hrest.namespaces_eq, hname]

/-! ## The loop over the users -/

structure InPlace (plan : NativeRbac) (c : RbacCluster) : Prop where
  role : ∃ r, c.roles.lookup plan.key = some r ∧ roleMatches plan r = true ∧
    r.metadata.isOwned plan.role.metadata.target = true
  binding : ∃ b, c.bindings.lookup plan.key = some b ∧ bindingMatches plan b = true ∧
    b.metadata.isOwned plan.role.metadata.target = true

structure Brought (done : NativeRbac → Prop) (c c' : RbacCluster) : Prop where
  namespaces : c'.namespaces = c.namespaces
  inPlace : ∀ plan, done plan → InPlace plan c'
  untouched : ∀ key, (∀ plan, done plan → plan.key ≠ key) →
    c'.roles.lookup key = c.roles.lookup key ∧ c'.bindings.lookup key = c.bindings.lookup key

omit hC hguar in
theorem Brought.step {done : NativeRbac → Prop} {c' c'' : RbacCluster} {plan : NativeRbac}
    (h : Brought done c c') (happlied : Applied plan c' c'')
    (hmanaged : plan.role.metadata.managedBy = "kubenova")
    (hunique : ∀ q, done q → q.key = plan.key → q = plan) :
    Brought (fun q => done q ∨ q = plan) c c'' := by
  have hplan : InPlace plan c'' := by
    obtain ⟨r, hr, hmatches, howned⟩ := happlied.role
    obtain ⟨b, hb, hbmatches, hbowned⟩ := happlied.binding
    exact ⟨⟨r, hr, hmatches, howned hmanaged⟩, ⟨b, hb, hbmatches, hbowned hmanaged⟩⟩
  refine ⟨happlied.only.namespaces.trans h.namespaces, fun q hq => ?_, fun key hkey => ?_⟩
  · rcases hq with hq | rfl
    · by_cases hsame : q.key = plan.key
      · rw [hunique q hq hsame]
        exact hplan
      · obtain ⟨hrole, hbinding⟩ := h.inPlace q hq
        rw [← happlied.only.roles _ hsame] at hrole
        rw [← happlied.only.bindings _ hsame] at hbinding
        exact ⟨hrole, hbinding⟩
    · exact hplan
  · have hne : key ≠ plan.key := fun hsame => hkey plan (.inr rfl) hsame.symm
    obtain ⟨hroles, hbindings⟩ := h.untouched key fun q hq => hkey q (.inl hq)
    exact ⟨(happlied.only.roles key hne).trans hroles,
      (happlied.only.bindings key hne).trans hbindings⟩

omit hC hguar in
theorem Brought.congr {done done' : NativeRbac → Prop} {c' : RbacCluster} (h : Brought done c c')
    (hsame : ∀ plan, done plan ↔ done' plan) : Brought done' c c' where
  namespaces := h.namespaces
  inPlace plan hplan := h.inPlace plan ((hsame plan).mpr hplan)
  untouched key hkey := h.untouched key fun plan hplan => hkey plan ((hsame plan).mp hplan)

def Collected (before : List String) (plans : NativeRbac → Prop) (after : List String) : Prop :=
  ∀ name, name ∈ after ↔ name ∈ before ∨ ∃ plan, plans plan ∧ plan.role.metadata.name = name

variable {P : NativeRbac → Prop} (hunique : ∀ p q, P p → P q → p.key = q.key → p = q)
  (hmanaged : ∀ p, P p → p.role.metadata.managedBy = "kubenova")

include hunique hmanaged

theorem returns_bringPair {guard : RbacHandler Unit} (hcurrent : Quiet C F guard)
    {plan : NativeRbac} {done : NativeRbac → Prop} (hplan : P plan) (hdone : ∀ p, done p → P p) :
    Returns C (At F (Brought done c)) (reconcileNativeRbacPair plan false guard) fun _ =>
      At F (Brought (fun q => done q ∨ q = plan) c) := by
  refine returns_at fun c' hc' => ?_
  refine .conseq (returns_reconcileNativeRbacPair hC (fun _ _ _ => hguar _ _) hcurrent c')
    (fun _ hs => hs) fun _ s hs => ⟨hs.1, ?_⟩
  have happlied : Applied plan c' s.cluster := hs.2
  exact hc'.step happlied (hmanaged plan hplan)
    fun q hq hsame => hunique q plan (hdone q hq) hplan hsame

theorem returns_applyPlans {guard : RbacHandler Unit} (hcurrent : Quiet C F guard)
    (plans : List NativeRbac) (desired : List String) (done : NativeRbac → Prop)
    (hplans : ∀ p ∈ plans, P p) (hdone : ∀ p, done p → P p) :
    Returns C (At F (Brought done c)) (applyPlans guard plans desired) fun desired' s =>
      Collected desired (· ∈ plans) desired' ∧
        At F (Brought (fun q => done q ∨ q ∈ plans) c) s := by
  induction plans generalizing desired done with
  | nil =>
      refine .done (hC.stable (Brought done c)) fun s hs => ⟨fun name => by simp, hs.1, ?_⟩
      exact hs.2.congr fun plan => by simp
  | cons plan rest ih =>
      have hplan := hplans plan List.mem_cons_self
      refine .bind (returns_bringPair hC hguar hunique hmanaged hcurrent hplan hdone) fun _ => ?_
      refine .conseq (ih (desired.insert plan.role.metadata.name) (fun q => done q ∨ q = plan)
        (fun p hp => hplans p (List.mem_cons_of_mem _ hp)) fun p hp => ?_) (fun _ hs => hs)
        fun desired' s hs => ⟨fun name => ?_, hs.2.1, hs.2.2.congr fun q => ?_⟩
      · exact hp.elim (hdone p) fun h => h ▸ hplan
      · rw [hs.1 name, List.mem_insert_iff]
        simp only [List.mem_cons, exists_eq_or_imp]
        rw [eq_comm (a := name)]
        tauto
      · simp [or_assoc]

include hdir

theorem returns_reconcileUser {user : UserRow} {desired : List String} {done : NativeRbac → Prop}
    (hplans : ∀ p, PlannedFor crypto clusterId now d c user.id p → P p) (hdone : ∀ p, done p → P p) :
    Returns C (At F (Brought done c)) (reconcileUser crypto clusterId revision now user desired)
      fun desired' s => Collected desired (PlannedFor crypto clusterId now d c user.id) desired' ∧
        At F (Brought (fun q => done q ∨ PlannedFor crypto clusterId now d c user.id q) c) s := by
  refine .query_bind (hC.stable (Brought done c)) fun s hs _ => ⟨At F (Brought done c), hs, ?_⟩
  rw [hdir s hs.1]
  refine returns_at fun c' hc' => ?_
  refine .bind (returns_resolveScopes hC hguar (c := c') _) fun namespaces => ?_
  refine .ofExcept_bind (hC.stable _) fun plans hok => ?_
  refine fun s hs => ?_
  obtain ⟨hF, rfl, hresolved⟩ := hs
  have hmem : ∀ plan, plan ∈ plans ↔ PlannedFor crypto clusterId now d c user.id plan :=
    fun plan => (mem_userPlans_iff hresolved hok plan).trans (PlannedFor.congr hc'.namespaces plan)
  refine Returns.guards (p := At F (Brought done c)) ?_ ⟨hF, hc'⟩
  refine .conseq (returns_applyPlans hC hguar hunique hmanaged (quiet_assertCurrent hC) plans desired
    done (fun p hp => hplans p ((hmem p).mp hp)) hdone) (fun _ hs => hs) fun desired' s hs => ?_
  refine ⟨fun name => ?_, hs.2.1, hs.2.2.congr fun plan => by rw [hmem]⟩
  rw [hs.1 name]
  simp only [hmem]

theorem returns_reconcileUsers (users : List UserRow) {desired : List String}
    {done : NativeRbac → Prop} (hdone : ∀ p, done p → P p)
    (hplans : ∀ user ∈ users, ∀ p, PlannedFor crypto clusterId now d c user.id p → P p) :
    Returns C (At F (Brought done c)) (reconcileUsers crypto clusterId revision now users desired)
      fun desired' s => Collected desired (fun q => ∃ user ∈ users,
          PlannedFor crypto clusterId now d c user.id q) desired' ∧
        At F (Brought (fun q => done q ∨ ∃ user ∈ users,
          PlannedFor crypto clusterId now d c user.id q) c) s := by
  induction users generalizing desired done with
  | nil =>
      refine .done (hC.stable (Brought done c)) fun s hs => ⟨fun name => by simp, hs.1, ?_⟩
      exact hs.2.congr fun plan => by simp
  | cons user rest ih =>
      have huser := hplans user List.mem_cons_self
      refine .bind (returns_reconcileUser hC hguar hdir hunique hmanaged huser hdone)
        fun desired₁ => .of_fact fun hcollected => ?_
      refine .conseq (ih (fun p hp => hp.elim (hdone p) (huser p))
        fun u hu => hplans u (List.mem_cons_of_mem _ hu)) (fun _ hs => hs) fun desired' s hs => ?_
      refine ⟨fun name => ?_, hs.2.1, hs.2.2.congr fun q => ?_⟩
      · rw [hs.1 name, hcollected name]
        simp only [List.mem_cons, or_and_right, exists_or, exists_eq_left, or_assoc]
      · simp [or_assoc]

end Loops

theorem mem_findUsers {d : Directory} {clusterId : String} {now : Nat} {user : UserRow} {g : Grant}
    (huser : user ∈ d.users) (hactive : user.isActive = true)
    (hg : g ∈ d.listEffectiveGrants user.id now (some clusterId)) : user ∈ findUsers d clusterId := by
  simp only [Directory.listEffectiveGrants, if_neg (Directory.userId_ne_empty_of_mem hg),
    List.mem_filter, List.mem_map, Directory.findGrants, Option.all_some, Bool.and_eq_true,
    Bool.or_eq_true, beq_iff_eq, Option.any_eq_true, List.contains_iff_mem] at hg
  obtain ⟨⟨stored, ⟨hstored, ⟨⟨⟨hcluster, -⟩, -⟩, -⟩, hprincipal⟩, -⟩, -⟩ := hg
  refine List.mem_filter.mpr ⟨huser, ?_⟩
  simp only [Bool.and_eq_true, Bool.or_eq_true, hactive, true_and, grantedIn, List.any_eq_true,
    List.mem_filter, beq_iff_eq]
  rcases hprincipal with hself | ⟨id, hid, m, hm, rfl⟩
  · exact .inl ⟨stored, ⟨hstored, hself⟩, hcluster.symm⟩
  · simp only [Directory.activeMemberships, List.mem_filter, Bool.and_eq_true, beq_iff_eq] at hm
    obtain ⟨hm, ⟨⟨⟨hmember, hstate⟩, -⟩, -⟩, -⟩ := hm
    exact .inr ⟨m, hm, ⟨hmember, hstate⟩, stored, ⟨hstored, hid⟩, hcluster.symm⟩

theorem exists_findUsers_plannedFor_iff {crypto : Crypto} {clusterId : String} {now : Nat}
    {d : Directory} {c : RbacCluster} (plan : NativeRbac) :
    (∃ user ∈ findUsers d clusterId, PlannedFor crypto clusterId now d c user.id plan) ↔
      Planned crypto clusterId now d c plan := by
  constructor
  · rintro ⟨user, huser, hplan⟩
    simp only [findUsers, List.mem_filter, Bool.and_eq_true] at huser
    exact ⟨user, huser.1, huser.2.1, hplan⟩
  · rintro ⟨user, huser, hactive, hplan⟩
    obtain ⟨name, uid, -, -, -, hpair⟩ := plannedFor_iff.mp hplan
    obtain ⟨hgrants, -, -⟩ := planPair_eq_some hpair
    obtain ⟨g, hg⟩ := List.exists_mem_of_ne_nil _ hgrants
    rw [plannedGrants] at hg
    have hkube := List.mem_of_mem_filter hg
    dsimp only at hkube
    have hvisited := mem_findUsers huser hactive hkube
    exact ⟨user, hvisited, hplan⟩

/-- The pairs under these keys are gone, and everything else is as it was. -/
structure Swept (keys : ObjectKey → Prop) (c c' : RbacCluster) : Prop where
  namespaces : c'.namespaces = c.namespaces
  gone : ∀ key, keys key → c'.bindings.lookup key = none
  kept : ∀ key, ¬keys key →
    c'.roles.lookup key = c.roles.lookup key ∧ c'.bindings.lookup key = c.bindings.lookup key

theorem Swept.refl {keys : ObjectKey → Prop} (hnone : ∀ key, ¬keys key) (c : RbacCluster) :
    Swept keys c c :=
  ⟨rfl, fun key h => absurd h (hnone key), fun _ _ => ⟨rfl, rfl⟩⟩

theorem Swept.trans {first second keys : ObjectKey → Prop} {c c' c'' : RbacCluster}
    (h : Swept first c c') (h' : Swept second c' c'')
    (hgone : ∀ key, keys key ↔ first key ∨ second key) : Swept keys c c'' := by
  refine ⟨h'.namespaces.trans h.namespaces, fun key hkey => ?_, fun key hkey => ?_⟩
  · by_cases hsecond : second key
    · exact h'.gone key hsecond
    · have hfirst := ((hgone key).mp hkey).resolve_right hsecond
      rw [(h'.kept key hsecond).2, h.gone key hfirst]
  · have hneither := (not_congr (hgone key)).mp hkey
    push Not at hneither
    obtain ⟨hroles, hbindings⟩ := h.kept key hneither.1
    obtain ⟨hroles', hbindings'⟩ := h'.kept key hneither.2
    exact ⟨hroles'.trans hroles, hbindings'.trans hbindings⟩

section Sweep

variable {C : Contract World} {F : World → Prop} {clusterId : String} {revision : Nat}
  {desired : List String} {c : RbacCluster} (hC : Alone C F) (hguar : ∀ s t, C.guar s t)

include hC hguar

theorem returns_revokeOwned {guard : RbacHandler Unit} (hcurrent : Quiet C F guard)
    (target : PairTarget) :
    Returns C (At F (· = c)) (revokeOwnedNativeRbacPair target guard) fun _ =>
      At F (Removed target.key c) := by
  have hM : Permits C fun _ _ => True := fun _ _ _ => hguar _ _
  have hrefl : ∀ c : RbacCluster, (fun _ _ => True : RbacCluster → RbacCluster → Prop) c c :=
    fun _ => trivial
  refine .ensure_bind (hC.stable (· = c)) fun _ => ?_
  refine .bind (hcurrent (· = c)) fun _ => ?_
  refine .bind (returns_checkNamespace hC hM hrefl (· = c) target) fun _ => ?_
  refine .bind (returns_readBinding hC hM hrefl (fun c' => _ ∧ c' = c) target.key) fun binding => ?_
  refine .ensure_bind (hC.stable _) fun _ => ?_
  refine fun s hs => ?_
  obtain ⟨hF, hbinding, -, rfl⟩ := hs
  refine Returns.guards (p := At F (· = s.cluster)) ?_ ⟨hF, rfl⟩
  refine .bind (returns_removeBinding hC hM hrefl hbinding fun _ _ => trivial) fun _ => ?_
  refine .bind (returns_readRole hC hM hrefl (Unbound target.key s.cluster) target.key)
    fun role => ?_
  refine .ensure_bind (hC.stable _) fun _ => ?_
  refine fun s₁ hs₁ => ?_
  obtain ⟨hF₁, hrole, hunbound, -, honly⟩ := hs₁
  refine Returns.guards (p := At F (· = s₁.cluster)) ?_ ⟨hF₁, rfl⟩
  refine .conseq (returns_removeRole hC hM hrefl hrole fun _ _ => trivial) (fun _ hs => hs)
    fun _ s₂ hs₂ => ⟨hs₂.1, ?_⟩
  obtain ⟨hgone, hbindings, honly'⟩ := hs₂.2
  refine ⟨hgone, ?_, honly.trans honly'⟩
  rw [hbindings, hunbound]

theorem returns_sweepBindings (namespaceName : String) (bindings : List (String × RoleBinding)) :
    Returns C (At F (· = c)) (sweepBindings clusterId revision desired namespaceName bindings)
      fun _ => At F (Swept (fun key => key.1 = namespaceName ∧ ∃ b, (key.2, b) ∈ bindings ∧
        isKept clusterId desired key.2 b = false) c) := by
  induction bindings generalizing c with
  | nil =>
      refine .done (hC.stable (· = c)) fun s hs => ⟨hs.1, ?_⟩
      rw [hs.2]
      exact .refl (by simp) c
  | cons entry rest ih =>
      obtain ⟨name, binding⟩ := entry
      unfold sweepBindings
      refine .ite (fun hkept => ?_) fun hkept => ?_
      · refine .conseq ih (fun _ hs => hs) fun _ s hs => ⟨hs.1, ?_⟩
        refine Swept.trans (.refl (fun _ => id) c) hs.2 fun key => ?_
        simp only [List.mem_cons, false_or]
        refine and_congr_right fun _ => exists_congr fun b => ?_
        constructor
        · rintro ⟨hhead | hmem, hunkept⟩
          · obtain ⟨hname, rfl⟩ := Prod.mk.inj hhead
            rw [hname, hkept] at hunkept
            cases hunkept
          · exact ⟨hmem, hunkept⟩
        · exact fun h => ⟨.inr h.1, h.2⟩
      · refine .bind (returns_revokeOwned hC hguar (quiet_assertConfig hC) _) fun _ => ?_
        refine returns_at fun c' hremoved => ?_
        refine .conseq (ih (c := c')) (fun _ hs => hs) fun _ s hs => ⟨hs.1, ?_⟩
        have hfirst : Swept (· = (namespaceName, name)) c c' := by
          refine ⟨hremoved.only.namespaces, fun key hkey => ?_, fun key hkey => ?_⟩
          · rw [hkey]
            exact hremoved.binding
          · exact ⟨hremoved.only.roles key hkey, hremoved.only.bindings key hkey⟩
        refine hfirst.trans hs.2 fun key => ?_
        constructor
        · rintro ⟨hns, b, hmem, hunkept⟩
          rcases List.mem_cons.mp hmem with hhead | hmem
          · exact .inl (Prod.ext hns (Prod.mk.inj hhead).1)
          · exact .inr ⟨hns, b, hmem, hunkept⟩
        · rintro (rfl | ⟨hns, b, hmem, hunkept⟩)
          · exact ⟨rfl, binding, List.mem_cons_self, by simpa using hkept⟩
          · exact ⟨hns, b, List.mem_cons_of_mem _ hmem, hunkept⟩

def Unkept (clusterId : String) (desired : List String) (c : RbacCluster) (key : ObjectKey) : Prop :=
  ∃ b, c.bindings.lookup key = some b ∧ b.metadata.isManaged = true ∧
    isKept clusterId desired key.2 b = false

theorem returns_sweep (names : List String) :
    Returns C (At F (· = c)) (sweep clusterId revision desired names) fun _ => At F (Swept
      (fun key => (key.1 ∈ names ∧ key.1 ≠ "") ∧ Unkept clusterId desired c key) c) := by
  induction names generalizing c with
  | nil =>
      refine .done (hC.stable (· = c)) fun s hs => ⟨hs.1, ?_⟩
      rw [hs.2]
      exact .refl (by simp) c
  | cons name rest ih =>
      unfold sweep
      refine .ite (fun hempty => ?_) fun hname => ?_
      · refine .conseq ih (fun _ hs => hs) fun _ s hs => ⟨hs.1, ?_⟩
        refine Swept.trans (.refl (fun _ => id) c) hs.2 fun key => ?_
        simp only [List.mem_cons, hempty, false_or]
        tauto
      · refine .bind (returns_readCall (M := fun _ _ => True) (P := (· = c)) hC
          (fun _ _ _ => hguar _ _) (fun _ => trivial)) fun bindings => ?_
        refine fun s hs => ?_
        obtain ⟨hF, hread, rfl⟩ := hs
        refine Returns.guards (p := At F (· = s.cluster)) ?_ ⟨hF, rfl⟩
        refine .bind (returns_sweepBindings hC hguar name bindings) fun _ => ?_
        refine returns_at fun c' hfirst => ?_
        refine .conseq (ih (c := c')) (fun _ hs => hs) fun _ s' hs' => ⟨hs'.1, ?_⟩
        refine hfirst.trans hs'.2 fun key => ?_
        have hlisted : (key.1 = name ∧ ∃ b, (key.2, b) ∈ bindings ∧
            isKept clusterId desired key.2 b = false) ↔
              key.1 = name ∧ Unkept clusterId desired s.cluster key := by
          refine and_congr_right fun hkey => exists_congr fun b => ?_
          rw [← and_assoc]
          refine and_congr_left fun _ => ?_
          rw [← Except.ok.inj hread, ← Table.mem_entries_iff]
          obtain ⟨ns, n⟩ := key
          obtain rfl : ns = name := hkey
          simp [List.mem_map, List.mem_filter]
        by_cases hgone : key.1 = name ∧ Unkept clusterId desired s.cluster key
        · refine iff_of_true ⟨⟨?_, ?_⟩, hgone.2⟩ (.inl (hlisted.mpr hgone))
          · rw [hgone.1]
            exact List.mem_cons_self
          · rw [hgone.1]
            exact hname
        · have hsame : Unkept clusterId desired c' key ↔
              Unkept clusterId desired s.cluster key := by
            simp only [Unkept, (hfirst.kept key fun h => hgone (hlisted.mp h)).2]
          rw [hlisted, hsame, List.mem_cons]
          tauto

end Sweep

end KubeNova.Native
