import KubeNova.Native.Agreement
import KubeNova.Native.ReconcileProgress

/-!
# What stops a synchronisation

Where the settings, the calls and the stored objects are in order, only a scope that names a
deleted or recreated namespace stops the run, and it does so between two pairs.
-/

namespace KubeNova.Native

open KubeNova.Foundation KubeNova.Common KubeNova.Access

theorem isNamespaceName_trim {name : String} (h : isNamespaceName name = true) :
    Text.trim name ≠ "" := by
  simp only [isNamespaceName, isName, Bool.and_eq_true] at h
  obtain ⟨c, hhead, hc⟩ := (Option.any_eq_true _ _).mp h.1.1.1
  have htarget : isTargetChar c = true := by simp [isTargetChar, isPathChar, hc]
  exact Text.trim_ne_empty (List.mem_of_mem_head? hhead) (isTargetChar_plain htarget).1

theorem planNamespaces_succeeds {crypto : Crypto} {input : PlanInput} {subject : String}
    {seen : List String} {scopes : List PlanNamespace}
    (hvalid : ∀ scope ∈ scopes, isNamespaceName scope.name = true ∧ Text.trim scope.uid ≠ "")
    (hnodup : (scopes.map (·.name)).Nodup) (hfresh : ∀ scope ∈ scopes, scope.name ∉ seen) :
    ∃ plans, planNamespaces crypto input subject seen scopes = .ok plans := by
  induction scopes generalizing seen with
  | nil => exact ⟨[], rfl⟩
  | cons scope rest ih =>
      obtain ⟨hname, huid⟩ := hvalid scope List.mem_cons_self
      have hnew := hfresh scope List.mem_cons_self
      obtain ⟨hhead, hrest⟩ := List.nodup_cons.mp hnodup
      obtain ⟨plans, hplans⟩ := ih
        (fun s hs => hvalid s (List.mem_cons_of_mem _ hs)) hrest fun s hs hmem => by
          rcases List.mem_cons.mp hmem with hsame | hmem
          · exact hhead (List.mem_map.mpr ⟨s, hs, hsame⟩)
          · exact hfresh s (List.mem_cons_of_mem _ hs) hmem
      refine ⟨(planPair crypto input subject scope).toList ++ plans, ?_⟩
      simp only [planNamespaces, hname, huid, hnew, List.contains_eq_mem, decide_false,
        Bool.true_eq_false, Bool.false_eq_true, or_self, if_false, hplans]
      rfl

theorem nodup_scopesByName (scopes : List NamespaceScope) :
    ((scopesByName scopes).map (·.namespaceName)).Nodup := by
  have hset : ∀ (scope : NamespaceScope) (map : List NamespaceScope),
      (map.map (·.namespaceName)).Nodup → ((setScope scope map).map (·.namespaceName)).Nodup := by
    intro scope map hmap
    induction map with
    | nil => simp [setScope]
    | cons first rest ih =>
        obtain ⟨hhead, hrest⟩ := List.nodup_cons.mp hmap
        simp only [setScope]
        split
        · rename_i hsame
          rw [List.map_cons, ← hsame]
          exact hmap
        · rename_i hne
          refine List.nodup_cons.mpr ⟨fun hmem => ?_, ih hrest⟩
          rcases (names_setScope scope rest).mp hmem with hsame | hmem
          · exact hne hsame
          · exact hhead hmem
  suffices ∀ map : List NamespaceScope, (map.map (·.namespaceName)).Nodup →
      ((scopes.foldl (fun map s => setScope s map) map).map (·.namespaceName)).Nodup from
    this [] List.nodup_nil
  induction scopes with
  | nil => exact fun map hmap => hmap
  | cons scope rest ih => exact fun map hmap => ih _ (hset scope map hmap)

theorem last_mem_scopesByName (scopes : List NamespaceScope) (scope : NamespaceScope) :
    scope ∈ scopesByName (scopes ++ [scope]) := by
  simp only [scopesByName, List.foldl_append, List.foldl_cons, List.foldl_nil]
  exact mem_setScope_self _ _

/-! ## A run that nothing but a stale scope can stop -/

/-- Nothing is wrong with the caller, the settings, the credential, the calls, or the objects
the synchronisation has to write. -/
structure Unhindered (crypto : Crypto) (actor : Option Actor) (clusterId : String) (s : World) :
    Prop where
  answered : ∀ n, s.fate n = .answered
  caller : assertAdministrationPermission (actor.bind (·.role)) = .ok ()
  administrator : ∃ admin ∈ s.directory.users, actor.bind (·.id) = some admin.id ∧ admin.id ≠ "" ∧
    admin.isActive = true ∧ assertAdministrationPermission (some admin.role) = .ok ()
  namedCluster : Text.trim clusterId ≠ ""
  settings : ∃ settings, s.configs clusterId = some settings ∧ settings.enabled = true
  live : (s.directory.clusters clusterId).any ClusterRow.isLive = true
  kubeconfig : ∃ k, s.kubeconfig = some (some k) ∧ k.skipTLSVerify = false ∧
    k.protocol = .ok "https:"
  userIds : (s.directory.users.map (·.id)).Nodup
  namedUsers : ∀ user ∈ s.directory.users, Text.trim user.id ≠ ""
  userLimit : (findUsers s.directory clusterId).length ≤ 5000
  valid : s.cluster.Valid
  namespaces : ∀ name uid, s.cluster.namespaces.lookup name = some uid →
    isNamespaceName name = true ∧ Text.trim uid ≠ ""
  collisionFree : CollisionFree crypto clusterId s.directory s.cluster
  claimable : ∀ plan, Planned crypto clusterId s.now s.directory s.cluster plan →
    Claimable plan.role.metadata.target s.cluster
  revocable : ∀ key b, s.cluster.bindings.lookup key = some b →
    Leftover clusterId (Planned crypto clusterId s.now s.directory s.cluster) s.cluster key →
    Revocable s.cluster key.1 key.2 b

def IsStale (c : RbacCluster) (scope : NamespaceScope) : Prop :=
  scope.namespaceName ≠ "" ∧ c.namespaces.lookup scope.namespaceName ≠ some scope.namespaceUid

structure Calm (clusterId : String) (revision : Nat) (start : World) (now : Nat) (s : World) :
    Prop where
  now : now = start.now
  clock : s.now = start.now
  directory : s.directory = start.directory
  fate : s.fate = start.fate
  kubeconfig : s.kubeconfig = start.kubeconfig
  settings : ∃ settings, s.configs clusterId = some settings ∧ settings.enabled = true ∧
    settings.revision = revision

def aloneContract : Contract World where
  env s t := t = s
  guar _ _ := True
  assumes _ := True
  refl _ := trivial

theorem reads_calm (clusterId : String) (revision : Nat) (start : World) :
    Reads aloneContract start.directory (Calm clusterId revision start) where
  alone now := ⟨fun s t h => congrArg World.cluster h, fun s t hs h => h ▸ hs,
    fun s c hs => ⟨hs.now, hs.clock, hs.directory, hs.fate, hs.kubeconfig, hs.settings⟩⟩
  directory now s hs := hs.directory
  clock now s hs := ⟨hs.clock, hs.clock, hs.directory, hs.fate, hs.kubeconfig, hs.settings⟩
  status now clusterId' revision' status s hs := by
    obtain ⟨settings, hsettings, henabled, hrevision⟩ := hs.settings
    unfold World.updateStatus
    split
    · rename_i found hfound
      split
      · refine ⟨hs.now, hs.clock, hs.directory, hs.fate, hs.kubeconfig, ?_⟩
        by_cases hsame : clusterId = clusterId'
        · subst hsame
          obtain rfl : settings = found := Option.some.inj (hsettings.symm.trans hfound)
          exact ⟨_, Function.update_self _ _ _, henabled, hrevision⟩
        · exact ⟨settings, (Function.update_of_ne hsame _ _).trans hsettings, henabled, hrevision⟩
      · exact hs
    · exact hs

theorem config_run {clusterId : String} {s : World} {settings : NativeConfig}
    (hsettings : s.configs clusterId = some settings) (henabled : settings.enabled = true)
    (hlive : (s.directory.clusters clusterId).any ClusterRow.isLive = true) :
    (config clusterId).run s = (.ok settings, s) := by
  have hfound : ((s.configs clusterId).filter fun c =>
      c.enabled && (s.directory.clusters clusterId).any ClusterRow.isLive) = some settings := by
    rw [hsettings, hlive, Option.filter_some, henabled]
    rfl
  rw [config, Async.run_query_bind, hfound]
  rfl

theorem find?_userId {users : List UserRow} {user : UserRow}
    (hnodup : (users.map (·.id)).Nodup) (hmem : user ∈ users) :
    users.find? (·.id == user.id) = some user := by
  induction users with
  | nil => cases hmem
  | cons first rest ih =>
      obtain ⟨hhead, hrest⟩ := List.nodup_cons.mp hnodup
      rcases List.mem_cons.mp hmem with rfl | hmem
      · simp
      · have hne : first.id ≠ user.id := by
          intro hsame
          exact hhead (List.mem_map.mpr ⟨user, hmem, hsame.symm⟩)
        rw [List.find?_cons_of_neg (by simpa using hne)]
        exact ih hrest hmem

section Runs

variable {crypto : Crypto} {actor : Option Actor} {clusterId : String} {revision : Nat}
  {start : World} (h : Unhindered crypto actor clusterId start)

abbrev Facts (clusterId : String) (revision : Nat) (start : World) : World → Prop :=
  Calm clusterId revision start start.now

abbrev Plans (crypto : Crypto) (clusterId : String) (start : World) : NativeRbac → Prop :=
  Planned crypto clusterId start.now start.directory start.cluster

include h

theorem Unhindered.answered_of_calm (s : World) (hs : Facts clusterId revision start s) (n : Nat) :
    s.fate n = .answered := by
  rw [hs.fate]
  exact h.answered n

theorem succeeds_assertConfig (P : RbacCluster → Prop) :
    Succeeds (At (Facts clusterId revision start) P) (assertConfig clusterId revision) := by
  intro s hs
  obtain ⟨settings, hsettings, henabled, hrevision⟩ := hs.1.settings
  have hlive := h.live
  rw [← hs.1.directory] at hlive
  refine ⟨(), ?_⟩
  rw [assertConfig, Async.run_bind, config_run hsettings henabled hlive]
  simp [hrevision, Async.ensure]

theorem succeeds_assertCurrent {user : UserRow} (huser : user ∈ start.directory.users)
    (hactive : user.isActive = true) (P : RbacCluster → Prop) :
    Succeeds (At (Facts clusterId revision start) P)
      (assertCurrent clusterId revision user.id user.authzVersion) := by
  refine .bind (C := aloneContract) (fun _ => trivial)
    (quiet_assertConfig ((reads_calm clusterId revision start).alone start.now) P)
    (succeeds_assertConfig h P) fun _ => ?_
  intro s hs
  have hfound : s.directory.users.find? (·.id == user.id) = some user := by
    rw [hs.1.directory]
    exact find?_userId h.userIds huser
  refine ⟨(), ?_⟩
  simp [hfound, hactive, Async.ensure]

omit h in
theorem readNamespaceUid_run {s : World} {name uid : String} (hfate : ∀ n, s.fate n = .answered)
    (hlive : s.cluster.namespaces.lookup name = some uid) :
    (readNamespaceUid name).run s = (.ok uid, s.setCluster s.cluster) := by
  simp [readNamespaceUid, readCall, call, World.serve, hfate, hlive, Async.ofExcept]

theorem resolveIdentity_run {s : World} {name uid : String}
    (hs : Facts clusterId revision start s) (hsame : s.cluster.namespaces = start.cluster.namespaces)
    (hlive : start.cluster.namespaces.lookup name = some uid) :
    (resolveIdentity clusterId name).run s = (.ok uid, s.setCluster s.cluster) := by
  obtain ⟨k, hstored, -, -⟩ := h.kubeconfig
  rw [← hs.kubeconfig] at hstored
  obtain ⟨hname, huid⟩ := h.namespaces name uid hlive
  have hread := readNamespaceUid_run (h.answered_of_calm s hs) (hsame ▸ hlive)
  have hidentity : (readIdentity name).run s = (.ok (some uid), s.setCluster s.cluster) := by
    rw [readIdentity, Async.run_query_bind, hstored, if_neg (by simp), Async.run_bind,
      Async.run_toExcept, hread]
    rfl
  have hblank : ¬(Text.trim clusterId = "" ∨ Text.trim name = "") := by
    rintro (hblank | hblank)
    · exact h.namedCluster hblank
    · exact isNamespaceName_trim hname hblank
  rw [resolveIdentity, if_neg hblank, Async.run_bind, hidentity]
  simp [resolveNamespace, hblank, huid, Async.ofExcept]

theorem succeeds_resolveScopes {c : RbacCluster} (hsame : c.namespaces = start.cluster.namespaces)
    (scopes : List NamespaceScope) (hlive : ∀ scope ∈ scopes, ¬IsStale start.cluster scope) :
    Succeeds (At (Facts clusterId revision start) (· = c)) (resolveScopes clusterId scopes) := by
  have hC := (reads_calm clusterId revision start).alone start.now
  induction scopes with
  | nil => exact .done []
  | cons scope rest ih =>
      have hrest := ih fun s hs => hlive s (List.mem_cons_of_mem _ hs)
      unfold resolveScopes
      refine .ite (fun _ => hrest) fun hname => ?_
      have hscope : start.cluster.namespaces.lookup scope.namespaceName =
          some scope.namespaceUid := by
        by_contra hstale
        exact hlive scope List.mem_cons_self ⟨hname, hstale⟩
      refine .bind (C := aloneContract) (fun _ => trivial)
        (returns_resolveIdentity hC (fun _ _ => trivial)) ?_ fun uid => ?_
      · intro s hs
        refine ⟨scope.namespaceUid, ?_⟩
        rw [resolveIdentity_run h hs.1 ((congrArg _ hs.2).trans hsame) hscope]
      · refine .ensure_bind (fun s hs => ?_) ?_
        · have hfound := hs.2.2
          rw [hsame, hscope] at hfound
          exact (Option.some.inj hfound).symm
        · refine .bind (C := aloneContract) (fun _ => trivial)
            (.conseq (returns_resolveScopes hC (fun _ _ => trivial) rest) (fun s hs => ⟨hs.1, hs.2.1⟩)
              fun _ _ hs => hs) (hrest.conseq fun s hs => ⟨hs.1, hs.2.1⟩) fun namespaces => .done _

theorem Plans.wellFormed {plan : NativeRbac} (hplan : Plans crypto clusterId start plan) :
    plan.role.metadata.target.isValid = true ∧ plan.role.metadata = plan.binding.metadata ∧
      start.cluster.namespaces.lookup plan.role.metadata.namespaceName =
        some plan.role.metadata.namespaceUid ∧ plan.role.metadata.managedBy = "kubenova" := by
  obtain ⟨user, -, -, hfor⟩ := hplan
  obtain ⟨hsame, name, uid, hlive, hmetadata⟩ := hfor.metadata
  obtain ⟨hname, huid⟩ := h.namespaces name uid hlive
  refine ⟨?_, hsame, by rw [hmetadata, hlive], by rw [hmetadata]⟩
  have hnameEmpty : name ≠ "" := by
    rintro rfl
    exact isNamespaceName_trim hname (by decide)
  have huidEmpty : uid ≠ "" := by
    rintro rfl
    exact huid (by decide)
  have hclusterEmpty : clusterId ≠ "" := by
    rintro rfl
    exact h.namedCluster (by decide)
  have hprefix : Text.startsWith "kn-native-" (nativeRbacName crypto clusterId user.id uid) = true := by
    simp [Text.startsWith, nativeRbacName, String.toList_append]
  simp [hmetadata, PlanMetadata.target, PairTarget.isValid, hprefix, hnameEmpty, huidEmpty,
    hclusterEmpty]

theorem Plans.claimable {plan : NativeRbac} {done : NativeRbac → Prop} {c : RbacCluster}
    (hplan : Plans crypto clusterId start plan) (hdone : ∀ p, done p → Plans crypto clusterId start p)
    (hbrought : Brought done start.cluster c) : Claimable plan.role.metadata.target c := by
  by_cases hin : done plan
  · obtain ⟨⟨r, hr, -, hrowned⟩, ⟨b, hb, -, hbowned⟩⟩ := hbrought.inPlace plan hin
    refine ⟨fun r' hr' => ?_, fun b' hb' => ?_⟩
    · obtain rfl : r = r' := Option.some.inj (hr.symm.trans hr')
      exact hrowned
    · obtain rfl : b = b' := Option.some.inj (hb.symm.trans hb')
      exact hbowned
  · have hother : ∀ p, done p → p.key ≠ plan.key := by
      intro p hp hkey
      exact hin (Planned.unique h.collisionFree (hdone p hp) hplan hkey ▸ hp)
    obtain ⟨hroles, hbindings⟩ := hbrought.untouched plan.key hother
    obtain ⟨hrole, hbinding⟩ := h.claimable plan hplan
    exact ⟨fun r hr => hrole r (hroles.symm.trans hr),
      fun b hb => hbinding b (hbindings.symm.trans hb)⟩

theorem succeeds_applyPlans {guard : RbacHandler Unit}
    (hcurrent : Quiet aloneContract (Facts clusterId revision start) guard)
    (hguard : ∀ P, Succeeds (At (Facts clusterId revision start) P) guard) (plans : List NativeRbac)
    {desired : List String} {done : NativeRbac → Prop}
    (hplans : ∀ p ∈ plans, Plans crypto clusterId start p)
    (hdone : ∀ p, done p → Plans crypto clusterId start p) :
    Succeeds (At (Facts clusterId revision start) (Brought done start.cluster))
      (applyPlans guard plans desired) := by
  have hC := (reads_calm clusterId revision start).alone start.now
  induction plans generalizing desired done with
  | nil => exact .done desired
  | cons plan rest ih =>
      have hplan := hplans plan List.mem_cons_self
      refine .bind (C := aloneContract) (fun _ => trivial)
        (returns_bringPair hC (fun _ _ => trivial)
          (fun p q hp hq => Planned.unique h.collisionFree hp hq)
          (fun p hp => (Plans.wellFormed h hp).2.2.2) hcurrent hplan hdone) ?_ fun _ => ?_
      · refine succeeds_at fun c hc => ?_
        obtain ⟨hvalid, hmetadata, hlive, -⟩ := Plans.wellFormed h hplan
        exact succeeds_reconcileNativeRbacPair hC (fun _ _ => trivial) (fun _ => trivial)
          h.answered_of_calm hcurrent hguard hvalid hmetadata (hc.namespaces ▸ hlive)
          (Plans.claimable h hplan hdone hc)
      · refine ih (fun p hp => hplans p (List.mem_cons_of_mem _ hp)) fun p hp => ?_
        rcases hp with hp | rfl
        · exact hdone p hp
        · exact hplan

abbrev userScopes (clusterId : String) (start : World) (userId : String) : List NamespaceScope :=
  scopesByName ((kubeconfigGrants clusterId start.now start.directory userId).flatMap (·.namespaces))

theorem exists_userPlans {user : UserRow} {c : RbacCluster} {namespaces : List PlanNamespace}
    (huser : user ∈ start.directory.users) (hsame : c.namespaces = start.cluster.namespaces)
    (hresolved : Resolved c (userScopes clusterId start user.id) namespaces) :
    ∃ plans, planNativeRbac crypto ⟨user.id, clusterId,
      kubeconfigGrants clusterId start.now start.directory user.id, namespaces, start.now⟩ =
        .ok plans := by
  have hblank : ¬(Text.trim user.id = "" ∨ Text.trim clusterId = "") := by
    rintro (hblank | hblank)
    · exact h.namedUsers user huser hblank
    · exact h.namedCluster hblank
  have hvalid : ∀ ns ∈ namespaces, isNamespaceName ns.name = true ∧ Text.trim ns.uid ≠ "" := by
    intro ns hns
    obtain ⟨scope, hscope, hname, rfl⟩ := (hresolved.mem_iff ns).mp hns
    have hlive := hresolved.live scope hscope hname
    rw [hsame] at hlive
    exact h.namespaces scope.namespaceName scope.namespaceUid hlive
  have hnodup : (namespaces.map (·.name)).Nodup := by
    rw [hresolved.namespaces_eq, List.map_map]
    exact (nodup_scopesByName _).sublist (List.filter_sublist.map _)
  obtain ⟨plans, hplans⟩ := @planNamespaces_succeeds crypto
    ⟨user.id, clusterId, kubeconfigGrants clusterId start.now start.directory user.id,
      namespaces, start.now⟩ (nativeSubjectText crypto clusterId user.id) []
    namespaces hvalid hnodup (by simp)
  refine ⟨plans, ?_⟩
  unfold planNativeRbac nativeRbacSubject
  rw [if_neg hblank]
  exact hplans

theorem succeeds_reconcileUser {user : UserRow} {desired : List String} {done : NativeRbac → Prop}
    (huser : user ∈ start.directory.users) (hactive : user.isActive = true)
    (hdone : ∀ p, done p → Plans crypto clusterId start p)
    (hlive : ∀ scope ∈ userScopes clusterId start user.id, ¬IsStale start.cluster scope) :
    Succeeds (At (Facts clusterId revision start) (Brought done start.cluster))
      (reconcileUser crypto clusterId revision start.now user desired) := by
  have hC := (reads_calm clusterId revision start).alone start.now
  refine .query_bind fun s hs => ⟨_, hs, ?_⟩
  rw [hs.1.directory]
  refine succeeds_at fun c hc => ?_
  refine .bind (C := aloneContract) (fun _ => trivial)
    (returns_resolveScopes hC (fun _ _ => trivial) (userScopes clusterId start user.id))
    (succeeds_resolveScopes h hc.namespaces _ hlive) fun namespaces => ?_
  intro s' hs'
  obtain ⟨hfacts, hc', hresolved⟩ := hs'
  obtain ⟨plans, hplans⟩ := exists_userPlans h huser hc.namespaces hresolved
  rw [hplans]
  have hbrought : Brought done start.cluster s'.cluster := hc' ▸ hc
  refine succeeds_applyPlans h (quiet_assertCurrent hC) (succeeds_assertCurrent h huser hactive)
    plans (fun p hp => ?_) hdone s' ⟨hfacts, hbrought⟩
  exact ⟨user, huser, hactive,
    (PlannedFor.congr hc.namespaces p).mp ((mem_userPlans_iff hresolved hplans p).mp hp)⟩

omit h in
theorem obeys_resolveScopes (scopes : List NamespaceScope) :
    Obeys clusterKept (resolveScopes clusterId scopes) := by
  have hread : ∀ name, Obeys clusterKept (readNamespaceUid name) := by
    intro name
    refine .bind (.exec fun s _ => ?_) fun r => .ofExcept r
    unfold World.serve
    split <;> rfl
  have hidentity : ∀ name, Obeys clusterKept (resolveIdentity clusterId name) := by
    intro name
    refine .bind (.ite (.done none) (.bind (.query _) fun stored => ?_)) fun answer => .ofExcept _
    exact .ite (.done none) (.bind (hread name).toExcept fun r => .done _)
  induction scopes with
  | nil => exact .done []
  | cons scope rest ih =>
      unfold resolveScopes
      refine .ite ih (.bind (hidentity _) fun uid => .bind (.ensure _ _) fun _ => ?_)
      exact .bind ih fun namespaces => .done _

omit h in
theorem cluster_run_of_obeys {α : Type} {handler : RbacHandler α} (hobeys : Obeys clusterKept handler)
    (s : World) : (handler.run s).2.cluster = s.cluster := by
  have hrely := hobeys.run (s := s) trivial
  generalize (handler.run s).2 = t at hrely ⊢
  induction hrely with
  | refl => rfl
  | tail _ hstep ih => exact Eq.trans hstep ih

omit h in
theorem reconcileUser_stale {user : UserRow} {desired : List String} {s : World}
    (hs : Facts clusterId revision start s) (hsame : s.cluster.namespaces = start.cluster.namespaces)
    {scope : NamespaceScope} (hscope : scope ∈ userScopes clusterId start user.id)
    (hstale : IsStale start.cluster scope) :
    (∃ e, ((reconcileUser crypto clusterId revision start.now user desired).run s).1 = .error e) ∧
      ((reconcileUser crypto clusterId revision start.now user desired).run s).2.cluster =
        s.cluster := by
  have hC := (reads_calm clusterId revision start).alone start.now
  have hkept := cluster_run_of_obeys
    (@obeys_resolveScopes clusterId (userScopes clusterId start user.id)) s
  rw [reconcileUser, Async.run_query_bind, hs.directory, Async.run_bind]
  cases hrun : (resolveScopes clusterId (userScopes clusterId start user.id)).run s with
  | mk result t =>
      rw [hrun] at hkept
      cases result with
      | error e => exact ⟨⟨e, rfl⟩, hkept⟩
      | ok namespaces =>
          have hreturns := @returns_resolveScopes _ _ clusterId s.cluster hC
            (fun _ _ => trivial) (userScopes clusterId start user.id)
          obtain ⟨-, -, hresolved⟩ := hreturns.run (fun _ => trivial) ⟨hs, rfl⟩ hrun
          have hlive := hresolved.live scope hscope hstale.1
          rw [hsame] at hlive
          exact absurd hlive hstale.2

theorem reconcileUsers_outcome (users : List UserRow) {desired : List String}
    {done : NativeRbac → Prop} {s : World}
    (husers : ∀ user ∈ users, user ∈ start.directory.users ∧ user.isActive = true)
    (hdone : ∀ p, done p → Plans crypto clusterId start p)
    (hs : At (Facts clusterId revision start) (Brought done start.cluster) s) :
    (∃ names, ((reconcileUsers crypto clusterId revision start.now users desired).run s).1 =
        .ok names) ∨
      (∃ user ∈ users, ∃ scope ∈ userScopes clusterId start user.id,
        IsStale start.cluster scope) ∧
      (∃ e, ((reconcileUsers crypto clusterId revision start.now users desired).run s).1 =
        .error e) ∧
      ∃ part, (∀ p, part p → Plans crypto clusterId start p) ∧ Brought part start.cluster
        ((reconcileUsers crypto clusterId revision start.now users desired).run s).2.cluster := by
  have hC := (reads_calm clusterId revision start).alone start.now
  induction users generalizing desired done s with
  | nil => exact .inl ⟨desired, rfl⟩
  | cons user rest ih =>
      obtain ⟨huser, hactive⟩ := husers user List.mem_cons_self
      have hfor : ∀ p, PlannedFor crypto clusterId start.now start.directory start.cluster user.id p →
          Plans crypto clusterId start p := fun p hp => ⟨user, huser, hactive, hp⟩
      by_cases hstale : ∃ scope ∈ userScopes clusterId start user.id, IsStale start.cluster scope
      · obtain ⟨scope, hscope, hscopeStale⟩ := hstale
        obtain ⟨⟨e, he⟩, hkept⟩ := reconcileUser_stale hs.1
          hs.2.namespaces hscope hscopeStale
        have hrun : (reconcileUsers crypto clusterId revision start.now (user :: rest) desired).run s =
            (.error e, ((reconcileUser crypto clusterId revision start.now user desired).run s).2) := by
          rw [reconcileUsers, Async.run_bind, ← Prod.mk.eta (p := Async.run _ s), he]
        rw [hrun]
        refine .inr ⟨⟨user, List.mem_cons_self, scope, hscope, hscopeStale⟩, ⟨e, rfl⟩, done, hdone, ?_⟩
        rw [hkept]
        exact hs.2
      · push Not at hstale
        obtain ⟨names, hok⟩ := succeeds_reconcileUser h huser hactive hdone
          hstale s hs
        have hfirst : (reconcileUser crypto clusterId revision start.now user desired).run s =
            (.ok names, ((reconcileUser crypto clusterId revision start.now user desired).run s).2) := by
          rw [← hok]
        have hreturns := @returns_reconcileUser _ _ crypto _ revision _ _ _ hC
          (fun _ _ => trivial) (fun s hs => hs.directory) (Plans crypto clusterId start)
          (fun p q hp hq => Planned.unique h.collisionFree hp hq)
          (fun p hp => (Plans.wellFormed h hp).2.2.2) _ desired _ hfor hdone
        obtain ⟨-, hnext⟩ := hreturns.run (fun _ => trivial) hs hfirst
        have hrun : (reconcileUsers crypto clusterId revision start.now (user :: rest) desired).run s =
            (reconcileUsers crypto clusterId revision start.now rest names).run
              ((reconcileUser crypto clusterId revision start.now user desired).run s).2 := by
          rw [reconcileUsers, Async.run_bind, hfirst]
        rw [hrun]
        rcases ih (fun u hu => husers u (List.mem_cons_of_mem _ hu))
          (fun p hp => hp.elim (hdone p) (hfor p)) hnext with hall | ⟨⟨u, hu, hscope⟩, hstop⟩
        · exact .inl hall
        · exact .inr ⟨⟨u, List.mem_cons_of_mem _ hu, hscope⟩, hstop⟩

omit h in
theorem requireKubeconfig_run {s : World} (hstored : ∃ k, s.kubeconfig = some (some k) ∧
    k.skipTLSVerify = false ∧ k.protocol = .ok "https:") : requireKubeconfig.run s = (.ok (), s) := by
  obtain ⟨k, hk, hskip, hprotocol⟩ := hstored
  rw [requireKubeconfig, Async.run_query_bind, hk]
  simp [hskip, hprotocol, Async.ensure, Async.ofExcept]

omit h in
theorem writeStatus_run {s : World} {status : World → SyncStatus} {settings : NativeConfig}
    (hsettings : s.configs clusterId = some settings) (hrevision : settings.revision = revision) :
    (writeStatus clusterId revision status).run s =
      (.ok (), (World.updateStatus clusterId revision status s).2) := by
  have hcount : (World.updateStatus clusterId revision status s).1 = 1 := by
    simp [World.updateStatus, hsettings, hrevision]
  rw [writeStatus, Async.run_exec_bind, hcount]
  rfl

def finish (clusterId : String) (revision : Nat) (desired : List String) :
    RbacHandler ReconcileAnswer := do
  let namespaces ← listNamespace
  sweep clusterId revision desired namespaces
  writeStatus clusterId revision fun s => ⟨"ready", some revision, none, some s.now⟩
  return ⟨clusterId, "ready", desired.length, revision⟩

theorem succeeds_finish {desired : List String}
    (hdesired : Collected [] (Plans crypto clusterId start) desired) :
    Succeeds (At (Facts clusterId revision start) (Brought (Plans crypto clusterId start)
      start.cluster)) (finish clusterId revision desired) := by
  have hC := (reads_calm clusterId revision start).alone start.now
  refine succeeds_at fun c hc => ?_
  refine .bind (C := aloneContract) (fun _ => trivial) (returns_readCall (M := fun _ _ => True)
    (P := (· = c)) hC (fun _ _ _ => trivial) (fun _ => trivial)) ?_ fun names => ?_
  · exact succeeds_call h.answered_of_calm fun c' _ => ⟨_, rfl⟩
  refine succeeds_at fun c' hc' => ?_
  obtain ⟨-, rfl⟩ := hc'
  refine .bind (C := aloneContract) (fun _ => trivial) (returns_sweep hC (fun _ _ => trivial) names)
    ?_ fun _ => ?_
  · refine succeeds_sweep hC (fun _ _ => trivial) (fun _ => trivial) h.answered_of_calm
      (succeeds_assertConfig h) names fun key b hb hmanaged hkept => ?_
    have hname : key.2 ≠ "" := by
      simp only [isKept, Bool.or_eq_false_iff, beq_eq_false_iff_ne] at hkept
      exact hkept.1.1
    have hleftover : Leftover clusterId (Plans crypto clusterId start) c' key :=
      (unkept_iff hdesired hname).mp ⟨b, hb, hmanaged, hkept⟩
    -- a key with an unplanned name was not touched, so the binding is one of the start
    have hother : ∀ p, Plans crypto clusterId start p → p.key ≠ key :=
      fun p hp hkey => hleftover.2 p hp (congrArg Prod.snd hkey)
    have hsame := hc.untouched key hother
    have hleftover' : Leftover clusterId (Plans crypto clusterId start) start.cluster key := by
      obtain ⟨⟨b', hb', hnative⟩, hfresh⟩ := hleftover
      exact ⟨⟨b', hsame.2.symm.trans hb', hnative⟩, hfresh⟩
    exact (h.revocable key b (hsame.2.symm.trans hb) hleftover').congr hc.namespaces hsame
  · intro s hs
    obtain ⟨settings, hsettings, -, hrevision⟩ := hs.1.settings
    refine ⟨⟨clusterId, "ready", desired.length, revision⟩, ?_⟩
    rw [Async.run_bind, writeStatus_run hsettings hrevision]
    rfl

theorem reconcileBody_run {s : World} (hs : Facts clusterId revision start s) :
    (reconcileBody crypto clusterId revision).run s =
      (reconcileUsers crypto clusterId revision start.now (findUsers start.directory clusterId) []
        >>= finish clusterId revision).run s := by
  have hstored := h.kubeconfig
  rw [← hs.kubeconfig] at hstored
  rw [reconcileBody, Async.run_bind, requireKubeconfig_run hstored]
  simp only [Async.run_query_bind, hs.directory, hs.clock, Async.ensure, if_pos h.userLimit,
    Async.done_bind]
  rfl

theorem exists_reconcile_run : ∃ revision s, Facts clusterId revision start s ∧
    s.cluster = start.cluster ∧ (reconcile crypto actor clusterId).run start =
      (Async.tryCatch (reconcileBody crypto clusterId revision) (reportFailure clusterId revision)).run
        s := by
  obtain ⟨settings, hsettings, henabled⟩ := h.settings
  have hadministrator : (requireAdministrator actor clusterId).run start = (.ok (), start) := by
    obtain ⟨admin, hadmin, hid, hnamed, hactive, hrole⟩ := h.administrator
    rw [requireAdministrator, h.caller, hid]
    simp only [Option.getD_some, Async.ofExcept, Async.done_bind, Async.ensure,
      if_pos (show admin.id ≠ "" ∧ Text.trim clusterId ≠ "" from ⟨hnamed, h.namedCluster⟩),
      Async.run_query_bind, find?_userId h.userIds hadmin, Option.any_some, hactive, if_true,
      Option.map_some, hrole, Async.run_done]
  have hcalm : Facts clusterId settings.revision start start :=
    ⟨rfl, rfl, rfl, rfl, rfl, settings, hsettings, henabled, rfl⟩
  refine ⟨settings.revision, _, (reads_calm clusterId settings.revision start).status start.now
    clusterId settings.revision (fun _ => ⟨"syncing", none, none, none⟩) start hcalm, ?_, ?_⟩
  · obtain ⟨configs, hframe⟩ := updateStatus_frame
      (fun _ => ⟨"syncing", none, none, none⟩) start
    rw [hframe]
  · rw [reconcile, Async.run_bind, hadministrator]
    simp only [Async.run_bind, config_run hsettings henabled h.live, writeStatus_run hsettings rfl]

theorem reconcile_stops {s t : World} {e : Exception} (hs : Facts clusterId revision start s)
    (hresult : (reconcileUsers crypto clusterId revision start.now
      (findUsers start.directory clusterId) []).run s = (.error e, t)) :
    ((Async.tryCatch (reconcileBody crypto clusterId revision)
      (reportFailure clusterId revision)).run s).2.cluster = t.cluster := by
  have hreport : Obeys clusterKept (reportFailure clusterId revision e) := by
    refine .bind (.bind (.exec fun s _ => ?_) fun count => .ensure _ _) fun _ => .fail e
    obtain ⟨configs, hframe⟩ := updateStatus_frame _ s
    rw [hframe]
    rfl
  rw [Async.run_tryCatch, reconcileBody_run h hs, Async.run_bind, hresult]
  exact cluster_run_of_obeys hreport t

omit h in
theorem active_of_mem_findUsers {user : UserRow} (huser : user ∈ findUsers start.directory clusterId) :
    user ∈ start.directory.users ∧ user.isActive = true := by
  simp only [findUsers, List.mem_filter, Bool.and_eq_true] at huser
  exact ⟨huser.1, huser.2.1⟩

theorem reconcile_outcome :
    (∃ answer, ((reconcile crypto actor clusterId).run start).1 = .ok answer) ∨
      (∃ user ∈ start.directory.users, user.isActive = true ∧
        ∃ scope ∈ userScopes clusterId start user.id, IsStale start.cluster scope) ∧
      ∃ part, (∀ p, part p → Plans crypto clusterId start p) ∧
        Brought part start.cluster ((reconcile crypto actor clusterId).run start).2.cluster := by
  obtain ⟨revision, s, hs, hsame, hrun⟩ := exists_reconcile_run h
  have hnothing : Brought (fun _ => False) start.cluster s.cluster := by
    rw [hsame]
    exact ⟨rfl, fun _ hp => hp.elim, fun _ _ => ⟨rfl, rfl⟩⟩
  have houtcome := @reconcileUsers_outcome _ _ _ _ _ h
    (findUsers start.directory clusterId) [] _ _ (fun _ => active_of_mem_findUsers)
    (fun _ hp => hp.elim)
    ⟨hs, hnothing⟩
  rw [hrun]
  cases hresult : (reconcileUsers crypto clusterId revision start.now
      (findUsers start.directory clusterId) []).run s with
  | mk result t =>
      rw [hresult] at houtcome
      rcases houtcome with ⟨names, hok⟩ | ⟨⟨user, huser, hstale⟩, ⟨e, he⟩, part, hpart, hbrought⟩
      · obtain rfl : result = .ok names := hok
        have hcollect := @returns_collect _ _ _ _ _ revision start.now _
          (reads_calm clusterId revision start) (fun _ _ => trivial) h.collisionFree
        obtain ⟨hcollected, hbrought⟩ := hcollect.run (fun _ => trivial) ⟨hs, hsame⟩ hresult
        obtain ⟨answer, hanswer⟩ := succeeds_finish h hcollected t hbrought
        refine .inl ⟨answer, ?_⟩
        rw [Async.run_tryCatch, reconcileBody_run h hs, Async.run_bind, hresult]
        dsimp only
        rw [← Prod.mk.eta (p := (finish clusterId revision names).run t), hanswer]
      · obtain rfl : result = .error e := he
        obtain ⟨hmem, hactive⟩ := active_of_mem_findUsers huser
        refine .inr ⟨⟨user, hmem, hactive, hstale⟩, part, hpart, ?_⟩
        rw [reconcile_stops h hs hresult]
        exact hbrought

theorem reconcile_first_stale {user : UserRow} {rest : List UserRow} {scope : NamespaceScope}
    (husers : findUsers start.directory clusterId = user :: rest)
    (hscope : scope ∈ userScopes clusterId start user.id) (hstale : IsStale start.cluster scope) :
    ((reconcile crypto actor clusterId).run start).2.cluster = start.cluster := by
  obtain ⟨revision, s, hs, hsame, hrun⟩ := exists_reconcile_run h
  obtain ⟨⟨e, he⟩, hkept⟩ := reconcileUser_stale hs
    (congrArg RbacCluster.namespaces hsame) hscope hstale
  have hresult : (reconcileUsers crypto clusterId revision start.now
      (findUsers start.directory clusterId) []).run s =
        (.error e, ((reconcileUser crypto clusterId revision start.now user []).run s).2) := by
    rw [husers, reconcileUsers, Async.run_bind, ← Prod.mk.eta (p := Async.run _ s), he]
  rw [hrun, reconcile_stops h hs hresult, hkept, hsame]

end Runs

end KubeNova.Native
