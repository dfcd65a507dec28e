import KubeNova.Native.ReconcileLoops

/-!
# What a finished synchronisation leaves

Every planned pair is in place, and a KubeNova binding that is not planned is gone, unless its
name is planned for another namespace: the sweep compares names only.
-/

namespace KubeNova.Native

open KubeNova.Foundation KubeNova.Common KubeNova.Access

def RbacCluster.Valid (c : RbacCluster) : Prop :=
  ∀ key b, c.bindings.lookup key = some b →
    (c.namespaces.lookup key.1).isSome = true ∧ key.1 ≠ "" ∧ key.2 ≠ ""

def RoleBinding.isNative (binding : RoleBinding) (clusterId : String) : Bool :=
  binding.metadata.isManaged && binding.metadata.isOfCluster clusterId

/-- A KubeNova binding whose name is not planned in any namespace. -/
def Leftover (clusterId : String) (planned : NativeRbac → Prop) (c : RbacCluster)
    (key : ObjectKey) : Prop :=
  (∃ b, c.bindings.lookup key = some b ∧ b.isNative clusterId = true) ∧
    ∀ plan, planned plan → plan.role.metadata.name ≠ key.2

/-- What a finished synchronisation leaves in place of `c`. -/
structure Finished (clusterId : String) (planned : NativeRbac → Prop) (c c' : RbacCluster) : Prop where
  namespaces : c'.namespaces = c.namespaces
  inPlace : ∀ plan, planned plan → InPlace plan c'
  gone : ∀ key, Leftover clusterId planned c key → c'.bindings.lookup key = none
  kept : ∀ key, (∀ plan, planned plan → plan.key ≠ key) → ¬Leftover clusterId planned c key →
    c'.bindings.lookup key = c.bindings.lookup key

theorem unkept_iff {clusterId : String} {planned : NativeRbac → Prop} {desired : List String}
    {c : RbacCluster} (hdesired : Collected [] planned desired) {key : ObjectKey}
    (hkey : key.2 ≠ "") : Unkept clusterId desired c key ↔ Leftover clusterId planned c key := by
  have hname : desired.contains key.2 = false ↔
      ∀ plan, planned plan → plan.role.metadata.name ≠ key.2 := by
    rw [← Bool.not_eq_true, List.contains_iff_mem, hdesired key.2]
    simp
  simp only [Unkept, Leftover, isKept, RoleBinding.isNative, Bool.or_eq_false_iff,
    Bool.not_eq_false', beq_eq_false_iff_ne, Bool.and_eq_true, hname]
  constructor
  · rintro ⟨b, hb, hmanaged, ⟨-, hcluster⟩, hnone⟩
    exact ⟨⟨b, hb, hmanaged, hcluster⟩, hnone⟩
  · rintro ⟨⟨b, hb, hmanaged, hcluster⟩, hnone⟩
    exact ⟨b, hb, hmanaged, ⟨hkey, hcluster⟩, hnone⟩

theorem Brought.finished {clusterId : String} {planned : NativeRbac → Prop} {desired : List String}
    {c c' c'' : RbacCluster} (h : Brought planned c c') (hvalid : c.Valid)
    (hdesired : Collected [] planned desired)
    (hswept : Swept (fun key => (key.1 ∈ c'.namespaces.keys ∧ key.1 ≠ "") ∧
      Unkept clusterId desired c' key) c' c'') : Finished clusterId planned c c'' := by
  have hplannedKept : ∀ plan, planned plan → ¬Unkept clusterId desired c' plan.key := by
    rintro plan hplan ⟨b, -, -, hkept⟩
    have hmem : plan.key.2 ∈ desired := (hdesired _).mpr (.inr ⟨plan, hplan, rfl⟩)
    simp [isKept, hmem] at hkept
  have hleftover : ∀ key, Leftover clusterId planned c key → ∀ plan, planned plan → plan.key ≠ key :=
    fun key hkey plan hplan hsame => hkey.2 plan hplan (congrArg Prod.snd hsame)
  have hgone : ∀ key, Leftover clusterId planned c key → (key.1 ∈ c'.namespaces.keys ∧ key.1 ≠ "") ∧
      Unkept clusterId desired c' key := by
    intro key hkey
    have hsame := (h.untouched key (hleftover key hkey)).2
    obtain ⟨b, hb, hnative⟩ := hkey.1
    obtain ⟨hns, hnsName, hname⟩ := hvalid key b hb
    refine ⟨⟨?_, hnsName⟩, (unkept_iff hdesired hname).mpr ⟨⟨b, hsame.trans hb, hnative⟩, hkey.2⟩⟩
    rw [h.namespaces]
    exact AList.lookup_isSome.mp hns
  refine ⟨hswept.namespaces.trans h.namespaces, fun plan hplan => ?_, fun key hkey => ?_,
    fun key hunplanned hkey => ?_⟩
  · obtain ⟨hroles, hbindings⟩ := hswept.kept plan.key fun hunkept => hplannedKept plan hplan hunkept.2
    obtain ⟨hrole, hbinding⟩ := h.inPlace plan hplan
    rw [← hroles] at hrole
    rw [← hbindings] at hbinding
    exact ⟨hrole, hbinding⟩
  · exact hswept.gone key (hgone key hkey)
  · have hsame := (h.untouched key hunplanned).2
    rw [← hsame]
    refine (hswept.kept key fun hunkept => hkey ?_).2
    obtain ⟨b, hb, hmanaged, hkept⟩ := hunkept.2
    obtain ⟨-, -, hname⟩ := hvalid key b (hsame.symm.trans hb)
    obtain ⟨⟨b', hb', hnative⟩, hnone⟩ := (unkept_iff hdesired hname).mp hunkept.2
    exact ⟨⟨b', hsame.symm.trans hb', hnative⟩, hnone⟩

/-- Facts that a run may rely on once its clock was read as `now`: nobody else's moves, no
call, no read of the clock and no change of the status ends them. -/
structure Reads (C : Contract World) (d : Directory) (F : Nat → World → Prop) : Prop where
  alone : ∀ now, Alone C (F now)
  directory : ∀ now s, F now s → s.directory = d
  clock : ∀ now s, F now s → F s.now s
  status : ∀ now clusterId revision status s, F now s →
    F now (World.updateStatus clusterId revision status s).2

section Run

variable {C : Contract World} {d : Directory} {F : Nat → World → Prop} {crypto : Crypto}
  {clusterId : String} {revision now : Nat} {c : RbacCluster} {P : RbacCluster → Prop}
  (hF : Reads C d F) (hguar : ∀ s t, C.guar s t)

theorem updateStatus_frame (status : World → SyncStatus) (s : World) :
    ∃ configs, (World.updateStatus clusterId revision status s).2 = { s with configs := configs } := by
  unfold World.updateStatus
  split
  · split
    · exact ⟨_, rfl⟩
    · exact ⟨s.configs, rfl⟩
  · exact ⟨s.configs, rfl⟩

include hF

theorem returns_requireAdministrator {actor : Option Actor} :
    Returns C (At (F now) P) (requireAdministrator actor clusterId) fun _ => At (F now) P := by
  have hstable := (hF.alone now).stable P
  refine .ofExcept_bind hstable fun _ _ => .ensure_bind hstable fun _ => ?_
  refine .query_bind hstable fun s hs _ => ⟨At (F now) P, hs, ?_⟩
  refine .ensure_bind hstable fun _ => ?_
  cases assertAdministrationPermission ((s.directory.users.find? _).map (·.role)) with
  | ok _ => exact .done hstable fun _ hs => hs
  | error _ => exact .fail hstable

theorem returns_config : Returns C (At (F now) P) (config clusterId) fun _ => At (F now) P := by
  have hstable := (hF.alone now).stable P
  refine .query_bind hstable fun s hs _ => ⟨At (F now) P, hs, ?_⟩
  split
  · exact .done hstable fun _ hs => hs
  · exact .fail hstable

theorem returns_requireKubeconfig :
    Returns C (At (F now) P) requireKubeconfig fun _ => At (F now) P := by
  have hstable := (hF.alone now).stable P
  refine .query_bind hstable fun s hs _ => ⟨At (F now) P, hs, ?_⟩
  split
  · exact .fail hstable
  · dsimp only
    split
    · exact .fail hstable
    · refine .ensure_bind hstable fun _ => .ofExcept_bind hstable fun _ _ => ?_
      exact .conseq (.ensure hstable) (fun _ hs => hs) fun _ _ hs => hs.2

include hguar

theorem returns_writeStatus (status : World → SyncStatus) :
    Returns C (At (F now) P) (writeStatus clusterId revision status) fun _ => At (F now) P := by
  have hstable := (hF.alone now).stable P
  refine Triple.exec_bind hstable fun s hs _ => ⟨hguar _ _, ?_⟩
  obtain ⟨configs, hframe⟩ := updateStatus_frame status s
  have hkept : At (F now) P (World.updateStatus clusterId revision status s).2 := by
    refine ⟨hF.status now clusterId revision status s hs.1, ?_⟩
    rw [hframe]
    exact hs.2
  exact Returns.guards (.conseq (.ensure hstable) (fun _ hs => hs) fun _ _ hs => hs.2) hkept

theorem returns_collect (hfree : CollisionFree crypto clusterId d c) :
    Returns C (At (F now) (· = c))
      (reconcileUsers crypto clusterId revision now (findUsers d clusterId) []) fun desired s =>
        Collected [] (Planned crypto clusterId now d c) desired ∧
          At (F now) (Brought (Planned crypto clusterId now d c) c) s := by
  refine .conseq (returns_reconcileUsers (P := Planned crypto clusterId now d c)
    (hF.alone now) hguar (hF.directory now)
    (fun p q hp hq => hp.unique hfree hq) (fun p hp => ?_) (findUsers d clusterId)
    (fun _ (h : False) => h.elim) fun user huser p hp => ?_) (fun s hs => ⟨hs.1, ?_⟩) fun desired s hs =>
    ⟨fun name => ?_, hs.2.1, hs.2.2.congr fun plan => ?_⟩
  · obtain ⟨user, -, -, hplan⟩ := hp
    obtain ⟨-, name, uid, -, hmetadata⟩ := hplan.metadata
    rw [hmetadata]
  · exact (exists_findUsers_plannedFor_iff p).mp ⟨user, huser, hp⟩
  · rw [hs.2]
    exact ⟨rfl, fun _ h => h.elim, fun _ _ => ⟨rfl, rfl⟩⟩
  · rw [hs.1 name]
    simp only [exists_findUsers_plannedFor_iff]
  · rw [exists_findUsers_plannedFor_iff, false_or]

theorem returns_reconcileBody (hvalid : c.Valid) (hfree : CollisionFree crypto clusterId d c) :
    Returns C (At (F now) (· = c)) (reconcileBody crypto clusterId revision) fun _ s =>
      ∃ now, At (F now) (Finished clusterId (Planned crypto clusterId now d c) c) s := by
  have hstable := (hF.alone now).stable (· = c)
  refine .bind (returns_requireKubeconfig hF) fun _ => ?_
  refine .query_bind hstable fun s hs _ => ⟨At (F now) (· = c), hs, ?_⟩
  rw [hF.directory now s hs.1]
  refine .ensure_bind hstable fun _ => ?_
  refine .query_bind hstable fun s hs _ =>
    ⟨At (F s.now) (· = c), ⟨hF.clock now s hs.1, hs.2⟩, ?_⟩
  generalize s.now = read
  refine .bind (returns_collect hF hguar hfree) fun desired => .of_fact fun hdesired => ?_
  refine returns_at fun c' hc' => ?_
  refine .bind (returns_readCall (M := fun _ _ => True) (P := (· = c')) (hF.alone read)
    (fun _ _ _ => hguar _ _) (fun _ => trivial)) fun names => ?_
  refine fun s hs => ?_
  obtain ⟨hreads, hread, rfl⟩ := hs
  obtain rfl := Except.ok.inj hread
  refine Returns.guards (p := At (F read) (· = s.cluster)) ?_ ⟨hreads, rfl⟩
  refine .bind (returns_sweep (hF.alone read) hguar _) fun _ => ?_
  refine .bind (returns_writeStatus hF hguar _) fun _ => ?_
  refine .done ((hF.alone read).stable _) fun s' hs' => ⟨read, hs'.1, ?_⟩
  exact hc'.finished hvalid hdesired hs'.2

theorem returns_reconcile {actor : Option Actor} (hvalid : c.Valid)
    (hfree : CollisionFree crypto clusterId d c) :
    Returns C (At (F now) (· = c)) (reconcile crypto actor clusterId) fun _ s =>
      ∃ now, At (F now) (Finished clusterId (Planned crypto clusterId now d c) c) s := by
  refine .bind (returns_requireAdministrator hF) fun _ => ?_
  refine .bind (returns_config hF) fun current => ?_
  refine .bind (returns_writeStatus hF hguar _) fun _ => ?_
  refine .tryCatch (returns_reconcileBody hF hguar hvalid hfree) fun error => ?_
  refine .bind (S := fun _ _ => True) (Triple.of_allowed hguar (fun _ _ _ _ => trivial) _)
    fun _ => ?_
  exact .fail .true

end Run

/-! ## Exactness -/

/-- The KubeNova bindings of the cluster are the planned ones, each bound to a Role with the
planned rules. -/
structure Exact (crypto : Crypto) (clusterId : String) (now : Nat) (d : Directory)
    (c : RbacCluster) : Prop where
  complete : ∀ plan, Planned crypto clusterId now d c plan →
    ∃ b r, c.bindings.lookup plan.key = some b ∧ b.isNative clusterId = true ∧
      bindingMatches plan b = true ∧ c.roles.lookup plan.key = some r ∧ roleMatches plan r = true
  sound : ∀ key b, c.bindings.lookup key = some b → b.isNative clusterId = true →
    ∃ plan, Planned crypto clusterId now d c plan ∧ plan.key = key

/-- A KubeNova binding with a planned name is where a pair is planned. -/
def WellPlaced (crypto : Crypto) (clusterId : String) (now : Nat) (d : Directory)
    (c : RbacCluster) : Prop :=
  ∀ key b, c.bindings.lookup key = some b → b.isNative clusterId = true →
    (∃ plan, Planned crypto clusterId now d c plan ∧ plan.role.metadata.name = key.2) →
    ∃ plan, Planned crypto clusterId now d c plan ∧ plan.key = key

section Exactness

variable {crypto : Crypto} {clusterId : String} {now : Nat} {d : Directory} {c c' : RbacCluster}

theorem Planned.congr (hsame : c'.namespaces = c.namespaces) (plan : NativeRbac) :
    Planned crypto clusterId now d c' plan ↔ Planned crypto clusterId now d c plan := by
  simp only [Planned, PlannedFor.congr hsame]

theorem Planned.clusterId_eq {plan : NativeRbac} (h : Planned crypto clusterId now d c plan) :
    plan.role.metadata.target.clusterId = clusterId := by
  obtain ⟨user, -, -, hplan⟩ := h
  obtain ⟨-, name, uid, -, hmetadata⟩ := hplan.metadata
  rw [hmetadata, PlanMetadata.target]

theorem isNative_of_isOwned {b : RoleBinding} {target : PairTarget}
    (howned : b.metadata.isOwned target = true) (hcluster : target.clusterId = clusterId) :
    b.isNative clusterId = true := by
  simp only [ObjectMeta.isOwned, Bool.and_eq_true] at howned
  simp only [RoleBinding.isNative, ObjectMeta.isManaged, ObjectMeta.isOfCluster, Bool.and_eq_true]
  exact ⟨howned.1.1.2, hcluster ▸ howned.2⟩

theorem Finished.exact_iff
    (h : Finished clusterId (Planned crypto clusterId now d c) c c') :
    Exact crypto clusterId now d c' ↔ WellPlaced crypto clusterId now d c := by
  have hplanned := @Planned.congr crypto clusterId now d _ _
    h.namespaces
  constructor
  · intro hexact key b hb hnative hname
    by_contra hnone
    push Not at hnone
    have hkept : c'.bindings.lookup key = some b := by
      rw [h.kept key hnone, hb]
      rintro ⟨-, hfresh⟩
      obtain ⟨plan, hplan, hsame⟩ := hname
      exact hfresh plan hplan hsame
    obtain ⟨plan, hplan, hkey⟩ := hexact.sound key b hkept hnative
    exact hnone plan ((hplanned plan).mp hplan) hkey
  · intro hplaced
    refine ⟨fun plan hplan => ?_, fun key b hb hnative => ?_⟩
    · have hplan' := (hplanned plan).mp hplan
      obtain ⟨⟨r, hr, hrules, -⟩, ⟨b, hb, hmatches, howned⟩⟩ := h.inPlace plan hplan'
      exact ⟨b, r, hb, isNative_of_isOwned howned hplan'.clusterId_eq, hmatches, hr, hrules⟩
    · simp only [hplanned]
      by_contra hnone
      push Not at hnone
      by_cases hleftover : Leftover clusterId (Planned crypto clusterId now d c) c key
      · rw [h.gone key hleftover] at hb
        cases hb
      · rw [h.kept key hnone hleftover] at hb
        have hname : ∃ plan, Planned crypto clusterId now d c plan ∧
            plan.role.metadata.name = key.2 := by
          by_contra hfresh
          push Not at hfresh
          exact hleftover ⟨⟨b, hb, hnative⟩, hfresh⟩
        obtain ⟨plan, hplan, hkey⟩ := hplaced key b hb hnative hname
        exact hnone plan hplan hkey

end Exactness

/-- Nobody else changes the cluster, the directory or the settings; the clock goes on. -/
def quietContract : Contract World where
  env s t := t.cluster = s.cluster ∧ t.directory = s.directory ∧ t.configs = s.configs ∧ s.now ≤ t.now
  guar _ _ := True
  assumes _ := True
  refl _ := trivial

/-- The directory is the given one, and the clock has not gone back. -/
def Since (d : Directory) (start now : Nat) (s : World) : Prop :=
  s.directory = d ∧ start ≤ now ∧ now ≤ s.now

theorem reads_since (d : Directory) (start : Nat) : Reads quietContract d (Since d start) where
  alone now := by
    refine ⟨fun _ _ h => h.1, fun s t hs h => ?_, fun _ _ hs => hs⟩
    exact ⟨h.2.1.trans hs.1, hs.2.1, hs.2.2.trans h.2.2.2⟩
  directory _ _ hs := hs.1
  clock _ _ hs := ⟨hs.1, hs.2.1.trans hs.2.2, le_refl _⟩
  status now clusterId revision status s hs := by
    obtain ⟨configs, hframe⟩ := updateStatus_frame status s
    rw [hframe]
    exact hs

/-- `u` may use `kubectl` in the namespace `apps`. -/
def readerGrant : Grant :=
  ⟨"g", some "u", none, "c", "viewer", "active", 0, none, none, [⟨"uid-1", "apps"⟩], ["kubeconfig"],
    Bool.false_ne_true, Option.not_mem_none ""⟩

def readerDirectory : Directory :=
  ⟨[⟨"a", true, "admin", 0⟩, ⟨"u", true, "viewer", 0⟩], fun _ => false, [],
    fun id => if id = "c" then some ⟨none, "online"⟩ else none, [readerGrant]⟩

def readerCrypto : Crypto := Crypto.ofDigests
  [("[\"c\",\"u\"]", "50"), ("[\"c\",\"u\",\"uid-1\"]", "51"),
    ("[\"c\",\"u\",\"uid-2\"]", "52"), ("[\"c\",\"a\",\"uid-1\"]", "41"),
    ("[\"c\",\"a\",\"uid-2\"]", "42")]

def readerCluster (bindings : Table ObjectKey RoleBinding) : RbacCluster :=
  ⟨((∅ : Table String String).insert "web" "uid-2").insert "apps" "uid-1", ∅, bindings, 2, 2⟩

def readerWorld (bindings : Table ObjectKey RoleBinding) : World where
  cluster := readerCluster bindings
  directory := readerDirectory
  configs id := if id = "c" then some ⟨true, 1, "pending", none, none, none⟩ else none
  kubeconfig := some (some ⟨false, .ok "https:"⟩)
  now := 0
  calls := 0
  fate _ := .answered

def administrator : Option Actor := some ⟨some "a", none, some "admin"⟩

/-- A binding of the reader, copied into the namespace `web`. -/
def copiedBinding : RoleBinding :=
  ⟨⟨1, 1, [("app.kubernetes.io/managed-by", "kubenova")],
    [("kubenova.io/namespace-uid", "uid-2"), ("kubenova.io/cluster-id", "c")]⟩,
    some [⟨rbacGroup, "User", "kubenova:native:50"⟩], ⟨rbacGroup, "Role", "kn-native-51"⟩⟩

def copiedWorld : World :=
  readerWorld ((∅ : Table ObjectKey RoleBinding).insert ("web", "kn-native-51") copiedBinding)

def revokedBinding : RoleBinding :=
  ⟨⟨1, 1, [("app.kubernetes.io/managed-by", "kubenova")],
    [("kubenova.io/namespace-uid", "uid-1"), ("kubenova.io/cluster-id", "c")]⟩,
    some [⟨rbacGroup, "User", "kubenova:native:60"⟩], ⟨rbacGroup, "Role", "kn-native-61"⟩⟩

def revokedWorld : World :=
  readerWorld ((∅ : Table ObjectKey RoleBinding).insert ("apps", "kn-native-61") revokedBinding)

theorem valid_readerCluster {key : ObjectKey} {b : RoleBinding}
    (hns : key.1 = "apps" ∨ key.1 = "web") (hname : key.2 ≠ "") :
    (readerCluster ((∅ : Table ObjectKey RoleBinding).insert key b)).Valid := by
  intro key' b' hb
  have hkey : key' = key := by
    by_contra hne
    simp only [readerCluster, Table.lookup_insert, if_neg hne, AList.lookup_empty] at hb
    cases hb
  subst hkey
  have hlive : ((readerCluster ((∅ : Table ObjectKey RoleBinding).insert key' b)).namespaces.lookup
      key'.1).isSome = true := by
    simp only [readerCluster, Table.lookup_insert, AList.lookup_empty]
    rcases hns with hns | hns <;> rw [hns] <;> decide
  refine ⟨hlive, ?_, hname⟩
  rcases hns with hns | hns <;> rw [hns] <;> decide

theorem live_readerCluster {bindings : Table ObjectKey RoleBinding} {name uid : String}
    (h : (readerCluster bindings).namespaces.lookup name = some uid) :
    name = "apps" ∧ uid = "uid-1" ∨ name = "web" ∧ uid = "uid-2" := by
  simp only [readerCluster, Table.lookup_insert, AList.lookup_empty] at h
  split at h
  · exact .inl ⟨‹_›, (Option.some.inj h).symm⟩
  · split at h
    · exact .inr ⟨‹_›, (Option.some.inj h).symm⟩
    · cases h

theorem collisionFree_reader (bindings : Table ObjectKey RoleBinding) :
    CollisionFree readerCrypto "c" readerDirectory (readerCluster bindings) := by
  have htexts : ∀ id ∈ ["a", "u"], ∀ id' ∈ ["a", "u"], ∀ uid ∈ ["uid-1", "uid-2"],
      digest readerCrypto (pairText "c" id uid) = digest readerCrypto (pairText "c" id' uid) →
      pairText "c" id uid = pairText "c" id' uid := by decide +kernel
  intro user huser user' huser' name uid hlive
  refine htexts user.id ?_ user'.id ?_ uid ?_
  · exact List.mem_map_of_mem (f := UserRow.id) huser
  · exact List.mem_map_of_mem (f := UserRow.id) huser'
  · rcases live_readerCluster hlive with ⟨-, rfl⟩ | ⟨-, rfl⟩ <;> simp

theorem executes_reader {s : World} {answer : ReconcileAnswer}
    (hanswer : ((reconcile readerCrypto administrator "c").run s).1 = .ok answer) :
    Executes quietContract (reconcile readerCrypto administrator "c") s (.done answer)
      ((reconcile readerCrypto administrator "c").run s).2 := by
  have hrun := Executes.of_run (C := quietContract) (fun _ => trivial)
    (reconcile readerCrypto administrator "c") s
  rwa [hanswer] at hrun

end KubeNova.Native
