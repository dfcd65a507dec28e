import KubeNova.Foundation.RelyGuarantee
import KubeNova.Native.RbacSync

/-!
# A crash of the synchronisation leaves a safe pair

Each call of the synchronisation is one of five moves of the stored pair.  The moves
keep the old binding with its old role, or bring the new binding to the new role, so
wherever the procedure stops, nobody holds rules meant for another.
-/

namespace KubeNova.Native

open KubeNova.Foundation KubeNova.Common KubeNova.Access

/-- Nobody else changes what the API server stores; `F` is a fact about the rest of the
state that others keep and that calls do not touch. -/
structure Alone (C : Contract World) (F : World → Prop) : Prop where
  cluster : ∀ s t, C.env s t → t.cluster = s.cluster
  frame : Stable C F
  served : ∀ s c, F s → F (s.setCluster c)

/-- The fact `F`, and `P` of what the API server stores. -/
def At (F : World → Prop) (P : RbacCluster → Prop) (s : World) : Prop := F s ∧ P s.cluster

/-- The contract allows every statement that moves the cluster by `M`. -/
def Permits (C : Contract World) (M : RbacCluster → RbacCluster → Prop) : Prop :=
  ∀ s t, M s.cluster t.cluster → C.guar s t

variable {C : Contract World} {F : World → Prop} {M : RbacCluster → RbacCluster → Prop} {α : Type}

theorem Alone.stable (hC : Alone C F) (P : RbacCluster → Prop) : Stable C (At F P) := by
  intro s t hs hmove
  refine ⟨hC.frame s t hs.1 hmove, ?_⟩
  rw [hC.cluster s t hmove]
  exact hs.2

theorem returns_call (hC : Alone C F) (hM : Permits C M) (hrefl : ∀ c, M c c)
    {f : RbacCluster → Except Exception α × RbacCluster} {P : RbacCluster → Prop}
    {R : α → RbacCluster → Prop}
    (hf : ∀ c, P c → M c (f c).2 ∧ ∀ a, (f c).1 = .ok a → R a (f c).2) :
    Returns C (At F P) (call f) fun a => At F (R a) := by
  refine .exec_ofExcept (hC.stable P) (fun s hs _ => ?_) fun a => hC.stable (R a)
  obtain ⟨hmove, hanswer⟩ := hf s.cluster hs.2
  unfold World.serve
  split
  · exact ⟨hM _ _ hmove, fun a ha => ⟨hC.served _ _ hs.1, hanswer a ha⟩⟩
  · exact ⟨hM _ _ (hrefl _), fun a ha => by cases ha⟩
  · exact ⟨hM _ _ hmove, fun a ha => by cases ha⟩

theorem returns_readCall (hC : Alone C F) (hM : Permits C M) (hrefl : ∀ c, M c c)
    {f : RbacCluster → Except Exception α} {P : RbacCluster → Prop} :
    Returns C (At F P) (readCall f) fun a => At F fun c => f c = .ok a ∧ P c :=
  returns_call (f := fun c => (f c, c)) (R := fun a c => f c = .ok a ∧ P c) hC hM hrefl
    fun c hc => ⟨hrefl c, fun _ ha => ⟨ha, hc⟩⟩

/-- What one statement of the synchronisation may do to the stored objects. -/
inductive PairMove (desired : NativeRbac) (revoke : Bool) (c : RbacCluster) : RbacCluster → Prop
  | same : PairMove desired revoke c c
  | unbind {binding : RoleBinding}
      (hfound : c.bindings.lookup desired.role.metadata.target.key = some binding)
      (howned : binding.metadata.isOwned desired.role.metadata.target = true) :
      PairMove desired revoke c
        (c.setBindings (c.bindings.erase desired.role.metadata.target.key))
  | removeRole {role : Role} (hrevoke : revoke = true)
      (hunbound : c.bindings.lookup desired.role.metadata.target.key = none)
      (hfound : c.roles.lookup desired.role.metadata.target.key = some role)
      (howned : role.metadata.isOwned desired.role.metadata.target = true) :
      PairMove desired revoke c (c.setRoles (c.roles.erase desired.role.metadata.target.key))
  | putRole {role : Role} (hunbound : c.bindings.lookup desired.role.metadata.target.key = none)
      (howned : ∀ old, c.roles.lookup desired.role.metadata.target.key = some old →
        old.metadata.isOwned desired.role.metadata.target = true) :
      PairMove desired revoke c (c.setRoles (c.roles.insert desired.role.metadata.target.key role))
  | bind {binding : RoleBinding} {role : Role}
      (hunbound : c.bindings.lookup desired.role.metadata.target.key = none)
      (hrole : c.roles.lookup desired.role.metadata.target.key = some role)
      (hmatches : roleMatches desired role = true)
      (hbinding : bindingMatches desired binding = true) :
      PairMove desired revoke c
        (c.setBindings (c.bindings.insert desired.role.metadata.target.key binding))

/-- What holds of the stored objects at every point, compared with those at the start. -/
structure PairSafe (desired : NativeRbac) (start c : RbacCluster) : Prop where
  /-- A KubeNova binding is the old one with the old role, or the desired one with the
  desired role. -/
  binding : ∀ b, c.bindings.lookup desired.role.metadata.target.key = some b →
    b.metadata.isOwned desired.role.metadata.target = true →
    (start.bindings.lookup desired.role.metadata.target.key = some b ∧
      c.roles.lookup desired.role.metadata.target.key =
        start.roles.lookup desired.role.metadata.target.key) ∨
    (bindingMatches desired b = true ∧
      ∃ r, c.roles.lookup desired.role.metadata.target.key = some r ∧ roleMatches desired r = true)
  /-- The role is not deleted while the binding remains. -/
  roleLast : (start.roles.lookup desired.role.metadata.target.key).isSome = true →
    c.roles.lookup desired.role.metadata.target.key = none →
    c.bindings.lookup desired.role.metadata.target.key = none
  foreignRole : ∀ r, start.roles.lookup desired.role.metadata.target.key = some r →
    r.metadata.isOwned desired.role.metadata.target = false →
    c.roles.lookup desired.role.metadata.target.key = some r
  foreignBinding : ∀ b, start.bindings.lookup desired.role.metadata.target.key = some b →
    b.metadata.isOwned desired.role.metadata.target = false →
    c.bindings.lookup desired.role.metadata.target.key = some b
  others : ∀ key, key ≠ desired.role.metadata.target.key →
    c.roles.lookup key = start.roles.lookup key ∧ c.bindings.lookup key = start.bindings.lookup key

section Moves

variable {desired : NativeRbac} {revoke : Bool} {start c c' : RbacCluster}

theorem PairSafe.refl (desired : NativeRbac) (c : RbacCluster) : PairSafe desired c c where
  binding _ hb _ := .inl ⟨hb, rfl⟩
  roleLast hsome hnone := by simp [hnone] at hsome
  foreignRole _ hr _ := hr
  foreignBinding _ hb _ := hb
  others _ _ := ⟨rfl, rfl⟩

theorem PairSafe.move (h : PairSafe desired start c) (hmove : PairMove desired revoke c c') :
    PairSafe desired start c' := by
  cases hmove with
  | same => exact h
  | @unbind binding hfound howned =>
      refine ⟨fun b hb => ?_, fun _ _ => ?_, h.foreignRole, fun b hb hforeign => ?_,
        fun key hkey => ?_⟩
      · simp [RbacCluster.setBindings] at hb
      · simp [RbacCluster.setBindings]
      · have hsame := h.foreignBinding b hb hforeign
        rw [hfound] at hsame
        obtain rfl := Option.some.inj hsame
        simp [howned] at hforeign
      · have hothers := h.others key hkey
        refine ⟨hothers.1, ?_⟩
        simp only [RbacCluster.setBindings]
        rw [AList.lookup_erase_ne hkey, hothers.2]
  | @removeRole role hrevoke hunbound hfound howned =>
      refine ⟨fun b hb => ?_, fun _ _ => hunbound, fun r hr hforeign => ?_, h.foreignBinding,
        fun key hkey => ?_⟩
      · simp [RbacCluster.setRoles, hunbound] at hb
      · have hsame := h.foreignRole r hr hforeign
        rw [hfound] at hsame
        obtain rfl := Option.some.inj hsame
        simp [howned] at hforeign
      · have hothers := h.others key hkey
        refine ⟨?_, hothers.2⟩
        simp only [RbacCluster.setRoles]
        rw [AList.lookup_erase_ne hkey, hothers.1]
  | @putRole role hunbound howned =>
      refine ⟨fun b hb => ?_, fun _ _ => hunbound, fun r hr hforeign => ?_, h.foreignBinding,
        fun key hkey => ?_⟩
      · simp [RbacCluster.setRoles, hunbound] at hb
      · have hsame := h.foreignRole r hr hforeign
        simp [howned r hsame] at hforeign
      · have hothers := h.others key hkey
        refine ⟨?_, hothers.2⟩
        simp only [RbacCluster.setRoles]
        rw [AList.lookup_insert_ne hkey, hothers.1]
  | @bind binding role hunbound hrole hmatches hbinding =>
      refine ⟨fun b hb _ => .inr ?_, fun _ hnone => ?_, h.foreignRole, fun b hb hforeign => ?_,
        fun key hkey => ?_⟩
      · obtain rfl : binding = b := by simpa [RbacCluster.setBindings] using hb
        exact ⟨hbinding, role, hrole, hmatches⟩
      · simp [RbacCluster.setBindings, hrole] at hnone
      · have hsame := h.foreignBinding b hb hforeign
        simp [hunbound] at hsame
      · have hothers := h.others key hkey
        refine ⟨hothers.1, ?_⟩
        simp only [RbacCluster.setBindings]
        rw [AList.lookup_insert_ne hkey, hothers.2]

end Moves

/-! ## What the procedures promise -/

def Quiet (C : Contract World) (F : World → Prop) (h : RbacHandler Unit) : Prop :=
  ∀ P : RbacCluster → Prop, Returns C (At F P) h fun _ => At F P

/-- What `inspectNativeRbac` has found out about the stored pair. -/
structure Inspected (desired : NativeRbac) (c : RbacCluster)
    (pair : Option Role × Option RoleBinding) : Prop where
  valid : desired.role.metadata.target.isValid = true
  metadata : desired.role.metadata = desired.binding.metadata
  live : c.namespaces.lookup desired.role.metadata.namespaceName =
    some desired.role.metadata.namespaceUid
  role : c.roles.lookup desired.role.metadata.target.key = pair.1
  binding : c.bindings.lookup desired.role.metadata.target.key = pair.2
  roleOwned : ∀ r, pair.1 = some r → r.metadata.isOwned desired.role.metadata.target = true
  bindingOwned : ∀ b, pair.2 = some b → b.metadata.isOwned desired.role.metadata.target = true

structure OnlyAt (key : ObjectKey) (c c' : RbacCluster) : Prop where
  namespaces : c'.namespaces = c.namespaces
  roles : ∀ k, k ≠ key → c'.roles.lookup k = c.roles.lookup k
  bindings : ∀ k, k ≠ key → c'.bindings.lookup k = c.bindings.lookup k

structure Applied (desired : NativeRbac) (c c' : RbacCluster) : Prop where
  live : c.namespaces.lookup desired.role.metadata.namespaceName =
    some desired.role.metadata.namespaceUid
  role : ∃ r, c'.roles.lookup desired.role.metadata.target.key = some r ∧
    roleMatches desired r = true ∧ (desired.role.metadata.managedBy = "kubenova" →
      r.metadata.isOwned desired.role.metadata.target = true)
  binding : ∃ b, c'.bindings.lookup desired.role.metadata.target.key = some b ∧
    bindingMatches desired b = true ∧ (desired.role.metadata.managedBy = "kubenova" →
      b.metadata.isOwned desired.role.metadata.target = true)
  only : OnlyAt desired.role.metadata.target.key c c'

structure Removed (key : ObjectKey) (c c' : RbacCluster) : Prop where
  role : c'.roles.lookup key = none
  binding : c'.bindings.lookup key = none
  only : OnlyAt key c c'

theorem OnlyAt.refl (key : ObjectKey) (c : RbacCluster) : OnlyAt key c c :=
  ⟨rfl, fun _ _ => rfl, fun _ _ => rfl⟩

theorem OnlyAt.trans {key : ObjectKey} {a b c : RbacCluster} (hab : OnlyAt key a b)
    (hbc : OnlyAt key b c) : OnlyAt key a c where
  namespaces := hbc.namespaces.trans hab.namespaces
  roles k hk := (hbc.roles k hk).trans (hab.roles k hk)
  bindings k hk := (hbc.bindings k hk).trans (hab.bindings k hk)

theorem onlyAt_setBindings_erase (key : ObjectKey) (c : RbacCluster) :
    OnlyAt key c (c.setBindings (c.bindings.erase key)) where
  namespaces := rfl
  roles _ _ := rfl
  bindings _ hk := AList.lookup_erase_ne hk

theorem onlyAt_setBindings_insert (key : ObjectKey) (b : RoleBinding) (c : RbacCluster) :
    OnlyAt key c (c.setBindings (c.bindings.insert key b)) where
  namespaces := rfl
  roles _ _ := rfl
  bindings _ hk := AList.lookup_insert_ne hk

theorem onlyAt_setRoles_erase (key : ObjectKey) (c : RbacCluster) :
    OnlyAt key c (c.setRoles (c.roles.erase key)) where
  namespaces := rfl
  roles _ hk := AList.lookup_erase_ne hk
  bindings _ _ := rfl

theorem onlyAt_setRoles_insert (key : ObjectKey) (r : Role) (c : RbacCluster) :
    OnlyAt key c (c.setRoles (c.roles.insert key r)) where
  namespaces := rfl
  roles _ hk := AList.lookup_insert_ne hk
  bindings _ _ := rfl

section Procedures

variable (hC : Alone C F) (hM : Permits C M) (hrefl : ∀ c, M c c)

include hC hM hrefl

theorem returns_checkNamespace (P : RbacCluster → Prop) (target : PairTarget) :
    Returns C (At F P) (checkNamespace target) fun _ => At F fun c =>
      c.namespaces.lookup target.namespaceName = some target.namespaceUid ∧ P c := by
  refine .bind (returns_readCall (P := P) hC hM hrefl) fun uid => ?_
  refine .conseq (.ensure (hC.stable _)) (fun s hs => hs) fun _ s hs => ?_
  obtain ⟨rfl, hF, hread, hP⟩ := hs
  split at hread
  · rename_i found hfound
    obtain rfl := Except.ok.inj hread
    exact ⟨hF, hfound, hP⟩
  · cases hread

theorem returns_readRole (P : RbacCluster → Prop) (key : ObjectKey) :
    Returns C (At F P) (readRole key) fun role => At F fun c =>
      c.roles.lookup key = role ∧ P c :=
  .conseq (returns_readCall (P := P) hC hM hrefl) (fun _ hs => hs)
    fun _ _ hs => ⟨hs.1, Except.ok.inj hs.2.1, hs.2.2⟩

theorem returns_readBinding (P : RbacCluster → Prop) (key : ObjectKey) :
    Returns C (At F P) (readBinding key) fun binding => At F fun c =>
      c.bindings.lookup key = binding ∧ P c :=
  .conseq (returns_readCall (P := P) hC hM hrefl) (fun _ hs => hs)
    fun _ _ hs => ⟨hs.1, Except.ok.inj hs.2.1, hs.2.2⟩

theorem returns_inspect (P : RbacCluster → Prop) (desired : NativeRbac) :
    Returns C (At F P) (inspectNativeRbac desired) fun pair => At F fun c =>
      Inspected desired c pair ∧ P c := by
  refine .ensure_bind (hC.stable P) fun hvalid => ?_
  refine .bind (returns_checkNamespace hC hM hrefl P _) fun _ => ?_
  refine .bind (returns_readRole hC hM hrefl (fun c => c.namespaces.lookup
    desired.role.metadata.namespaceName = some desired.role.metadata.namespaceUid ∧ P c) _)
    fun role => ?_
  refine .bind (returns_readBinding hC hM hrefl (fun c =>
    c.roles.lookup desired.role.metadata.target.key = role ∧ c.namespaces.lookup
      desired.role.metadata.namespaceName = some desired.role.metadata.namespaceUid ∧ P c) _)
    fun binding => ?_
  have hstable := hC.stable fun c => c.bindings.lookup desired.role.metadata.target.key = binding ∧
    c.roles.lookup desired.role.metadata.target.key = role ∧ c.namespaces.lookup
      desired.role.metadata.namespaceName = some desired.role.metadata.namespaceUid ∧ P c
  refine .ensure_bind hstable fun hrole => .ensure_bind hstable fun hbinding => ?_
  refine .done hstable fun s hs => ?_
  obtain ⟨hF, hreadBinding, hreadRole, hlive, hP⟩ := hs
  refine ⟨hF, ⟨hvalid.1, hvalid.2, hlive, hreadRole, hreadBinding, fun r hr => ?_, fun b hb => ?_⟩, hP⟩
  · dsimp only at hr
    simpa [hr] using hrole
  · dsimp only at hb
    simpa [hb] using hbinding

omit hC hM hrefl in
theorem isOwned_newMeta (c : RbacCluster) {plan : PlanMetadata} (hmanaged : plan.managedBy = "kubenova")
    {uid : Nat} (huid : uid ≠ 0) : (c.newMeta plan uid).isOwned plan.target = true := by
  have hcluster : [("kubenova.io/namespace-uid", plan.namespaceUid),
      ("kubenova.io/cluster-id", plan.clusterId)].lookup "kubenova.io/cluster-id" =
        some plan.clusterId := rfl
  simp [ObjectMeta.isOwned, RbacCluster.newMeta, PlanMetadata.target, hmanaged, hcluster, huid]

def Unbound (key : ObjectKey) (c c' : RbacCluster) : Prop :=
  c'.bindings.lookup key = none ∧ c'.roles = c.roles ∧ OnlyAt key c c'

theorem returns_removeBinding {key : ObjectKey} {c : RbacCluster} {binding : Option RoleBinding}
    (hfound : c.bindings.lookup key = binding)
    (hmove : ∀ b, binding = some b → M c (c.setBindings (c.bindings.erase key))) :
    Returns C (At F (· = c)) (removeBinding key binding) fun _ => At F (Unbound key c) := by
  cases binding with
  | none =>
      refine .done (hC.stable (· = c)) fun s hs => ⟨hs.1, ?_⟩
      rw [hs.2]
      exact ⟨hfound, rfl, .refl key c⟩
  | some b =>
      refine returns_call (P := fun c' => c' = c) (R := fun _ c' => Unbound key c c') hC hM hrefl ?_
      rintro c' rfl
      have hserved : c'.deleteBinding key b.metadata =
          (.ok (), c'.setBindings (c'.bindings.erase key)) := by
        simp [RbacCluster.deleteBinding, hfound, RbacCluster.unchanged]
      rw [hserved]
      refine ⟨hmove b rfl, fun _ _ => ⟨?_, rfl, onlyAt_setBindings_erase key c'⟩⟩
      exact AList.lookup_erase key c'.bindings

theorem returns_removeRole {key : ObjectKey} {c : RbacCluster} {role : Option Role}
    (hfound : c.roles.lookup key = role)
    (hmove : ∀ r, role = some r → M c (c.setRoles (c.roles.erase key))) :
    Returns C (At F (· = c)) (removeRole key role) fun _ => At F fun c' =>
      c'.roles.lookup key = none ∧ c'.bindings = c.bindings ∧ OnlyAt key c c' := by
  cases role with
  | none =>
      refine .done (hC.stable (· = c)) fun s hs => ⟨hs.1, ?_⟩
      rw [hs.2]
      exact ⟨hfound, rfl, .refl key c⟩
  | some r =>
      refine returns_call (P := fun c' => c' = c) (R := fun _ c' => c'.roles.lookup key = none ∧
        c'.bindings = c.bindings ∧ OnlyAt key c c') hC hM hrefl ?_
      rintro c' rfl
      have hserved : c'.deleteRole key r.metadata = (.ok (), c'.setRoles (c'.roles.erase key)) := by
        simp [RbacCluster.deleteRole, hfound, RbacCluster.unchanged]
      rw [hserved]
      refine ⟨hmove r rfl, fun _ _ => ⟨?_, rfl, onlyAt_setRoles_erase key c'⟩⟩
      exact AList.lookup_erase key c'.roles

def RoleReady (desired : NativeRbac) (c c' : RbacCluster) : Prop :=
  c'.bindings.lookup desired.role.metadata.target.key = none ∧
    (∃ r, c'.roles.lookup desired.role.metadata.target.key = some r ∧
      roleMatches desired r = true ∧ (desired.role.metadata.managedBy = "kubenova" →
        r.metadata.isOwned desired.role.metadata.target = true)) ∧
    OnlyAt desired.role.metadata.target.key c c'

theorem returns_putRole {desired : NativeRbac} {c : RbacCluster} {role : Option Role}
    (hfound : c.roles.lookup desired.role.metadata.target.key = role)
    (hunbound : c.bindings.lookup desired.role.metadata.target.key = none)
    (howned : ∀ r, role = some r → r.metadata.isOwned desired.role.metadata.target = true)
    (hmove : ∀ r, M c (c.setRoles (c.roles.insert desired.role.metadata.target.key r))) :
    Returns C (At F (· = c)) (putRole desired role) fun _ => At F (RoleReady desired c) := by
  have hput : ∀ uid, uid ≠ 0 → RoleReady desired c (c.setRoles (c.roles.insert
      desired.role.metadata.target.key
        ⟨c.newMeta desired.role.metadata uid, some desired.role.rules⟩)) := fun uid huid =>
    ⟨hunbound, ⟨_, AList.lookup_insert _, by simp [roleMatches],
      fun hmanaged => isOwned_newMeta c hmanaged huid⟩, onlyAt_setRoles_insert _ _ c⟩
  cases role with
  | none =>
      refine returns_call (P := fun c' => c' = c) (R := fun _ => RoleReady desired c) hC hM hrefl ?_
      rintro c' rfl
      unfold RbacCluster.createRole
      split
      · exact ⟨hrefl _, fun _ h => by cases h⟩
      · simp only [hfound]
        exact ⟨hmove _, fun _ _ => hput _ (Nat.succ_ne_zero _)⟩
  | some r =>
      refine .ite (fun hmatches => ?_) fun _ => ?_
      · refine .done (hC.stable (· = c)) fun s hs => ⟨hs.1, ?_⟩
        rw [hs.2]
        exact ⟨hunbound, ⟨r, hfound, hmatches, fun _ => howned r rfl⟩, .refl _ c⟩
      · refine returns_call (P := fun c' => c' = c) (R := fun _ => RoleReady desired c) hC hM hrefl ?_
        rintro c' rfl
        have huid : r.metadata.uid ≠ 0 := by
          have hmeta := howned r rfl
          simp only [ObjectMeta.isOwned, Bool.and_eq_true, bne_iff_ne] at hmeta
          exact hmeta.1.1.1.1
        simp only [RbacCluster.replaceRole, hfound, if_true]
        exact ⟨hmove _, fun _ _ => hput _ huid⟩

theorem returns_createBinding {desired : NativeRbac} {c : RbacCluster}
    (hmetadata : desired.role.metadata = desired.binding.metadata)
    (hlive : c.namespaces.lookup desired.role.metadata.namespaceName =
      some desired.role.metadata.namespaceUid)
    (hmove : ∀ c' b, RoleReady desired c c' → bindingMatches desired b = true →
      M c' (c'.setBindings (c'.bindings.insert desired.role.metadata.target.key b))) :
    Returns C (At F (RoleReady desired c))
      (call (·.createBinding desired.role.metadata.target.key desired.binding))
      fun _ => At F (Applied desired c) := by
  refine returns_call (R := fun _ => Applied desired c) hC hM hrefl fun c' hready => ?_
  obtain ⟨hunbound, ⟨r, hrole, hmatches, howned⟩, honly⟩ := hready
  unfold RbacCluster.createBinding
  split
  · exact ⟨hrefl _, fun _ h => by cases h⟩
  · simp only [hunbound]
    refine ⟨hmove c' _ ⟨hunbound, ⟨r, hrole, hmatches, howned⟩, honly⟩ (by simp [bindingMatches]),
      fun _ _ => ⟨hlive, ⟨r, hrole, hmatches, howned⟩, ⟨_, AList.lookup_insert _,
        by simp [bindingMatches], fun hmanaged => ?_⟩,
        honly.trans (onlyAt_setBindings_insert _ _ c')⟩⟩
    rw [← hmetadata]
    exact isOwned_newMeta c' hmanaged (Nat.succ_ne_zero _)

end Procedures

section Pair

variable {desired : NativeRbac} {revoke : Bool} {assertCurrent : RbacHandler Unit}

/-- The synchronisation of a pair: its statements are moves of the pair, and an answer
means that the pair is in the desired state, or gone. -/
theorem returns_reconcileNativeRbacPair (hC : Alone C F)
    (hM : Permits C (PairMove desired revoke)) (hcurrent : Quiet C F assertCurrent)
    (c : RbacCluster) :
    Returns C (At F (· = c)) (reconcileNativeRbacPair desired revoke assertCurrent)
      fun _ => At F fun c' =>
        if revoke = true then Removed desired.role.metadata.target.key c c'
        else Applied desired c c' := by
  have hrefl : ∀ c, PairMove desired revoke c c := fun c => .same
  refine .bind (hcurrent (· = c)) fun _ => ?_
  refine .bind (returns_inspect hC hM hrefl (· = c) desired) fun pair => ?_
  obtain ⟨role, binding⟩ := pair
  refine fun s hs => ?_
  obtain ⟨hF, hinspected, rfl⟩ := hs
  refine Returns.guards (p := At F (· = s.cluster)) ?_ ⟨hF, rfl⟩
  refine .ite (fun hready => ?_) fun _ => ?_
  · refine .done (hC.stable (· = s.cluster)) fun s' hs' => ⟨hs'.1, ?_⟩
    obtain ⟨hrevoke, hrole, hbinding⟩ := hready
    rw [hs'.2, if_neg (by simp [hrevoke])]
    obtain ⟨r, rfl, hr⟩ := (Option.any_eq_true _ _).mp hrole
    obtain ⟨b, rfl, hb⟩ := (Option.any_eq_true _ _).mp hbinding
    exact ⟨hinspected.live, ⟨r, hinspected.role, hr, fun _ => hinspected.roleOwned r rfl⟩,
      ⟨b, hinspected.binding, hb, fun _ => hinspected.bindingOwned b rfl⟩, .refl _ _⟩
  · refine .bind (returns_removeBinding hC hM hrefl hinspected.binding fun b hb =>
      .unbind (hinspected.binding.trans hb) (hinspected.bindingOwned b hb)) fun _ => ?_
    refine fun s₁ hs₁ => ?_
    obtain ⟨hF₁, hunbound, hroles, honly⟩ := hs₁
    refine Returns.guards (p := At F (· = s₁.cluster)) ?_ ⟨hF₁, rfl⟩
    have hrole : s₁.cluster.roles.lookup desired.role.metadata.target.key = role := by
      rw [hroles, hinspected.role]
    refine .ite (fun hrevoke => ?_) fun hrevoke => ?_
    · refine .conseq (returns_removeRole hC hM hrefl hrole fun r hr =>
        .removeRole hrevoke hunbound (hrole.trans hr) (hinspected.roleOwned r hr))
        (fun _ hs => hs) fun _ s' hs' => ⟨hs'.1, ?_⟩
      obtain ⟨hgone, hbindings, honly'⟩ := hs'.2
      rw [if_pos hrevoke]
      refine ⟨hgone, ?_, honly.trans honly'⟩
      rw [hbindings, hunbound]
    · have hlive : s₁.cluster.namespaces.lookup desired.role.metadata.namespaceName =
          some desired.role.metadata.namespaceUid := by
        rw [honly.namespaces, hinspected.live]
      refine .bind (returns_putRole hC hM hrefl hrole hunbound hinspected.roleOwned fun r =>
        .putRole hunbound fun old hold => hinspected.roleOwned old (hrole.symm.trans hold))
        fun _ => ?_
      refine .bind (hcurrent (RoleReady desired s₁.cluster)) fun _ => ?_
      refine .bind (returns_checkNamespace hC hM hrefl (RoleReady desired s₁.cluster) _) fun _ => ?_
      refine .conseq (returns_createBinding hC hM hrefl hinspected.metadata hlive
        fun c' b hc' hb => ?_) (fun _ hs => ⟨hs.1, hs.2.2⟩) fun _ s' hs' => ⟨hs'.1, ?_⟩
      · obtain ⟨hunbound', ⟨r, hr, hmatches, -⟩, -⟩ := hc'
        exact .bind hunbound' hr hmatches hb
      · simp only [if_neg hrevoke]
        exact ⟨hinspected.live, hs'.2.role, hs'.2.binding, honly.trans hs'.2.only⟩

end Pair

/-- The guard reads the settings and the user; it does not touch the cluster. -/
def clusterKept : Protocol World where
  inv _ := True
  guar s t := t.cluster = s.cluster
  refl _ := rfl
  preserves _ _ := trivial

theorem quiet_of_obeys {C : Contract World} (hC : Alone C fun _ => True) (hM : Permits C Eq)
    {h : RbacHandler Unit} (hh : Obeys clusterKept h) : Quiet C (fun _ => True) h := by
  intro P
  have htriple : Triple C (At (fun _ => True) P) h fun _ => At (fun _ => True) P :=
    hh.triple (fun s t _ hst => hM s t hst.symm) (hC.stable P) (fun _ _ => trivial)
      fun s t hs hst => ⟨trivial, hst ▸ hs.2⟩
  exact htriple.conseq (fun _ hs => hs) fun _ s hs _ _ => hs

/-- Nobody else changes the API server's objects; anything else may change, calls may fail
before or after their effect, and the process may die. -/
def pairContract (desired : NativeRbac) (revoke : Bool) : Contract World where
  env s t := t.cluster = s.cluster
  guar s t := PairMove desired revoke s.cluster t.cluster
  assumes _ := True
  refl _ := .same

def samplePair : NativeRbac :=
  let metadata : PlanMetadata := ⟨"kn-native-1", "apps", "kubenova", "uid-1", "prod"⟩
  ⟨⟨metadata, [rule "" ["pods"] ["get"]]⟩,
    ⟨metadata, ⟨rbacGroup, "Role", "kn-native-1"⟩, [⟨rbacGroup, "User", "kubenova:native:1"⟩]⟩⟩

def sampleMeta (uid : Nat) : ObjectMeta :=
  ⟨uid, uid, [("app.kubernetes.io/managed-by", "kubenova")],
    [("kubenova.io/namespace-uid", "uid-1"), ("kubenova.io/cluster-id", "prod")]⟩

def sampleCluster : RbacCluster where
  namespaces := (∅ : Table String String).insert "apps" "uid-1"
  roles := (∅ : Table ObjectKey Role).insert ("apps", "kn-native-1")
    ⟨sampleMeta 1, some [rule "" ["pods", "secrets"] ["get"]]⟩
  bindings := (∅ : Table ObjectKey RoleBinding).insert ("apps", "kn-native-1")
    ⟨sampleMeta 2, some samplePair.binding.subjects, samplePair.binding.roleRef⟩
  lastUid := 2
  lastVersion := 2

def sampleWorld (fate : Nat → Fate) : World where
  cluster := sampleCluster
  directory := ⟨[], fun _ => false, [], fun _ => none, []⟩
  configs _ := none
  kubeconfig := none
  now := 0
  calls := 0
  fate := fate

/-- The answer to the fifth call, the update of the role, is lost. -/
def lostUpdate : World := sampleWorld fun n => if n = 4 then .lost "timeout" else .answered

end KubeNova.Native
