import KubeNova.Native.ReconcileExact

/-!
# When the synchronisation of a pair goes through

Where every call is answered, a pair can be brought in place if nobody else owns an object
under its key, and a leftover can be removed if it is marked as KubeNova marks its pairs.
-/

namespace KubeNova.Native

open KubeNova.Foundation KubeNova.Common KubeNova.Access

def Claimable (target : PairTarget) (c : RbacCluster) : Prop :=
  (∀ r, c.roles.lookup target.key = some r → r.metadata.isOwned target = true) ∧
    ∀ b, c.bindings.lookup target.key = some b → b.metadata.isOwned target = true

section Pairs

variable {C : Contract World} {F : World → Prop} {α : Type} {c : RbacCluster}

theorem succeeds_at {P : RbacCluster → Prop} {h : RbacHandler α}
    (hh : ∀ c, P c → Succeeds (At F (· = c)) h) : Succeeds (At F P) h :=
  fun s hs => hh s.cluster hs.2 s ⟨hs.1, rfl⟩

variable (hC : Alone C F) (hguar : ∀ s t, C.guar s t) (hall : ∀ s, C.assumes s)
  (hanswered : ∀ s, F s → ∀ n, s.fate n = .answered)

include hanswered

theorem succeeds_call {f : RbacCluster → Except Exception α × RbacCluster} {P : RbacCluster → Prop}
    (hf : ∀ c, P c → ∃ a, (f c).1 = .ok a) : Succeeds (At F P) (call f) := by
  intro s hs
  obtain ⟨a, ha⟩ := hf s.cluster hs.2
  refine ⟨a, ?_⟩
  simp [call, World.serve, hanswered s hs.1, ha, Async.ofExcept]

include hC hguar hall

theorem succeeds_checkNamespace {target : PairTarget} {P : RbacCluster → Prop}
    (hlive : ∀ c, P c → c.namespaces.lookup target.namespaceName = some target.namespaceUid) :
    Succeeds (At F P) (checkNamespace target) := by
  refine .bind hall (returns_readCall (M := fun _ _ => True) (P := P) hC (fun _ _ _ => hguar _ _)
    (fun _ => trivial)) ?_ fun uid => .ensure fun s hs => ?_
  · refine succeeds_call hanswered fun c hc => ⟨target.namespaceUid, ?_⟩
    simp [hlive c hc]
  · have hread := hs.2.1
    rw [hlive _ hs.2.2] at hread
    exact (Except.ok.inj hread).symm

theorem succeeds_inspect {desired : NativeRbac} (hvalid : desired.role.metadata.target.isValid = true)
    (hmetadata : desired.role.metadata = desired.binding.metadata)
    (hlive : c.namespaces.lookup desired.role.metadata.namespaceName =
      some desired.role.metadata.namespaceUid)
    (hclaimable : Claimable desired.role.metadata.target c) :
    Succeeds (At F (· = c)) (inspectNativeRbac desired) := by
  have hM : Permits C fun _ _ => True := fun _ _ _ => hguar _ _
  have hrefl : ∀ c : RbacCluster, (fun _ _ => True : RbacCluster → RbacCluster → Prop) c c :=
    fun _ => trivial
  refine .ensure_bind (fun _ _ => ⟨hvalid, hmetadata⟩) ?_
  refine .bind hall (returns_checkNamespace hC hM hrefl (· = c) _) ?_ fun _ => ?_
  · refine succeeds_checkNamespace hC hguar hall hanswered fun c' hc' => ?_
    rw [hc']
    exact hlive
  refine .bind hall (returns_readRole hC hM hrefl (fun c' => _ ∧ c' = c) _) ?_ fun role => ?_
  · exact succeeds_call hanswered fun c' _ => ⟨_, rfl⟩
  refine .bind hall (returns_readBinding hC hM hrefl (fun c' => _ ∧ _ ∧ c' = c) _) ?_ fun binding => ?_
  · exact succeeds_call hanswered fun c' _ => ⟨_, rfl⟩
  refine .ensure_bind (fun s hs => ?_) (.ensure_bind (fun s hs => ?_) (.done _))
  · obtain ⟨-, -, hrole, -, hc⟩ := hs
    rw [hc] at hrole
    cases role with
    | none => rfl
    | some r => exact hclaimable.1 r hrole
  · obtain ⟨-, hbinding, -, -, hc⟩ := hs
    rw [hc] at hbinding
    cases binding with
    | none => rfl
    | some b => exact hclaimable.2 b hbinding

omit hC hguar hall in
theorem succeeds_removeBinding {key : ObjectKey} {binding : Option RoleBinding}
    (hfound : c.bindings.lookup key = binding) :
    Succeeds (At F (· = c)) (removeBinding key binding) := by
  cases binding with
  | none => exact .done ()
  | some b =>
      refine succeeds_call hanswered fun c' hc' => ⟨(), ?_⟩
      simp [hc', RbacCluster.deleteBinding, hfound, RbacCluster.unchanged]

omit hC hguar hall in
theorem succeeds_removeRole {key : ObjectKey} {role : Option Role}
    (hfound : c.roles.lookup key = role) : Succeeds (At F (· = c)) (removeRole key role) := by
  cases role with
  | none => exact .done ()
  | some r =>
      refine succeeds_call hanswered fun c' hc' => ⟨(), ?_⟩
      simp [hc', RbacCluster.deleteRole, hfound, RbacCluster.unchanged]

omit hC hguar hall in
theorem succeeds_putRole {desired : NativeRbac} {role : Option Role}
    (hlive : c.namespaces.lookup desired.role.metadata.namespaceName =
      some desired.role.metadata.namespaceUid)
    (hfound : c.roles.lookup desired.role.metadata.target.key = role) :
    Succeeds (At F (· = c)) (putRole desired role) := by
  have hns : c.namespaces.lookup desired.role.metadata.target.key.1 =
      some desired.role.metadata.namespaceUid := hlive
  cases role with
  | none =>
      refine succeeds_call hanswered fun c' hc' => ⟨(), ?_⟩
      simp [hc', RbacCluster.createRole, hns, hfound]
  | some r =>
      refine .ite (fun _ => .done ()) fun _ => ?_
      refine succeeds_call hanswered fun c' hc' => ⟨(), ?_⟩
      simp [hc', RbacCluster.replaceRole, hfound]

theorem succeeds_reconcileNativeRbacPair {desired : NativeRbac} {guard : RbacHandler Unit}
    (hcurrent : Quiet C F guard) (hguard : ∀ P, Succeeds (At F P) guard)
    (hvalid : desired.role.metadata.target.isValid = true)
    (hmetadata : desired.role.metadata = desired.binding.metadata)
    (hlive : c.namespaces.lookup desired.role.metadata.namespaceName =
      some desired.role.metadata.namespaceUid)
    (hclaimable : Claimable desired.role.metadata.target c) :
    Succeeds (At F (· = c)) (reconcileNativeRbacPair desired false guard) := by
  have hM : Permits C fun _ _ => True := fun _ _ _ => hguar _ _
  have hrefl : ∀ c : RbacCluster, (fun _ _ => True : RbacCluster → RbacCluster → Prop) c c :=
    fun _ => trivial
  refine .bind hall (hcurrent _) (hguard _) fun _ => ?_
  refine .bind hall (returns_inspect hC hM hrefl (· = c) desired)
    (succeeds_inspect hC hguar hall hanswered hvalid hmetadata hlive hclaimable) fun pair => ?_
  obtain ⟨role, binding⟩ := pair
  refine succeeds_at fun c' hc' => ?_
  obtain ⟨hinspected, rfl⟩ := hc'
  refine .ite (fun _ => .done ()) fun _ => ?_
  refine .bind hall (returns_removeBinding hC hM hrefl hinspected.binding fun _ _ => trivial)
    (succeeds_removeBinding hanswered hinspected.binding) fun _ => ?_
  refine succeeds_at fun c₁ hc₁ => ?_
  obtain ⟨hunbound, hroles, honly⟩ := hc₁
  have hlive₁ : c₁.namespaces.lookup desired.role.metadata.namespaceName =
      some desired.role.metadata.namespaceUid := by rw [honly.namespaces, hlive]
  have hrole₁ : c₁.roles.lookup desired.role.metadata.target.key = role := by
    rw [hroles, hinspected.role]
  refine .ite (fun h => by cases h) fun _ => ?_
  refine .bind hall (returns_putRole hC hM hrefl hrole₁ hunbound hinspected.roleOwned
    fun _ => trivial) (succeeds_putRole hanswered hlive₁ hrole₁) fun _ => ?_
  refine .bind hall (hcurrent _) (hguard _) fun _ => ?_
  refine .bind hall (returns_checkNamespace hC hM hrefl (RoleReady desired c₁) _) ?_ fun _ => ?_
  · refine succeeds_checkNamespace hC hguar hall hanswered fun c' hc' => ?_
    exact (congrArg _ hc'.2.2.namespaces).trans hlive₁
  · refine succeeds_call hanswered fun c' hc' => ⟨(), ?_⟩
    have hns : c'.namespaces.lookup desired.role.metadata.target.key.1 =
        some desired.role.metadata.namespaceUid := hc'.1
    simp [RbacCluster.createBinding, hns, hc'.2.1]

theorem succeeds_revokeOwned {guard : RbacHandler Unit} (hcurrent : Quiet C F guard)
    (hguard : ∀ P, Succeeds (At F P) guard) {target : PairTarget} (hvalid : target.isValid = true)
    (hlive : c.namespaces.lookup target.namespaceName = some target.namespaceUid)
    (hclaimable : Claimable target c) :
    Succeeds (At F (· = c)) (revokeOwnedNativeRbacPair target guard) := by
  have hM : Permits C fun _ _ => True := fun _ _ _ => hguar _ _
  have hrefl : ∀ c : RbacCluster, (fun _ _ => True : RbacCluster → RbacCluster → Prop) c c :=
    fun _ => trivial
  refine .ensure_bind (fun _ _ => hvalid) ?_
  refine .bind hall (hcurrent _) (hguard _) fun _ => ?_
  refine .bind hall (returns_checkNamespace hC hM hrefl (· = c) target) ?_ fun _ => ?_
  · refine succeeds_checkNamespace hC hguar hall hanswered fun c' hc' => ?_
    rw [hc']
    exact hlive
  refine .bind hall (returns_readBinding hC hM hrefl (fun c' => _ ∧ c' = c) _) ?_ fun binding => ?_
  · exact succeeds_call hanswered fun c' _ => ⟨_, rfl⟩
  refine succeeds_at fun c' hc' => ?_
  obtain ⟨hbinding, -, rfl⟩ := hc'
  refine .ensure_bind (fun _ _ => ?_) ?_
  · cases binding with
    | none => rfl
    | some b => exact hclaimable.2 b hbinding
  refine .bind hall (returns_removeBinding hC hM hrefl hbinding fun _ _ => trivial)
    (succeeds_removeBinding hanswered hbinding) fun _ => ?_
  refine .bind hall (returns_readRole hC hM hrefl (Unbound target.key c') target.key) ?_ fun role => ?_
  · exact succeeds_call hanswered fun c' _ => ⟨_, rfl⟩
  refine succeeds_at fun c₁ hc₁ => ?_
  obtain ⟨hrole, hunbound⟩ := hc₁
  refine .ensure_bind (fun _ _ => ?_) (succeeds_removeRole hanswered hrole)
  rw [hunbound.2.1] at hrole
  cases role with
  | none => rfl
  | some r => exact hclaimable.1 r hrole

/-- The binding is marked as KubeNova marks those of its pairs. -/
def Revocable (c : RbacCluster) (namespaceName name : String) (b : RoleBinding) : Prop :=
  (b.target namespaceName name).isValid = true ∧
    c.namespaces.lookup namespaceName = some (b.target namespaceName name).namespaceUid ∧
    Claimable (b.target namespaceName name) c

omit hC hguar hall hanswered in
theorem Revocable.removed {c' : RbacCluster} {key : ObjectKey} {namespaceName name : String}
    {b : RoleBinding} (h : Revocable c namespaceName name b) (hremoved : Removed key c c') :
    Revocable c' namespaceName name b := by
  obtain ⟨hvalid, hlive, hrole, hbinding⟩ := h
  refine ⟨hvalid, by rw [hremoved.only.namespaces, hlive], fun r hr => ?_, fun b' hb' => ?_⟩
  · by_cases hkey : (b.target namespaceName name).key = key
    · rw [hkey, hremoved.role] at hr
      cases hr
    · exact hrole r ((hremoved.only.roles _ hkey).symm.trans hr)
  · by_cases hkey : (b.target namespaceName name).key = key
    · rw [hkey, hremoved.binding] at hb'
      cases hb'
    · exact hbinding b' ((hremoved.only.bindings _ hkey).symm.trans hb')

omit hC hguar hall hanswered in
theorem Revocable.congr {c' : RbacCluster} {key : ObjectKey} {b : RoleBinding}
    (h : Revocable c key.1 key.2 b) (hnamespaces : c'.namespaces = c.namespaces)
    (hsame : c'.roles.lookup key = c.roles.lookup key ∧
      c'.bindings.lookup key = c.bindings.lookup key) : Revocable c' key.1 key.2 b := by
  obtain ⟨hvalid, hlive, hrole, hbinding⟩ := h
  refine ⟨hvalid, by rw [hnamespaces, hlive], fun r hr => ?_, fun b' hb' => ?_⟩
  · exact hrole r (hsame.1.symm.trans hr)
  · exact hbinding b' (hsame.2.symm.trans hb')

variable {clusterId : String} {revision : Nat} {desired : List String}
  (hconfig : ∀ P, Succeeds (At F P) (assertConfig clusterId revision))

include hconfig

theorem succeeds_sweepBindings {namespaceName : String} {bindings : List (String × RoleBinding)}
    (hrevocable : ∀ name b, (name, b) ∈ bindings → isKept clusterId desired name b = false →
      Revocable c namespaceName name b) :
    Succeeds (At F (· = c))
      (sweepBindings clusterId revision desired namespaceName bindings) := by
  induction bindings generalizing c with
  | nil => exact .done ()
  | cons entry rest ih =>
      obtain ⟨name, binding⟩ := entry
      have hrest : ∀ n b, (n, b) ∈ rest → isKept clusterId desired n b = false →
          Revocable c namespaceName n b :=
        fun n b hmem => hrevocable n b (List.mem_cons_of_mem _ hmem)
      unfold sweepBindings
      refine .ite (fun _ => ih hrest) fun hkept => ?_
      obtain ⟨hvalid, hlive, hclaimable⟩ := hrevocable name binding List.mem_cons_self
        (by simpa using hkept)
      refine .bind hall (returns_revokeOwned hC hguar (quiet_assertConfig hC) _)
        (succeeds_revokeOwned hC hguar hall hanswered (quiet_assertConfig hC) hconfig hvalid hlive
          hclaimable) fun _ => ?_
      exact succeeds_at fun c' hremoved => ih fun n b hmem hn => (hrest n b hmem hn).removed hremoved

theorem succeeds_sweep (names : List String)
    (hrevocable : ∀ key b, c.bindings.lookup key = some b → b.metadata.isManaged = true →
      isKept clusterId desired key.2 b = false → Revocable c key.1 key.2 b) :
    Succeeds (At F (· = c)) (sweep clusterId revision desired names) := by
  induction names generalizing c with
  | nil => exact .done ()
  | cons name rest ih =>
      unfold sweep
      refine .ite (fun _ => ih hrevocable) fun _ => ?_
      refine .bind hall (returns_readCall (M := fun _ _ => True) (P := (· = c)) hC
        (fun _ _ _ => hguar _ _) (fun _ => trivial)) ?_ fun bindings => ?_
      · exact succeeds_call hanswered fun c' _ => ⟨_, rfl⟩
      refine succeeds_at fun c' hc' => ?_
      obtain ⟨hread, rfl⟩ := hc'
      refine .bind hall (returns_sweepBindings hC hguar name bindings) ?_ fun _ => ?_
      · refine succeeds_sweepBindings hC hguar hall hanswered hconfig fun n b hmem hkept => ?_
        rw [← Except.ok.inj hread] at hmem
        obtain ⟨entry, hentry, heq⟩ := List.mem_map.mp hmem
        obtain ⟨hstored, hselected⟩ := List.mem_filter.mp hentry
        simp only [Bool.and_eq_true, beq_iff_eq] at hselected
        obtain ⟨rfl, rfl⟩ := Prod.mk.inj heq
        rw [← hselected.1]
        exact hrevocable entry.1 entry.2 (Table.mem_entries_iff.mp hstored) hselected.2 hkept
      · refine succeeds_at fun c₁ hswept => ih fun key b hb hmanaged hkept => ?_
        have hkeptKey : ¬(key.1 = name ∧ ∃ b, (key.2, b) ∈ bindings ∧
            isKept clusterId desired key.2 b = false) := by
          intro hgone
          rw [hswept.gone key hgone] at hb
          cases hb
        have hsame := hswept.kept key hkeptKey
        exact (hrevocable key b (hsame.2.symm.trans hb) hmanaged hkept).congr hswept.namespaces hsame

end Pairs

end KubeNova.Native
