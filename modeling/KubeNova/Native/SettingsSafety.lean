import KubeNova.Native.ReconcileExact
import KubeNova.Native.Settings

/-!
# Revisions of the native access settings

Saves and synchronisations of the same cluster may run at the same time.  Both write the
row of the cluster, but only with their last statement do they write something that
somebody may rely on: a save the next revision, a synchronisation that its revision is
in force.
-/

namespace KubeNova.Native

open Relation KubeNova.Foundation KubeNova.Common KubeNova.Access

def NativeConfig.InForce (c : NativeConfig) : Prop :=
  c.syncState = "ready" ∧ c.syncRevision = some c.revision

def Same (old new : NativeConfig) : Prop := new = old ∨ (new.revision = old.revision ∧ ¬new.InForce)

namespace World

/-- A step that leaves the revisions alone and puts nothing in force. -/
def Quiet (s t : World) : Prop :=
  ∀ clusterId, Option.Rel Same (s.configs clusterId) (t.configs clusterId)

theorem Quiet.of_eq {s t : World} (h : t.configs = s.configs) : Quiet s t := by
  intro clusterId
  rw [h]
  cases s.configs clusterId with
  | none => exact .none
  | some c => exact .some (.inl rfl)

theorem Quiet.refl (s : World) : Quiet s s := .of_eq rfl

/-- A synchronisation has found the settings at its revision and puts them in force. -/
def Completes (clusterId : String) (revision : Nat) (s t : World) : Prop :=
  ∃ old new, s.configs clusterId = some old ∧ old.revision = revision ∧
    new.revision = revision ∧ t.configs = Function.update s.configs clusterId (some new)

end World

/-! ## A synchronisation is quiet until its end -/

def unforced : Protocol World := ⟨fun _ => True, World.Quiet, World.Quiet.refl, fun _ _ => trivial⟩

theorem configs_serve {α : Type} (f : RbacCluster → Except Exception α × RbacCluster) (s : World) :
    (World.serve f s).2.configs = s.configs := by
  unfold World.serve
  split <;> rfl

theorem unforced_call {α : Type} (f : RbacCluster → Except Exception α × RbacCluster) :
    Obeys unforced (call f) :=
  .bind (.exec fun s _ => .of_eq (configs_serve f s)) fun r => .ofExcept r

theorem unforced_config (clusterId : String) : Obeys unforced (config clusterId) :=
  .bind (.query _) fun _ => .ofExcept _

theorem unforced_assertConfig (clusterId : String) (revision : Nat) :
    Obeys unforced (assertConfig clusterId revision) :=
  .bind (unforced_config clusterId) fun _ => .ensure _ _

theorem unforced_assertCurrent (clusterId : String) (revision : Nat) (userId : String)
    (authzVersion : Nat) : Obeys unforced (assertCurrent clusterId revision userId authzVersion) :=
  .bind (unforced_assertConfig _ _) fun _ => .bind (.query _) fun _ => .ensure _ _

theorem unforced_checkNamespace (target : PairTarget) : Obeys unforced (checkNamespace target) :=
  .bind (unforced_call _) fun _ => .ensure _ _

theorem unforced_inspect (desired : NativeRbac) : Obeys unforced (inspectNativeRbac desired) := by
  refine .bind (.ensure _ _) fun _ => .bind (unforced_checkNamespace _) fun _ => ?_
  refine .bind (unforced_call _) fun role => .bind (unforced_call _) fun binding => ?_
  exact .bind (.ensure _ _) fun _ => .bind (.ensure _ _) fun _ => .done _

theorem unforced_removeBinding (key : ObjectKey) (binding : Option RoleBinding) :
    Obeys unforced (removeBinding key binding) := by
  cases binding with
  | none => exact .done ()
  | some found => exact unforced_call _

theorem unforced_removeRole (key : ObjectKey) (role : Option Role) :
    Obeys unforced (removeRole key role) := by
  cases role with
  | none => exact .done ()
  | some found => exact unforced_call _

theorem unforced_putRole (desired : NativeRbac) (role : Option Role) :
    Obeys unforced (putRole desired role) := by
  cases role with
  | none => exact unforced_call _
  | some found => exact .ite (.done ()) (unforced_call _)

theorem unforced_pair (desired : NativeRbac) (revoke : Bool) {guard : RbacHandler Unit}
    (hguard : Obeys unforced guard) :
    Obeys unforced (reconcileNativeRbacPair desired revoke guard) := by
  refine .bind hguard fun _ => .bind (unforced_inspect desired) fun found => .ite (.done ()) ?_
  refine .bind (unforced_removeBinding _ _) fun _ => .ite (unforced_removeRole _ _) ?_
  refine .bind (unforced_putRole _ _) fun _ => .bind hguard fun _ => ?_
  exact .bind (unforced_checkNamespace _) fun _ => unforced_call _

theorem unforced_revokeOwned (target : PairTarget) {guard : RbacHandler Unit}
    (hguard : Obeys unforced guard) :
    Obeys unforced (revokeOwnedNativeRbacPair target guard) := by
  refine .bind (.ensure _ _) fun _ => .bind hguard fun _ => .bind (unforced_checkNamespace _) fun _ => ?_
  refine .bind (unforced_call _) fun binding => .bind (.ensure _ _) fun _ => ?_
  refine .bind (unforced_removeBinding _ _) fun _ => .bind (unforced_call _) fun role => ?_
  exact .bind (.ensure _ _) fun _ => unforced_removeRole _ _

theorem unforced_resolveIdentity (clusterId name : String) :
    Obeys unforced (resolveIdentity clusterId name) := by
  refine .bind (.ite (.done none) (.bind (.query _) fun stored => ?_)) fun answer => .ofExcept _
  exact .ite (.done none) (.bind (unforced_call _).toExcept fun r => .done _)

theorem unforced_resolveScopes (clusterId : String) (scopes : List NamespaceScope) :
    Obeys unforced (resolveScopes clusterId scopes) := by
  induction scopes with
  | nil => exact .done []
  | cons scope rest ih =>
      refine .ite ih (.bind (unforced_resolveIdentity _ _) fun uid => .bind (.ensure _ _) fun _ => ?_)
      exact .bind ih fun namespaces => .done _

theorem unforced_applyPlans {guard : RbacHandler Unit} (hguard : Obeys unforced guard)
    (plans : List NativeRbac) (desired : List String) :
    Obeys unforced (applyPlans guard plans desired) := by
  induction plans generalizing desired with
  | nil => exact .done desired
  | cons plan rest ih => exact .bind (unforced_pair plan false hguard) fun _ => ih _

theorem unforced_reconcileUsers (crypto : Crypto) (clusterId : String) (revision now : Nat)
    (users : List UserRow) (desired : List String) :
    Obeys unforced (reconcileUsers crypto clusterId revision now users desired) := by
  induction users generalizing desired with
  | nil => exact .done desired
  | cons user rest ih =>
      refine .bind (.bind (.query _) fun grants => ?_) fun desired => ih desired
      refine .bind (unforced_resolveScopes _ _) fun namespaces => .bind (.ofExcept _) fun plans => ?_
      exact unforced_applyPlans (unforced_assertCurrent _ _ _ _) plans desired

theorem unforced_sweepBindings (clusterId : String) (revision : Nat) (desired : List String)
    (namespaceName : String) (bindings : List (String × RoleBinding)) :
    Obeys unforced (sweepBindings clusterId revision desired namespaceName bindings) := by
  induction bindings with
  | nil => exact .done ()
  | cons entry rest ih =>
      exact .ite ih (.bind (unforced_revokeOwned _ (unforced_assertConfig _ _)) fun _ => ih)

theorem unforced_sweep (clusterId : String) (revision : Nat) (desired : List String)
    (namespaces : List String) : Obeys unforced (sweep clusterId revision desired namespaces) := by
  induction namespaces with
  | nil => exact .done ()
  | cons namespaceName rest ih =>
      refine .ite ih (.bind (unforced_call _) fun bindings => ?_)
      exact .bind (unforced_sweepBindings _ _ _ _ _) fun _ => ih

theorem unforced_requireAdministrator (actor : Option Actor) (clusterId : String) :
    Obeys unforced (requireAdministrator actor clusterId) := by
  refine .bind (.ofExcept _) fun _ => .bind (.ensure _ _) fun _ => .bind (.query _) fun user => ?_
  exact .bind (.ensure _ _) fun _ => .ofExcept _

theorem unforced_requireKubeconfig : Obeys unforced requireKubeconfig := by
  refine .bind (.query _) fun stored => ?_
  cases stored with
  | none => exact .fail _
  | some current =>
      cases current with
      | none => exact .fail _
      | some cluster =>
          exact .bind (.ensure _ _) fun _ => .bind (.ofExcept _) fun protocol => .ensure _ _

def NativeConfig.withStatus (c : NativeConfig) (status : SyncStatus) : NativeConfig :=
  { c with syncState := status.syncState, syncRevision := status.syncRevision,
           syncMessage := status.syncMessage, syncedAt := status.syncedAt }

theorem updateStatus_cases (clusterId : String) (revision : Nat) (status : World → SyncStatus)
    (s : World) : World.updateStatus clusterId revision status s = (0, s) ∨
      ∃ c, s.configs clusterId = some c ∧ c.revision = revision ∧
        World.updateStatus clusterId revision status s = (1, { s with
          configs := Function.update s.configs clusterId (some (c.withStatus (status s))) }) := by
  unfold World.updateStatus
  cases hc : s.configs clusterId with
  | none => exact .inl rfl
  | some c =>
      by_cases hrevision : c.revision = revision
      · dsimp only
        rw [if_pos hrevision]
        exact .inr ⟨c, rfl, hrevision, rfl⟩
      · dsimp only
        rw [if_neg hrevision]
        exact .inl rfl

theorem unforced_writeStatus (clusterId : String) (revision : Nat) {status : World → SyncStatus}
    (hstatus : ∀ s, (status s).syncRevision = none) :
    Obeys unforced (writeStatus clusterId revision status) := by
  refine .bind (.exec fun s _ => ?_) fun count => .ensure _ _
  rcases updateStatus_cases clusterId revision status s with hnone | ⟨c, hc, -, hrow⟩
  · rw [hnone]
    exact .refl s
  · rw [hrow]
    intro id
    show Option.Rel Same (s.configs id) (Function.update s.configs clusterId _ id)
    by_cases hid : id = clusterId
    · subst hid
      rw [hc, Function.update_self]
      refine .some (.inr ⟨rfl, fun hforce => ?_⟩)
      have hrevision : (status s).syncRevision = some c.revision := hforce.2
      rw [hstatus] at hrevision
      cases hrevision
    · rw [Function.update_of_ne hid]
      exact World.Quiet.refl s id

theorem quietly_of_unforced {α : Type} {h : RbacHandler α} (hh : Obeys unforced h) :
    Quietly World.Quiet (fun _ => True) h :=
  .of_obeys hh (fun _ => trivial) fun _ _ hstep => hstep

theorem concludes_ready (clusterId : String) (revision applied : Nat) :
    Concludes World.Quiet (fun a s t => World.Completes a.clusterId a.revision s t)
      (writeStatus clusterId revision (fun s => ⟨"ready", some revision, none, some s.now⟩) >>=
        fun _ => .done (⟨clusterId, "ready", applied, revision⟩ : ReconcileAnswer)) := by
  refine Concludes.stmt_iff.mpr fun s => ?_
  let ready : World → SyncStatus := fun s => ⟨"ready", some revision, none, some s.now⟩
  let answer : ReconcileAnswer := ⟨clusterId, "ready", applied, revision⟩
  let rest (count : Nat) : RbacHandler ReconcileAnswer :=
    Async.ensure (count = 1) configChanged >>= fun _ => .done answer
  show (∃ a, rest (World.updateStatus clusterId revision ready s).1 = .done a ∧
      World.Completes a.clusterId a.revision s (World.updateStatus clusterId revision ready s).2) ∨
    (World.Quiet s (World.updateStatus clusterId revision ready s).2 ∧
      (rest (World.updateStatus clusterId revision ready s).1).isRunning = true ∧
      Concludes World.Quiet _ (rest (World.updateStatus clusterId revision ready s).1))
  rcases updateStatus_cases clusterId revision ready s with hnone | ⟨c, hc, hrevision, hrow⟩
  · rw [hnone]
    exact .inr ⟨.refl s, rfl, .fail configChanged⟩
  · rw [hrow]
    exact .inl ⟨answer, rfl, c, c.withStatus (ready s), hc, hrevision, hrevision, rfl⟩

theorem concludes_reconcileBody (crypto : Crypto) (clusterId : String) (revision : Nat) :
    Concludes World.Quiet (fun a s t => World.Completes a.clusterId a.revision s t)
      (reconcileBody crypto clusterId revision) := by
  refine .bind (quietly_of_unforced unforced_requireKubeconfig) (fun _ _ => rfl) fun _ _ => ?_
  refine .bind (quietly_of_unforced (.query _)) (fun _ _ => ?_) fun users _ => ?_
  · exact Async.isRunning_bind _ fun _ => rfl
  refine .bind (quietly_of_unforced (.ensure _ _)) (fun _ _ => rfl) fun _ _ => ?_
  refine .bind (quietly_of_unforced (.query _)) (fun _ _ => ?_) fun now _ => ?_
  · exact Async.isRunning_bind _ fun _ => rfl
  refine .bind (quietly_of_unforced (unforced_reconcileUsers crypto clusterId revision now users []))
    (fun _ _ => rfl) fun desired _ => ?_
  refine .bind (quietly_of_unforced (unforced_call _)) (fun _ _ => ?_) fun namespaces _ => ?_
  · exact Async.isRunning_bind _ fun _ => rfl
  refine .bind (quietly_of_unforced (unforced_sweep clusterId revision desired namespaces))
    (fun _ _ => rfl) fun _ _ => ?_
  exact concludes_ready clusterId revision desired.length

/-- A synchronisation puts its revision in force with its last statement, where the
settings still have that revision, and nothing before. -/
theorem concludes_reconcile (crypto : Crypto) (actor : Option Actor) (clusterId : String) :
    Concludes World.Quiet (fun a s t => World.Completes a.clusterId a.revision s t)
      (reconcile crypto actor clusterId) := by
  refine .bind (quietly_of_unforced (unforced_requireAdministrator actor clusterId))
    (fun _ _ => rfl) fun _ _ => ?_
  refine .bind (quietly_of_unforced (unforced_config clusterId)) (fun _ _ => rfl) fun current _ => ?_
  refine .bind (quietly_of_unforced (unforced_writeStatus clusterId current.revision fun _ => rfl))
    (fun _ _ => rfl) fun _ _ => ?_
  refine .tryCatch (concludes_reconcileBody crypto clusterId current.revision) (fun _ => rfl)
    fun error => ?_
  refine .bind (quietly_of_unforced (unforced_writeStatus clusterId current.revision fun _ => rfl))
    (fun _ _ => rfl) fun _ _ => .fail error

namespace SettingsState

/-- The revision a save has to name: `current?.revision ?? 0`. -/
def revision (s : SettingsState) (clusterId : String) : Nat :=
  ((s.world.configs clusterId).map (·.revision)).getD 0

def Quiet (s t : SettingsState) : Prop := World.Quiet s.world t.world

/-- A save has found the revision `expected` and stores the next one, not yet in force. -/
def Replaces (clusterId : String) (expected : Nat) (row : SettingsRow) (s t : SettingsState) :
    Prop :=
  s.revision clusterId = expected ∧ row.config.revision = expected + 1 ∧ ¬row.config.InForce ∧
    t.world.configs = Function.update s.world.configs clusterId (some row.config) ∧
    t.endpoints = Function.update s.endpoints clusterId (some row.endpoints)

end SettingsState

/-- The write of a save, and the condition under which it creates the row. -/
inductive Stores (clusterId : String) (revision : Nat) (row : SettingsRow) : SettingsWrite → Prop
  | create : revision = 0 → Stores clusterId revision row (.createConfig clusterId row)
  | update : Stores clusterId revision row (.updateConfig clusterId revision row)

theorem Stores.apply {clusterId : String} {input : SettingsInput} {actorId : String}
    {w : SettingsWrite} (hw : Stores clusterId input.revision (input.row actorId) w)
    {s t : SettingsState} (h : w.apply s = .ok t) :
    s.Replaces clusterId input.revision (input.row actorId) t := by
  have hforce : ¬(input.row actorId).config.InForce := fun hforce => by
    cases hforce.2
  have hrow : SettingsState.revision s clusterId = input.revision ∧
      s.setRow clusterId (input.row actorId) = t := by
    cases hw with
    | create hzero =>
        simp only [SettingsWrite.apply] at h
        split at h
        · cases h
        · rename_i hnone
          have habsent := Option.not_isSome_iff_eq_none.mp hnone
          refine ⟨?_, Except.ok.inj h⟩
          rw [SettingsState.revision, habsent, hzero]
          rfl
    | update =>
        simp only [SettingsWrite.apply] at h
        split at h
        · rename_i hfound
          obtain ⟨c, hc, hrevision⟩ := (Option.any_eq_true _ _).mp hfound
          refine ⟨?_, Except.ok.inj h⟩
          rw [SettingsState.revision, hc]
          exact beq_iff_eq.mp hrevision
        · cases h
  obtain ⟨hrevision, rfl⟩ := hrow
  exact ⟨hrevision, rfl, hforce, rfl, rfl⟩

def Saves (clusterId actorId : String) (input : SettingsInput)
    (r : SettingsRow × List SettingsWrite) : Prop :=
  r.1 = input.row actorId ∧ ∃ w change, Stores clusterId input.revision (input.row actorId) w ∧
    r.2 = [w, .createChange change]

section Save

variable {q : SettingsState → SettingsState → Prop} (hq : ∀ s, q s s)
include hq

theorem quietly_storeConfig {clusterId actorId : String} {input : SettingsInput}
    {current : Option NativeConfig}
    (hrevision : (current.map (·.revision)).getD 0 = input.revision) :
    Quietly q (fun r => r.1 = input.row actorId ∧
        ∃ w, Stores clusterId input.revision (input.row actorId) w ∧ r.2 = [w])
      (storeConfig clusterId input.revision (input.row actorId) current []) := by
  cases current with
  | none =>
      refine Tx.quietly_bind (P := fun r => r.2 = [.createConfig clusterId (input.row actorId)])
        (Tx.quietly_write hq rfl) fun _ ws hws => ?_
      exact .done ⟨rfl, _, .create hrevision.symm, hws⟩
  | some c =>
      refine Tx.quietly_bind
        (P := fun r => r.2 = [.updateConfig clusterId input.revision (input.row actorId)])
        (Tx.quietly_write hq rfl) fun _ ws hws => ?_
      refine Tx.quietly_bind (P := fun r => r.1 = some (input.row actorId) ∧ r.2 = ws)
        (Tx.quietly_read hq fun s t h => ⟨?_, rfl⟩) fun saved vs hsaved => ?_
      · obtain rfl : ws = _ := hws
        obtain ⟨u, hu, hrest⟩ := exists_of_bind_eq_ok h
        obtain rfl : u = t := Except.ok.inj hrest
        obtain ⟨-, -, -, hconfigs, hendpoints⟩ := Stores.update.apply hu
        rw [SettingsState.row, hconfigs, hendpoints, Function.update_self, Function.update_self]
      · obtain ⟨rfl, rfl⟩ : saved = _ ∧ vs = ws := hsaved
        refine Tx.quietly_ofExcept _ fun row hrow => ?_
        exact ⟨(Except.ok.inj hrow).symm, _, .update, hws⟩

theorem quietly_saveBody (actorId clusterId : String) (input : SettingsInput) :
    Quietly q (Saves clusterId actorId input) (saveBody actorId clusterId input []) := by
  refine Tx.quietly_then (Tx.quietly_read hq fun _ _ _ => rfl) fun user => ?_
  refine Tx.quietly_then (Tx.quietly_ensure _ _ fun _ => rfl) fun _ => ?_
  refine Tx.quietly_then (Tx.quietly_ofExcept _ fun _ _ => rfl) fun _ => ?_
  refine Tx.quietly_then (Tx.quietly_read hq fun _ _ _ => rfl) fun cluster => ?_
  refine Tx.quietly_then (Tx.quietly_ensure _ _ fun _ => rfl) fun _ => ?_
  refine Tx.quietly_then (Tx.quietly_read hq fun _ _ _ => rfl) fun current => ?_
  refine Tx.quietly_bind
    (P := fun r => (current.map (·.revision)).getD 0 = input.revision ∧ r.2 = [])
    (Tx.quietly_ensure _ _ fun hrevision => ⟨hrevision, rfl⟩) fun _ ws hws => ?_
  obtain ⟨hrevision, rfl⟩ : _ ∧ ws = [] := hws
  refine Tx.quietly_bind (quietly_storeConfig hq hrevision) fun saved ws hsaved => ?_
  obtain ⟨rfl, w, hw, rfl⟩ := hsaved
  refine Tx.quietly_bind
    (P := fun r => ∃ change, r.2 = [w, .createChange change]) (Tx.quietly_write hq ⟨_, rfl⟩)
    fun _ ws hws => ?_
  obtain ⟨change, hchange⟩ := hws
  exact .done ⟨rfl, w, change, hw, hchange⟩

end Save

theorem concludes_save (parseUrl : UrlParser) (actor : Option Actor) (clusterId : String)
    (body : Js) : Concludes SettingsState.Quiet
      (fun row s t => ∃ input, parseSettings parseUrl body = some input ∧
        s.Replaces clusterId input.revision row t) (save parseUrl actor clusterId body) := by
  have hlast : ∀ actorId input, (Async.tryCatch (Tx.commit SettingsWrite.apply
      (saveBody actorId clusterId input)) rethrowChanged).isRunning = true := fun _ _ =>
    Async.isRunning_tryCatch (Tx.isRunning_commit _ _) fun _ => rfl
  have hparsed : ∀ (actorId : String) (r : Except Exception SettingsInput),
      (Async.ofExcept r >>= fun input => Async.tryCatch (Tx.commit SettingsWrite.apply
        (saveBody actorId clusterId input)) rethrowChanged).isRunning = true := fun _ _ =>
    Async.isRunning_bind _ fun _ => hlast _ _
  refine .bind (Quietly.ofExcept _) (fun _ _ => ?_) fun _ _ => ?_
  · exact Async.isRunning_bind _ fun _ => Async.isRunning_bind _ fun _ => hparsed _ _
  refine .bind (Quietly.ensure _ _) (fun _ _ => Async.isRunning_bind _ fun _ => hparsed _ _)
    fun _ _ => ?_
  refine .bind (Quietly.ensure _ _) (fun _ _ => hparsed _ _) fun _ _ => ?_
  refine .bind (Quietly.ofExcept _) (fun _ _ => hlast _ _) fun input hinput => ?_
  have hbody : parseSettings parseUrl body = some input := by
    cases hparse : parseSettings parseUrl body with
    | none =>
        rw [hparse] at hinput
        cases hinput
    | some found =>
        rw [hparse] at hinput
        exact congrArg some (Except.ok.inj hinput)
  have hq : ∀ s, SettingsState.Quiet s s := fun s => World.Quiet.refl s.world
  refine .tryCatch (Tx.concludes_commit hq (quietly_saveBody hq _ clusterId input)
    fun row ws s t hsaves h => ⟨input, hbody, ?_⟩) (fun _ => rfl) fun _ => .fail _
  obtain ⟨hrow, w, change, hw, hws⟩ := hsaves
  dsimp only at hrow hws
  subst hrow hws
  obtain ⟨u, hu, hrest⟩ := exists_of_bind_eq_ok h
  obtain ⟨v, hv, hlast⟩ := exists_of_bind_eq_ok hrest
  obtain rfl := Except.ok.inj hlast
  obtain rfl := Except.ok.inj hv
  have hreplaces := hw.apply hu
  exact hreplaces

/-! ## Runs -/

def Responds : SettingsResponse → SettingsState → SettingsState → Prop
  | .saved clusterId expected row, s, t =>
      ∃ revision, expected = some revision ∧ s.Replaces clusterId revision row t
  | .reconciled answer, s, t =>
      World.Completes answer.clusterId answer.revision s.world t.world

theorem concludes_handler {crypto : Crypto} {parseUrl : UrlParser}
    {h : SettingsHandler SettingsResponse} (hh : IsSettingsHandler crypto parseUrl h) :
    Concludes SettingsState.Quiet Responds h := by
  cases hh with
  | save actor clusterId body =>
      refine .map ((concludes_save parseUrl actor clusterId body).mono fun row s t h => ?_)
      obtain ⟨input, hbody, hreplaces⟩ := h
      exact ⟨input.revision, by rw [hbody]; rfl, hreplaces⟩
  | reconcile actor clusterId =>
      refine .map (.zoom (concludes_reconcile crypto actor clusterId) (fun t s h => h) ?_)
      exact fun a t s h => h

namespace SettingsState

def InForce (s : SettingsState) (clusterId : String) (revision : Nat) : Prop :=
  ∃ c, s.world.configs clusterId = some c ∧ c.InForce ∧ c.revision = revision

variable {s t : SettingsState} {clusterId : String}

theorem InForce.revision_eq {revision : Nat} (h : s.InForce clusterId revision) :
    s.revision clusterId = revision := by
  obtain ⟨c, hc, -, hrevision⟩ := h
  rw [SettingsState.revision, hc]
  exact hrevision

theorem Quiet.revision_eq (h : s.Quiet t) (clusterId : String) :
    t.revision clusterId = s.revision clusterId := by
  have hrow := h clusterId
  unfold SettingsState.revision
  generalize s.world.configs clusterId = old at hrow ⊢
  generalize t.world.configs clusterId = new at hrow ⊢
  cases hrow with
  | none => rfl
  | some hsame =>
      rcases hsame with rfl | ⟨hrevision, -⟩
      · rfl
      · exact hrevision

theorem Quiet.inForce {revision : Nat} (h : s.Quiet t) (ht : t.InForce clusterId revision) :
    s.InForce clusterId revision := by
  obtain ⟨c, hc, hforce, hrevision⟩ := ht
  have hrow := h clusterId
  rw [hc] at hrow
  generalize hold : s.world.configs clusterId = old at hrow
  cases hrow with
  | some hsame =>
      rcases hsame with rfl | ⟨-, hnot⟩
      · exact ⟨_, hold, hforce, hrevision⟩
      · exact absurd hforce hnot

theorem Replaces.revision_eq {expected : Nat} {row : SettingsRow}
    (h : s.Replaces clusterId expected row t) : t.revision clusterId = expected + 1 := by
  rw [SettingsState.revision, h.2.2.2.1, Function.update_self]
  exact h.2.1

end SettingsState

theorem World.Completes.revision_eq {id : String} {revision : Nat} {s t : SettingsState}
    (h : World.Completes id revision s.world t.world) (clusterId : String) :
    t.revision clusterId = s.revision clusterId := by
  obtain ⟨old, new, hold, hrevision, hnew, hconfigs⟩ := h
  unfold SettingsState.revision
  rw [hconfigs]
  by_cases hid : clusterId = id
  · subst hid
    rw [Function.update_self, hold]
    exact hnew.trans hrevision.symm
  · rw [Function.update_of_ne hid]

theorem Responds.revision_le {a : SettingsResponse} {s t : SettingsState} (h : Responds a s t)
    (clusterId : String) : s.revision clusterId ≤ t.revision clusterId := by
  cases a with
  | saved id expected row =>
      obtain ⟨revision, -, hreplaces⟩ := h
      by_cases hid : clusterId = id
      · subst hid
        have hold : s.revision clusterId = revision := hreplaces.1
        have hnew := hreplaces.revision_eq
        omega
      · have hconfigs := hreplaces.2.2.2.1
        unfold SettingsState.revision
        rw [hconfigs, Function.update_of_ne hid]
  | reconciled answer => exact (World.Completes.revision_eq h clusterId).ge

section Runs

variable {crypto : Crypto} {parseUrl : UrlParser} {init : SettingsState}
  {c c' : Pool Exception SettingsState SettingsResponse}

theorem concluding_of_reach (hc : Reach (IsSettingsHandler crypto parseUrl) OutsideSettings init c) :
    c.Concluding SettingsState.Quiet Responds :=
  .of_reach (fun _ hh => concludes_handler hh) hc

theorem settings_moves (hc : c.Concluding SettingsState.Quiet Responds)
    (hstep : Step (IsSettingsHandler crypto parseUrl) OutsideSettings c c') :
    c.shared.Quiet c'.shared ∨ ∃ a, c.Ends c' a ∧ Responds a c.shared c'.shared :=
  hc.moves (fun s => World.Quiet.refl s.world) (fun _ _ h => World.Quiet.of_eq h.1) hstep

theorem revision_le_of_run (hc : c.Concluding SettingsState.Quiet Responds)
    (hrun : ReflTransGen (Step (IsSettingsHandler crypto parseUrl) OutsideSettings) c c')
    (clusterId : String) : c.shared.revision clusterId ≤ c'.shared.revision clusterId := by
  induction hrun with
  | refl => exact le_refl _
  | @tail d d' hprefix hstep ih =>
      have hd := hc.run (fun _ hh => concludes_handler hh) hprefix
      refine ih.trans ?_
      rcases settings_moves hd hstep with hquiet | ⟨a, -, hresponds⟩
      · exact (hquiet.revision_eq clusterId).ge
      · exact hresponds.revision_le clusterId

theorem saved_replaces (hc : c.Concluding SettingsState.Quiet Responds) {clusterId : String}
    {expected : Option Nat} {row : SettingsRow} (h : c.Ends c' (.saved clusterId expected row)) :
    ∃ revision, expected = some revision ∧
      c.shared.Replaces clusterId revision row c'.shared := hc.ends h

/-- Settings in force were put in force by a synchronisation that ended at their revision,
and since then the revision is the same. -/
theorem completed_of_inForce (hinit : ∀ clusterId revision, ¬init.InForce clusterId revision)
    (hc : Reach (IsSettingsHandler crypto parseUrl) OutsideSettings init c) {clusterId : String}
    {revision : Nat} (hforce : c.shared.InForce clusterId revision) :
    ∃ d d' answer, Reach (IsSettingsHandler crypto parseUrl) OutsideSettings init d ∧
      d.Ends d' (.reconciled answer) ∧ answer.clusterId = clusterId ∧ answer.revision = revision ∧
      d.shared.revision clusterId = revision ∧
      ReflTransGen (Step (IsSettingsHandler crypto parseUrl) OutsideSettings) d' c := by
  induction hc with
  | refl => exact absurd hforce (hinit clusterId revision)
  | @tail e e' hprefix hstep ih =>
      have hearlier : e.shared.InForce clusterId revision →
          ∃ d d' answer, Reach (IsSettingsHandler crypto parseUrl) OutsideSettings init d ∧
            d.Ends d' (.reconciled answer) ∧ answer.clusterId = clusterId ∧
            answer.revision = revision ∧ d.shared.revision clusterId = revision ∧
            ReflTransGen (Step (IsSettingsHandler crypto parseUrl) OutsideSettings) d' e' := by
        intro h
        obtain ⟨d, d', answer, hd, hends, hid, hanswer, hrevision, hrun⟩ := ih h
        exact ⟨d, d', answer, hd, hends, hid, hanswer, hrevision, hrun.tail hstep⟩
      rcases settings_moves (concluding_of_reach hprefix) hstep with hquiet | ⟨a, hends, hresponds⟩
      · exact hearlier (hquiet.inForce hforce)
      have hother : ∀ id new, e'.shared.world.configs =
          Function.update e.shared.world.configs id new → clusterId ≠ id →
          e.shared.InForce clusterId revision := by
        intro id new hconfigs hid
        obtain ⟨row, hrow, hrest⟩ := hforce
        rw [hconfigs, Function.update_of_ne hid] at hrow
        exact ⟨row, hrow, hrest⟩
      cases a with
      | saved id expected row =>
          obtain ⟨r, -, -, -, hnot, hconfigs, -⟩ := hresponds
          by_cases hid : clusterId = id
          · subst hid
            obtain ⟨found, hfound, hin, -⟩ := hforce
            rw [hconfigs, Function.update_self] at hfound
            obtain rfl := Option.some.inj hfound
            exact absurd hin hnot
          · exact hearlier (hother id _ hconfigs hid)
      | reconciled answer =>
          obtain ⟨old, new, hold, holdRevision, hnew, hconfigs⟩ := hresponds
          by_cases hid : clusterId = answer.clusterId
          · subst hid
            obtain ⟨found, hfound, -, hrevision⟩ := hforce
            rw [hconfigs, Function.update_self] at hfound
            obtain rfl := Option.some.inj hfound
            have hanswer : answer.revision = revision := hnew.symm.trans hrevision
            refine ⟨e, e', answer, hprefix, hends, rfl, hanswer, ?_, .refl⟩
            rw [SettingsState.revision, hold]
            exact holdRevision.trans hanswer
          · exact hearlier (hother _ _ hconfigs hid)

end Runs

/-- Whatever saves and synchronisations run at the same time: a save that succeeds found
exactly the revision it names and leaves the next one; of the saves that name one revision
at most one succeeds; and settings that are in force were synchronised at their revision,
with an end that came after the last save. -/
theorem settings_revisions (crypto : Crypto) (parseUrl : UrlParser) (init : SettingsState)
    (hinit : ∀ clusterId revision, ¬init.InForce clusterId revision)
    {c : Pool Exception SettingsState SettingsResponse}
    (hc : Reach (IsSettingsHandler crypto parseUrl) OutsideSettings init c) :
    (∀ c' clusterId expected row, c.Ends c' (.saved clusterId expected row) →
      ∃ revision, expected = some revision ∧ c.shared.revision clusterId = revision ∧
        c'.shared.row clusterId = some row ∧ row.config.revision = revision + 1) ∧
    (∀ c' d d' clusterId expected expected' row row', c.Ends c' (.saved clusterId expected row) →
      ReflTransGen (Step (IsSettingsHandler crypto parseUrl) OutsideSettings) c' d →
      d.Ends d' (.saved clusterId expected' row') → expected ≠ expected') ∧
    ∀ clusterId revision, c.shared.InForce clusterId revision →
      ∃ d d' answer, Reach (IsSettingsHandler crypto parseUrl) OutsideSettings init d ∧
        d.Ends d' (.reconciled answer) ∧ answer.clusterId = clusterId ∧
        answer.revision = revision ∧ d.shared.revision clusterId = revision ∧
        ReflTransGen (Step (IsSettingsHandler crypto parseUrl) OutsideSettings) d' c ∧
        ∀ e e' expected row,
          ReflTransGen (Step (IsSettingsHandler crypto parseUrl) OutsideSettings) d' e →
          e.Ends e' (.saved clusterId expected row) →
          ¬ReflTransGen (Step (IsSettingsHandler crypto parseUrl) OutsideSettings) e' c := by
  have hconcluding := concluding_of_reach hc
  refine ⟨?_, ?_, ?_⟩
  · intro c' clusterId expected row hends
    obtain ⟨revision, hexpected, hfound, hnext, -, hconfigs, hendpoints⟩ :=
      saved_replaces hconcluding hends
    refine ⟨revision, hexpected, hfound, ?_, hnext⟩
    rw [SettingsState.row, hconfigs, hendpoints, Function.update_self, Function.update_self]
  · intro c' d d' clusterId expected expected' row row' hends hrun hends' hsame
    obtain ⟨revision, hexpected, hreplaces⟩ := saved_replaces hconcluding hends
    have hstep : Step (IsSettingsHandler crypto parseUrl) OutsideSettings c c' := hends.step
    have hc' := hconcluding.step (fun _ hh => concludes_handler hh) hstep
    have hd := hc'.run (fun _ hh => concludes_handler hh) hrun
    obtain ⟨revision', hexpected', hreplaces'⟩ := saved_replaces hd hends'
    have hle := revision_le_of_run hc' hrun clusterId
    have hnew := hreplaces.revision_eq
    have hfound : d.shared.revision clusterId = revision' := hreplaces'.1
    have heq : revision = revision' := by
      rw [hexpected, hexpected'] at hsame
      exact Option.some.inj hsame
    omega
  · intro clusterId revision hforce
    obtain ⟨d, d', answer, hd, hends, hid, hanswer, hrevision, hrun⟩ :=
      completed_of_inForce hinit hc hforce
    refine ⟨d, d', answer, hd, hends, hid, hanswer, hrevision, hrun, ?_⟩
    intro e e' expected row hbefore hsaved hafter
    have hend : Step (IsSettingsHandler crypto parseUrl) OutsideSettings d d' := hends.step
    have hd' := concluding_of_reach (hd.tail hend)
    have he := hd'.run (fun _ hh => concludes_handler hh) hbefore
    obtain ⟨revision', -, hreplaces⟩ := saved_replaces he hsaved
    have hstep : Step (IsSettingsHandler crypto parseUrl) OutsideSettings e e' := hsaved.step
    have he' := he.step (fun _ hh => concludes_handler hh) hstep
    have hstart := revision_le_of_run (concluding_of_reach hd) (.single hend) clusterId
    have hearlier := revision_le_of_run hd' hbefore clusterId
    have hlater := revision_le_of_run he' hafter clusterId
    have hfound : e.shared.revision clusterId = revision' := hreplaces.1
    have hnew := hreplaces.revision_eq
    have hnow := hforce.revision_eq
    omega

def hostUrls : UrlParser := fun value =>
  if Text.startsWith "https://id.example/" value then
    some ⟨"https:", "id.example", "", "", "", "", "https://id.example"⟩
  else none

def firstSettings : Js := .object
  [("enabled", .bool true), ("issuer", .string "https://id.example/"),
    ("audience", .string "kubectl"), ("jwksUri", .string "https://id.example/keys"),
    ("gatewayUrl", .string "https://id.example/gateway"), ("revision", .number ⟨"0", by decide⟩)]

def unsetState : SettingsState :=
  ⟨{ copiedWorld with configs := fun _ => none }, fun _ => none, []⟩

def settledPool : Pool Exception SettingsState SettingsResponse :=
  Pool.play ⟨unsetState, [save hostUrls administrator "c" firstSettings >>= fun row =>
      .done (.saved "c" ((parseSettings hostUrls firstSettings).map (·.revision)) row),
    (reconcile readerCrypto administrator "c").zoom SettingsState.world (fun w s => s.setWorld w) >>=
      fun answer => .done (.reconciled answer)]⟩
    (List.replicate 6 0 ++ List.replicate 60 1)

theorem settledPool_reachable :
    Reach (IsSettingsHandler readerCrypto hostUrls) OutsideSettings unsetState settledPool := by
  refine Reach.play (Reach.arrive_all (c := ⟨unsetState, []⟩) .refl _ fun h hh => ?_) _
  rcases List.mem_cons.mp hh with rfl | hh
  · exact .save administrator "c" firstSettings
  · rw [List.mem_singleton.mp hh]
    exact .reconcile administrator "c"

/-- The first revision is in force, and a synchronisation of it has ended. -/
theorem settled_revisions : settledPool.shared.InForce "c" 1 ∧
    ∃ (d d' : Pool Exception SettingsState SettingsResponse) (answer : ReconcileAnswer),
      d.Ends d' (.reconciled answer) ∧ answer.clusterId = "c" ∧ answer.revision = 1 := by
  have hforce : settledPool.shared.InForce "c" 1 :=
    ⟨⟨true, 1, "ready", some 1, none, some 0⟩, by decide +kernel, ⟨rfl, rfl⟩, rfl⟩
  have hinit : ∀ clusterId revision, ¬unsetState.InForce clusterId revision :=
    fun _ _ ⟨_, h, _⟩ => nomatch h
  obtain ⟨d, d', answer, -, hends, hid, hrevision, -⟩ :=
    (settings_revisions readerCrypto hostUrls unsetState hinit settledPool_reachable).2.2 "c" 1 hforce
  exact ⟨hforce, d, d', answer, hends, hid, hrevision⟩

end KubeNova.Native
