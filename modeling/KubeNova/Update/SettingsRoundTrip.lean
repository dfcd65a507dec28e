import KubeNova.Foundation.Results
import KubeNova.Foundation.Trimming
import KubeNova.Update.PreflightOrder
import Mathlib.Logic.Equiv.List
import Mathlib.Tactic.DeriveEncodable

/-!
# Settings that are read and saved again

A save takes the secrets it is not given from what is stored, by looking a target up under its id.
What `get` shows can be saved again without a change where that lookup finds the target itself or
one with the same secret.
-/

namespace KubeNova.Update

open KubeNova.Common KubeNova.Foundation

variable {parseUrl : LocatedUrlParser}

def trimmedSecret (secret : List (String × String)) : List (String × String) :=
  secret.map fun entry => (entry.1, Text.trim entry.2)

def trimmedBackup (target : StoredBackupTarget) : StoredBackupTarget :=
  ⟨Text.trim target.id, Text.trim target.name, target.type, Text.trim target.location,
    target.secret.map trimmedSecret⟩

def trimmedMigration (target : StoredMigrationTarget) : StoredMigrationTarget :=
  ⟨Text.trim target.id, Text.trim target.name, target.type, nonEmpty target.connection⟩

def trimmedRegistry (registry : StoredRegistry) : StoredRegistry :=
  ⟨Text.trim registry.defaultPrefix, registry.components.map fun entry => (entry.1, Text.trim entry.2),
    (nonEmpty registry.imagePullSecretName).map Text.trim, nonEmpty registry.token⟩

def trimmedSettings (input : StoredSettings) : StoredSettings :=
  ⟨input.backupTargets.map trimmedBackup, input.migrationTargets.map trimmedMigration,
    trimmedRegistry input.registry⟩

def HasSecretNames (target : StoredBackupTarget) : Prop :=
  ∀ secret, target.secret = some secret →
    (secret.all fun entry => isSecretKey entry.1) = true ∧
      (target.type ≠ .s3 ∨ (secret.all fun entry => supportedSecrets.contains entry.1) = true)

structure TakesBackup (parseUrl : LocatedUrlParser) (target : StoredBackupTarget) : Prop where
  names : HasSecretNames target
  filled : Text.trim target.id ≠ "" ∧ Text.trim target.name ≠ "" ∧ Text.trim target.location ≠ ""
  checked : checkBackupTarget parseUrl (trimmedBackup target) = .ok ()

structure TakesMigration (parseUrl : LocatedUrlParser) (target : StoredMigrationTarget) : Prop where
  filled : Text.trim target.id ≠ "" ∧ Text.trim target.name ≠ ""
  checked : checkMigrationTarget parseUrl (trimmedMigration target) = .ok ()

structure Takes (parseUrl : LocatedUrlParser) (input : StoredSettings) : Prop where
  backup : ∀ target ∈ input.backupTargets, TakesBackup parseUrl target
  migration : ∀ target ∈ input.migrationTargets, TakesMigration parseUrl target

theorem normalizeSecret_eq_ok {value out : List (String × String)} {type : BackupType} :
    normalizeSecret value type = .ok out ↔
      ((value.all fun entry => isSecretKey entry.1) = true ∧
        (type ≠ .s3 ∨ (value.all fun entry => supportedSecrets.contains entry.1) = true)) ∧
      out = trimmedSecret value := by
  rw [normalizeSecret, Results.check_eq_ok, Results.check_eq_ok, refuseUnless_eq_ok,
    refuseUnless_eq_ok]
  constructor
  · rintro ⟨hkeys, hsupported, hout⟩
    exact ⟨⟨hkeys, hsupported⟩, (Except.ok.inj hout).symm⟩
  · rintro ⟨⟨hkeys, hsupported⟩, rfl⟩
    exact ⟨hkeys, hsupported, rfl⟩

theorem normalizeBackupTarget_eq_ok (target out : StoredBackupTarget) :
    normalizeBackupTarget target = .ok out ↔ HasSecretNames target ∧ out = trimmedBackup target := by
  rw [normalizeBackupTarget, Results.bind_eq_ok, trimmedBackup, HasSecretNames]
  cases target.secret with
  | none =>
      constructor
      · rintro ⟨secret, hsecret, hout⟩
        obtain rfl := Except.ok.inj hsecret
        exact ⟨by simp, (Except.ok.inj hout).symm⟩
      · rintro ⟨-, rfl⟩
        exact ⟨none, rfl, rfl⟩
  | some value =>
      constructor
      · rintro ⟨secret, hsecret, hout⟩
        obtain ⟨trimmed, htrimmed, hsome⟩ := Results.bind_eq_ok.mp hsecret
        obtain rfl := Except.ok.inj hsome
        obtain ⟨hnames, rfl⟩ := normalizeSecret_eq_ok.mp htrimmed
        refine ⟨?_, (Except.ok.inj hout).symm⟩
        rintro _ ⟨⟩
        exact hnames
      · rintro ⟨hnames, rfl⟩
        refine ⟨some (trimmedSecret value), ?_, rfl⟩
        exact Results.bind_eq_ok.mpr
          ⟨_, normalizeSecret_eq_ok.mpr ⟨hnames value rfl, rfl⟩, rfl⟩

theorem normalizeSettings_eq_ok {input out : StoredSettings} :
    normalizeSettings parseUrl input = .ok out ↔
      Takes parseUrl input ∧ out = trimmedSettings input := by
  rw [normalizeSettings, Results.bind_eq_ok]
  simp only [Results.mapM_eq_ok_iff normalizeBackupTarget_eq_ok, Results.check_eq_ok,
    refuseUnless_eq_ok, List.all_map, List.all_eq_true, Function.comp_apply, decide_eq_true_eq,
    Results.forIn_eq_ok_iff]
  constructor
  · rintro ⟨_, ⟨hnames, rfl⟩, hfilled, hchecked, hmfilled, hmchecked, hout⟩
    rw [List.forall_mem_map] at hfilled hchecked hmchecked
    refine ⟨⟨fun target htarget => ?_, fun target htarget => ?_⟩, (Except.ok.inj hout).symm⟩
    · exact ⟨hnames target htarget, hfilled target htarget, hchecked target htarget⟩
    · exact ⟨hmfilled target htarget, hmchecked target htarget⟩
  · rintro ⟨htakes, rfl⟩
    refine ⟨_, ⟨fun target htarget => (htakes.backup target htarget).names, rfl⟩, ?_, ?_, ?_, ?_, rfl⟩
    · rw [List.forall_mem_map]
      intro target htarget
      exact (htakes.backup target htarget).filled
    · rw [List.forall_mem_map]
      intro target htarget
      exact (htakes.backup target htarget).checked
    · intro target htarget
      exact (htakes.migration target htarget).filled
    · rw [List.forall_mem_map]
      intro target htarget
      exact (htakes.migration target htarget).checked

/-- The answer of `get` as the body of a save: what it does not show is undefined there. -/
def resubmitted (shown : PublicSettings) : StoredSettings where
  backupTargets := shown.backupTargets.map fun t => ⟨t.id, t.name, t.type, t.location, none⟩
  migrationTargets := shown.migrationTargets.map fun t => ⟨t.id, t.name, t.type, none⟩
  registry := ⟨shown.registry.defaultPrefix, shown.registry.components,
    shown.registry.imagePullSecretName, none⟩

def previousBackup (existing : StoredSettings) (target : StoredBackupTarget) :
    Option StoredBackupTarget :=
  existing.backupTargets.find? fun item =>
    item.id == target.id && item.type == target.type && item.location == target.location

def previousMigration (existing : StoredSettings) (target : StoredMigrationTarget) :
    Option StoredMigrationTarget :=
  existing.migrationTargets.find? fun item => item.id == target.id && item.type == target.type

def restoredBackup (existing : StoredSettings) (target : StoredBackupTarget) : StoredBackupTarget :=
  { target with secret := (previousBackup existing target).bind (·.secret) }

def restoredMigration (existing : StoredSettings) (target : StoredMigrationTarget) :
    StoredMigrationTarget :=
  { target with
    connection := (previousMigration existing target).bind fun p => nonEmpty p.connection }

theorem keepSecrets_resubmitted (stored : StoredSettings) :
    keepSecrets stored (resubmitted (publicSettings stored)) =
      ⟨stored.backupTargets.map (restoredBackup stored),
        stored.migrationTargets.map (restoredMigration stored),
        { stored.registry with token := nonEmpty stored.registry.token }⟩ := by
  simp only [keepSecrets, resubmitted, publicSettings, List.map_map]
  rfl

/-- Looking every element up by its key finds what the element itself has, where elements with one
key have the same. -/
theorem find?_key_iff {α κ β : Type} [DecidableEq κ] (key : α → κ) (f : α → Option β) (xs : List α) :
    (∀ x ∈ xs, (xs.find? fun y => decide (key y = key x)).bind f = f x) ↔
      ∀ x ∈ xs, ∀ y ∈ xs, key x = key y → f x = f y := by
  constructor
  · intro hfind x hx y hy hkey
    calc f x = (xs.find? fun z => decide (key z = key x)).bind f := (hfind x hx).symm
      _ = (xs.find? fun z => decide (key z = key y)).bind f := by rw [hkey]
      _ = f y := hfind y hy
  · intro hsame x hx
    have hsome : (xs.find? fun y => decide (key y = key x)).isSome = true := by
      rw [List.find?_isSome]
      exact ⟨x, hx, decide_eq_true rfl⟩
    obtain ⟨y, hy⟩ := Option.isSome_iff_exists.mp hsome
    have hfound := List.find?_some hy
    have hkey : key y = key x := of_decide_eq_true hfound
    rw [hy]
    exact hsame y (List.mem_of_find?_eq_some hy) x hx hkey

theorem map_eq_self {α : Type} {f : α → α} {xs : List α} : xs.map f = xs ↔ ∀ x ∈ xs, f x = x := by
  conv_lhs => rhs; rw [← List.map_id xs]
  exact List.map_eq_map_iff

/-- Targets that a save cannot tell apart hold the same secret, and the name of the pull secret is
no blank text. -/
structure TellsTargetsApart (stored : StoredSettings) : Prop where
  backup : ∀ t ∈ stored.backupTargets, ∀ u ∈ stored.backupTargets,
    (t.id, t.type, t.location) = (u.id, u.type, u.location) → t.secret = u.secret
  migration : ∀ t ∈ stored.migrationTargets, ∀ u ∈ stored.migrationTargets,
    (t.id, t.type) = (u.id, u.type) → t.connection = u.connection
  pullSecret : stored.registry.imagePullSecretName ≠ some ""

theorem restoredBackup_iff (stored : StoredSettings) :
    stored.backupTargets.map (restoredBackup stored) = stored.backupTargets ↔
      ∀ t ∈ stored.backupTargets, ∀ u ∈ stored.backupTargets,
        (t.id, t.type, t.location) = (u.id, u.type, u.location) → t.secret = u.secret := by
  have hlookup : ∀ t, previousBackup stored t = stored.backupTargets.find? fun u =>
      decide ((u.id, u.type, u.location) = (t.id, t.type, t.location)) := by
    intro t
    refine congrArg (fun p => List.find? p _) (funext fun u => ?_)
    simp only [Prod.mk.injEq, Bool.decide_and, ← Bool.and_assoc]
    rfl
  have hrestored : ∀ t, restoredBackup stored t = t ↔
      (previousBackup stored t).bind (·.secret) = t.secret := by
    intro t
    cases t
    simp [restoredBackup]
  rw [map_eq_self, ← find?_key_iff]
  simp only [hrestored, hlookup]

theorem restoredMigration_iff {stored : StoredSettings}
    (hstored : ∀ t ∈ stored.migrationTargets, nonEmpty t.connection = t.connection) :
    stored.migrationTargets.map (restoredMigration stored) = stored.migrationTargets ↔
      ∀ t ∈ stored.migrationTargets, ∀ u ∈ stored.migrationTargets,
        (t.id, t.type) = (u.id, u.type) → t.connection = u.connection := by
  have hlookup : ∀ t, previousMigration stored t = stored.migrationTargets.find? fun u =>
      decide ((u.id, u.type) = (t.id, t.type)) := by
    intro t
    refine congrArg (fun p => List.find? p _) (funext fun u => ?_)
    simp only [Prod.mk.injEq, Bool.decide_and]
    rfl
  have hrestored : ∀ t, restoredMigration stored t = t ↔
      (previousMigration stored t).bind (fun p => nonEmpty p.connection) = t.connection := by
    intro t
    cases t
    simp [restoredMigration]
  have hbind : ∀ t, (previousMigration stored t).bind (fun p => nonEmpty p.connection) =
      (previousMigration stored t).bind (·.connection) := by
    intro t
    cases hfind : previousMigration stored t with
    | none => rfl
    | some u => exact hstored u (List.mem_of_find?_eq_some hfind)
  rw [map_eq_self, ← find?_key_iff]
  simp only [hrestored, hbind]
  simp only [hlookup]

/-! ## What a save makes of them -/

theorem trimmedSecret_idem (secret : List (String × String)) :
    trimmedSecret (trimmedSecret secret) = trimmedSecret secret := by
  simp only [trimmedSecret, List.map_map, Function.comp_def, Text.trim_trim]

theorem trimmedBackup_idem (target : StoredBackupTarget) :
    trimmedBackup (trimmedBackup target) = trimmedBackup target := by
  simp only [trimmedBackup, Text.trim_trim, Option.map_map, Function.comp_def, trimmedSecret_idem]

theorem nonEmpty_nonEmpty (value : Option String) : nonEmpty (nonEmpty value) = nonEmpty value := by
  simp only [nonEmpty, Option.filter_filter, Bool.and_self]

theorem trimmedMigration_idem (target : StoredMigrationTarget) :
    trimmedMigration (trimmedMigration target) = trimmedMigration target := by
  simp only [trimmedMigration, Text.trim_trim, nonEmpty_nonEmpty]

theorem trimmedRegistry_idem_iff (registry : StoredRegistry) :
    trimmedRegistry (trimmedRegistry registry) = trimmedRegistry registry ↔
      (trimmedRegistry registry).imagePullSecretName ≠ some "" := by
  have hname : ∀ name : Option String,
      (nonEmpty (name.map Text.trim)).map Text.trim = name.map Text.trim ↔
        name.map Text.trim ≠ some "" := by
    intro name
    cases name with
    | none => simp [nonEmpty]
    | some text =>
        by_cases hblank : Text.trim text = ""
        · simp [nonEmpty, hblank]
        · simp [nonEmpty, hblank, Text.trim_trim]
  simp only [trimmedRegistry, Text.trim_trim, List.map_map, Function.comp_def, nonEmpty_nonEmpty,
    StoredRegistry.mk.injEq, true_and, and_true]
  exact hname _

theorem checkBackupTarget_eq_ok {target : StoredBackupTarget} :
    checkBackupTarget parseUrl target = .ok () ↔
      checkBackupTarget parseUrl { target with secret := none } = .ok () ∧
        ∀ secret, target.secret = some secret → target.type = .s3 →
          checkS3Secret parseUrl secret = .ok () := by
  obtain ⟨id, name, type, location, secret⟩ := target
  cases type with
  | «local» => simp [checkBackupTarget]
  | s3 =>
      cases secret with
      | none => simp [checkBackupTarget]
      | some secret =>
          simp only [checkBackupTarget, Results.check_eq_ok, Option.some.injEq, forall_eq']
          simp [pure, Except.pure, and_assoc]

theorem TakesBackup.trimmed {target : StoredBackupTarget} (h : TakesBackup parseUrl target) :
    TakesBackup parseUrl (trimmedBackup target) := by
  refine ⟨?_, ?_, ?_⟩
  · intro secret hsecret
    obtain ⟨value, hvalue, rfl⟩ := Option.map_eq_some_iff.mp hsecret
    have hnames := h.names value hvalue
    simp only [trimmedSecret, List.all_map, Function.comp_def]
    exact hnames
  · simp only [trimmedBackup, Text.trim_trim]
    exact h.filled
  · rw [trimmedBackup_idem]
    exact h.checked

theorem TakesMigration.trimmed {target : StoredMigrationTarget} (h : TakesMigration parseUrl target) :
    TakesMigration parseUrl (trimmedMigration target) := by
  refine ⟨?_, ?_⟩
  · simp only [trimmedMigration, Text.trim_trim]
    exact h.filled
  · rw [trimmedMigration_idem]
    exact h.checked

structure IsSaved (parseUrl : LocatedUrlParser) (stored : StoredSettings) : Prop where
  takes : Takes parseUrl stored
  backup : ∀ t ∈ stored.backupTargets, trimmedBackup t = t
  migration : ∀ t ∈ stored.migrationTargets, trimmedMigration t = t
  registry : ∃ input, stored.registry = trimmedRegistry input

theorem IsSaved.of_takes {input : StoredSettings} (h : Takes parseUrl input) :
    IsSaved parseUrl (trimmedSettings input) := by
  refine ⟨⟨?_, ?_⟩, ?_, ?_, ⟨input.registry, rfl⟩⟩
  · exact List.forall_mem_map.mpr fun t ht => (h.backup t ht).trimmed
  · exact List.forall_mem_map.mpr fun t ht => (h.migration t ht).trimmed
  · exact List.forall_mem_map.mpr fun t _ => trimmedBackup_idem t
  · exact List.forall_mem_map.mpr fun t _ => trimmedMigration_idem t

theorem isSaved_unconfigured : IsSaved parseUrl unconfiguredSettings := by
  have htakes : Takes parseUrl unconfiguredSettings := ⟨by simp [unconfiguredSettings],
    by simp [unconfiguredSettings]⟩
  exact IsSaved.of_takes htakes

theorem checkMigrationTarget_congr {t u : StoredMigrationTarget} (htype : t.type = u.type)
    (hconnection : t.connection = u.connection) :
    checkMigrationTarget parseUrl t = checkMigrationTarget parseUrl u := by
  simp only [checkMigrationTarget, htype, hconnection]

theorem restored_secret {stored : StoredSettings} {target : StoredBackupTarget}
    {secret : List (String × String)}
    (hsecret : (restoredBackup stored target).secret = some secret) :
    ∃ u ∈ stored.backupTargets, u.type = target.type ∧ u.secret = some secret := by
  obtain ⟨u, hu, husecret⟩ := Option.bind_eq_some_iff.mp hsecret
  have hfound := List.find?_some hu
  simp only [Bool.and_eq_true, beq_iff_eq] at hfound
  exact ⟨u, List.mem_of_find?_eq_some hu, hfound.1.2, husecret⟩

section Resaved

variable {stored : StoredSettings} (h : IsSaved parseUrl stored)
include h

theorem IsSaved.trimmed_restored {target : StoredBackupTarget}
    (htarget : target ∈ stored.backupTargets) :
    trimmedBackup (restoredBackup stored target) = restoredBackup stored target := by
  have hsame := h.backup target htarget
  have hsecret : (restoredBackup stored target).secret.map trimmedSecret =
      (restoredBackup stored target).secret := by
    cases hrestored : (restoredBackup stored target).secret with
    | none => rfl
    | some secret =>
        obtain ⟨u, hu, -, husecret⟩ := restored_secret hrestored
        have hutrimmed := congrArg StoredBackupTarget.secret (h.backup u hu)
        rw [trimmedBackup, husecret] at hutrimmed
        exact hutrimmed
  obtain ⟨id, name, type, location, secret⟩ := target
  simp only [trimmedBackup, StoredBackupTarget.mk.injEq] at hsame
  obtain ⟨hid, hname, -, hlocation, -⟩ := hsame
  rw [trimmedBackup, hsecret]
  simp only [restoredBackup, hid, hname, hlocation]

theorem IsSaved.takes_restored {target : StoredBackupTarget}
    (htarget : target ∈ stored.backupTargets) :
    TakesBackup parseUrl (restoredBackup stored target) := by
  have htakes := h.takes.backup target htarget
  have hchecked : checkBackupTarget parseUrl target = .ok () := by
    rw [← h.backup target htarget]
    exact htakes.checked
  refine ⟨?_, htakes.filled, ?_⟩
  · intro secret hsecret
    obtain ⟨u, hu, htype, husecret⟩ := restored_secret hsecret
    have hnames := (h.takes.backup u hu).names secret husecret
    rw [htype] at hnames
    exact hnames
  · rw [h.trimmed_restored htarget, checkBackupTarget_eq_ok]
    refine ⟨(checkBackupTarget_eq_ok.mp hchecked).1, fun secret hsecret hs3 => ?_⟩
    obtain ⟨u, hu, htype, husecret⟩ := restored_secret hsecret
    have hu_checked := (h.takes.backup u hu).checked
    rw [h.backup u hu, checkBackupTarget_eq_ok] at hu_checked
    exact hu_checked.2 secret husecret (htype.trans hs3)

theorem IsSaved.restored_connection {target : StoredMigrationTarget} {connection : String}
    (hconnection : (restoredMigration stored target).connection = some connection) :
    ∃ u ∈ stored.migrationTargets, u.type = target.type ∧ u.connection = some connection := by
  obtain ⟨u, hu, hconn⟩ := Option.bind_eq_some_iff.mp hconnection
  have hfound := List.find?_some hu
  simp only [Bool.and_eq_true, beq_iff_eq] at hfound
  have hmem := List.mem_of_find?_eq_some hu
  have hutrimmed : nonEmpty u.connection = u.connection :=
    congrArg StoredMigrationTarget.connection (h.migration u hmem)
  exact ⟨u, hmem, hfound.2, hutrimmed ▸ hconn⟩

theorem IsSaved.trimmed_restoredMigration {target : StoredMigrationTarget}
    (htarget : target ∈ stored.migrationTargets) :
    trimmedMigration (restoredMigration stored target) = restoredMigration stored target := by
  have hsame := h.migration target htarget
  have hconnection : nonEmpty (restoredMigration stored target).connection =
      (restoredMigration stored target).connection := by
    cases hrestored : (restoredMigration stored target).connection with
    | none => rfl
    | some connection =>
        obtain ⟨u, hu, -, huconnection⟩ := h.restored_connection hrestored
        have hutrimmed := congrArg StoredMigrationTarget.connection (h.migration u hu)
        rw [trimmedMigration, huconnection] at hutrimmed
        exact hutrimmed
  obtain ⟨id, name, type, connection⟩ := target
  simp only [trimmedMigration, StoredMigrationTarget.mk.injEq] at hsame
  obtain ⟨hid, hname, -⟩ := hsame
  rw [trimmedMigration, hconnection]
  simp only [restoredMigration, hid, hname]

theorem IsSaved.takes_restoredMigration {target : StoredMigrationTarget}
    (htarget : target ∈ stored.migrationTargets) :
    TakesMigration parseUrl (restoredMigration stored target) := by
  refine ⟨(h.takes.migration target htarget).filled, ?_⟩
  rw [h.trimmed_restoredMigration htarget]
  cases hrestored : (restoredMigration stored target).connection with
  | none => simp only [checkMigrationTarget, hrestored]; rfl
  | some connection =>
      obtain ⟨u, hu, htype, huconnection⟩ := h.restored_connection hrestored
      have hchecked := (h.takes.migration u hu).checked
      rw [h.migration u hu] at hchecked
      rw [← hchecked]
      exact checkMigrationTarget_congr htype.symm (hrestored.trans huconnection.symm)

def resaved (stored : StoredSettings) : StoredSettings :=
  ⟨stored.backupTargets.map (restoredBackup stored),
    stored.migrationTargets.map (restoredMigration stored), trimmedRegistry stored.registry⟩

theorem IsSaved.normalize_resubmitted :
    normalizeSettings parseUrl (keepSecrets stored (resubmitted (publicSettings stored))) =
      .ok (resaved stored) := by
  rw [keepSecrets_resubmitted, normalizeSettings_eq_ok]
  refine ⟨⟨?_, ?_⟩, ?_⟩
  · exact List.forall_mem_map.mpr fun t ht => h.takes_restored ht
  · exact List.forall_mem_map.mpr fun t ht => h.takes_restoredMigration ht
  · have hbackup : (stored.backupTargets.map (restoredBackup stored)).map trimmedBackup =
        stored.backupTargets.map (restoredBackup stored) :=
      map_eq_self.mpr (List.forall_mem_map.mpr fun t ht => h.trimmed_restored ht)
    have hmigration : (stored.migrationTargets.map (restoredMigration stored)).map trimmedMigration =
        stored.migrationTargets.map (restoredMigration stored) :=
      map_eq_self.mpr (List.forall_mem_map.mpr fun t ht => h.trimmed_restoredMigration ht)
    rw [resaved, trimmedSettings, hbackup, hmigration]
    simp only [trimmedRegistry, nonEmpty_nonEmpty]

/-- **When a save changes nothing**: the shown settings are saved as what is stored where a save
can tell the targets apart. -/
theorem IsSaved.resaved_iff : resaved stored = stored ↔ TellsTargetsApart stored := by
  have hconnections : ∀ t ∈ stored.migrationTargets, nonEmpty t.connection = t.connection :=
    fun t ht => congrArg StoredMigrationTarget.connection (h.migration t ht)
  have hregistry : trimmedRegistry stored.registry = stored.registry ↔
      stored.registry.imagePullSecretName ≠ some "" := by
    obtain ⟨input, hinput⟩ := h.registry
    rw [hinput]
    exact trimmedRegistry_idem_iff input
  have hparts : resaved stored = stored ↔
      stored.backupTargets.map (restoredBackup stored) = stored.backupTargets ∧
        stored.migrationTargets.map (restoredMigration stored) = stored.migrationTargets ∧
        trimmedRegistry stored.registry = stored.registry := by
    cases stored
    simp only [resaved, StoredSettings.mk.injEq]
  rw [hparts, restoredBackup_iff, restoredMigration_iff hconnections, hregistry]
  constructor
  · rintro ⟨hbackup, hmigration, hname⟩
    exact ⟨hbackup, hmigration, hname⟩
  · intro hapart
    exact ⟨hapart.backup, hapart.migration, hapart.pullSecret⟩

end Resaved

def masked (value : StoredSettings) : StoredSettings where
  backupTargets := value.backupTargets.map fun t =>
    { t with secret := t.secret.map fun entries => if entries = [] then [] else [("*", "*")] }
  migrationTargets := value.migrationTargets.map fun t =>
    { t with connection := t.connection.map fun text => if text = "" then "" else "*" }
  registry := { value.registry with
    token := value.registry.token.map fun text => if text = "" then "" else "*" }

theorem publicSettings_masked (value : StoredSettings) :
    publicSettings (masked value) = publicSettings value := by
  have hconnection : ∀ t : StoredMigrationTarget,
      (nonEmpty (t.connection.map fun text => if text = "" then "" else "*")).isSome =
        (nonEmpty t.connection).isSome := by
    intro t
    cases t.connection with
    | none => rfl
    | some text => by_cases htext : text = "" <;> simp [nonEmpty, htext]
  simp only [publicSettings, masked, List.map_map, Function.comp_def, Option.isSome_map, hconnection]

/-- What the program relies on: what was encrypted is decrypted again, and the parts of an envelope
are texts in base64url. -/
structure SettingsCrypto.Reliable (crypto : SettingsCrypto) : Prop where
  decrypts : ∀ key iv value, crypto.decrypt key (crypto.encrypt key iv value).1
    (crypto.encrypt key iv value).2.1 (crypto.encrypt key iv value).2.2 = some value
  parts : ∀ key iv value, ∀ part ∈ [(crypto.encrypt key iv value).1,
    (crypto.encrypt key iv value).2.1, (crypto.encrypt key iv value).2.2],
      part ≠ "" ∧ '.' ∉ part.toList

theorem split_envelope {iv tag data : String} (h : ∀ part ∈ [iv, tag, data], '.' ∉ part.toList) :
    Text.split '.' (".".intercalate ["v1", iv, tag, data]) = ["v1", iv, tag, data] := by
  have hparts : ∀ part ∈ ["v1", iv, tag, data], '.' ∉ part.toList := by
    rw [List.forall_mem_cons]
    exact ⟨by decide, h⟩
  rw [Text.split, String.toList_intercalate]
  have hchars := @List.splitOn_intercalate _ (["v1", iv, tag, data].map String.toList) _ _ '.'
    (List.forall_mem_map.mpr hparts) (by simp)
  rw [show ".".toList = ['.'] from rfl, hchars, List.map_map]
  simp

theorem SettingsConfig.decode_encrypt {config : SettingsConfig} (hcrypto : config.crypto.Reliable)
    {iv envelope : String} {value : StoredSettings}
    (h : config.encryptUpdateSettings iv value = .ok envelope) :
    config.decode (some envelope) = .ok value := by
  rw [encryptUpdateSettings, Results.bind_eq_ok] at h
  obtain ⟨key, hkey, h⟩ := h
  obtain rfl := Except.ok.inj h
  have hparts := hcrypto.parts key iv value
  have hsplit := split_envelope fun part hpart => (hparts part hpart).2
  have hfilled : "v1" = "v1" ∧ (config.crypto.encrypt key iv value).1 ≠ "" ∧
      (config.crypto.encrypt key iv value).2.1 ≠ "" ∧ (config.crypto.encrypt key iv value).2.2 ≠ "" := by
    refine ⟨rfl, (hparts _ ?_).1, (hparts _ ?_).1, (hparts _ ?_).1⟩
    all_goals simp
  have hdecrypt : config.decryptUpdateSettings (".".intercalate ["v1",
      (config.crypto.encrypt key iv value).1, (config.crypto.encrypt key iv value).2.1,
      (config.crypto.encrypt key iv value).2.2]) = some value := by
    rw [decryptUpdateSettings, hsplit]
    dsimp only
    rw [if_pos hfilled, hkey]
    exact hcrypto.decrypts key iv value
  simp only [decode, hdecrypt]

theorem SettingsConfig.exists_envelope {config : SettingsConfig} {key : String}
    (hkey : config.key = .ok key) (iv : String) (value : StoredSettings) :
    ∃ envelope, config.encryptUpdateSettings iv value = .ok envelope := by
  refine ⟨".".intercalate ["v1", (config.crypto.encrypt key iv value).1,
    (config.crypto.encrypt key iv value).2.1, (config.crypto.encrypt key iv value).2.2], ?_⟩
  rw [encryptUpdateSettings, hkey]
  rfl

/-! ## Saves one after another and at the same time -/

structure HasOwnKeys (input : StoredSettings) : Prop where
  backup : (input.backupTargets.map fun t =>
    (Text.trim t.id, t.type, Text.trim t.location)).Nodup
  migration : (input.migrationTargets.map fun t => (Text.trim t.id, t.type)).Nodup
  pullSecret : ∀ name, input.registry.imagePullSecretName = some name →
    name = "" ∨ Text.trim name ≠ ""

theorem HasOwnKeys.tellsTargetsApart {existing input : StoredSettings} (h : HasOwnKeys input) :
    TellsTargetsApart (trimmedSettings (keepSecrets existing input)) := by
  refine ⟨?_, ?_, ?_⟩
  · have hkeys : ((trimmedSettings (keepSecrets existing input)).backupTargets.map fun t =>
        (t.id, t.type, t.location)).Nodup := by
      simp only [trimmedSettings, keepSecrets, List.map_map, Function.comp_def, trimmedBackup]
      exact h.backup
    intro t ht u hu hkey
    rw [List.inj_on_of_nodup_map hkeys ht hu hkey]
  · have hkeys : ((trimmedSettings (keepSecrets existing input)).migrationTargets.map fun t =>
        (t.id, t.type)).Nodup := by
      simp only [trimmedSettings, keepSecrets, List.map_map, Function.comp_def, trimmedMigration]
      exact h.migration
    intro t ht u hu hkey
    rw [List.inj_on_of_nodup_map hkeys ht hu hkey]
  · intro hblank
    obtain ⟨name, hname, htrim⟩ := Option.map_eq_some_iff.mp hblank
    obtain ⟨hname, hfilled⟩ := Option.filter_eq_some_iff.mp hname
    rcases h.pullSecret name hname with hempty | hfull
    · exact of_decide_eq_true hfilled hempty
    · exact hfull htrim

namespace UpdateService

variable (service : UpdateService)

def get : UpdateHandler PublicSettings := do
  let (stored, _) ← service.readStored
  return publicSettings stored

/-- A request to save settings that satisfy `P`. -/
def IsSave (P : StoredSettings → Prop) (h : UpdateHandler UpdateAnswer) : Prop :=
  ∃ input iv, P input ∧ h = service.save input iv

/-- The settings row holds `stored`. -/
def Holds (s : UpdateState) (stored : StoredSettings) : Prop :=
  service.settings.decode s.saves.head? = .ok stored

/-- Saving what `get` shows leaves the stored settings as they are. -/
def SavesWhatItShows (s : UpdateState) : Prop :=
  ∃ stored shown, service.Holds s stored ∧ (service.get.run s).1 = .ok shown ∧
    ∀ iv, service.Holds ((service.save (resubmitted shown) iv).run s).2 stored

variable {service}

theorem run_readStored {s : UpdateState} {stored : StoredSettings} (h : service.Holds s stored) :
    service.readStored.run s = (.ok (stored, s.saves.length), s) := by
  show (Async.ofExcept (service.settings.decode s.saves.head?) >>= fun settings =>
    pure (settings, s.saves.length) : UpdateHandler _).run s = _
  rw [show service.settings.decode s.saves.head? = .ok stored from h]
  rfl

theorem run_get {s : UpdateState} {stored : StoredSettings} (h : service.Holds s stored) :
    (service.get.run s).1 = .ok (publicSettings stored) := by
  rw [get, Async.run_bind, run_readStored h]
  rfl

theorem run_save {s : UpdateState} {stored normalized input : StoredSettings} {iv : String}
    (h : service.Holds s stored)
    (hnormalized : normalizeSettings service.settings.parseUrl (keepSecrets stored input) =
      .ok normalized) :
    ((service.save input iv).run s).2 =
      match service.settings.encryptUpdateSettings iv normalized with
      | .ok envelope => { s with saves := envelope :: s.saves }
      | .error _ => s := by
  have hwrite : ∀ r : Except Exception String,
      ((Async.ofExcept r >>= fun encryptedData =>
        Async.exec (fun s => ((), { s with saves := encryptedData :: s.saves })) >>= fun _ =>
          pure (.settings (publicSettings normalized)) : UpdateHandler UpdateAnswer).run s).2 =
        match r with
        | .ok envelope => { s with saves := envelope :: s.saves }
        | .error _ => s := by
    intro r
    cases r <;> rfl
  unfold save
  rw [Async.run_bind, run_readStored h]
  dsimp only
  rw [hnormalized, show Async.ofExcept (.ok normalized) =
    (Async.done normalized : UpdateHandler StoredSettings) from rfl, Async.done_bind]
  exact hwrite (service.settings.encryptUpdateSettings iv normalized)

/-- What every row of the settings holds that saves of `P` write. -/
structure SavedUnder (service : UpdateService) (P : StoredSettings → Prop)
    (stored : StoredSettings) : Prop where
  saved : IsSaved service.settings.parseUrl stored
  apart : (∀ input, P input → HasOwnKeys input) → TellsTargetsApart stored

theorem savedUnder_unconfigured (P : StoredSettings → Prop) :
    SavedUnder service P unconfiguredSettings := by
  refine ⟨isSaved_unconfigured, fun _ => ⟨?_, ?_, ?_⟩⟩
  all_goals simp [unconfiguredSettings]

/-- Saves add rows that hold what saves of `P` write. -/
def saveProtocol (service : UpdateService) (P : StoredSettings → Prop) : Protocol UpdateState where
  inv s := ∀ row ∈ s.saves, ∃ stored, service.settings.decode (some row) = .ok stored ∧
    SavedUnder service P stored
  guar s t := t.saves = s.saves ∨ ∃ row stored, t.saves = row :: s.saves ∧
    service.settings.decode (some row) = .ok stored ∧ SavedUnder service P stored
  refl _ := .inl rfl
  preserves := by
    rintro s t hs (hsame | ⟨row, stored, hrow, hstored⟩)
    · rw [hsame]
      exact hs
    · rw [hrow, List.forall_mem_cons]
      exact ⟨⟨stored, hstored⟩, hs⟩

theorem obeys_save (hcrypto : service.settings.crypto.Reliable) {P : StoredSettings → Prop}
    {input : StoredSettings} (hP : P input) (iv : String) :
    Obeys (saveProtocol service P) (service.save input iv) := by
  refine .bind (.bind (.query _) fun _ => .bind (.ofExcept _) fun _ => .done _) fun existing => ?_
  obtain ⟨existing, saves⟩ := existing
  refine .ofExcept_bind fun normalized hnormalized => ?_
  refine .ofExcept_bind fun envelope henvelope => ?_
  refine .bind (.exec fun s _ => ?_) fun _ => .done _
  obtain ⟨htakes, rfl⟩ := normalizeSettings_eq_ok.mp hnormalized
  refine .inr ⟨envelope, _, rfl, SettingsConfig.decode_encrypt hcrypto henvelope, ?_⟩
  refine ⟨.of_takes htakes, fun hkeys => ?_⟩
  exact (hkeys input hP).tellsTargetsApart

def KeepsSaves (s t : UpdateState) : Prop := t.saves = s.saves

theorem holds_of_reach (hcrypto : service.settings.crypto.Reliable) {P : StoredSettings → Prop}
    {init : UpdateState} (hinit : init.saves = []) {c : Pool Exception UpdateState UpdateAnswer}
    (hc : Reach (service.IsSave P) KeepsSaves init c) :
    ∃ stored, service.Holds c.shared stored ∧ SavedUnder service P stored := by
  have hstart : ∀ h s, service.IsSave P h → (saveProtocol service P).inv s →
      Guards (saveProtocol service P).contract (fun _ _ => True) h s := by
    rintro _ s ⟨input, iv, hP, rfl⟩ hs
    exact (obeys_save hcrypto hP iv).guards hs
  have hempty : (saveProtocol service P).inv init := by
    intro row hrow
    rw [hinit] at hrow
    cases hrow
  have hinv := (Protocol.reachable hstart (fun s t _ hst => .inl hst) hempty hc).1.inv
  cases hsaves : c.shared.saves with
  | nil =>
      refine ⟨unconfiguredSettings, ?_, savedUnder_unconfigured P⟩
      rw [Holds, hsaves]
      rfl
  | cons row rows =>
      have hrow : row ∈ c.shared.saves := by rw [hsaves]; exact List.mem_cons_self
      obtain ⟨stored, hdecode, hstored⟩ := hinv row hrow
      refine ⟨stored, ?_, hstored⟩
      rw [Holds, hsaves]
      exact hdecode

theorem eq_unconfigured_of_key_error {s : UpdateState} {stored : StoredSettings} {e : Exception}
    (hkey : service.settings.key = .error e) (h : service.Holds s stored) :
    stored = unconfiguredSettings := by
  cases hsaves : s.saves.head? with
  | none =>
      rw [Holds, hsaves] at h
      exact (Except.ok.inj h).symm
  | some row =>
      have hnone : service.settings.decryptUpdateSettings row = none := by
        unfold SettingsConfig.decryptUpdateSettings
        split
        · split_ifs
          · rw [hkey]
          · rfl
        · rfl
      rw [Holds, hsaves, SettingsConfig.decode, hnone] at h
      cases h

theorem savesWhatItShows_iff (hcrypto : service.settings.crypto.Reliable) {s : UpdateState}
    {stored : StoredSettings} (h : service.Holds s stored)
    (hsaved : IsSaved service.settings.parseUrl stored) :
    service.SavesWhatItShows s ↔ TellsTargetsApart stored := by
  have hrun := fun iv => @run_save _ _ _ _ _ iv h hsaved.normalize_resubmitted
  constructor
  · rintro ⟨stored', shown, hstored', hshown, hkept⟩
    obtain rfl := Except.ok.inj ((h.symm.trans hstored'))
    obtain rfl := Except.ok.inj ((run_get h).symm.trans hshown)
    cases hkey : service.settings.key with
    | ok key =>
        obtain ⟨envelope, henvelope⟩ := SettingsConfig.exists_envelope hkey "" (resaved stored)
        have hafter := hkept ""
        rw [hrun "", henvelope] at hafter
        have hdecode := SettingsConfig.decode_encrypt hcrypto henvelope
        exact hsaved.resaved_iff.mp (Except.ok.inj (hdecode.symm.trans hafter))
    | error e =>
        rw [eq_unconfigured_of_key_error hkey h]
        exact (@savedUnder_unconfigured service fun _ => False).apart fun _ => False.elim
  · intro hapart
    have hsame := hsaved.resaved_iff.mpr hapart
    refine ⟨stored, publicSettings stored, h, run_get h, fun iv => ?_⟩
    rw [hrun iv, hsame]
    cases hencrypt : service.settings.encryptUpdateSettings iv stored with
    | ok envelope => exact SettingsConfig.decode_encrypt hcrypto hencrypt
    | error e => exact h

/-- **Reading the settings and saving them again**: after any saves, and whatever other saves are
still under way, what `get` shows can be saved without a change to the secrets and the rest exactly
where targets that a save cannot tell apart hold the same secret and the pull secret has no blank
name; so it can where every save has given its targets keys of their own.  What `get` shows does
not depend on the contents of the secrets. -/
theorem get_save_unchanged_iff (service : UpdateService)
    (hcrypto : service.settings.crypto.Reliable) (P : StoredSettings → Prop) {init : UpdateState}
    (hinit : init.saves = []) {c : Pool Exception UpdateState UpdateAnswer}
    (hc : Reach (service.IsSave P) KeepsSaves init c) :
    ∃ stored, service.Holds c.shared stored ∧
      (service.SavesWhatItShows c.shared ↔ TellsTargetsApart stored) ∧
      ((∀ input, P input → HasOwnKeys input) → service.SavesWhatItShows c.shared) ∧
      ∀ s other, service.Holds s other → masked other = masked stored →
        (service.get.run s).1 = (service.get.run c.shared).1 := by
  obtain ⟨stored, hstored, hsaved⟩ := holds_of_reach hcrypto hinit hc
  have hiff := savesWhatItShows_iff hcrypto hstored hsaved.saved
  refine ⟨stored, hstored, hiff, fun hkeys => hiff.mpr (hsaved.apart hkeys), ?_⟩
  intro s other hother hmasked
  rw [run_get hother, run_get hstored, ← publicSettings_masked other, hmasked,
    publicSettings_masked]

end UpdateService

instance encodableChar : Encodable Char := Encodable.ofLeftInverse Char.toNat Char.ofNat Char.ofNat_toNat

instance encodableString : Encodable String :=
  Encodable.ofLeftInverse String.toList String.ofList fun _ => String.ofList_toList

deriving instance Encodable for BackupType, MigrationType, StoredBackupTarget,
  StoredMigrationTarget, StoredRegistry, StoredSettings

def unaryCrypto : SettingsCrypto where
  sha256 := id
  encrypt _ _ value := ("i", "t", String.ofList (List.replicate (Encodable.encode value + 1) 'a'))
  decrypt _ _ _ data := Encodable.decode (data.toList.length - 1)

theorem unaryCrypto_reliable : unaryCrypto.Reliable where
  decrypts key iv value := by
    simp only [unaryCrypto, String.toList_ofList, List.length_replicate, Nat.add_sub_cancel,
      Encodable.encodek]
  parts key iv value := by
    simp only [unaryCrypto, List.forall_mem_cons]
    refine ⟨by decide, by decide, ⟨?_, ?_⟩, by simp⟩
    · intro hempty
      have hlength := congrArg (fun text : String => text.toList.length) hempty
      simp at hlength
    · rw [String.toList_ofList]
      intro hdot
      exact absurd (List.eq_of_mem_replicate hdot) (by decide)

def unaryService : UpdateService :=
  { hostService with settings := { sampleSettings with crypto := unaryCrypto } }

def emptyState : UpdateState := { hostState with saves := [] }

def twinSettings : StoredSettings where
  backupTargets := [⟨"b", "B", .local, "/b", some [("user", "ann")]⟩,
    ⟨"b", "C", .local, "/b", some [("user", "bob")]⟩]
  migrationTargets := []
  registry := ⟨"", [], none, none⟩

theorem reach_saved {P : StoredSettings → Prop} {input : StoredSettings} (hP : P input)
    (hnormalized : normalizeSettings unaryService.settings.parseUrl
      (keepSecrets unconfiguredSettings input) = .ok input) :
    ∃ c : Pool Exception UpdateState UpdateAnswer,
      Reach (unaryService.IsSave P) UpdateService.KeepsSaves emptyState c ∧
        unaryService.Holds c.shared input := by
  obtain ⟨c, hc, hshared⟩ := @Reach.serve _ _ _ (unaryService.IsSave P)
    UpdateService.KeepsSaves _ ⟨emptyState, []⟩ .refl
    (unaryService.save input "i") ⟨input, "i", hP, rfl⟩
  refine ⟨c, hc, ?_⟩
  have hkey : unaryService.settings.key = .ok (String.ofList (List.replicate 64 '0')) := by
    decide +kernel
  have hempty : unaryService.Holds emptyState unconfiguredSettings := rfl
  obtain ⟨envelope, henvelope⟩ := SettingsConfig.exists_envelope hkey "i" input
  rw [hshared, UpdateService.run_save hempty hnormalized, henvelope]
  exact SettingsConfig.decode_encrypt unaryCrypto_reliable henvelope

theorem get_save_unchanged_first : ∃ c : Pool Exception UpdateState UpdateAnswer,
    unaryService.Holds c.shared firstSettings ∧ unaryService.SavesWhatItShows c.shared := by
  have hkeys : HasOwnKeys firstSettings := ⟨by decide, by decide, by decide⟩
  obtain ⟨c, hc, hholds⟩ := reach_saved (P := HasOwnKeys) hkeys (by decide +kernel)
  obtain ⟨stored, -, -, hsaves, -⟩ := UpdateService.get_save_unchanged_iff unaryService
    unaryCrypto_reliable HasOwnKeys rfl hc
  exact ⟨c, hholds, hsaves fun _ h => h⟩

theorem twin_secret_lost :
    ¬∀ (service : UpdateService) (init : UpdateState)
      (c : Pool Exception UpdateState UpdateAnswer), service.settings.crypto.Reliable →
      init.saves = [] → Reach (service.IsSave fun _ => True) UpdateService.KeepsSaves init c →
      service.SavesWhatItShows c.shared := by
  intro h
  have hnormalized : normalizeSettings unaryService.settings.parseUrl
      (keepSecrets unconfiguredSettings twinSettings) = .ok twinSettings := by decide +kernel
  obtain ⟨c, hc, hholds⟩ := reach_saved (P := fun _ => True) trivial hnormalized
  obtain ⟨htakes, htrimmed⟩ := normalizeSettings_eq_ok.mp hnormalized
  have hsaved : IsSaved unaryService.settings.parseUrl twinSettings := by
    rw [htrimmed]
    exact .of_takes htakes
  have hapart := (UpdateService.savesWhatItShows_iff unaryCrypto_reliable hholds hsaved).mp
    (h unaryService emptyState c unaryCrypto_reliable rfl hc)
  have hsecret := hapart.backup ⟨"b", "B", .local, "/b", some [("user", "ann")]⟩ (by decide)
    ⟨"b", "C", .local, "/b", some [("user", "bob")]⟩ (by decide) rfl
  exact absurd hsecret (by decide)

end KubeNova.Update
