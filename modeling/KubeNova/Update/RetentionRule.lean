import KubeNova.Update.RetentionSafety
import Mathlib.Tactic.Linarith

/-!
# The rule of retention, written four times

Backups are kept in a directory or in a bucket, and the service and the scripts prune each of them:
`pruneLocalBackups`, `pruneS3Backups`, `pruneRetainedBackups` and `prune`.  The rule they follow is
that a backup goes when three newer ones are there and it is not younger than thirty days.
-/

namespace KubeNova.Update

open KubeNova.Foundation

structure DirEntry where
  name : String
  isFile : Bool
  mtimeMs : ℚ
  deriving Repr, DecidableEq

/-- The names that are removed of a directory, but for the file that has just been written. -/
def pruneLocalBackups (currentFile : String) (now : ℚ) (entries : List DirEntry) : List String :=
  unprotected (·.name) (·.mtimeMs) (fun entry => entry.name == currentFile) now
    (newestFirst (·.mtimeMs) (entries.filter fun entry =>
      entry.isFile && isBackupName [".dump"] entry.name))

/-- `/^kubenova-update-[a-f0-9-]+\.(?:sql|dump)$/i` -/
def isRetainedName (name : String) : Bool :=
  let lower := Text.toLower name
  Text.startsWith "kubenova-update-" lower && [".sql", ".dump"].any fun ext =>
    Text.endsWith ext lower &&
      let stem := (lower.toList.drop 16).take (lower.toList.length - 16 - ext.toList.length)
      !stem.isEmpty && stem.all fun c => Text.isLowerHex c || c == '-'

def pruneRetainedBackups (now : ℚ) (minimumRetained : Nat) (entries : List DirEntry) :
    List String :=
  let files := newestFirst (·.mtimeMs) (entries.filter fun entry =>
    entry.isFile && isRetainedName entry.name)
  (files.zipIdx.filter fun file =>
    minimumRetained ≤ file.2 && file.1.mtimeMs < now - retainMs).map (·.1.name)

def outdated {α : Type} (time : α → ℚ) (now : ℚ) (backups : List α) : List α :=
  ((newestFirst time backups).drop keepNewest).filter fun backup => retainMs ≤ now - time backup

theorem mem_unprotected {α : Type} {key : α → String} {time : α → ℚ} {isCurrent : α → Bool} {now : ℚ}
    {backups : List α} (hkeys : (backups.map key).Nodup) {k : String} :
    k ∈ unprotected key time isCurrent now backups ↔
      ∃ backup ∈ backups.drop keepNewest, key backup = k ∧ retainMs ≤ now - time backup ∧
        isCurrent backup = false := by
  have hinj : ∀ a ∈ backups, ∀ b ∈ backups, key a = key b → a = b :=
    fun a ha b hb => List.inj_on_of_nodup_map hkeys ha hb
  have hsplit : backups.take keepNewest ++ backups.drop keepNewest = backups :=
    List.take_append_drop keepNewest backups
  have hnodup : backups.Nodup := List.Nodup.of_map key hkeys
  have hprotected : ∀ b ∈ backups, key b ∈ protectedKeys key time now backups ↔
      b ∈ backups.take keepNewest ∨ now - time b < retainMs := by
    intro b hb
    simp only [protectedKeys, List.mem_append, List.mem_map, List.mem_filter, decide_eq_true_eq]
    constructor
    · rintro (⟨a, ha, hsame⟩ | ⟨a, ⟨ha, hyoung⟩, hsame⟩)
      · rw [hinj a (List.mem_of_mem_take ha) b hb hsame] at ha
        exact .inl ha
      · rw [hinj a ha b hb hsame] at hyoung
        exact .inr hyoung
    · rintro (htake | hyoung)
      · exact .inl ⟨b, htake, rfl⟩
      · exact .inr ⟨b, ⟨hb, hyoung⟩, rfl⟩
  simp only [unprotected, List.mem_map, List.mem_filter, Bool.and_eq_true, Bool.not_eq_true',
    ← Bool.not_eq_true, List.contains_iff_mem]
  constructor
  · rintro ⟨b, ⟨hb, hkept, hcurrent⟩, rfl⟩
    rw [hprotected b hb, not_or, not_lt] at hkept
    have hdrop : b ∈ backups.drop keepNewest := by
      rw [← hsplit] at hb
      exact (List.mem_append.mp hb).resolve_left hkept.1
    exact ⟨b, hdrop, rfl, hkept.2, hcurrent⟩
  · rintro ⟨b, hdrop, rfl, hold, hcurrent⟩
    have hb := List.mem_of_mem_drop hdrop
    refine ⟨b, ⟨hb, ?_, hcurrent⟩, rfl⟩
    rw [hprotected b hb, not_or, not_lt]
    refine ⟨fun htake => ?_, hold⟩
    rw [← hsplit] at hnodup
    exact (List.nodup_append.mp hnodup).2.2 b htake b hdrop rfl

theorem mem_outdated {α : Type} {time : α → ℚ} {now : ℚ} {backups : List α} {backup : α} :
    backup ∈ outdated time now backups ↔
      backup ∈ (newestFirst time backups).drop keepNewest ∧ retainMs ≤ now - time backup := by
  rw [outdated, List.mem_filter, decide_eq_true_eq]

theorem mem_pruneRetained {files : List DirEntry} {n : Nat} {now : ℚ} {name : String} :
    name ∈ (files.zipIdx.filter fun file =>
        n ≤ file.2 && file.1.mtimeMs < now - retainMs).map (·.1.name) ↔
      ∃ file ∈ files.drop n, file.name = name ∧ file.mtimeMs < now - retainMs := by
  simp only [List.mem_map, List.mem_filter, Bool.and_eq_true, decide_eq_true_eq, Prod.exists,
    List.mem_zipIdx_iff_getElem?]
  constructor
  · rintro ⟨file, index, ⟨hfile, hindex, hold⟩, rfl⟩
    refine ⟨file, ?_, rfl, hold⟩
    rw [List.mem_iff_getElem?]
    refine ⟨index - n, ?_⟩
    rw [List.getElem?_drop, Nat.add_sub_cancel' hindex]
    exact hfile
  · rintro ⟨file, hfile, rfl, hold⟩
    obtain ⟨index, hindex⟩ := List.mem_iff_getElem?.mp hfile
    rw [List.getElem?_drop] at hindex
    exact ⟨file, n + index, ⟨hindex, Nat.le_add_right n index, hold⟩, rfl⟩

structure DatedBackup where
  name : String
  text : String
  modifiedAt : ℚ
  deriving Repr, DecidableEq

def DatedBackup.file (backup : DatedBackup) : DirEntry := ⟨backup.name, true, backup.modifiedAt⟩

def S3Target.object (target : S3Target) (backup : DatedBackup) : S3Object :=
  ⟨target.hostname, target.objectKey backup.name, backup.text, backup.modifiedAt⟩

/-- When the backups are pruned, under which name one has just been written, and where. -/
structure Pruning where
  now : ℚ
  current : String
  target : S3Target
  atMost : String → String → Bool

inductive BackupPruner where
  | pruneLocalBackups
  | pruneS3Backups
  | pruneRetainedBackups
  | prune
  deriving Repr, DecidableEq

namespace BackupPruner

variable (pruner : BackupPruner) (pruning : Pruning) (backups : List DatedBackup)

def deletes : List String :=
  match pruner with
  | pruneLocalBackups =>
      Update.pruneLocalBackups pruning.current pruning.now (backups.map DatedBackup.file)
  | pruneS3Backups => prunedKeys .service pruning.target
      (some ("s3://" ++ pruning.target.hostname ++ "/" ++ pruning.target.objectKey pruning.current))
      pruning.now (backups.map pruning.target.object)
  | pruneRetainedBackups =>
      Update.pruneRetainedBackups pruning.now keepNewest (backups.map DatedBackup.file)
  | prune => prunedKeys (.script pruning.atMost) pruning.target none pruning.now
      (backups.map pruning.target.object)

def label (backup : DatedBackup) : String :=
  match pruner with
  | pruneLocalBackups | pruneRetainedBackups => backup.name
  | pruneS3Backups | prune => pruning.target.objectKey backup.name

def recognised : List DatedBackup :=
  backups.filter fun backup =>
    match pruner with
    | pruneLocalBackups => isBackupName [".dump"] backup.name
    | pruneS3Backups => Pruner.service.isBackup (pruning.target.objectKey backup.name)
    | pruneRetainedBackups => isRetainedName backup.name
    | prune => (Pruner.script pruning.atMost).isBackup (pruning.target.objectKey backup.name)

def FollowsRule : Prop :=
  ∀ k, k ∈ pruner.deletes pruning backups ↔
    ∃ backup ∈ outdated (·.modifiedAt) pruning.now (pruner.recognised pruning backups),
      pruner.label pruning backup = k

/-- The service's pruners spare the current backup, which must not be one to give up; the first
script spares backups of exactly the limit; the second sorts by texts, which must have the same
backups come first, as far as they are not young. -/
def IsOrdinary : Prop :=
  match pruner with
  | pruneLocalBackups | pruneS3Backups =>
      ∀ backup ∈ outdated (·.modifiedAt) pruning.now (pruner.recognised pruning backups),
        backup.name ≠ pruning.current
  | pruneRetainedBackups =>
      ∀ backup ∈ outdated (·.modifiedAt) pruning.now (pruner.recognised pruning backups),
        pruning.now - backup.modifiedAt ≠ retainMs
  | prune => ∀ backup ∈ pruner.recognised pruning backups,
      retainMs ≤ pruning.now - backup.modifiedAt →
        (backup ∈ (lastTextFirst pruning.atMost (·.text)
            (pruner.recognised pruning backups)).drop keepNewest ↔
          backup ∈ (newestFirst (·.modifiedAt)
            (pruner.recognised pruning backups)).drop keepNewest)

instance : Decidable (pruner.IsOrdinary pruning backups) :=
  match pruner with
  | pruneLocalBackups | pruneS3Backups | pruneRetainedBackups =>
      inferInstanceAs (Decidable (∀ backup ∈ outdated _ _ _, _))
  | prune => inferInstanceAs (Decidable (∀ backup ∈ recognised prune pruning backups, _))

def Gives (backup : DatedBackup) : Prop :=
  match pruner with
  | pruneLocalBackups | pruneS3Backups =>
      backup ∈ outdated (·.modifiedAt) pruning.now (pruner.recognised pruning backups) ∧
        backup.name ≠ pruning.current
  | pruneRetainedBackups =>
      backup ∈ (newestFirst (·.modifiedAt) (pruner.recognised pruning backups)).drop keepNewest ∧
        backup.modifiedAt < pruning.now - retainMs
  | prune =>
      backup ∈ (lastTextFirst pruning.atMost (·.text)
        (pruner.recognised pruning backups)).drop keepNewest ∧
        retainMs ≤ pruning.now - backup.modifiedAt

/-! ## What each of them deletes -/

variable {pruner : BackupPruner} {pruning : Pruning} {backups : List DatedBackup}

theorem objectKey_injective (target : S3Target) : Function.Injective target.objectKey := by
  intro a b h
  have hchars := congrArg String.toList h
  rw [S3Target.objectKey, S3Target.objectKey, String.toList_append, String.toList_append] at hchars
  exact String.toList_inj.mp (List.append_cancel_left hchars)

theorem label_injective (pruner : BackupPruner) (pruning : Pruning) :
    ∃ f : String → String, Function.Injective f ∧
      ∀ backup, pruner.label pruning backup = f backup.name := by
  cases pruner with
  | pruneLocalBackups | pruneRetainedBackups => exact ⟨id, fun _ _ h => h, fun _ => rfl⟩
  | pruneS3Backups | prune => exact ⟨_, objectKey_injective pruning.target, fun _ => rfl⟩

theorem newestFirst_map {α : Type} (f : DatedBackup → α) (time : α → ℚ)
    (htime : ∀ backup, time (f backup) = backup.modifiedAt) (l : List DatedBackup) :
    newestFirst time (l.map f) = (newestFirst (·.modifiedAt) l).map f := by
  refine (List.map_insertionSort _ _ f l fun a _ b _ => ?_).symm
  rw [htime, htime]

theorem lastTextFirst_map {α : Type} (f : DatedBackup → α) (text : α → String)
    {atMost : String → String → Bool} (htext : ∀ backup, text (f backup) = backup.text)
    (l : List DatedBackup) :
    lastTextFirst atMost text (l.map f) = (lastTextFirst atMost (·.text) l).map f := by
  refine (List.map_insertionSort _ _ f l fun a _ b _ => ?_).symm
  rw [htext, htext]

theorem mem_unprotected_map {α : Type} (f : DatedBackup → α) (key : α → String) (time : α → ℚ)
    {isCurrent : α → Bool} {now : ℚ} {sorted : List DatedBackup}
    (htime : ∀ backup, time (f backup) = backup.modifiedAt)
    (hkeys : (sorted.map fun backup => key (f backup)).Nodup) {k : String} :
    k ∈ unprotected key time isCurrent now (sorted.map f) ↔
      ∃ backup ∈ sorted.drop keepNewest, key (f backup) = k ∧
        retainMs ≤ now - backup.modifiedAt ∧ isCurrent (f backup) = false := by
  have hmapped : ((sorted.map f).map key).Nodup := by
    rw [List.map_map]
    exact hkeys
  rw [mem_unprotected hmapped, ← List.map_drop]
  simp only [List.mem_map, exists_exists_and_eq_and, htime]

theorem startsWith_objectKey (target : S3Target) (name : String) :
    Text.startsWith target.keyPrefix (target.objectKey name) = true := by
  rw [Text.startsWith, S3Target.objectKey, String.toList_append, List.isPrefixOf_iff_prefix]
  exact List.prefix_append _ _

theorem listedBackups_map (pruner : Pruner) (target : S3Target) (backups : List DatedBackup) :
    listedBackups pruner target (backups.map target.object) =
      pruner.sort ((backups.filter fun backup =>
        pruner.isBackup (target.objectKey backup.name)).map target.object) := by
  have hfilter : ∀ backup : DatedBackup, ((fun object : S3Object =>
      Text.startsWith target.keyPrefix object.key && pruner.isBackup object.key) ∘
        target.object) backup = pruner.isBackup (target.objectKey backup.name) := by
    intro backup
    simp only [Function.comp_apply, S3Target.object, startsWith_objectKey, Bool.true_and]
  rw [listedBackups, List.filter_map, funext hfilter]

theorem newestFirst_files (isBackup : String → Bool) :
    newestFirst (·.mtimeMs) ((backups.map DatedBackup.file).filter fun entry =>
        entry.isFile && isBackup entry.name) =
      (newestFirst (·.modifiedAt) (backups.filter fun backup => isBackup backup.name)).map
        DatedBackup.file := by
  rw [List.filter_map]
  exact newestFirst_map DatedBackup.file (·.mtimeMs) (fun _ => rfl) _

theorem isCurrent_object (target : S3Target) (current : String) (backup : DatedBackup) :
    (some ("s3://" ++ target.hostname ++ "/" ++ target.objectKey current) ==
      some (target.object backup).uri) = false ↔ backup.name ≠ current := by
  have huri : ∀ a b : String, ("s3://" ++ target.hostname ++ "/" ++ a =
      "s3://" ++ target.hostname ++ "/" ++ b) ↔ a = b := by
    intro a b
    rw [← String.toList_inj, @String.toList_append _ a, @String.toList_append _ b,
      List.append_cancel_left_eq, String.toList_inj]
  rw [beq_eq_false_iff_ne, ne_eq, Option.some.injEq, S3Object.uri, S3Target.object, huri,
    (objectKey_injective target).eq_iff, ne_comm]

theorem nodup_labels (hnames : (backups.map (·.name)).Nodup) {l : List DatedBackup}
    (hl : l.Perm (pruner.recognised pruning backups)) : (l.map (pruner.label pruning)).Nodup := by
  obtain ⟨f, hf, hlabel⟩ := label_injective pruner pruning
  have hrecognised : ((pruner.recognised pruning backups).map (·.name)).Nodup :=
    hnames.sublist (List.filter_sublist.map _)
  have hcompose : l.map (pruner.label pruning) = (l.map (·.name)).map f := by
    rw [List.map_map]
    exact List.map_congr_left fun backup _ => hlabel backup
  rw [hcompose]
  exact (((hl.map (·.name)).nodup_iff).mpr hrecognised).map hf

theorem mem_deletes (hnames : (backups.map (·.name)).Nodup) {k : String} :
    k ∈ pruner.deletes pruning backups ↔
      ∃ backup, pruner.Gives pruning backups backup ∧ pruner.label pruning backup = k := by
  have hnewest := nodup_labels hnames
    (newestFirst_perm (·.modifiedAt) (pruner.recognised pruning backups))
  cases pruner with
  | pruneLocalBackups =>
      have hfiles : ((newestFirst (·.modifiedAt) (backups.filter fun backup =>
          isBackupName [".dump"] backup.name)).map (·.name)).Nodup := hnewest
      rw [deletes, Update.pruneLocalBackups, newestFirst_files (isBackupName [".dump"]),
        mem_unprotected_map DatedBackup.file (·.name) (·.mtimeMs) (fun _ => rfl) hfiles]
      simp only [Gives, mem_outdated, label, DatedBackup.file, beq_eq_false_iff_ne]
      constructor
      · rintro ⟨backup, hdrop, hname, hold, hcurrent⟩
        exact ⟨backup, ⟨⟨hdrop, hold⟩, hcurrent⟩, hname⟩
      · rintro ⟨backup, ⟨⟨hdrop, hold⟩, hcurrent⟩, hname⟩
        exact ⟨backup, hdrop, hname, hold, hcurrent⟩
  | pruneS3Backups =>
      have hsorted : listedBackups .service pruning.target (backups.map pruning.target.object) =
          (newestFirst (·.modifiedAt) (pruneS3Backups.recognised pruning backups)).map
            pruning.target.object := by
        rw [listedBackups_map]
        exact newestFirst_map pruning.target.object (·.lastModified) (fun _ => rfl) _
      rw [deletes, prunedKeys, hsorted,
        mem_unprotected_map pruning.target.object (·.key) (·.lastModified) (fun _ => rfl) hnewest]
      simp only [Gives, mem_outdated, isCurrent_object]
      constructor
      · rintro ⟨backup, hdrop, hname, hold, hcurrent⟩
        exact ⟨backup, ⟨⟨hdrop, hold⟩, hcurrent⟩, hname⟩
      · rintro ⟨backup, ⟨⟨hdrop, hold⟩, hcurrent⟩, hname⟩
        exact ⟨backup, hdrop, hname, hold, hcurrent⟩
  | pruneRetainedBackups =>
      rw [deletes, Update.pruneRetainedBackups, newestFirst_files isRetainedName,
        mem_pruneRetained, ← List.map_drop]
      simp only [List.mem_map, exists_exists_and_eq_and, Gives]
      constructor
      · rintro ⟨backup, hdrop, hname, hold⟩
        exact ⟨backup, ⟨hdrop, hold⟩, hname⟩
      · rintro ⟨backup, ⟨hdrop, hold⟩, hname⟩
        exact ⟨backup, hdrop, hname, hold⟩
  | prune =>
      have hsorted : listedBackups (.script pruning.atMost) pruning.target
          (backups.map pruning.target.object) =
          (lastTextFirst pruning.atMost (·.text) (prune.recognised pruning backups)).map
            pruning.target.object := by
        rw [listedBackups_map]
        exact lastTextFirst_map pruning.target.object (·.text) (fun _ => rfl) _
      have hperm : (lastTextFirst pruning.atMost (·.text) (prune.recognised pruning backups)).Perm
          (prune.recognised pruning backups) := List.perm_insertionSort _ _
      have htexts := nodup_labels hnames hperm
      rw [deletes, prunedKeys, hsorted,
        mem_unprotected_map pruning.target.object (·.key) (·.lastModified) (fun _ => rfl) htexts]
      constructor
      · rintro ⟨backup, hdrop, hname, hold, -⟩
        exact ⟨backup, ⟨hdrop, hold⟩, hname⟩
      · rintro ⟨backup, ⟨hdrop, hold⟩, hname⟩
        exact ⟨backup, hdrop, hname, hold, rfl⟩

theorem mem_recognised_of_drop {l : List DatedBackup} (hl : l.Perm (pruner.recognised pruning backups))
    {backup : DatedBackup} (hbackup : backup ∈ l.drop keepNewest) :
    backup ∈ pruner.recognised pruning backups :=
  hl.mem_iff.mp (List.mem_of_mem_drop hbackup)

theorem mem_recognised_of_outdated {backup : DatedBackup}
    (hbackup : backup ∈ outdated (·.modifiedAt) pruning.now (pruner.recognised pruning backups)) :
    backup ∈ pruner.recognised pruning backups :=
  mem_recognised_of_drop (newestFirst_perm _ _) (mem_outdated.mp hbackup).1

theorem mem_recognised_of_gives {backup : DatedBackup} (h : pruner.Gives pruning backups backup) :
    backup ∈ pruner.recognised pruning backups := by
  cases pruner with
  | pruneLocalBackups | pruneS3Backups => exact mem_recognised_of_outdated h.1
  | pruneRetainedBackups => exact mem_recognised_of_drop (newestFirst_perm _ _) h.1
  | prune => exact mem_recognised_of_drop (List.perm_insertionSort _ _) h.1

theorem followsRule_iff_gives (hnames : (backups.map (·.name)).Nodup) :
    pruner.FollowsRule pruning backups ↔ ∀ backup ∈ pruner.recognised pruning backups,
      (pruner.Gives pruning backups backup ↔
        backup ∈ outdated (·.modifiedAt) pruning.now (pruner.recognised pruning backups)) := by
  obtain ⟨f, hf, hlabel⟩ := label_injective pruner pruning
  have hinj : ∀ a ∈ pruner.recognised pruning backups, ∀ b ∈ pruner.recognised pruning backups,
      pruner.label pruning a = pruner.label pruning b → a = b := by
    intro a ha b hb h
    rw [hlabel, hlabel] at h
    exact List.inj_on_of_nodup_map hnames (List.mem_of_mem_filter ha) (List.mem_of_mem_filter hb)
      (hf h)
  simp only [FollowsRule, mem_deletes hnames]
  constructor
  · intro h backup hbackup
    constructor
    · intro hgives
      obtain ⟨b, hb, hsame⟩ := (h (pruner.label pruning backup)).mp ⟨backup, hgives, rfl⟩
      rw [hinj b (mem_recognised_of_outdated hb) backup hbackup hsame] at hb
      exact hb
    · intro houtdated
      obtain ⟨b, hb, hsame⟩ := (h (pruner.label pruning backup)).mpr ⟨backup, houtdated, rfl⟩
      rw [hinj b (mem_recognised_of_gives hb) backup hbackup hsame] at hb
      exact hb
  · intro h k
    constructor
    · rintro ⟨b, hb, hk⟩
      exact ⟨b, (h b (mem_recognised_of_gives hb)).mp hb, hk⟩
    · rintro ⟨b, hb, hk⟩
      exact ⟨b, (h b (mem_recognised_of_outdated hb)).mpr hb, hk⟩

theorem followsRule_iff (hnames : (backups.map (·.name)).Nodup) :
    pruner.FollowsRule pruning backups ↔ pruner.IsOrdinary pruning backups := by
  rw [followsRule_iff_gives hnames]
  cases pruner with
  | pruneLocalBackups | pruneS3Backups =>
      simp only [Gives, IsOrdinary]
      constructor
      · intro h backup houtdated
        exact ((h backup (mem_recognised_of_outdated houtdated)).mpr houtdated).2
      · intro h backup _
        exact ⟨fun hgives => hgives.1, fun houtdated => ⟨houtdated, h backup houtdated⟩⟩
  | pruneRetainedBackups =>
      simp only [Gives, IsOrdinary]
      constructor
      · intro h backup houtdated hexact
        have hgives := (h backup (mem_recognised_of_outdated houtdated)).mpr houtdated
        linarith [hgives.2]
      · intro h backup _
        rw [mem_outdated]
        constructor
        · rintro ⟨hdrop, hold⟩
          exact ⟨hdrop, by linarith⟩
        · rintro ⟨hdrop, hold⟩
          have hne := h backup (mem_outdated.mpr ⟨hdrop, hold⟩)
          have hlt : retainMs < pruning.now - backup.modifiedAt := lt_of_le_of_ne hold (Ne.symm hne)
          exact ⟨hdrop, by linarith⟩
  | prune =>
      simp only [Gives, IsOrdinary, mem_outdated]
      constructor
      · intro h backup hbackup hold
        have hiff := h backup hbackup
        exact ⟨fun htext => (hiff.mp ⟨htext, hold⟩).1, fun hnewest => (hiff.mpr ⟨hnewest, hold⟩).1⟩
      · intro h backup hbackup
        exact ⟨fun ⟨htext, hold⟩ => ⟨(h backup hbackup hold).mp htext, hold⟩,
          fun ⟨hnewest, hold⟩ => ⟨(h backup hbackup hold).mpr hnewest, hold⟩⟩

end BackupPruner

def fourBackups : List DatedBackup := [
  ⟨"kubenova-update-a.dump", "00.000Z", 0⟩, ⟨"kubenova-update-b.dump", "00.010Z", 10⟩,
  ⟨"kubenova-update-c.dump", "00.020Z", 20⟩, ⟨"kubenova-update-d.dump", "00.030Z", 30⟩]

def pruningAt (now : ℚ) : Pruning := ⟨now, "kubenova-update-d.dump", outerTarget, textAtMost⟩

end KubeNova.Update
