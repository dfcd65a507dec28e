import KubeNova.Update.BackupRetention
import Mathlib.Data.Char
import Mathlib.Data.List.Lex

/-!
# What pruning spares

As long as a target lists no backups but its own, pruning deletes nothing of other targets, and the
three newest backups of every target stay: `retention_safe`.  A target above another one in the
bucket lists the backups of both, and nothing tells them apart: `prune_crosses_targets`.
-/

namespace KubeNova.Update

open KubeNova.Foundation

/-- The backups of a target that are no older than `bound`. -/
def recentBackup (target : S3Target) (bound : ℚ) (stored : StoredObject) : Bool :=
  stored.writer == some target && decide (bound ≤ stored.object.lastModified)

/-- A backup is gone only when three of its target are there that are no older. -/
def NewestKept (s : BucketState) : Prop :=
  ∀ stored ∈ s.written, ∀ target, stored.writer = some target → stored ∈ s.objects ∨
    keepNewest ≤ s.objects.countP (recentBackup target stored.object.lastModified)

def Isolated (target : S3Target) (s s' : BucketState) : Prop :=
  ∀ stored ∈ s.objects, stored ∉ s'.objects → ∀ other, stored.writer = some other → other = target

def S3Target.claims (pruner : Pruner) (target : S3Target) (object : S3Object) : Bool :=
  target.lists object && pruner.isBackup object.key

def SortsByTime (pruner : Pruner) (target : S3Target) (listing : List S3Object) : Prop :=
  (listedBackups pruner target listing).Pairwise fun a b => b.lastModified ≤ a.lastModified

instance (pruner : Pruner) (target : S3Target) (listing : List S3Object) :
    Decidable (SortsByTime pruner target listing) :=
  inferInstanceAs (Decidable (List.Pairwise _ _))

/-- A target that is pruned takes nothing for its backups that was not written through it, and has
the newest of them first. -/
def ListsItsOwn (s : BucketState) : BucketAction → Prop
  | .backup .. => True
  | .prune pruner target _ _ listing _ => SortsByTime pruner target listing ∧
      ∀ stored ∈ s.objects, target.claims pruner stored.object = true → stored.writer = some target

section Prune

variable {pruner : Pruner} {target : S3Target} {currentUri : Option String} {now : ℚ}
  {done : Nat} {listing : List S3Object} {s : BucketState}

theorem listedBackups_perm
    (hlisting : listing.Perm ((s.objects.map (·.object)).filter target.lists)) :
    (listedBackups pruner target listing).Perm
      ((s.objects.filter fun stored => target.claims pruner stored.object).map (·.object)) := by
  have hclaims : ∀ object : S3Object,
      ((Text.startsWith target.keyPrefix object.key && pruner.isBackup object.key) &&
        target.lists object) = target.claims pruner object := by
    intro object
    unfold S3Target.claims S3Target.lists
    cases Text.startsWith target.keyPrefix object.key <;> simp [Bool.and_comm]
  have hsort : ∀ l, (pruner.sort l).Perm l := by
    intro l
    cases pruner with
    | service => exact newestFirst_perm _ l
    | script atMost => exact List.perm_insertionSort _ l
  calc (listedBackups pruner target listing).Perm _ := hsort _
    List.Perm _ _ := hlisting.filter _
    List.Perm _ _ := by
      rw [List.filter_filter, List.filter_map]
      simp only [hclaims]
      exact List.Perm.refl _

theorem mem_prunedKeys {key : String}
    (hkey : key ∈ (prunedKeys pruner target currentUri now listing).take done) :
    ∃ backup ∈ (listedBackups pruner target listing).drop keepNewest, backup.key = key ∧
      ∀ kept ∈ (listedBackups pruner target listing).take keepNewest, kept.key ≠ key := by
  have hkey := List.mem_of_mem_take hkey
  simp only [prunedKeys, unprotected, List.mem_map, List.mem_filter, Bool.and_eq_true, Bool.not_eq_true',
    ← Bool.not_eq_true, List.contains_iff_mem, protectedKeys, List.mem_append, not_or] at hkey
  obtain ⟨backup, ⟨hmem, ⟨hnewest, -⟩, -⟩, rfl⟩ := hkey
  have hkept : ∀ kept ∈ (listedBackups pruner target listing).take keepNewest,
      kept.key ≠ backup.key := fun kept hkept heq => hnewest ⟨kept, hkept, heq⟩
  refine ⟨backup, ?_, rfl, hkept⟩
  rw [← List.take_append_drop keepNewest (listedBackups pruner target listing)] at hmem
  rcases List.mem_append.mp hmem with htake | hdrop
  · exact absurd rfl (hkept backup htake)
  · exact hdrop

def spared (bucket : String) (keys : List String) (object : S3Object) : Bool :=
  !(object.bucket == bucket && keys.contains object.key)

theorem claims_of_mem_listedBackups
    (hlisting : listing.Perm ((s.objects.map (·.object)).filter target.lists)) {backup : S3Object}
    (hbackup : backup ∈ listedBackups pruner target listing) :
    target.claims pruner backup = true := by
  have hmem := (listedBackups_perm hlisting).mem_iff.mp hbackup
  obtain ⟨stored, hstored, rfl⟩ := List.mem_map.mp hmem
  exact (List.mem_filter.mp hstored).2

theorem spared_of_not_claims
    (hlisting : listing.Perm ((s.objects.map (·.object)).filter target.lists)) {object : S3Object}
    (hclaims : ¬target.claims pruner object = true) :
    spared target.hostname ((prunedKeys pruner target currentUri now listing).take done) object =
      true := by
  rw [spared, Bool.not_eq_true', ← Bool.not_eq_true, Bool.and_eq_true, beq_iff_eq,
    List.contains_iff_mem]
  rintro ⟨hbucket, hkey⟩
  obtain ⟨backup, hdrop, hsame, -⟩ := mem_prunedKeys hkey
  have hbackup := @claims_of_mem_listedBackups pruner _ _ _ hlisting _
    (List.mem_of_mem_drop hdrop)
  have hlists : backup.bucket = target.hostname := by
    simp only [S3Target.claims, S3Target.lists, Bool.and_eq_true, beq_iff_eq] at hbackup
    exact hbackup.1.1
  have heq : target.claims pruner object = target.claims pruner backup := by
    rw [S3Target.claims, S3Target.claims, S3Target.lists, S3Target.lists, hlists, hsame, hbucket]
  exact hclaims (heq.trans hbackup)

theorem spared_of_mem_take {kept : S3Object}
    (hkept : kept ∈ (listedBackups pruner target listing).take keepNewest) :
    spared target.hostname ((prunedKeys pruner target currentUri now listing).take done) kept =
      true := by
  rw [spared, Bool.not_eq_true', ← Bool.not_eq_true, Bool.and_eq_true, List.contains_iff_mem]
  rintro ⟨-, hkey⟩
  obtain ⟨-, -, -, hnewest⟩ := mem_prunedKeys hkey
  exact hnewest kept hkept rfl

variable (hlisting : listing.Perm ((s.objects.map (·.object)).filter target.lists))
  (hsorted : SortsByTime pruner target listing)
  (hown : ∀ stored ∈ s.objects, target.claims pruner stored.object = true →
    stored.writer = some target)

include hlisting hsorted hown

omit hsorted in
theorem countP_claimed (bound : ℚ) :
    (s.objects.filter fun stored => target.claims pruner stored.object).countP
        (recentBackup target bound) =
      (listedBackups pruner target listing).countP fun backup => bound ≤ backup.lastModified := by
  rw [(listedBackups_perm hlisting).countP_eq, List.countP_map]
  apply List.countP_congr
  intro stored hstored
  obtain ⟨hmem, hclaims⟩ := List.mem_filter.mp hstored
  simp [recentBackup, hown stored hmem hclaims]

omit hsorted in
theorem isolated_delete :
    Isolated target s (s.delete target.hostname
      ((prunedKeys pruner target currentUri now listing).take done)) := by
  intro stored hmem hgone other hwriter
  by_cases hclaims : target.claims pruner stored.object = true
  · exact Option.some.inj (hwriter.symm.trans (hown stored hmem hclaims))
  · exact absurd (List.mem_filter.mpr ⟨hmem, spared_of_not_claims hlisting hclaims⟩) hgone

omit hsorted in
theorem countP_take_le (bound : ℚ) :
    ((listedBackups pruner target listing).take keepNewest).countP
        (fun backup => bound ≤ backup.lastModified) ≤
      ((s.objects.filter fun stored => target.claims pruner stored.object).filter fun stored =>
          spared target.hostname ((prunedKeys pruner target currentUri now listing).take done)
            stored.object).countP (recentBackup target bound) := by
  set keep := spared target.hostname ((prunedKeys pruner target currentUri now listing).take done)
  have hkept : ((listedBackups pruner target listing).take keepNewest).filter keep =
      (listedBackups pruner target listing).take keepNewest :=
    List.filter_eq_self.mpr fun kept hkept => spared_of_mem_take hkept
  have hperm : ((listedBackups pruner target listing).filter keep).Perm
      (((s.objects.filter fun stored => target.claims pruner stored.object).filter
        fun stored => keep stored.object).map (·.object)) := by
    have h := (@listedBackups_perm pruner _ _ _ hlisting).filter keep
    rw [List.filter_map] at h
    exact h
  calc ((listedBackups pruner target listing).take keepNewest).countP
        (fun backup => bound ≤ backup.lastModified)
      = (((listedBackups pruner target listing).take keepNewest).filter keep).countP
          fun backup => bound ≤ backup.lastModified := by rw [hkept]
    _ ≤ ((listedBackups pruner target listing).filter keep).countP
          fun backup => bound ≤ backup.lastModified :=
        ((List.take_sublist _ _).filter _).countP_le
    _ = _ := by
        rw [hperm.countP_eq, List.countP_map]
        apply List.countP_congr
        intro stored hstored
        obtain ⟨hmem, hclaims⟩ := List.mem_filter.mp (List.mem_of_mem_filter hstored)
        simp [recentBackup, hown stored hmem hclaims]

theorem min_countP_le_countP_delete (bound : ℚ) :
    min keepNewest (s.objects.countP (recentBackup target bound)) ≤
      (s.delete target.hostname
        ((prunedKeys pruner target currentUri now listing).take done)).objects.countP
          (recentBackup target bound) := by
  let keep (stored : StoredObject) : Bool := spared target.hostname
    ((prunedKeys pruner target currentUri now listing).take done) stored.object
  let own (stored : StoredObject) : Bool := target.claims pruner stored.object
  have hothers : (s.objects.filter keep).filter (fun stored => !own stored) =
      s.objects.filter fun stored => !own stored := by
    rw [List.filter_filter]
    apply List.filter_congr
    intro stored _
    cases hclaims : own stored with
    | true => rfl
    | false =>
        have hspared : keep stored = true :=
          spared_of_not_claims hlisting (by rw [← Bool.not_eq_true] at hclaims; exact hclaims)
        rw [hspared]
        rfl
  have hcomm : (s.objects.filter keep).filter own = (s.objects.filter own).filter keep := by
    rw [List.filter_filter, List.filter_filter]
    exact List.filter_congr fun stored _ => Bool.and_comm _ _
  have hbefore := List.countP_eq_countP_filter_add s.objects (recentBackup target bound) own
  have hafter :=
    List.countP_eq_countP_filter_add (s.objects.filter keep) (recentBackup target bound) own
  have hnewest : ((listedBackups pruner target listing).take keepNewest).countP
      (fun backup => bound ≤ backup.lastModified) ≤
        ((s.objects.filter own).filter keep).countP (recentBackup target bound) :=
    countP_take_le hlisting hown bound
  have hmin : min keepNewest ((listedBackups pruner target listing).countP
      fun backup => bound ≤ backup.lastModified) ≤ ((listedBackups pruner target listing).take
        keepNewest).countP fun backup => bound ≤ backup.lastModified :=
    min_countP_le_countP_take hsorted keepNewest bound
  have hcount : (s.objects.filter own).countP (recentBackup target bound) =
      (listedBackups pruner target listing).countP fun backup => bound ≤ backup.lastModified :=
    countP_claimed hlisting hown bound
  rw [hothers, hcomm] at hafter
  change _ ≤ (s.objects.filter keep).countP _
  omega

theorem keepNewest_le_of_deleted {stored : StoredObject} (hmem : stored ∈ s.objects)
    (hgone : stored ∉ (s.delete target.hostname
      ((prunedKeys pruner target currentUri now listing).take done)).objects) :
    keepNewest ≤ s.objects.countP (recentBackup target stored.object.lastModified) := by
  have hclaims : target.claims pruner stored.object = true := by
    by_contra hclaims
    exact hgone (List.mem_filter.mpr ⟨hmem, spared_of_not_claims hlisting hclaims⟩)
  have hlisted : stored.object ∈ listedBackups pruner target listing :=
    (listedBackups_perm hlisting).mem_iff.mpr
      (List.mem_map.mpr ⟨stored, List.mem_filter.mpr ⟨hmem, hclaims⟩, rfl⟩)
  have hdrop : stored.object ∈ (listedBackups pruner target listing).drop keepNewest := by
    rw [← List.take_append_drop keepNewest (listedBackups pruner target listing)] at hlisted
    refine (List.mem_append.mp hlisted).resolve_left fun htake => hgone ?_
    exact List.mem_filter.mpr ⟨hmem, spared_of_mem_take htake⟩
  calc keepNewest
      ≤ (listedBackups pruner target listing).countP
          fun backup => stored.object.lastModified ≤ backup.lastModified :=
        le_countP_of_mem_drop hsorted hdrop
    _ = (s.objects.filter fun stored => target.claims pruner stored.object).countP
          (recentBackup target stored.object.lastModified) := (countP_claimed hlisting hown _).symm
    _ ≤ s.objects.countP (recentBackup target stored.object.lastModified) :=
        List.filter_sublist.countP_le

omit hsorted in
theorem countP_le_countP_delete {other : S3Target} (hother : other ≠ target) (bound : ℚ) :
    s.objects.countP (recentBackup other bound) ≤
      (s.delete target.hostname
        ((prunedKeys pruner target currentUri now listing).take done)).objects.countP
          (recentBackup other bound) := by
  change _ ≤ (s.objects.filter _).countP _
  rw [List.countP_filter]
  apply List.countP_mono_left
  intro stored hmem hrecent
  have hwriter : stored.writer = some other := by
    simp only [recentBackup, Bool.and_eq_true, beq_iff_eq] at hrecent
    exact hrecent.1
  have hclaims : ¬target.claims pruner stored.object = true := fun hclaims =>
    hother (Option.some.inj (hwriter.symm.trans (hown stored hmem hclaims)))
  rw [Bool.and_eq_true]
  exact ⟨hrecent, spared_of_not_claims hlisting hclaims⟩

theorem newestKept_delete (h : NewestKept s) :
    NewestKept (s.delete target.hostname
      ((prunedKeys pruner target currentUri now listing).take done)) := by
  intro stored hwritten other hwriter
  by_cases hother : other = target
  · subst hother
    by_cases hstays : stored ∈ (s.delete other.hostname
        ((prunedKeys pruner other currentUri now listing).take done)).objects
    · exact .inl hstays
    · have hthree : keepNewest ≤ s.objects.countP
          (recentBackup other stored.object.lastModified) := by
        rcases h stored hwritten other hwriter with hmem | hgone
        · exact keepNewest_le_of_deleted hlisting hsorted hown hmem hstays
        · exact hgone
      have hmin := @min_countP_le_countP_delete pruner other currentUri now done listing s hlisting
        hsorted hown stored.object.lastModified
      exact .inr (by omega)
  · rcases h stored hwritten other hwriter with hmem | hgone
    · have hstays : stored ∈ (s.delete target.hostname
          ((prunedKeys pruner target currentUri now listing).take done)).objects := by
        by_contra hlost
        exact hother (isolated_delete hlisting hown stored hmem hlost other hwriter)
      exact .inl hstays
    · exact .inr (Nat.le_trans hgone (countP_le_countP_delete hlisting hown hother _))

end Prune

theorem newestKept_start (objects : List StoredObject) : NewestKept (.start objects) :=
  fun _ hwritten _ _ => .inl (List.mem_of_mem_filter hwritten)

theorem prune_step {pruner : Pruner} {target : S3Target} {currentUri : Option String}
    {now : ℚ} {done : Nat} {listing : List S3Object} {s s' : BucketState}
    (h : retention.step (.prune pruner target currentUri now listing done) s = some s') :
    listing.Perm ((s.objects.map (·.object)).filter target.lists) ∧
      s.delete target.hostname ((prunedKeys pruner target currentUri now listing).take done) = s' := by
  simp only [retention] at h
  split_ifs at h with hlisting
  exact ⟨hlisting, Option.some.inj h⟩

theorem backup_step {target : S3Target} {fileName text : String} {lastModified : ℚ}
    {s s' : BucketState}
    (h : retention.step (.backup target fileName text lastModified) s = some s') :
    ∃ stored : StoredObject,
      stored = ⟨⟨target.hostname, target.objectKey fileName, text, lastModified⟩, some target⟩ ∧
        s' = ⟨s.objects ++ [stored], s.written ++ [stored]⟩ := by
  simp only [retention] at h
  split_ifs at h
  exact ⟨_, rfl, (Option.some.inj h).symm⟩

theorem newestKept_step {action : BucketAction} {s s' : BucketState} (hown : ListsItsOwn s action)
    (h : retention.step action s = some s') (hkept : NewestKept s) : NewestKept s' := by
  cases action with
  | backup target fileName text lastModified =>
      obtain ⟨added, -, rfl⟩ := backup_step h
      intro stored hwritten other hwriter
      rcases List.mem_append.mp hwritten with hold | hnew
      · rcases hkept stored hold other hwriter with hmem | hgone
        · exact .inl (List.mem_append_left _ hmem)
        · refine .inr (Nat.le_trans hgone ?_)
          exact (List.sublist_append_left _ _).countP_le
      · exact .inl (List.mem_append_right _ hnew)
  | prune pruner target currentUri now listing done =>
      obtain ⟨hlisting, rfl⟩ := prune_step h
      exact newestKept_delete hlisting hown.1 hown.2 hkept

/-- While every target that is pruned lists no backups but its own, no pruning deletes a backup of
another target, and the newest backups of every target are there. -/
theorem retention_safe (objects : List StoredObject) (s : BucketState)
    (hrun : retention.Run ListsItsOwn (.start objects) s) :
    NewestKept s ∧ ∀ pruner target currentUri now listing done s',
      ListsItsOwn s (.prune pruner target currentUri now listing done) →
      retention.step (.prune pruner target currentUri now listing done) s = some s' →
      Isolated target s s' := by
  constructor
  · exact hrun.invariant (fun s action s' hown h => newestKept_step hown h)
      (newestKept_start objects)
  · intro pruner target currentUri now listing done s' hown h
    obtain ⟨hlisting, rfl⟩ := prune_step h
    exact isolated_delete hlisting hown.2

def outerTarget : S3Target := ⟨"outer", "kubenova", "/backups"⟩

def oldestBackup : StoredObject :=
  ⟨⟨"kubenova", "backups/kubenova-update-a.sql", "00.000Z", 0⟩, some outerTarget⟩

def outerBackups : List StoredObject := [
  ⟨⟨"kubenova", "backups/kubenova-update-b.dump", "00.010Z", 10⟩, some outerTarget⟩,
  ⟨⟨"kubenova", "backups/kubenova-update-c.dump", "00.020Z", 20⟩, some outerTarget⟩,
  ⟨⟨"kubenova", "backups/kubenova-update-d.dump", "00.030Z", 30⟩, some outerTarget⟩]

/-- Texts by their characters, as `localeCompare` orders digits. -/
def textAtMost (a b : String) : Bool := decide (a.toList ≤ b.toList)

theorem outer_prune_safe : NewestKept ⟨outerBackups, oldestBackup :: outerBackups⟩ := by
  have hown : ListsItsOwn (.start (oldestBackup :: outerBackups))
      (.prune (.script textAtMost) outerTarget none (2 * retainMs)
        ((oldestBackup :: outerBackups).map (·.object)) 10) := by
    refine ⟨by decide +kernel, fun stored hmem _ => ?_⟩
    simp only [BucketState.start, oldestBackup, outerBackups, List.mem_cons,
      List.not_mem_nil, or_false] at hmem
    rcases hmem with rfl | rfl | rfl | rfl <;> rfl
  have hstep : retention.step (.prune (.script textAtMost) outerTarget none (2 * retainMs)
      ((oldestBackup :: outerBackups).map (·.object)) 10)
        (.start (oldestBackup :: outerBackups)) =
      some ⟨outerBackups, oldestBackup :: outerBackups⟩ := by decide +kernel
  exact (retention_safe (oldestBackup :: outerBackups) _
    (Relation.ReflTransGen.single ⟨_, hown, hstep⟩)).1

def Apart (targets : List S3Target) : Prop :=
  ∀ target ∈ targets, ∀ other ∈ targets, target.hostname = other.hostname →
    Text.startsWith target.keyPrefix other.keyPrefix = true → other = target

def WrittenThrough (targets : List S3Target) (stored : StoredObject) : Prop :=
  ∃ target ∈ targets, ∃ fileName, '/' ∉ fileName.toList ∧ stored.writer = some target ∧
    stored.object.bucket = target.hostname ∧ stored.object.key = target.objectKey fileName

def UsesOnly (targets : List S3Target) (_ : BucketState) : BucketAction → Prop
  | .backup target fileName .. => target ∈ targets ∧ '/' ∉ fileName.toList
  | .prune pruner target _ _ listing _ => SortsByTime pruner target listing ∧ target ∈ targets

theorem keyPrefix_toList (target : S3Target) : ∃ cs, target.keyPrefix.toList = cs ++ ['/'] := by
  unfold S3Target.keyPrefix
  simp only [String.toList_append, String.toList_ofList]
  exact ⟨_, rfl⟩

theorem isPrefix_of_append {pre path name : List Char} (h : pre ++ ['/'] <+: path ++ name)
    (hname : '/' ∉ name) : pre ++ ['/'] <+: path := by
  have hpath : path <+: path ++ name := List.prefix_append path name
  rcases Nat.le_total (pre ++ ['/']).length path.length with hshort | hlong
  · exact List.prefix_of_prefix_length_le h hpath hshort
  · obtain ⟨rest, hrest⟩ := List.prefix_of_prefix_length_le hpath h hlong
    rw [← hrest, List.prefix_append_right_inj] at h
    rcases List.eq_nil_or_concat rest with rfl | ⟨first, last, rfl⟩
    · rw [List.append_nil] at hrest
      have hwhole : pre ++ ['/'] <+: pre ++ ['/'] := List.prefix_refl _
      exact hrest.symm ▸ hwhole
    · have hlast : last = '/' := by
        have hends := congrArg List.getLast? hrest
        simpa using hends
      exact absurd (h.subset (by simp [hlast])) hname

theorem listsItsOwn_of_apart {targets : List S3Target} (hapart : Apart targets) {s : BucketState}
    {action : BucketAction} (huses : UsesOnly targets s action)
    (hwritten : ∀ stored ∈ s.objects, WrittenThrough targets stored) : ListsItsOwn s action := by
  cases action with
  | backup target fileName text lastModified => trivial
  | prune pruner target currentUri now listing done =>
      refine ⟨huses.1, fun stored hmem hclaims => ?_⟩
      obtain ⟨other, hother, fileName, hname, hwriter, hbucket, hkey⟩ := hwritten stored hmem
      simp only [S3Target.claims, S3Target.lists, Bool.and_eq_true, beq_iff_eq] at hclaims
      obtain ⟨⟨hhost, hstarts⟩, -⟩ := hclaims
      rw [hkey, S3Target.objectKey, Text.startsWith, List.isPrefixOf_iff_prefix,
        String.toList_append] at hstarts
      obtain ⟨pre, hpre⟩ := keyPrefix_toList target
      rw [hpre] at hstarts
      have hinside : Text.startsWith target.keyPrefix other.keyPrefix = true := by
        rw [Text.startsWith, List.isPrefixOf_iff_prefix, hpre]
        exact isPrefix_of_append hstarts hname
      rw [hwriter, hapart target huses.2 other hother (hhost.symm.trans hbucket) hinside]

theorem writtenThrough_step {targets : List S3Target} {s s' : BucketState} {action : BucketAction}
    (huses : UsesOnly targets s action) (h : retention.step action s = some s')
    (hwritten : ∀ stored ∈ s.objects, WrittenThrough targets stored) :
    ∀ stored ∈ s'.objects, WrittenThrough targets stored := by
  cases action with
  | backup target fileName text lastModified =>
      obtain ⟨added, hadded, rfl⟩ := backup_step h
      intro stored hmem
      rcases List.mem_append.mp hmem with hold | hnew
      · exact hwritten stored hold
      · obtain rfl : stored = added := List.mem_singleton.mp hnew
        rw [hadded]
        exact ⟨target, huses.1, fileName, huses.2, rfl, rfl, rfl⟩
  | prune pruner target currentUri now listing done =>
      obtain ⟨-, rfl⟩ := prune_step h
      exact fun stored hmem => hwritten stored (List.mem_of_mem_filter hmem)

def archiveTarget : S3Target := ⟨"archive", "kubenova", "/archive"⟩

def archivedBackup : StoredObject :=
  ⟨⟨"kubenova", "archive/kubenova-update-a.dump", "00.000Z", 0⟩, some archiveTarget⟩

def innerTarget : S3Target := ⟨"inner", "kubenova", "/backups/prod"⟩

def innerBackup : StoredObject :=
  ⟨⟨"kubenova", "backups/prod/kubenova-update-a.dump", "00.000Z", 0⟩, some innerTarget⟩

/-- Two months after three later backups of the outer target, pruning it deletes the only backup of
the inner one. -/
theorem prune_crosses_targets :
    ∃ s s', retention.play [
        .backup innerTarget "kubenova-update-a.dump" "00.000Z" 0,
        .backup outerTarget "kubenova-update-b.dump" "00.010Z" 10,
        .backup outerTarget "kubenova-update-c.dump" "00.020Z" 20,
        .backup outerTarget "kubenova-update-d.dump" "00.030Z" 30] (.start []) = some s ∧
      retention.step (.prune .service outerTarget
        (some "s3://kubenova/backups/kubenova-update-d.dump") (2 * retainMs)
        ((s.objects.map (·.object)).filter outerTarget.lists) 10) s = some s' ∧
      ¬Isolated outerTarget s s' ∧ ¬NewestKept s' := by
  refine ⟨⟨innerBackup :: outerBackups, innerBackup :: outerBackups⟩,
    ⟨outerBackups, innerBackup :: outerBackups⟩, by decide +kernel, by decide +kernel,
    fun hisolated => ?_, fun hkept => ?_⟩
  · have hsame := hisolated innerBackup List.mem_cons_self (by decide +kernel) innerTarget rfl
    exact absurd hsame (by decide)
  · rcases hkept innerBackup List.mem_cons_self innerTarget rfl with hmem | hthree
    · exact absurd hmem (by decide +kernel)
    · exact absurd hthree (by decide +kernel)

end KubeNova.Update
