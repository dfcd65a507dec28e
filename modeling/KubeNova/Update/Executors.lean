import KubeNova.Foundation.Machine
import KubeNova.Update.TaskQueue

/-!
# The update executors of a host

`systemd-update-executor.mjs` and `update-executor.mjs`: each keeps its tasks in the order of
their submission and offers, as the version to roll back to, what a successful install started
from.  The one for systemd looks for the oldest install, the one for Compose for the newest that
no later rollback has undone.

`before` records the version that ran before the current one, and is read by neither.
-/

namespace KubeNova.Update

open KubeNova.Common KubeNova.Foundation

inductive ExecutorAction where
  | install
  | rollback
  deriving Repr, DecidableEq

/-- A task with what the list of candidates reads of it. -/
structure ExecutorTask where
  action : ExecutorAction
  targetVersion : String
  succeeded : Bool
  previousVersion : Option String
  backupFile : Option String
  previousImageDigests : Option Images

inductive HostExecutor where
  | systemd
  | compose
  deriving Repr, DecidableEq

/-- `0|[1-9]\d*`. -/
def isVersionNumber (part : String) : Bool :=
  part ≠ "" && part.toList.all Text.isDigit && (part == "0" || part.toList.head? != some '0')

/-- `validTag`, which is also `stableTag`. -/
def validTag (value : String) : Bool :=
  match value.toList with
  | 'v' :: cs =>
      let parts := Text.split '.' (String.ofList cs)
      (parts.length == 2 || parts.length == 3) && parts.all isVersionNumber
  | _ => false

/-- `left.slice(1).split('.').map(Number)`, with 0 for what is missing. -/
def versionPart (value : String) (i : Nat) : Nat :=
  match (Text.split '.' (String.ofList (value.toList.drop 1)))[i]? with
  | some part => (Common.digitsValue part.toList).getD 0
  | none => 0

/-- `compareVersions(left, right) < 0`. -/
def isLower (left right : String) : Bool :=
  if versionPart left 0 ≠ versionPart right 0 then versionPart left 0 < versionPart right 0
  else if versionPart left 1 ≠ versionPart right 1 then versionPart left 1 < versionPart right 1
  else versionPart left 2 < versionPart right 2

namespace ExecutorTask

def hasText (value : Option String) : Bool := value.any (· ≠ "")

def isInstall (task : ExecutorTask) : Bool :=
  task.action == .install && task.succeeded && hasText task.previousVersion &&
    hasText task.backupFile

def isUndoneBy (task later : ExecutorTask) : Bool :=
  later.action == .rollback && later.succeeded && some later.targetVersion == task.previousVersion

end ExecutorTask

namespace HostExecutor

def liveInstalls : List ExecutorTask → List ExecutorTask
  | [] => []
  | task :: later =>
      if task.isInstall && task.previousImageDigests.isSome && !later.any task.isUndoneBy then
        task :: liveInstalls later
      else liveInstalls later

def rollbackCandidates (executor : HostExecutor) (tasks : List ExecutorTask) : List String :=
  let installs : List ExecutorTask := match executor with
    | .systemd => tasks.filter (·.isInstall)
    | .compose => (liveInstalls tasks).reverse
  (installs.filterMap (·.previousVersion)).eraseDups.take 3

def backupVersion (executor : HostExecutor) (tasks : List ExecutorTask) : Option String :=
  (executor.rollbackCandidates tasks).head?

end HostExecutor

/-- `releases` are the complete release directories of a systemd host. -/
structure ExecutorState where
  running : String
  images : Images
  releases : List String
  tasks : List ExecutorTask
  before : Option String

def releaseCandidates (current : String) (releases : List String) : List String :=
  ((releases.filter fun version => validTag version && isLower version current).mergeSort
    fun a b => !isLower a b).take 3

inductive ExecutorEvent where
  | installed (targetVersion backupFile : String) (images : Images)
  | rolledBack (targetVersion : String)
  /-- A release directory is removed from the host. -/
  | removed (version : String)
  /-- The executor starts again with the tasks of its file, which are the last hundred. -/
  | restarted

namespace ExecutorState

def install (executor : HostExecutor) (targetVersion backupFile : String) (images : Images)
    (s : ExecutorState) : ExecutorState where
  running := targetVersion
  images := images
  releases := s.releases ++ [targetVersion]
  tasks := s.tasks ++ [⟨.install, targetVersion, true, some s.running, some backupFile,
    if executor = .compose then some s.images else none⟩]
  before := some s.running

def rollback (executor : HostExecutor) (targetVersion : String) (images : Images)
    (s : ExecutorState) : ExecutorState where
  running := targetVersion
  images := images
  releases := s.releases
  tasks := s.tasks ++ [⟨.rollback, targetVersion, true,
    if executor = .systemd then some s.running else none, none, none⟩]
  before := some s.running

def imagesOf (targetVersion : String) (tasks : List ExecutorTask) : Option Images :=
  ((HostExecutor.liveInstalls tasks).reverse.find? fun task =>
    task.previousVersion == some targetVersion).bind (·.previousImageDigests)

def persisted (tasks : List ExecutorTask) : List ExecutorTask := tasks.drop (tasks.length - 100)

end ExecutorState

def hostExecutor (executor : HostExecutor) : Machine ExecutorEvent ExecutorState where
  step event s := match event, executor with
    | .installed targetVersion backupFile images, .systemd =>
        if validTag targetVersion ∧ isLower s.running targetVersion ∧
            targetVersion ∉ s.releases ∧ backupFile ≠ "" then
          some (s.install .systemd targetVersion backupFile images)
        else none
    | .installed targetVersion backupFile images, .compose =>
        if validTag targetVersion ∧ backupFile ≠ "" then
          some (s.install .compose targetVersion backupFile images)
        else none
    | .rolledBack targetVersion, .systemd =>
        if validTag targetVersion ∧ targetVersion ∈ releaseCandidates s.running s.releases then
          some (s.rollback .systemd targetVersion s.images)
        else none
    | .rolledBack targetVersion, .compose =>
        if validTag targetVersion ∧
            targetVersion ∈ HostExecutor.compose.rollbackCandidates s.tasks then
          (ExecutorState.imagesOf targetVersion s.tasks).map fun images =>
            s.rollback .compose targetVersion images
        else none
    | .removed version, _ =>
        if version = s.running then none
        else some { s with releases := s.releases.filter (· ≠ version) }
    | .restarted, _ => some { s with tasks := ExecutorState.persisted s.tasks }

structure ExecutorState.IsNew (s : ExecutorState) : Prop where
  running : validTag s.running = true
  tasks : s.tasks = []
  before : s.before = none

def ExecutorState.OffersPrevious (executor : HostExecutor) (s : ExecutorState) : Prop :=
  executor.backupVersion s.tasks = s.before

/-! ## The first candidate -/

def IsUndone (task : ExecutorTask) (later : List ExecutorTask) : Prop :=
  ∃ other ∈ later, other.action = .rollback ∧ some other.targetVersion = task.previousVersion

def AllUndone : List ExecutorTask → Prop
  | [] => True
  | task :: later => (task.action = .install → IsUndone task later) ∧ AllUndone later

/-- For systemd the oldest of the installs began from the version, for Compose the newest that no
later rollback has undone. -/
def HostExecutor.BeganFrom (executor : HostExecutor) (tasks : List ExecutorTask)
    (version : String) : Prop :=
  ∃ earlier task later, tasks = earlier ++ task :: later ∧ task.action = .install ∧
    task.previousVersion = some version ∧ match executor with
      | .systemd => ∀ other ∈ earlier, other.action = .rollback
      | .compose => ¬IsUndone task later ∧ AllUndone later

/-- The steps after which the default is still the version that ran before. -/
def HostExecutor.Fits (executor : HostExecutor) (s : ExecutorState) (event : ExecutorEvent) :
    Prop :=
  match event, executor with
  | .installed _ _ _, .systemd =>
      (∀ task ∈ s.tasks, task.action = .rollback) ∨ systemd.BeganFrom s.tasks s.running
  | .rolledBack _, .systemd => systemd.BeganFrom s.tasks s.running
  | .installed _ _ _, .compose => True
  | .rolledBack targetVersion, .compose =>
      compose.BeganFrom (s.rollback .compose targetVersion s.images).tasks s.running
  | .removed _, _ => True
  | .restarted, _ => s.tasks = [] ∨
      ∃ version, s.before = some version ∧
        executor.BeganFrom (ExecutorState.persisted s.tasks) version

structure IsRecorded (executor : HostExecutor) (task : ExecutorTask) : Prop where
  succeeded : task.succeeded = true
  install : task.action = .install → task.isInstall = true ∧
    (executor = .compose → task.previousImageDigests.isSome = true)

theorem ExecutorTask.isInstall_iff {executor : HostExecutor} {task : ExecutorTask}
    (h : IsRecorded executor task) : task.isInstall = true ↔ task.action = .install := by
  refine ⟨fun hinstall => ?_, fun haction => (h.install haction).1⟩
  simp only [ExecutorTask.isInstall, Bool.and_eq_true] at hinstall
  exact eq_of_beq hinstall.1.1.1

theorem ExecutorTask.previousVersion_isSome {task : ExecutorTask} (h : task.isInstall = true) :
    task.previousVersion.isSome = true := by
  simp only [ExecutorTask.isInstall, ExecutorTask.hasText, Bool.and_eq_true] at h
  cases hprevious : task.previousVersion with
  | none => simp [hprevious] at h
  | some version => rfl

namespace HostExecutor

theorem head?_candidates {installs : List ExecutorTask}
    (h : ∀ task ∈ installs, task.previousVersion.isSome = true) :
    ((installs.filterMap (·.previousVersion)).eraseDups.take 3).head? =
      installs.head?.bind (·.previousVersion) := by
  cases installs with
  | nil => rfl
  | cons task rest =>
      obtain ⟨version, hversion⟩ := Option.isSome_iff_exists.mp (h task List.mem_cons_self)
      rw [List.filterMap_cons_some hversion, List.eraseDups_cons]
      simp [hversion]

theorem isInstall_of_mem_live {tasks : List ExecutorTask} {task : ExecutorTask}
    (h : task ∈ liveInstalls tasks) : task.isInstall = true := by
  induction tasks with
  | nil => cases h
  | cons first later ih =>
      unfold liveInstalls at h
      split at h
      · rename_i hlive
        rcases List.mem_cons.mp h with rfl | hrest
        · simp only [Bool.and_eq_true] at hlive
          exact hlive.1.1
        · exact ih hrest
      · exact ih h

theorem backupVersion_systemd (tasks : List ExecutorTask) :
    systemd.backupVersion tasks = (tasks.find? (·.isInstall)).bind (·.previousVersion) := by
  rw [← List.head?_filter]
  exact head?_candidates fun task htask =>
    ExecutorTask.previousVersion_isSome (List.mem_filter.mp htask).2

theorem backupVersion_compose (tasks : List ExecutorTask) :
    compose.backupVersion tasks = (liveInstalls tasks).getLast?.bind (·.previousVersion) := by
  rw [← List.head?_reverse]
  exact head?_candidates fun task htask =>
    ExecutorTask.previousVersion_isSome (isInstall_of_mem_live (List.mem_reverse.mp htask))

theorem isLive_iff {task : ExecutorTask} {later : List ExecutorTask}
    (htask : IsRecorded .compose task) (hlater : ∀ other ∈ later, IsRecorded .compose other) :
    (task.isInstall && task.previousImageDigests.isSome && !later.any task.isUndoneBy) = true ↔
      task.action = .install ∧ ¬IsUndone task later := by
  have hundone : later.any task.isUndoneBy = true ↔ IsUndone task later := by
    rw [List.any_eq_true]
    refine exists_congr fun other => and_congr_right fun hmem => ?_
    simp only [ExecutorTask.isUndoneBy, Bool.and_eq_true, beq_iff_eq, (hlater other hmem).succeeded,
      and_true]
  rw [Bool.and_eq_true, Bool.and_eq_true, Bool.not_eq_true', ← Bool.not_eq_true, hundone,
    ExecutorTask.isInstall_iff htask]
  constructor
  · rintro ⟨⟨haction, -⟩, hnot⟩
    exact ⟨haction, hnot⟩
  · rintro ⟨haction, hnot⟩
    exact ⟨⟨haction, (htask.install haction).2 rfl⟩, hnot⟩

theorem liveInstalls_eq_nil_iff {tasks : List ExecutorTask}
    (h : ∀ task ∈ tasks, IsRecorded .compose task) : liveInstalls tasks = [] ↔ AllUndone tasks := by
  induction tasks with
  | nil => exact ⟨fun _ => trivial, fun _ => rfl⟩
  | cons task later ih =>
      have hlater : ∀ other ∈ later, IsRecorded .compose other := fun other hother =>
        h other (List.mem_cons_of_mem _ hother)
      have hlive := isLive_iff (h task List.mem_cons_self) hlater
      unfold liveInstalls
      split
      · rename_i hcond
        obtain ⟨haction, hnot⟩ := hlive.mp hcond
        exact ⟨fun hnil => (nomatch hnil), fun hall => absurd (hall.1 haction) hnot⟩
      · rename_i hcond
        rw [ih hlater]
        refine ⟨fun hall => ⟨fun haction => ?_, hall⟩, fun hall => hall.2⟩
        by_contra hnot
        exact hcond (hlive.mpr ⟨haction, hnot⟩)

theorem getLast?_liveInstalls {tasks : List ExecutorTask}
    (h : ∀ task ∈ tasks, IsRecorded .compose task) {newest : ExecutorTask} :
    (liveInstalls tasks).getLast? = some newest ↔ ∃ earlier later,
      tasks = earlier ++ newest :: later ∧ newest.action = .install ∧ ¬IsUndone newest later ∧
        AllUndone later := by
  induction tasks with
  | nil =>
      refine ⟨fun hlast => (nomatch hlast), ?_⟩
      rintro ⟨earlier, later, heq, -⟩
      cases earlier <;> cases heq
  | cons task later ih =>
      have hlater : ∀ other ∈ later, IsRecorded .compose other := fun other hother =>
        h other (List.mem_cons_of_mem _ hother)
      have hlive := isLive_iff (h task List.mem_cons_self) hlater
      have hnil := liveInstalls_eq_nil_iff hlater
      have hgrow : (∃ earlier rest, later = earlier ++ newest :: rest ∧ newest.action = .install ∧
          ¬IsUndone newest rest ∧ AllUndone rest) → ∃ earlier rest,
          task :: later = earlier ++ newest :: rest ∧ newest.action = .install ∧
            ¬IsUndone newest rest ∧ AllUndone rest := by
        rintro ⟨earlier, rest, rfl, hrest⟩
        exact ⟨task :: earlier, rest, rfl, hrest⟩
      have hshrink : ∀ earlier rest, task :: later = earlier ++ newest :: rest →
          newest.action = .install ∧ ¬IsUndone newest rest ∧ AllUndone rest →
          (earlier = [] ∧ newest = task ∧ rest = later) ∨
            (liveInstalls later).getLast? = some newest := by
        intro earlier rest heq hrest
        cases earlier with
        | nil =>
            obtain ⟨rfl, rfl⟩ := List.cons.inj heq
            exact .inl ⟨rfl, rfl, rfl⟩
        | cons first earlier =>
            obtain ⟨-, rfl⟩ := List.cons.inj heq
            exact .inr ((ih hlater).mpr ⟨earlier, rest, rfl, hrest⟩)
      unfold liveInstalls
      split
      · rename_i hcond
        rw [List.getLast?_cons]
        constructor
        · intro hlast
          cases hrest : (liveInstalls later).getLast? with
          | none =>
              rw [hrest] at hlast
              obtain rfl := Option.some.inj hlast
              have hempty := List.getLast?_eq_none_iff.mp hrest
              obtain ⟨haction, hnot⟩ := hlive.mp hcond
              exact ⟨[], later, rfl, haction, hnot, hnil.mp hempty⟩
          | some other =>
              rw [hrest] at hlast
              obtain rfl := Option.some.inj hlast
              exact hgrow ((ih hlater).mp hrest)
        · rintro ⟨earlier, rest, heq, hrest⟩
          rcases hshrink earlier rest heq hrest with ⟨-, rfl, rfl⟩ | hlast
          · rw [hnil.mpr hrest.2.2]
            rfl
          · rw [hlast]
            rfl
      · rename_i hcond
        constructor
        · exact fun hlast => hgrow ((ih hlater).mp hlast)
        · rintro ⟨earlier, rest, heq, hrest⟩
          rcases hshrink earlier rest heq hrest with ⟨-, rfl, rfl⟩ | hlast
          · exact absurd (hlive.mpr ⟨hrest.1, hrest.2.1⟩) hcond
          · exact hlast

theorem find?_isInstall {tasks : List ExecutorTask}
    (h : ∀ task ∈ tasks, IsRecorded .systemd task) {first : ExecutorTask} :
    tasks.find? (·.isInstall) = some first ↔ ∃ earlier later,
      tasks = earlier ++ first :: later ∧ first.action = .install ∧
        ∀ other ∈ earlier, other.action = .rollback := by
  have hinstall : ∀ task ∈ tasks, task.isInstall = true ↔ task.action = .install :=
    fun task htask => ExecutorTask.isInstall_iff (h task htask)
  rw [List.find?_eq_some_iff_append]
  constructor
  · rintro ⟨hfirst, earlier, later, rfl, hearlier⟩
    refine ⟨earlier, later, rfl, (hinstall first (by simp)).mp hfirst, fun other hother => ?_⟩
    have hnot : ¬other.action = .install := by
      rw [← hinstall other (List.mem_append_left _ hother)]
      simpa using hearlier other hother
    cases haction : other.action with
    | install => exact absurd haction hnot
    | rollback => rfl
  · rintro ⟨earlier, later, rfl, hfirst, hearlier⟩
    refine ⟨(hinstall first (by simp)).mpr hfirst, earlier, later, rfl, fun other hother => ?_⟩
    have hnot : ¬other.isInstall = true := by
      rw [hinstall other (List.mem_append_left _ hother), hearlier other hother]
      exact fun h => nomatch h
    simpa using hnot

theorem backupVersion_eq_some_iff {executor : HostExecutor} {tasks : List ExecutorTask}
    {version : String} (h : ∀ task ∈ tasks, IsRecorded executor task) :
    executor.backupVersion tasks = some version ↔ executor.BeganFrom tasks version := by
  cases executor with
  | systemd =>
      rw [backupVersion_systemd, Option.bind_eq_some_iff]
      constructor
      · rintro ⟨first, hfirst, hversion⟩
        obtain ⟨earlier, later, heq, haction, hearlier⟩ := (find?_isInstall h).mp hfirst
        exact ⟨earlier, first, later, heq, haction, hversion, hearlier⟩
      · rintro ⟨earlier, first, later, heq, haction, hversion, hearlier⟩
        exact ⟨first, (find?_isInstall h).mpr ⟨earlier, later, heq, haction, hearlier⟩, hversion⟩
  | compose =>
      rw [backupVersion_compose, Option.bind_eq_some_iff]
      constructor
      · rintro ⟨newest, hnewest, hversion⟩
        obtain ⟨earlier, later, heq, haction, hlater⟩ := (getLast?_liveInstalls h).mp hnewest
        exact ⟨earlier, newest, later, heq, haction, hversion, hlater⟩
      · rintro ⟨earlier, newest, later, heq, haction, hversion, hlater⟩
        exact ⟨newest, (getLast?_liveInstalls h).mpr ⟨earlier, later, heq, haction, hlater⟩, hversion⟩

theorem beganFrom_concat {tasks : List ExecutorTask} {last : ExecutorTask} {version : String} :
    systemd.BeganFrom (tasks ++ [last]) version ↔ systemd.BeganFrom tasks version ∨
      (∀ task ∈ tasks, task.action = .rollback) ∧ last.action = .install ∧
        last.previousVersion = some version := by
  constructor
  · rintro ⟨earlier, first, later, heq, haction, hversion, hearlier⟩
    rcases List.eq_nil_or_concat later with rfl | ⟨rest, other, rfl⟩
    · obtain ⟨rfl, hlast⟩ := List.append_inj' heq rfl
      obtain rfl := (List.cons.inj hlast).1
      exact .inr ⟨hearlier, haction, hversion⟩
    · rw [List.concat_eq_append, ← List.cons_append, ← List.append_assoc] at heq
      obtain ⟨rfl, -⟩ := List.append_inj' heq rfl
      exact .inl ⟨earlier, first, rest, rfl, haction, hversion, hearlier⟩
  · rintro (⟨earlier, first, later, rfl, haction, hversion, hearlier⟩ | ⟨hall, haction, hversion⟩)
    · exact ⟨earlier, first, later ++ [last], by simp, haction, hversion, hearlier⟩
    · exact ⟨tasks, last, [], rfl, haction, hversion, hall⟩

end HostExecutor

/-! ## The step and the runs -/

structure ExecutorState.IsKept (executor : HostExecutor) (s : ExecutorState) : Prop where
  running : validTag s.running = true
  recorded : ∀ task ∈ s.tasks, IsRecorded executor task
  before : s.tasks = [] ↔ s.before = none

theorem validTag_ne_empty {value : String} (h : validTag value = true) : value ≠ "" := by
  rintro rfl
  revert h
  decide

namespace ExecutorState

variable {executor : HostExecutor} {s : ExecutorState}

theorem IsNew.kept (h : s.IsNew) : s.IsKept executor := by
  refine ⟨h.running, fun task htask => ?_, by simp [h.tasks, h.before]⟩
  rw [h.tasks] at htask
  exact absurd htask List.not_mem_nil

theorem IsNew.offersPrevious (h : s.IsNew) : s.OffersPrevious executor := by
  unfold OffersPrevious
  rw [h.tasks, h.before]
  cases executor <;> rfl

theorem IsKept.install {targetVersion backupFile : String} {images : Images}
    (h : s.IsKept executor) (htarget : validTag targetVersion = true) (hfile : backupFile ≠ "") :
    (s.install executor targetVersion backupFile images).IsKept executor where
  running := htarget
  recorded := by
    have hrunning := validTag_ne_empty h.running
    intro task htask
    rcases List.mem_append.mp htask with hold | hnew
    · exact h.recorded task hold
    · rw [List.mem_singleton.mp hnew]
      refine ⟨rfl, fun _ => ⟨?_, ?_⟩⟩
      · simp [ExecutorTask.isInstall, ExecutorTask.hasText, hrunning, hfile]
      · rintro rfl
        rfl
  before := by simp [ExecutorState.install]

theorem IsKept.rollback {targetVersion : String} {images : Images} (h : s.IsKept executor)
    (htarget : validTag targetVersion = true) :
    (s.rollback executor targetVersion images).IsKept executor where
  running := htarget
  recorded := by
    intro task htask
    rcases List.mem_append.mp htask with hold | hnew
    · exact h.recorded task hold
    · rw [List.mem_singleton.mp hnew]
      exact ⟨rfl, fun haction => (nomatch haction)⟩
  before := by simp [ExecutorState.rollback]

theorem persisted_eq_nil_iff {tasks : List ExecutorTask} : persisted tasks = [] ↔ tasks = [] := by
  rw [persisted, List.drop_eq_nil_iff, ← List.length_eq_zero_iff]
  omega

theorem IsKept.restart (h : s.IsKept executor) :
    ({ s with tasks := persisted s.tasks } : ExecutorState).IsKept executor where
  running := h.running
  recorded task htask := h.recorded task (List.mem_of_mem_drop htask)
  before := persisted_eq_nil_iff.trans h.before

end ExecutorState

theorem hostExecutor_cases {executor : HostExecutor} {event : ExecutorEvent} {s t : ExecutorState}
    (h : (hostExecutor executor).step event s = some t) :
    (∃ targetVersion backupFile images, event = .installed targetVersion backupFile images ∧
      validTag targetVersion = true ∧ backupFile ≠ "" ∧
      t = s.install executor targetVersion backupFile images) ∨
    (∃ targetVersion images, event = .rolledBack targetVersion ∧ validTag targetVersion = true ∧
      t = s.rollback executor targetVersion images) ∨
    (∃ version, event = .removed version ∧
      t = { s with releases := s.releases.filter (· ≠ version) }) ∨
    event = .restarted ∧ t = { s with tasks := ExecutorState.persisted s.tasks } := by
  cases event with
  | installed targetVersion backupFile images =>
      refine .inl ⟨targetVersion, backupFile, images, rfl, ?_⟩
      cases executor with
      | systemd =>
          obtain ⟨hguard, heq⟩ := Option.ite_none_right_eq_some.mp h
          exact ⟨hguard.1, hguard.2.2.2, (Option.some.inj heq).symm⟩
      | compose =>
          obtain ⟨hguard, heq⟩ := Option.ite_none_right_eq_some.mp h
          exact ⟨hguard.1, hguard.2, (Option.some.inj heq).symm⟩
  | rolledBack targetVersion =>
      refine .inr (.inl ⟨targetVersion, ?_⟩)
      cases executor with
      | systemd =>
          obtain ⟨hguard, heq⟩ := Option.ite_none_right_eq_some.mp h
          exact ⟨s.images, rfl, hguard.1, (Option.some.inj heq).symm⟩
      | compose =>
          obtain ⟨hguard, heq⟩ := Option.ite_none_right_eq_some.mp h
          obtain ⟨images, -, rfl⟩ := Option.map_eq_some_iff.mp heq
          exact ⟨images, rfl, hguard.1, rfl⟩
  | removed version =>
      obtain ⟨-, heq⟩ := Option.ite_none_left_eq_some.mp h
      exact .inr (.inr (.inl ⟨version, rfl, (Option.some.inj heq).symm⟩))
  | restarted => exact .inr (.inr (.inr ⟨rfl, (Option.some.inj h).symm⟩))

namespace ExecutorState

variable {executor : HostExecutor} {s t : ExecutorState} {event : ExecutorEvent}

theorem IsKept.step (h : s.IsKept executor)
    (hstep : (hostExecutor executor).step event s = some t) : t.IsKept executor := by
  rcases hostExecutor_cases hstep with ⟨targetVersion, backupFile, images, -, htarget, hfile, rfl⟩ |
    ⟨targetVersion, images, -, htarget, rfl⟩ | ⟨version, -, rfl⟩ | ⟨-, rfl⟩
  · exact h.install htarget hfile
  · exact h.rollback htarget
  · exact ⟨h.running, h.recorded, h.before⟩
  · exact h.restart

theorem offersPrevious_iff (h : s.IsKept executor) {version : String}
    (hbefore : s.before = some version) :
    s.OffersPrevious executor ↔ executor.BeganFrom s.tasks version := by
  rw [OffersPrevious, hbefore]
  exact HostExecutor.backupVersion_eq_some_iff h.recorded

theorem IsKept.offersPrevious_iff_fits (h : s.IsKept executor) (hs : s.OffersPrevious executor)
    (hstep : (hostExecutor executor).step event s = some t) :
    t.OffersPrevious executor ↔ executor.Fits s event := by
  have hkept := h.step hstep
  rcases hostExecutor_cases hstep with ⟨targetVersion, backupFile, images, rfl, -, -, rfl⟩ |
    ⟨targetVersion, images, rfl, -, rfl⟩ | ⟨version, rfl, rfl⟩ | ⟨rfl, rfl⟩
  · rw [offersPrevious_iff hkept rfl]
    cases executor with
    | systemd =>
        rw [ExecutorState.install, HostExecutor.beganFrom_concat]
        show _ ↔ _ ∨ _
        rw [or_comm]
        refine or_congr ⟨fun hnew => hnew.1, fun hall => ⟨hall, rfl, rfl⟩⟩ Iff.rfl
    | compose =>
        refine ⟨fun _ => trivial, fun _ => ?_⟩
        refine ⟨s.tasks, _, [], rfl, rfl, rfl, ?_, trivial⟩
        rintro ⟨other, hother, -⟩
        exact List.not_mem_nil hother
  · rw [offersPrevious_iff hkept rfl]
    cases executor with
    | systemd =>
        rw [ExecutorState.rollback, HostExecutor.beganFrom_concat]
        exact ⟨fun h => h.resolve_right fun hnew => (nomatch hnew.2.1), .inl⟩
    | compose => exact Iff.rfl
  · exact ⟨fun _ => trivial, fun _ => hs⟩
  · rcases Option.eq_none_or_eq_some s.before with hbefore | ⟨version, hbefore⟩
    · have htasks : s.tasks = [] := h.before.mpr hbefore
      have hpersisted : persisted s.tasks = s.tasks := by
        rw [htasks]
        rfl
      rw [OffersPrevious, hpersisted]
      exact ⟨fun _ => .inl htasks, fun _ => hs⟩
    · rw [offersPrevious_iff hkept hbefore]
      have hne : s.tasks ≠ [] := fun hnil => by
        rw [h.before.mp hnil] at hbefore
        cases hbefore
      constructor
      · exact fun hbegan => .inr ⟨version, hbefore, hbegan⟩
      · rintro (hnil | ⟨other, hother, hbegan⟩)
        · exact absurd hnil hne
        · obtain rfl : version = other := Option.some.inj (hbefore.symm.trans hother)
          exact hbegan

end ExecutorState

/-- Steps that fit keep the default at the version that ran before, and no other steps do. -/
theorem fits_offersPrevious (executor : HostExecutor) {s : ExecutorState} (hs : s.IsNew) :
    (∀ t, (hostExecutor executor).Run executor.Fits s t → t.OffersPrevious executor) ∧
      ∀ t event u, (hostExecutor executor).Run executor.Fits s t →
        (hostExecutor executor).step event t = some u →
        (u.OffersPrevious executor ↔ executor.Fits t event) := by
  have hrun : ∀ t, (hostExecutor executor).Run executor.Fits s t →
      t.IsKept executor ∧ t.OffersPrevious executor := by
    have hkeep : ∀ s event t, executor.Fits s event →
        (hostExecutor executor).step event s = some t →
        s.IsKept executor ∧ s.OffersPrevious executor → t.IsKept executor ∧ t.OffersPrevious executor := by
      intro s event t hfits hstep h
      exact ⟨h.1.step hstep, (h.1.offersPrevious_iff_fits h.2 hstep).mpr hfits⟩
    exact fun t hrun => hrun.invariant hkeep ⟨hs.kept, hs.offersPrevious⟩
  refine ⟨fun t h => (hrun t h).2, fun t event u h hstep => ?_⟩
  exact (hrun t h).1.offersPrevious_iff_fits (hrun t h).2 hstep

/-- A host that runs `v1.0.0` and has had no task. -/
def newHost : ExecutorState := ⟨"v1.0.0", (fun _ => "d1"), ["v1.0.0"], [], none⟩

theorem newHost_isNew : newHost.IsNew := ⟨by decide +kernel, rfl, rfl⟩

def twoInstalls : List ExecutorEvent :=
  [.installed "v2.0.0" "b2" (fun _ => "d2"), .installed "v3.0.0" "b3" (fun _ => "d3")]

theorem twoInstalls_play :
    (((hostExecutor .systemd).restrict fun _ _ => True).play twoInstalls newHost).isSome = true := by
  decide +kernel

def onThird : ExecutorState := Option.get _ twoInstalls_play

theorem hostExecutor_install_compose {s : ExecutorState} {targetVersion backupFile : String}
    {images : Images} (htarget : validTag targetVersion = true) (hfile : backupFile ≠ "") :
    (hostExecutor .compose).step (.installed targetVersion backupFile images) s =
      some (s.install .compose targetVersion backupFile images) :=
  if_pos ⟨htarget, hfile⟩

def onSecond : ExecutorState := newHost.install .compose "v2.0.0" "b2" fun _ => "d2"

theorem compose_onThird_offersPrevious :
    (onSecond.install .compose "v3.0.0" "b3" fun _ => "d3").OffersPrevious .compose := by
  refine (fits_offersPrevious .compose newHost_isNew).1 _ ?_
  have hsecond : (hostExecutor .compose).Run HostExecutor.compose.Fits newHost onSecond :=
    Relation.ReflTransGen.single ⟨.installed "v2.0.0" "b2" fun _ => "d2", trivial,
      hostExecutor_install_compose (by decide +kernel) (by decide)⟩
  exact hsecond.tail ⟨.installed "v3.0.0" "b3" fun _ => "d3", trivial,
    hostExecutor_install_compose (by decide +kernel) (by decide)⟩

/-- Under systemd the default after the second install is still the first version. -/
theorem secondInstall_offersFirst : ¬∀ (executor : HostExecutor) (s t : ExecutorState), s.IsNew →
    (hostExecutor executor).AnyRun s t → t.OffersPrevious executor := by
  intro h
  have hoffers := h .systemd newHost onThird newHost_isNew
    (Machine.Run.play (Option.some_get twoInstalls_play).symm)
  have hfirst : HostExecutor.systemd.backupVersion onThird.tasks = some "v1.0.0" := by
    decide +kernel
  have hbefore : onThird.before = some "v2.0.0" := by decide +kernel
  rw [ExecutorState.OffersPrevious, hfirst, hbefore] at hoffers
  exact absurd hoffers (by decide)

end KubeNova.Update
