import KubeNova.Clusters.EventSync

/-!
# A started cluster stays watched

A cluster that has been started is attended to: a restart timer is set, a restart waits for its
kubeconfig, or the start of the current generation has lost no watch so far.  Only an answer of
`getKubeconfig` can end this.  Callbacks of older generations do nothing in any run.
-/

namespace KubeNova.Clusters

open KubeNova.Foundation

namespace WatchState

variable {s t : WatchState} {clusterId : String} {watchGeneration : Nat}

def IsQuiescent (s : WatchState) : Prop :=
  (∀ watchGeneration, s.starts watchGeneration = none) ∧
    (∀ watchGeneration, s.restarts watchGeneration = 0) ∧ s.requests = 0

def IsLive (s : WatchState) : Prop :=
  ∀ target ∈ buildTargets, s.connections s.generation target = .live

def IsServed (s : WatchState) : Prop :=
  s.IsQuiescent → 0 < s.generation → s.kubeconfig = true →
    s.restartTimer.isSome = true ∨ s.IsLive

def IsCurrentOnly (s : WatchState) : Prop := ∀ entry ∈ s.trace, entry.callback = entry.current

def remaining (s : WatchState) : List WatchTarget :=
  match s.starts s.generation with
  | some .fetching => buildTargets
  | some (.opening _ rest _) => rest
  | none => []

def awaits (s : WatchState) (target : WatchTarget) : Bool :=
  match s.starts s.generation with
  | some (.opening awaited _ _) => awaited == target
  | _ => false

def IsComplete (s : WatchState) : Prop :=
  ∀ target ∈ buildTargets, target ∈ s.remaining ∨ s.connections s.generation target = .live ∨
    (s.connections s.generation target = .opening ∧ s.awaits target = true)

instance : Decidable s.IsComplete := inferInstanceAs (Decidable (∀ target ∈ buildTargets, _))

def IsAttended (s : WatchState) : Prop :=
  s.restartTimer.isSome = true ∨ 0 < s.restarts s.generation ∨ s.IsComplete

instance : Decidable s.IsAttended := inferInstanceAs (Decidable (_ ∨ _))

/-- Nobody waits in vain: there is no kubeconfig, or a caller still asks for it. -/
def IsExcused (s : WatchState) : Prop := s.kubeconfig = false ∨ 0 < s.requests

instance : Decidable s.IsExcused := inferInstanceAs (Decidable (_ ∨ _))

/-- The answers of `getKubeconfig`, and the changes of what it would answer, that leave no
cluster unattended. -/
def IsHarmless (s : WatchState) : WatchAction → Prop
  | .saved kubeconfig triggers =>
      kubeconfig = false ∨ triggers = true ∨ 0 < s.requests ∨ s.IsAttended
  | .startAnswered watchGeneration answer =>
      answer = .stored true ∨ watchGeneration ≠ s.generation ∨ s.IsExcused
  | .restartAnswered watchGeneration answer =>
      (answer ≠ .rejected ∧ answer ≠ .absent) ∨ watchGeneration ≠ s.generation ∨
        s.restartTimer.isSome = true ∨ 1 < s.restarts watchGeneration ∨ s.IsExcused
  | .requestAnswered answer =>
      (answer ≠ .rejected ∧ answer ≠ .absent) ∨ s.IsAttended ∨ s.kubeconfig = false ∨
        1 < s.requests
  | _ => True

instance (a : WatchAction) : Decidable (s.IsHarmless a) := by
  cases a <;> unfold IsHarmless <;> infer_instance

structure Invariant (s : WatchState) : Prop where
  timer : ∀ watchGeneration delayMs, s.restartTimer = some (watchGeneration, delayMs) →
    watchGeneration = s.generation
  attended : 0 < s.generation → s.IsAttended ∨ s.IsExcused

theorem Invariant.isServed (h : s.Invariant) : s.IsServed := by
  intro ⟨hstarts, hrestarts, hrequests⟩ hstarted hkubeconfig
  rcases h.attended hstarted with (htimer | hrestart | hcomplete) | hnone | hrequest
  · exact .inl htimer
  · rw [hrestarts] at hrestart
    omega
  · refine .inr fun target htarget => ?_
    have hidle := hstarts s.generation
    simpa [remaining, awaits, hidle] using hcomplete target htarget
  · rw [hkubeconfig] at hnone
    cases hnone
  · omega

/-! ## What the pieces of code keep -/

structure SameCalls (s t : WatchState) : Prop where
  generation : t.generation = s.generation
  restartTimer : t.restartTimer = s.restartTimer
  restarts : t.restarts = s.restarts
  requests : t.requests = s.requests
  kubeconfig : t.kubeconfig = s.kubeconfig
  trace : t.trace = s.trace

structure SameCurrent (s t : WatchState) : Prop extends SameCalls s t where
  starts : t.starts s.generation = s.starts s.generation
  connections : t.connections s.generation = s.connections s.generation

theorem SameCalls.trans {u : WatchState} (h : SameCalls s t) (h' : SameCalls t u) :
    SameCalls s u :=
  ⟨h'.1.trans h.1, h'.2.trans h.2, h'.3.trans h.3, h'.4.trans h.4, h'.5.trans h.5,
    h'.6.trans h.6⟩

theorem SameCurrent.trans {u : WatchState} (h : SameCurrent s t) (h' : SameCurrent t u) :
    SameCurrent s u where
  toSameCalls := h.toSameCalls.trans h'.toSameCalls
  starts := by rw [← h.starts, ← h.generation]; exact h'.starts
  connections := by rw [← h.connections, ← h.generation]; exact h'.connections

theorem SameCalls.isExcused (h : SameCalls s t) (hs : s.IsExcused) : t.IsExcused := by
  unfold IsExcused
  rw [h.kubeconfig, h.requests]
  exact hs

theorem SameCurrent.isComplete (h : SameCurrent s t) (hs : s.IsComplete) : t.IsComplete := by
  have hremaining : t.remaining = s.remaining := by simp only [remaining, h.generation, h.starts]
  have hawaits : t.awaits = s.awaits := by
    funext target
    simp only [awaits, h.generation, h.starts]
  intro target htarget
  rw [hremaining, hawaits, h.generation, h.connections]
  exact hs target htarget

theorem SameCalls.invariant (h : SameCalls s t) (hcomplete : s.IsComplete → t.IsComplete)
    (hs : s.Invariant) : t.Invariant := by
  refine ⟨?_, fun hstarted => ?_⟩
  · rw [h.restartTimer, h.generation]
    exact hs.timer
  · rw [h.generation] at hstarted
    rcases hs.attended hstarted with (htimer | hrestart | hc) | hexcused
    · exact .inl (.inl (h.restartTimer ▸ htimer))
    · refine .inl (.inr (.inl ?_))
      rw [h.restarts, h.generation]
      exact hrestart
    · exact .inl (.inr (.inr (hcomplete hc)))
    · exact .inr (h.isExcused hexcused)

theorem SameCurrent.invariant (h : SameCurrent s t) (hs : s.Invariant) : t.Invariant :=
  h.toSameCalls.invariant h.isComplete hs

theorem isCurrent_iff :
    s.isCurrentWatchGeneration watchGeneration = true ↔ s.generation = watchGeneration :=
  beq_iff_eq

theorem IsCurrentOnly.cons {entry : TraceEntry} (hs : s.IsCurrentOnly)
    (hentry : entry.callback = entry.current) (ht : t.trace = entry :: s.trace) :
    t.IsCurrentOnly := by
  intro e he
  rw [ht] at he
  rcases List.mem_cons.mp he with rfl | he
  · exact hentry
  · exact hs e he

theorem IsCurrentOnly.congr (hs : s.IsCurrentOnly) (ht : t.trace = s.trace) :
    t.IsCurrentOnly := by
  unfold IsCurrentOnly
  rw [ht]
  exact hs

theorem sameCalls_connect (target : WatchTarget) (c : Connection) :
    SameCalls s (s.connect watchGeneration target c) := ⟨rfl, rfl, rfl, rfl, rfl, rfl⟩

theorem sameCalls_setStart (progress : Option StartProgress) :
    SameCalls s (s.setStart watchGeneration progress) := ⟨rfl, rfl, rfl, rfl, rfl, rfl⟩

theorem sameCurrent_connect (h : watchGeneration ≠ s.generation) (target : WatchTarget)
    (c : Connection) : SameCurrent s (s.connect watchGeneration target c) :=
  ⟨sameCalls_connect target c, rfl, Function.update_of_ne h.symm _ _⟩

theorem sameCurrent_setStart (h : watchGeneration ≠ s.generation)
    (progress : Option StartProgress) : SameCurrent s (s.setStart watchGeneration progress) :=
  ⟨sameCalls_setStart progress, Function.update_of_ne h.symm _ _, rfl⟩

theorem sameCurrent_abortAll (h : watchGeneration ≠ s.generation) (handles : List WatchTarget) :
    SameCurrent s (s.abortAll watchGeneration handles) :=
  ⟨⟨rfl, rfl, rfl, rfl, rfl, rfl⟩, rfl, Function.update_of_ne h.symm _ _⟩

theorem sameCalls_finishStart (handles : List WatchTarget) :
    SameCalls s (s.finishStart watchGeneration handles) := by
  unfold finishStart
  dsimp only
  split <;> exact ⟨rfl, rfl, rfl, rfl, rfl, rfl⟩

theorem sameCalls_nextTarget (targets handles : List WatchTarget) :
    SameCalls s (s.nextTarget watchGeneration targets handles) := by
  unfold nextTarget
  split
  · exact sameCalls_finishStart handles
  · split
    · exact ⟨rfl, rfl, rfl, rfl, rfl, rfl⟩
    · exact sameCalls_finishStart handles

theorem sameCurrent_nextTarget (h : watchGeneration ≠ s.generation)
    (targets handles : List WatchTarget) :
    SameCurrent s (s.nextTarget watchGeneration targets handles) := by
  have hcurrent : s.isCurrentWatchGeneration watchGeneration = false := by
    rw [Bool.eq_false_iff, Ne, isCurrent_iff]
    exact h.symm
  have hfinish : SameCurrent s (s.finishStart watchGeneration handles) := by
    have hstart : (s.setStart watchGeneration none).isCurrentWatchGeneration watchGeneration =
      false := hcurrent
    unfold finishStart
    dsimp only
    rw [if_neg (by rw [hstart]; exact Bool.false_ne_true)]
    have habort : watchGeneration ≠ (s.setStart watchGeneration none).generation := h
    exact (sameCurrent_setStart h none).trans (sameCurrent_abortAll habort handles)
  unfold nextTarget
  split
  · exact hfinish
  · rw [if_neg (by rw [hcurrent]; exact Bool.false_ne_true)]
    exact hfinish

theorem isComplete_nextTarget {targets : List WatchTarget} (handles : List WatchTarget)
    (h : ∀ target ∈ buildTargets, target ∈ targets ∨ s.connections s.generation target = .live) :
    (s.nextTarget s.generation targets handles).IsComplete := by
  have hcurrent : s.isCurrentWatchGeneration s.generation = true := isCurrent_iff.mpr rfl
  cases targets with
  | nil =>
      intro target htarget
      have hlive := (h target htarget).resolve_left List.not_mem_nil
      have hfinish : (s.setStart s.generation none).isCurrentWatchGeneration s.generation = true :=
        hcurrent
      unfold nextTarget finishStart
      dsimp only
      rw [if_pos hfinish]
      exact .inr (.inl hlive)
  | cons next rest =>
      intro target htarget
      simp only [nextTarget, if_pos hcurrent]
      by_cases hnext : target = next
      · subst hnext
        refine .inr (.inr ⟨?_, ?_⟩)
        · simp [connect, setStart]
        · simp [awaits, connect, setStart]
      · rcases h target htarget with hmem | hlive
        · left
          simpa [remaining, connect, setStart] using (List.mem_cons.mp hmem).resolve_left hnext
        · right
          left
          simpa [connect, setStart, hnext] using hlive

/-! ## The calls that attend to a cluster -/

theorem startForCluster_invariant : s.startForCluster.Invariant := by
  have hstop : s.stopForCluster.restartTimer = none := by
    unfold stopForCluster
    dsimp only
    split <;> rfl
  refine ⟨fun watchGeneration delayMs htimer => ?_, fun _ => .inl (.inr (.inr ?_))⟩
  · have htimer : s.stopForCluster.restartTimer = some (watchGeneration, delayMs) := htimer
    rw [hstop] at htimer
    cases htimer
  · intro target htarget
    left
    simpa [startForCluster, setStart, remaining] using htarget

theorem startForCluster_trace : s.startForCluster.trace = s.trace := by
  show s.stopForCluster.trace = s.trace
  unfold stopForCluster
  dsimp only
  split <;> rfl

theorem ensureAnswered_trace (answer : KubeconfigAnswer) :
    (s.ensureAnswered answer).trace = s.trace := by
  cases answer with
  | stored _ => exact startForCluster_trace
  | absent | rejected => rfl

theorem scheduleRestart_isSome :
    (s.scheduleRestart s.generation).restartTimer.isSome = true := by
  have hcurrent : s.isCurrentWatchGeneration s.generation = true := isCurrent_iff.mpr rfl
  unfold scheduleRestart
  rw [if_pos hcurrent]
  split
  · rename_i htimer
    rw [htimer]
    rfl
  · rfl

theorem scheduleRestart_generation :
    (s.scheduleRestart watchGeneration).generation = s.generation := by
  unfold scheduleRestart
  split
  · split <;> rfl
  · rfl

theorem scheduleRestart_currentOnly (hs : s.IsCurrentOnly) :
    (s.scheduleRestart watchGeneration).IsCurrentOnly := by
  unfold scheduleRestart
  split
  · rename_i hcurrent
    split
    · exact hs
    · exact hs.cons (isCurrent_iff.mp hcurrent).symm rfl
  · exact hs

theorem SameCalls.invariant_of_timer (h : SameCalls s t) (hs : s.Invariant)
    (htimer : s.restartTimer.isSome = true) : t.Invariant := by
  refine ⟨?_, fun _ => .inl (.inl (h.restartTimer ▸ htimer))⟩
  rw [h.restartTimer, h.generation]
  exact hs.timer

theorem Invariant.of_timer {t : WatchState} (hs : s.Invariant)
    (hgeneration : t.generation = s.generation) (htimer : t.restartTimer = s.restartTimer) :
    (t.scheduleRestart t.generation).Invariant := by
  have hcurrent : t.isCurrentWatchGeneration t.generation = true := isCurrent_iff.mpr rfl
  refine ⟨fun watchGeneration delayMs h => ?_, fun _ => .inl (.inl scheduleRestart_isSome)⟩
  rw [scheduleRestart_generation]
  unfold scheduleRestart at h
  rw [if_pos hcurrent] at h
  split at h
  · rw [hgeneration]
    exact hs.timer _ _ (htimer ▸ h)
  · exact (congrArg Prod.fst (Option.some.inj h)).symm

theorem watchOpened_invariant {target : WatchTarget} {rest handles : List WatchTarget}
    (hstart : s.starts watchGeneration = some (.opening target rest handles)) (hs : s.Invariant) :
    (s.watchOpened watchGeneration target rest handles).Invariant := by
  unfold watchOpened
  by_cases hcurrent : watchGeneration = s.generation
  · subst hcurrent
    rw [if_pos (isCurrent_iff.mpr rfl)]
    dsimp only
    by_cases hopening : s.connections s.generation target = .opening
    · rw [if_pos hopening]
      refine ((sameCalls_connect target .live).trans (sameCalls_nextTarget rest _)).invariant
        (fun hcomplete => ?_) hs
      refine isComplete_nextTarget _ fun other hother => ?_
      by_cases htarget : other = target
      · right
        simp [connect, htarget]
      · rcases hcomplete other hother with hmem | hlive | ⟨-, hawaits⟩
        · left
          simpa [remaining, hstart] using hmem
        · right
          simpa [connect, htarget] using hlive
        · rw [awaits, hstart] at hawaits
          exact absurd (eq_of_beq hawaits).symm htarget
    · rw [if_neg hopening]
      refine (sameCalls_nextTarget rest _).invariant (fun hcomplete => ?_) hs
      refine isComplete_nextTarget _ fun other hother => ?_
      rcases hcomplete other hother with hmem | hlive | ⟨hother, hawaits⟩
      · left
        simpa [remaining, hstart] using hmem
      · exact .inr hlive
      · rw [awaits, hstart] at hawaits
        rw [← eq_of_beq hawaits] at hother
        exact absurd hother hopening
  · rw [if_neg (fun h => hcurrent (isCurrent_iff.mp h).symm)]
    have hconnect := sameCurrent_connect hcurrent target .stopped
    refine (hconnect.trans (sameCurrent_nextTarget ?_ rest handles)).invariant hs
    exact hcurrent

theorem watchRefused_invariant {target : WatchTarget} {rest handles : List WatchTarget}
    (hs : s.Invariant) : (s.watchRefused watchGeneration target rest handles).Invariant := by
  unfold watchRefused
  dsimp only
  by_cases hcurrent : watchGeneration = s.generation
  · subst hcurrent
    have hconnected : (s.connect s.generation target .ended).isCurrentWatchGeneration
        s.generation = true := isCurrent_iff.mpr rfl
    rw [if_pos hconnected]
    have hscheduled : ((s.connect s.generation target .ended).markClusterDirty.scheduleRestart
        s.generation).Invariant := Invariant.of_timer hs rfl rfl
    exact (sameCalls_nextTarget rest handles).invariant_of_timer hscheduled scheduleRestart_isSome
  · have hconnected : ¬(s.connect watchGeneration target .ended).isCurrentWatchGeneration
        watchGeneration = true := fun h => hcurrent (isCurrent_iff.mp h).symm
    rw [if_neg hconnected]
    have hconnect := sameCurrent_connect hcurrent target .ended
    refine (hconnect.trans (sameCurrent_nextTarget ?_ rest handles)).invariant hs
    exact hcurrent

theorem watchEnded_invariant {target : WatchTarget} (hs : s.Invariant) :
    (s.watchEnded watchGeneration target).Invariant := by
  unfold watchEnded
  split
  · rename_i hlistens
    have hcurrent : s.generation = watchGeneration :=
      isCurrent_iff.mp (Bool.and_eq_true_iff.mp hlistens).2
    subst hcurrent
    exact Invariant.of_timer (t := (s.connect s.generation target .ended).markClusterDirty) hs
      rfl rfl
  · exact hs

theorem restartFires_invariant {delayMs : Nat} (hs : s.Invariant)
    (htimer : s.restartTimer = some (watchGeneration, delayMs)) :
    (s.restartFires watchGeneration).Invariant := by
  have hgeneration : s.generation = watchGeneration := (hs.timer _ _ htimer).symm
  have hcleared : { s with restartTimer := none }.isCurrentWatchGeneration watchGeneration =
    true := isCurrent_iff.mpr hgeneration
  unfold restartFires
  dsimp only
  rw [if_pos hcleared]
  refine ⟨fun _ _ h => (nomatch h), fun _ => .inl (.inr (.inl ?_))⟩
  simp [setRestarts, hgeneration]

theorem startAnswered_invariant {answer : KubeconfigAnswer} (hs : s.Invariant)
    (hfetching : s.starts watchGeneration = some .fetching)
    (hok : s.IsHarmless (.startAnswered watchGeneration answer)) :
    (s.startAnswered watchGeneration answer).Invariant := by
  by_cases hanswer : answer = .stored true
  · subst hanswer
    show (s.nextTarget watchGeneration buildTargets []).Invariant
    by_cases hcurrent : watchGeneration = s.generation
    · subst hcurrent
      refine (sameCalls_nextTarget buildTargets []).invariant (fun _ => ?_) hs
      exact isComplete_nextTarget [] fun target htarget => .inl htarget
    · exact (sameCurrent_nextTarget hcurrent buildTargets []).invariant hs
  · have hended : s.startAnswered watchGeneration answer = s.setStart watchGeneration none := by
      cases answer with
      | stored loads =>
          cases loads with
          | true => exact absurd rfl hanswer
          | false => rfl
      | absent | rejected => rfl
    rw [hended]
    rcases hok.resolve_left hanswer with hobsolete | hexcused
    · exact (sameCurrent_setStart hobsolete none).invariant hs
    · exact ⟨hs.timer, fun _ => .inr hexcused⟩

theorem setRestarts_invariant {n : Nat} (hs : s.Invariant)
    (hok : watchGeneration ≠ s.generation ∨ s.restartTimer.isSome = true ∨ 0 < n ∨ s.IsExcused) :
    (s.setRestarts watchGeneration n).Invariant := by
  refine ⟨hs.timer, fun hstarted => ?_⟩
  rcases hok with hobsolete | htimer | hmore | hexcused
  · rcases hs.attended hstarted with (htimer | hrestart | hcomplete) | hexcused
    · exact .inl (.inl htimer)
    · refine .inl (.inr (.inl ?_))
      simpa [setRestarts, Function.update_of_ne hobsolete.symm] using hrestart
    · exact .inl (.inr (.inr hcomplete))
    · exact .inr hexcused
  · exact .inl (.inl htimer)
  · by_cases hcurrent : watchGeneration = s.generation
    · refine .inl (.inr (.inl ?_))
      simpa [setRestarts, hcurrent] using hmore
    · rcases hs.attended hstarted with (htimer | hrestart | hcomplete) | hexcused
      · exact .inl (.inl htimer)
      · refine .inl (.inr (.inl ?_))
        simpa [setRestarts, Function.update_of_ne (Ne.symm hcurrent)] using hrestart
      · exact .inl (.inr (.inr hcomplete))
      · exact .inr hexcused
  · exact .inr hexcused

theorem restartAnswered_invariant {answer : KubeconfigAnswer} (hs : s.Invariant)
    (hok : s.IsHarmless (.restartAnswered watchGeneration answer)) :
    ((s.setRestarts watchGeneration (s.restarts watchGeneration - 1)).ensureAnswered
      answer).Invariant := by
  cases answer with
  | stored _ => exact startForCluster_invariant
  | absent | rejected =>
      refine setRestarts_invariant hs ?_
      rcases hok with ⟨hrejected, habsent⟩ | hobsolete | htimer | hmore | hexcused
      · simp_all
      · exact .inl hobsolete
      · exact .inr (.inl htimer)
      · exact .inr (.inr (.inl (by omega)))
      · exact .inr (.inr (.inr hexcused))

theorem requestAnswered_invariant {answer : KubeconfigAnswer} (hs : s.Invariant)
    (hok : s.IsHarmless (.requestAnswered answer)) :
    ({ s with requests := s.requests - 1 }.ensureAnswered answer).Invariant := by
  cases answer with
  | stored _ => exact startForCluster_invariant
  | absent | rejected =>
      refine ⟨hs.timer, fun hstarted => ?_⟩
      rcases hok with ⟨hrejected, habsent⟩ | hattended | hnone | hmore
      · simp_all
      · exact .inl hattended
      · exact .inr (.inl hnone)
      · exact .inr (.inr (by show 0 < s.requests - 1; omega))

theorem saved_invariant {kubeconfig triggers : Bool} (hs : s.Invariant)
    (hok : s.IsHarmless (.saved kubeconfig triggers)) :
    { s with
      kubeconfig := kubeconfig
      requests := if triggers then s.requests + 1 else s.requests }.Invariant := by
  refine ⟨hs.timer, fun _ => ?_⟩
  rcases hok with hnone | htriggers | hmore | hattended
  · exact .inr (.inl hnone)
  · refine .inr (.inr ?_)
    simp [htriggers]
  · refine .inr (.inr ?_)
    dsimp only
    split <;> omega
  · exact .inl hattended

theorem act_invariant {a : WatchAction} (hact : s.act clusterId a = some t)
    (hok : s.IsHarmless a) (hs : s.Invariant) : t.Invariant := by
  cases a with
  | start =>
      cases hact
      exact startForCluster_invariant
  | ensure =>
      cases hact
      refine ⟨hs.timer, fun _ => .inr (.inr ?_)⟩
      exact Nat.succ_pos _
  | saved kubeconfig triggers =>
      cases hact
      exact saved_invariant hs hok
  | startAnswered watchGeneration answer =>
      obtain ⟨hfetching, rfl⟩ : s.starts watchGeneration = some .fetching ∧
          s.startAnswered watchGeneration answer = t := by simpa [act] using hact
      exact startAnswered_invariant hs hfetching hok
  | restartAnswered watchGeneration answer =>
      obtain ⟨-, rfl⟩ : 0 < s.restarts watchGeneration ∧
          (s.setRestarts watchGeneration (s.restarts watchGeneration - 1)).ensureAnswered
            answer = t := by simpa [act] using hact
      exact restartAnswered_invariant hs hok
  | requestAnswered answer =>
      obtain ⟨-, rfl⟩ : 0 < s.requests ∧
          { s with requests := s.requests - 1 }.ensureAnswered answer = t := by
        simpa [act] using hact
      exact requestAnswered_invariant hs hok
  | watchOpened watchGeneration =>
      simp only [act] at hact
      split at hact
      · rename_i hstart
        cases hact
        exact watchOpened_invariant hstart hs
      · cases hact
  | watchRefused watchGeneration =>
      simp only [act] at hact
      split at hact
      · cases hact
        exact watchRefused_invariant hs
      · cases hact
  | watchEvent watchGeneration target phase apiObj now =>
      simp only [act] at hact
      split at hact
      · cases hact
      · split at hact <;> cases hact
        · exact ⟨hs.timer, hs.attended⟩
        · exact hs
  | watchEnded watchGeneration target =>
      obtain ⟨-, rfl⟩ : ¬s.connections watchGeneration target = .unused ∧
          s.watchEnded watchGeneration target = t := by simpa [act] using hact
      exact watchEnded_invariant hs
  | restartFires =>
      obtain ⟨timer, htimer, rfl⟩ := Option.map_eq_some_iff.mp hact
      exact restartFires_invariant hs htimer
  | dirtyConsumed =>
      obtain ⟨-, rfl⟩ : s.dirty = true ∧ { s with dirty := false } = t := by
        simpa [act] using hact
      exact ⟨hs.timer, hs.attended⟩
  | debounceFires | runAnswered _ | syncRequested | syncSettled _ | syncReleased =>
      cases hact
      exact hs

theorem watchOpened_trace {target : WatchTarget} {rest handles : List WatchTarget} :
    (s.watchOpened watchGeneration target rest handles).trace = s.trace := by
  unfold watchOpened
  dsimp only
  split
  · split
    · exact ((sameCalls_connect target .live).trans (sameCalls_nextTarget rest _)).trace
    · exact (sameCalls_nextTarget rest _).trace
  · exact ((sameCalls_connect target .stopped).trans (sameCalls_nextTarget rest handles)).trace

theorem watchRefused_currentOnly {target : WatchTarget} {rest handles : List WatchTarget}
    (hs : s.IsCurrentOnly) :
    (s.watchRefused watchGeneration target rest handles).IsCurrentOnly := by
  unfold watchRefused
  dsimp only
  split
  · have hscheduled : ((s.connect watchGeneration target .ended).markClusterDirty.scheduleRestart
        watchGeneration).IsCurrentOnly := scheduleRestart_currentOnly (hs.congr rfl)
    exact hscheduled.congr (sameCalls_nextTarget rest handles).trace
  · exact hs.congr (sameCalls_nextTarget (s := s.connect watchGeneration target .ended) rest
      handles).trace

theorem act_currentOnly {a : WatchAction} (hact : s.act clusterId a = some t)
    (hs : s.IsCurrentOnly) : t.IsCurrentOnly := by
  cases a with
  | start =>
      cases hact
      exact hs.congr startForCluster_trace
  | ensure | saved _ _ =>
      cases hact
      exact hs
  | startAnswered watchGeneration answer =>
      obtain ⟨-, rfl⟩ : s.starts watchGeneration = some .fetching ∧
          s.startAnswered watchGeneration answer = t := by simpa [act] using hact
      refine hs.congr ?_
      unfold startAnswered
      split
      · exact (sameCalls_nextTarget buildTargets []).trace
      all_goals rfl
  | restartAnswered watchGeneration answer =>
      obtain ⟨-, rfl⟩ : 0 < s.restarts watchGeneration ∧
          (s.setRestarts watchGeneration (s.restarts watchGeneration - 1)).ensureAnswered
            answer = t := by simpa [act] using hact
      exact hs.congr (ensureAnswered_trace answer)
  | requestAnswered answer =>
      obtain ⟨-, rfl⟩ : 0 < s.requests ∧
          { s with requests := s.requests - 1 }.ensureAnswered answer = t := by
        simpa [act] using hact
      exact hs.congr (ensureAnswered_trace answer)
  | watchOpened watchGeneration =>
      simp only [act] at hact
      split at hact
      · cases hact
        exact hs.congr watchOpened_trace
      · cases hact
  | watchRefused watchGeneration =>
      simp only [act] at hact
      split at hact
      · cases hact
        exact watchRefused_currentOnly hs
      · cases hact
  | watchEvent watchGeneration target phase apiObj now =>
      simp only [act] at hact
      split at hact
      · cases hact
      · split at hact
        · rename_i hlistens
          cases hact
          have hcurrent := isCurrent_iff.mp (Bool.and_eq_true_iff.mp hlistens).2
          exact hs.cons hcurrent.symm rfl
        · cases hact
          exact hs
  | watchEnded watchGeneration target =>
      obtain ⟨-, rfl⟩ : ¬s.connections watchGeneration target = .unused ∧
          s.watchEnded watchGeneration target = t := by simpa [act] using hact
      unfold watchEnded
      split
      · exact scheduleRestart_currentOnly (hs.congr rfl)
      · exact hs
  | restartFires =>
      obtain ⟨timer, -, rfl⟩ := Option.map_eq_some_iff.mp hact
      refine hs.congr ?_
      unfold restartFires
      dsimp only
      split <;> rfl
  | dirtyConsumed =>
      obtain ⟨-, rfl⟩ : s.dirty = true ∧ { s with dirty := false } = t := by
        simpa [act] using hact
      exact hs
  | debounceFires | runAnswered _ | syncRequested | syncSettled _ | syncReleased =>
      cases hact
      exact hs

end WatchState

/-! ## Runs of the service -/

theorem clusterMachine_step {clusterId : String} {a : WatchAction} {s t : ClusterState}
    (h : (clusterMachine clusterId).step a s = some t) :
    s.watch.act clusterId a = some t.watch ∧
      s.sync.act s.watch.listens a = some t.sync := by
  obtain ⟨watch, hwatch, h⟩ := Option.bind_eq_some_iff.mp h
  obtain ⟨sync, hsync, rfl⟩ := Option.map_eq_some_iff.mp h
  exact ⟨hwatch, hsync⟩

def IsWatchSafe (states : String → ClusterState) (a : String × WatchAction) : Prop :=
  (states a.1).watch.IsHarmless a.2

instance (states : String → ClusterState) (a : String × WatchAction) :
    Decidable (IsWatchSafe states a) := inferInstanceAs (Decidable (WatchState.IsHarmless _ _))

theorem freshService_invariant (kubeconfig : String → Bool) (clusterId : String) :
    (freshService kubeconfig clusterId).watch.Invariant :=
  ⟨fun _ _ h => (nomatch h), fun h => absurd h (Nat.lt_irrefl 0)⟩

/-- Old callbacks do nothing in any run; and as long as every answer of `getKubeconfig` is
harmless where it comes, each started cluster is watched, or about to be, whenever no call is
under way. -/
theorem watches_served {kubeconfig : String → Bool} {states : String → ClusterState}
    (clusterId : String) :
    (eventSync.AnyRun (freshService kubeconfig) states →
      (states clusterId).watch.IsCurrentOnly) ∧
    (eventSync.Run IsWatchSafe (freshService kubeconfig) states →
      (states clusterId).watch.IsServed) := by
  constructor
  · intro hrun
    have hcluster : (clusterMachine clusterId).AnyRun (freshService kubeconfig clusterId)
        (states clusterId) :=
      @Machine.Run.component _ _ _ _ clusterMachine (fun _ _ _ => True) _ _ hrun clusterId
    have hfresh : (freshService kubeconfig clusterId).watch.IsCurrentOnly := fun _ h => nomatch h
    refine hcluster.invariant (I := fun s => s.watch.IsCurrentOnly) ?_ hfresh
    intro s a t _ hstep hs
    exact WatchState.act_currentOnly (clusterMachine_step hstep).1 hs
  · intro hrun
    have hcluster : (clusterMachine clusterId).Run (fun s a => s.watch.IsHarmless a)
        (freshService kubeconfig clusterId) (states clusterId) :=
      @Machine.Run.component _ _ _ _ clusterMachine (fun _ s a => s.watch.IsHarmless a) _ _ hrun
        clusterId
    have hinvariant : (states clusterId).watch.Invariant := by
      refine hcluster.invariant (I := fun s => s.watch.Invariant) ?_
        (freshService_invariant kubeconfig clusterId)
      intro s a t hok hstep hs
      exact WatchState.act_invariant (clusterMachine_step hstep).1 hok hs
    exact hinvariant.isServed

def onCluster (clusterId : String) (actions : List WatchAction) : List (String × WatchAction) :=
  actions.map fun a => (clusterId, a)

def watchedTwice : List (String × WatchAction) :=
  onCluster "c" <|
    [.saved true true, .requestAnswered (.stored true), .startAnswered 2 (.stored true)] ++
    List.replicate 21 (.watchOpened 2) ++
    [.watchEnded 2 ⟨"/api/v1/pods", .pods⟩, .restartFires, .restartAnswered 2 (.stored true),
      .startAnswered 4 (.stored true)] ++
    List.replicate 21 (.watchOpened 4)

theorem watchedTwice_plays :
    ((eventSync.restrict IsWatchSafe).play watchedTwice
      (freshService fun _ => false)).isSome = true := by decide +kernel

def watchedState : String → ClusterState := Option.get _ watchedTwice_plays

theorem watchedTwice_served : (watchedState "c").watch.IsServed :=
  (watches_served "c").2 (Machine.Run.play (Option.some_get watchedTwice_plays).symm)

/-- The kubeconfig is read a second time after the watches of before are stopped.  If that call
fails, the caller of `ensureClusterWatching` writes a warning, and nothing watches the cluster. -/
def secondReadFails : List (String × WatchAction) :=
  onCluster "c" [.saved true true, .requestAnswered (.stored true), .startAnswered 2 .rejected]

theorem secondReadFails_plays :
    ((eventSync.restrict fun _ _ => True).play secondReadFails
      (freshService fun _ => false)).isSome = true := by decide +kernel

def unservedState : String → ClusterState := Option.get _ secondReadFails_plays

theorem second_read_unserved :
    ¬∀ (kubeconfig : String → Bool) (states : String → ClusterState) (clusterId : String),
      eventSync.AnyRun (freshService kubeconfig) states →
        (states clusterId).watch.IsCurrentOnly ∧ (states clusterId).watch.IsServed := by
  intro h
  have hserved := (h (fun _ => false) unservedState "c"
    (Machine.Run.play (Option.some_get secondReadFails_plays).symm)).2
  have hquiescent : (unservedState "c").watch.IsQuiescent := by
    refine ⟨fun watchGeneration => ?_, fun _ => rfl, by decide +kernel⟩
    show Function.update (Function.update (fun _ => none) 2 _) 2 none watchGeneration = none
    rw [Function.update_idem, Function.update_eq_self]
  rcases hserved hquiescent (by decide +kernel) (by decide +kernel) with htimer | hlive
  · exact absurd htimer (by decide +kernel)
  · have hnamespaces := hlive ⟨"/api/v1/namespaces", .namespaces⟩ (by decide)
    exact absurd hnamespaces (by decide +kernel)

end KubeNova.Clusters
