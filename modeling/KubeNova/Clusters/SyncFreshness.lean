import KubeNova.Clusters.WatchLiveness

/-!
# The last sync is newer than the last event

A debounced run that finds a sync under way joins it, also when that sync listed before the
event came.  Where no run joins an older sync and no run goes without its kubeconfig, the last
sync to complete began after the last event.
-/

namespace KubeNova.Clusters

open KubeNova.Foundation

namespace SyncSchedule

variable {s t : SyncSchedule}

def IsFresh (s : SyncSchedule) : Prop :=
  s.debounceTimer = false → s.waiting = 0 → s.activeSync = none → s.failed = false →
    ∀ event, s.lastEvent = some event →
      ∃ startedAt, s.lastCompleted = some startedAt ∧ event < startedAt

def IsListed (s : SyncSchedule) : Prop :=
  ∀ event ∈ s.lastEvent, (∃ active ∈ s.activeSync, event < active.startedAt) ∨
    ∃ startedAt ∈ s.lastCompleted, event < startedAt

instance : Decidable s.IsListed :=
  inferInstanceAs (Decidable (∀ event ∈ s.lastEvent, _ ∨ _))

/-- The run that gets this answer begins a sync, or others see to the last event. -/
def IsHarmless (s : SyncSchedule) : WatchAction → Prop
  | .runAnswered answer =>
      (answer ≠ .rejected ∧ answer ≠ .absent ∧ s.activeSync = none) ∨
        s.debounceTimer = true ∨ 1 < s.waiting ∨ s.IsListed
  | _ => True

instance : DecidablePred s.IsHarmless := by
  rintro ⟨⟩ <;> unfold IsHarmless <;> infer_instance

def IsAwaited (s : SyncSchedule) : Prop :=
  s.debounceTimer = true ∨ 0 < s.waiting ∨ s.IsListed

structure IsOrdered (s : SyncSchedule) : Prop where
  event : ∀ event ∈ s.lastEvent, event < s.clock
  started : ∀ active ∈ s.activeSync, active.startedAt < s.clock ∧
    ∀ startedAt ∈ s.lastCompleted, startedAt ≤ active.startedAt
  completed : ∀ startedAt ∈ s.lastCompleted, startedAt < s.clock
  settled : ∀ active ∈ s.activeSync, active.settled = true →
    s.lastCompleted = some active.startedAt

structure Invariant (s : SyncSchedule) : Prop extends IsOrdered s where
  awaited : s.IsAwaited

theorem Invariant.isFresh (h : s.Invariant) : s.IsFresh := by
  intro htimer hwaiting hactive _ event hevent
  rcases h.awaited with h | h | hlisted
  · rw [htimer] at h
    cases h
  · omega
  · rcases hlisted event hevent with ⟨active, hmem, -⟩ | ⟨startedAt, hmem, hlt⟩
    · rw [hactive] at hmem
      cases hmem
    · exact ⟨startedAt, hmem, hlt⟩

theorem eventReceived_invariant (hs : s.Invariant) : s.eventReceived.Invariant where
  event := by
    intro event hevent
    have hclock : event = s.clock := (Option.some.inj hevent).symm
    show event < s.clock + 1
    omega
  started := by
    intro active hactive
    have hstarted := hs.started active hactive
    exact ⟨Nat.lt_succ_of_lt hstarted.1, hstarted.2⟩
  completed startedAt h := Nat.lt_succ_of_lt (hs.completed startedAt h)
  settled := hs.settled
  awaited := .inl rfl

theorem runSync_invariant (hs : s.Invariant) : s.runSync.Invariant where
  event := hs.event
  started := hs.started
  completed := hs.completed
  settled := hs.settled
  awaited := .inr (.inl (Nat.succ_pos _))

theorem syncCluster_invariant (hs : s.IsOrdered) (h : s.activeSync = none ∨ s.IsAwaited) :
    s.syncCluster.Invariant := by
  unfold syncCluster
  split
  · rename_i active hactive
    refine ⟨hs, h.resolve_left ?_⟩
    rw [hactive]
    exact Option.some_ne_none active
  · refine ⟨⟨fun event h => Nat.lt_succ_of_lt (hs.event event h), fun active h => ?_,
      fun startedAt h => Nat.lt_succ_of_lt (hs.completed startedAt h), fun active h hsettled => ?_⟩,
      .inr (.inr fun event h => .inl ?_)⟩
    · obtain rfl : ⟨s.clock, false⟩ = active := Option.some.inj h
      exact ⟨Nat.lt_succ_self _, fun startedAt h => Nat.le_of_lt (hs.completed startedAt h)⟩
    · obtain rfl : ⟨s.clock, false⟩ = active := Option.some.inj h
      cases hsettled
    · exact ⟨⟨s.clock, false⟩, rfl, hs.event event h⟩

theorem syncSettled_invariant {active : ActiveSync} (succeeded : Bool)
    (hactive : s.activeSync = some active) (hs : s.Invariant) :
    (s.syncSettled active succeeded).Invariant := by
  obtain ⟨hclock, hlatest⟩ := hs.started active hactive
  have hcompleted : ∀ startedAt, startedAt ∈ some active.startedAt → startedAt = active.startedAt :=
    fun _ h => (Option.some.inj h).symm
  refine ⟨⟨hs.event, fun current h => ?_, fun startedAt h => ?_, fun current h _ => ?_⟩, ?_⟩
  · obtain rfl : { active with settled := true } = current := Option.some.inj h
    exact ⟨hclock, fun startedAt h => Nat.le_of_eq (hcompleted startedAt h)⟩
  · rw [hcompleted startedAt h]
    exact hclock
  · obtain rfl : { active with settled := true } = current := Option.some.inj h
    rfl
  · rcases hs.awaited with htimer | hwaiting | hlisted
    · exact .inl htimer
    · exact .inr (.inl hwaiting)
    · refine .inr (.inr fun event hevent => .inr ⟨active.startedAt, rfl, ?_⟩)
      rcases hlisted event hevent with ⟨current, hcurrent, hlt⟩ | ⟨startedAt, hmem, hlt⟩
      · rw [hactive] at hcurrent
        rw [Option.some.inj hcurrent]
        exact hlt
      · exact Nat.lt_of_lt_of_le hlt (hlatest startedAt hmem)

theorem syncReleased_invariant {active : ActiveSync} (hactive : s.activeSync = some active)
    (hsettled : active.settled = true) (hs : s.Invariant) :
    { s with activeSync := none }.Invariant := by
  have hlast := hs.settled active hactive hsettled
  refine ⟨⟨hs.event, fun _ h => (nomatch h), hs.completed, fun _ h => (nomatch h)⟩, ?_⟩
  rcases hs.awaited with htimer | hwaiting | hlisted
  · exact .inl htimer
  · exact .inr (.inl hwaiting)
  · refine .inr (.inr fun event hevent => .inr ?_)
    rcases hlisted event hevent with ⟨current, hcurrent, hlt⟩ | hcompleted
    · rw [hactive] at hcurrent
      rw [← Option.some.inj hcurrent] at hlt
      exact ⟨active.startedAt, hlast, hlt⟩
    · exact hcompleted

theorem runAnswered_invariant {answer : KubeconfigAnswer} {heard : Nat → WatchTarget → Bool}
    (hact : s.act heard (.runAnswered answer) = some t) (hok : s.IsHarmless (.runAnswered answer))
    (hs : s.Invariant) : t.Invariant := by
  let u : SyncSchedule := { s with waiting := s.waiting - 1 }
  have hordered : u.IsOrdered := ⟨hs.event, hs.started, hs.completed, hs.settled⟩
  have hawaited : s.debounceTimer = true ∨ 1 < s.waiting ∨ s.IsListed → u.IsAwaited := by
    rintro (htimer | hwaiting | hlisted)
    · exact .inl htimer
    · exact .inr (.inl (by show 0 < s.waiting - 1; omega))
    · exact .inr (.inr hlisted)
  simp only [act] at hact
  split at hact
  · cases answer with
    | stored loads =>
        cases hact
        refine syncCluster_invariant hordered ?_
        rcases hok with ⟨-, -, hnone⟩ | hothers
        · exact .inl hnone
        · exact .inr (hawaited hothers)
    | absent | rejected =>
        cases hact
        refine ⟨hordered, hawaited (hok.resolve_left fun h => ?_)⟩
        simp_all
  · cases hact

theorem act_invariant {a : WatchAction} {heard : Nat → WatchTarget → Bool}
    (hact : s.act heard a = some t) (hok : s.IsHarmless a) (hs : s.Invariant) :
    t.Invariant := by
  cases a with
  | watchEvent watchGeneration target phase apiObj now =>
      simp only [act] at hact
      split at hact <;> cases hact
      · exact eventReceived_invariant hs
      · exact hs
  | debounceFires =>
      obtain ⟨-, rfl⟩ : s.debounceTimer = true ∧ s.runSync = t := by simpa [act] using hact
      exact runSync_invariant hs
  | runAnswered answer => exact runAnswered_invariant hact hok hs
  | syncRequested =>
      cases hact
      exact syncCluster_invariant hs.toIsOrdered (.inr hs.awaited)
  | syncSettled succeeded =>
      simp only [act] at hact
      split at hact
      · rename_i active hactive
        split at hact <;> cases hact
        exact syncSettled_invariant succeeded hactive hs
      · cases hact
  | syncReleased =>
      simp only [act] at hact
      split at hact
      · rename_i active hactive
        split at hact
        · rename_i hsettled
          cases hact
          exact syncReleased_invariant hactive hsettled hs
        · cases hact
      · cases hact
  | start | ensure | saved _ _ | startAnswered _ _ | restartAnswered _ _ | requestAnswered _
  | watchOpened _ | watchRefused _ | watchEnded _ _ | restartFires | dirtyConsumed =>
      cases hact
      exact hs

end SyncSchedule

/-! ## Runs of the service -/

def IsSyncSafe (states : String → ClusterState) (a : String × WatchAction) : Prop :=
  (states a.1).sync.IsHarmless a.2

instance (states : String → ClusterState) (a : String × WatchAction) :
    Decidable (IsSyncSafe states a) := inferInstanceAs (Decidable (SyncSchedule.IsHarmless _ _))

theorem freshService_sync_invariant (kubeconfig : String → Bool) (clusterId : String) :
    (freshService kubeconfig clusterId).sync.Invariant where
  event _ h := nomatch h
  started _ h := nomatch h
  completed _ h := nomatch h
  settled _ h := nomatch h
  awaited := .inr (.inr fun _ h => nomatch h)

/-- As long as every debounced run gets its kubeconfig and joins no sync that began before the
last event, the last completed sync began after the last event. -/
theorem syncs_fresh {kubeconfig : String → Bool} {states : String → ClusterState}
    (hrun : eventSync.Run IsSyncSafe (freshService kubeconfig) states) (clusterId : String) :
    (states clusterId).sync.IsFresh := by
  have hcluster : (clusterMachine clusterId).Run (fun s a => s.sync.IsHarmless a)
      (freshService kubeconfig clusterId) (states clusterId) :=
    @Machine.Run.component _ _ _ _ clusterMachine (fun _ s a => s.sync.IsHarmless a) _ _ hrun
      clusterId
  have hinvariant : (states clusterId).sync.Invariant := by
    refine hcluster.invariant (I := fun s => s.sync.Invariant) ?_
      (freshService_sync_invariant kubeconfig clusterId)
    intro s a t hok hstep hs
    exact SyncSchedule.act_invariant (clusterMachine_step hstep).2 hok hs
  exact hinvariant.isFresh

/-- A cluster is created and its watch of namespaces is being opened. -/
def creation : List WatchAction :=
  [.saved true true, .requestAnswered (.stored true), .startAnswered 2 (.stored true)]

/-- An event after which the debounced run gets `answer`. -/
def eventAndRun (answer : KubeconfigAnswer) : List WatchAction :=
  [.watchEvent 2 ⟨"/api/v1/namespaces", .namespaces⟩ "ADDED" (.object []) 0, .debounceFires,
    .runAnswered answer]

def eventListed : List (String × WatchAction) :=
  onCluster "c" <| creation ++ eventAndRun (.stored true) ++ [.syncSettled true, .syncReleased]

theorem eventListed_plays :
    ((eventSync.restrict IsSyncSafe).play eventListed
      (freshService fun _ => false)).isSome = true := by decide +kernel

def listedState : String → ClusterState := Option.get _ eventListed_plays

theorem eventListed_fresh : (listedState "c").sync.IsFresh ∧
    ∃ event, (listedState "c").sync.lastEvent = some event :=
  ⟨syncs_fresh (Machine.Run.play (Option.some_get eventListed_plays).symm) "c", 0,
    by decide +kernel⟩

/-- The first sync of a new cluster takes longer than the debounce of an event: the run that the
event asked for joins it. -/
def eventJoins : List (String × WatchAction) :=
  onCluster "c" <| .syncRequested :: creation ++ eventAndRun (.stored true) ++
    [.syncSettled true, .syncReleased]

theorem eventJoins_plays :
    ((eventSync.restrict fun _ _ => True).play eventJoins
      (freshService fun _ => false)).isSome = true := by decide +kernel

def staleState : String → ClusterState := Option.get _ eventJoins_plays

theorem joined_sync_stale :
    ¬∀ (kubeconfig : String → Bool) (states : String → ClusterState) (clusterId : String),
      eventSync.AnyRun (freshService kubeconfig) states →
        (states clusterId).sync.IsFresh := by
  intro h
  have hfresh := h (fun _ => false) staleState "c"
    (Machine.Run.play (Option.some_get eventJoins_plays).symm)
  obtain ⟨startedAt, hcompleted, hlt⟩ := hfresh (by decide +kernel) (by decide +kernel)
    (by decide +kernel) (by decide +kernel) 1 (by decide +kernel)
  have hfirst : (staleState "c").sync.lastCompleted = some 0 := by decide +kernel
  rw [hfirst] at hcompleted
  have := Option.some.inj hcompleted
  omega

end KubeNova.Clusters
