import KubeNova.Foundation.Rotation
import KubeNova.Monitoring.NotificationWorker
import Mathlib.Data.List.Dedup

/-!
# Whose notifications are dispatched

`NotificationSchedulerService` serves up to twenty clusters in a cycle and goes on behind the last
of them in the next one.  What the tables hold may change in any way between two selections.
-/

namespace KubeNova.Monitoring

open KubeNova.Foundation KubeNova.Foundation.Rotation

namespace NotificationScheduler

/-- The `WHERE` of the subquery, with the cluster of the alert. -/
def dueCluster? (s : MonitoringState) (row : NotificationDelivery) : Option String :=
  if (row.status == .pending && row.nextAttemptAt ≤ s.now) ||
      (row.status == .sending && row.leaseUntil.any (· ≤ s.now)) then
    (s.alerts.lookup row.alertId).bind (·.clusterId)
  else none

def dueClusters (s : MonitoringState) : List String :=
  (s.deliveries.entries.filterMap fun r => dueCluster? s r.2).dedup

def cycleLimit : Nat := 20

def selectTargets (cursor : String) (s : MonitoringState) : List String :=
  window cycleLimit cursor (dueClusters s)

/-- `runCycle`: the clusters that are served in turn, and the cursor it leaves. -/
def runCycle (cursor : String) (s : MonitoringState) : List String × String :=
  let targets := selectTargets cursor s
  (targets, targets.foldl (fun _ clusterId => clusterId) cursor)

/-- The clusters each of consecutive cycles serves, from what the tables hold at its selection. -/
def runCycles : String → List MonitoringState → List (List String)
  | _, [] => []
  | cursor, s :: rest => (runCycle cursor s).1 :: runCycles (runCycle cursor s).2 rest

def HasDueWork (clusterId : String) (s : MonitoringState) : Prop :=
  ∃ id row, s.deliveries.lookup id = some row ∧
    NotificationWorker.isDue clusterId (fun _ => false) s id row = true

theorem mem_dueClusters {clusterId : String} {s : MonitoringState} :
    clusterId ∈ dueClusters s ↔ HasDueWork clusterId s := by
  rw [dueClusters, List.mem_dedup, List.mem_filterMap, HasDueWork]
  have hrow : ∀ (id : String) (row : NotificationDelivery), dueCluster? s row = some clusterId ↔
      NotificationWorker.isDue clusterId (fun _ => false) s id row = true := by
    intro id row
    unfold dueCluster? NotificationWorker.isDue
    cases halert : s.alerts.lookup row.alertId <;> simp <;> tauto
  constructor
  · rintro ⟨⟨id, row⟩, hmem, hdue⟩
    exact ⟨id, row, Table.mem_entries_iff.mp hmem, (hrow id row).mp hdue⟩
  · rintro ⟨id, row, hmem, hdue⟩
    exact ⟨⟨id, row⟩, Table.mem_entries_iff.mpr hmem, (hrow id row).mpr hdue⟩

theorem runCycles_eq (cursor : String) (states : List MonitoringState) :
    runCycles cursor states = turns cycleLimit cursor (states.map dueClusters) := by
  induction states generalizing cursor with
  | nil => rfl
  | cons s rest ih =>
      rw [runCycles, List.map_cons, turns, ih]
      rfl

/-- The clusters with due work in every cycle are served as soon as there were cycles enough for them
and for the others that have due work in some cycle. -/
theorem served_within (cursor : String) (states : List MonitoringState)
    (clusters others : Finset String)
    (hdue : ∀ clusterId ∈ clusters, ∀ s ∈ states, HasDueWork clusterId s)
    (hothers : ∀ s ∈ states, ∀ clusterId, HasDueWork clusterId s → clusterId ∈ clusters ∪ others)
    (hlength : states.length = ((clusters ∪ others).card + 19) / 20) :
    ∀ clusterId ∈ clusters, ∃ targets ∈ runCycles cursor states, clusterId ∈ targets := by
  intro clusterId hmem
  rw [runCycles_eq]
  have hdistinct : ∀ waiting ∈ states.map dueClusters, waiting.Nodup := by
    intro waiting hwaiting
    obtain ⟨s, -, rfl⟩ := List.mem_map.mp hwaiting
    exact List.nodup_dedup _
  have hwait : ∀ waiting ∈ states.map dueClusters, clusterId ∈ waiting := by
    intro waiting hwaiting
    obtain ⟨s, hs, rfl⟩ := List.mem_map.mp hwaiting
    exact mem_dueClusters.mpr (hdue clusterId hmem s hs)
  have hmembers : ∀ waiting ∈ states.map dueClusters, ∀ a ∈ waiting, a ∈ clusters ∪ others := by
    intro waiting hwaiting a ha
    obtain ⟨s, hs, rfl⟩ := List.mem_map.mp hwaiting
    exact hothers s hs a (mem_dueClusters.mp ha)
  have hplaces : (clusters ∪ others).card ≤ cycleLimit * (states.map dueClusters).length := by
    rw [List.length_map, cycleLimit]
    omega
  exact exists_taken (by decide) cursor hdistinct hwait hmembers
    (Finset.mem_union_left _ hmem) hplaces

def busy (clusters : List String) : MonitoringState where
  now := 0
  clusters := ∅
  credentials := ∅
  alerts := clusters.foldl (fun alerts clusterId => alerts.insert clusterId
    { occurrenceKey := none, clusterId := some clusterId, «namespace» := none,
      severity := "critical", title := "", message := "", source := none, status := .firing,
      firedAt := 0, resolvedAt := none, labels := [], annotations := [] }) ∅
  templates := ∅
  deliveries := clusters.foldl (fun deliveries clusterId => deliveries.insert clusterId
    { alertId := clusterId, templateId := "", event := .firing, status := .pending, attempts := 0,
      nextAttemptAt := 0, expiresAt := 0, leaseUntil := none, lastError := none,
      createdAt := 0 }) ∅
  issued := clusters
  log := []

def twentyOne : List String := ["a", "b", "c", "d", "e", "f", "g", "h", "i", "j", "k", "l", "m",
  "n", "o", "p", "q", "r", "s", "t", "u"]

theorem mem_dueClusters_busy : ∀ clusterId ∈ twentyOne, clusterId ∈ dueClusters (busy twentyOne) := by
  decide +kernel

theorem mem_of_mem_dueClusters_busy :
    ∀ clusterId ∈ dueClusters (busy twentyOne), clusterId ∈ twentyOne := by
  decide +kernel

theorem last_served_within_two : ∃ targets ∈ runCycles "" [busy twentyOne, busy twentyOne],
    "u" ∈ targets := by
  have hstates : ∀ {P : MonitoringState → Prop}, P (busy twentyOne) →
      ∀ s ∈ [busy twentyOne, busy twentyOne], P s := by
    intro P hP s hs
    simp only [List.mem_cons, List.not_mem_nil, or_false, or_self] at hs
    exact hs ▸ hP
  refine served_within "" [busy twentyOne, busy twentyOne] {"u"} twentyOne.toFinset ?_ ?_ ?_ "u"
    (Finset.mem_singleton_self _)
  · intro clusterId hmem
    rw [Finset.mem_singleton.mp hmem]
    exact hstates (mem_dueClusters.mp (mem_dueClusters_busy "u" (by decide)))
  · refine hstates fun clusterId hdue => ?_
    have hmem := mem_of_mem_dueClusters_busy clusterId (mem_dueClusters.mpr hdue)
    exact Finset.mem_union_right _ (List.mem_toFinset.mpr hmem)
  · decide +kernel

/-- The clusters that are not busy all the time take their turns too. -/
theorem others_come_first :
    ¬∀ (cursor : String) (states : List MonitoringState) (clusters : Finset String),
      (∀ clusterId ∈ clusters, ∀ s ∈ states, HasDueWork clusterId s) →
        states.length = (clusters.card + 19) / 20 →
          ∀ clusterId ∈ clusters, ∃ targets ∈ runCycles cursor states, clusterId ∈ targets := by
  intro h
  obtain ⟨targets, htargets, hserved⟩ := h "" [busy twentyOne] {"u"}
    (by
      intro clusterId hmem s hs
      rw [Finset.mem_singleton.mp hmem, List.mem_singleton.mp hs]
      exact mem_dueClusters.mp (mem_dueClusters_busy "u" (by decide)))
    (by decide) "u" (Finset.mem_singleton_self _)
  have hnone : ∀ targets ∈ runCycles "" [busy twentyOne], "u" ∉ targets := by decide +kernel
  exact hnone targets htargets hserved

end NotificationScheduler

end KubeNova.Monitoring
