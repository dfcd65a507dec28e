import KubeNova.Foundation.JsValue
import KubeNova.Foundation.Machine

/-!
# Watching a cluster

`ClusterEventSyncService`: a watch for every kind, a restart timer when one of them ends, and
a debounced full sync after every event.  Everything is kept by cluster, and the code runs up
to its next `await` without interruption, so an action of the machine below is one such piece:
the answer to a call, a callback of a watch, or a timer.

`generation` is 0 where `watchGenerations` has no entry.
-/

namespace KubeNova.Clusters

open KubeNova.Foundation

inductive WatchKind where
  | namespaces | pods | deployments | replicasets | statefulsets | daemonsets | jobs | cronjobs
  | services | endpoints | endpointSlices | ingresses | networkPolicies | ingressroutes
  | configmaps | secrets | serviceaccounts | pvs | pvcs | storageclasses
  deriving Repr, DecidableEq

structure WatchTarget where
  path : String
  kind : WatchKind
  deriving Repr, DecidableEq

def buildTargets : List WatchTarget :=
  [⟨"/api/v1/namespaces", .namespaces⟩,
    ⟨"/api/v1/pods", .pods⟩,
    ⟨"/apis/apps/v1/deployments", .deployments⟩,
    ⟨"/apis/apps/v1/replicasets", .replicasets⟩,
    ⟨"/apis/apps/v1/statefulsets", .statefulsets⟩,
    ⟨"/apis/apps/v1/daemonsets", .daemonsets⟩,
    ⟨"/apis/batch/v1/jobs", .jobs⟩,
    ⟨"/apis/batch/v1/cronjobs", .cronjobs⟩,
    ⟨"/api/v1/services", .services⟩,
    ⟨"/api/v1/endpoints", .endpoints⟩,
    ⟨"/apis/discovery.k8s.io/v1/endpointslices", .endpointSlices⟩,
    ⟨"/apis/networking.k8s.io/v1/ingresses", .ingresses⟩,
    ⟨"/apis/networking.k8s.io/v1/networkpolicies", .networkPolicies⟩,
    ⟨"/apis/traefik.io/v1alpha1/ingressroutes", .ingressroutes⟩,
    ⟨"/apis/traefik.containo.us/v1alpha1/ingressroutes", .ingressroutes⟩,
    ⟨"/api/v1/configmaps", .configmaps⟩,
    ⟨"/api/v1/secrets", .secrets⟩,
    ⟨"/api/v1/serviceaccounts", .serviceaccounts⟩,
    ⟨"/api/v1/persistentvolumes", .pvs⟩,
    ⟨"/api/v1/persistentvolumeclaims", .pvcs⟩,
    ⟨"/apis/storage.k8s.io/v1/storageclasses", .storageclasses⟩]

inductive ClusterRealtimeDomain where
  | workloads | network | configs | storage | namespaces | clusters
  deriving Repr, DecidableEq

inductive RealtimeAction where
  | upsert | delete | unknown
  deriving Repr, DecidableEq

structure ResourceSnapshot where
  apiVersion : Option String
  kind : Option String
  name : Option String
  «namespace» : Option String
  uid : Option String
  resourceVersion : Option String
  labels : Option Js
  annotations : Option Js
  state : Option String

structure ClusterRealtimeEvent where
  clusterId : String
  domains : List ClusterRealtimeDomain
  kind : WatchKind
  phase : String
  action : RealtimeAction
  resource : ResourceSnapshot
  timestamp : Nat

def mapDomains : WatchKind → List ClusterRealtimeDomain
  | .deployments | .replicasets | .statefulsets | .daemonsets | .jobs | .cronjobs | .pods =>
      [.workloads]
  | .services | .endpoints | .endpointSlices | .ingresses | .networkPolicies | .ingressroutes =>
      [.network]
  | .configmaps | .secrets | .serviceaccounts => [.configs]
  | .pvs | .pvcs | .storageclasses => [.storage]
  | .namespaces => [.namespaces, .workloads, .network, .configs, .storage]

/-- `value && typeof value === 'object' ? value : undefined`. -/
def compositeField (value : Js) (name : String) : Option Js :=
  let part := value.field name
  if part.isComposite then some part else none

def extractResourceSnapshot (object : Js) : ResourceSnapshot :=
  let metadata := (compositeField object "metadata").getD (.object [])
  { apiVersion := (object.field "apiVersion").text?
    kind := (object.field "kind").text?
    name := (metadata.field "name").text?
    «namespace» := (metadata.field "namespace").text?
    uid := (metadata.field "uid").text?
    resourceVersion := (metadata.field "resourceVersion").text?
    labels := compositeField metadata "labels"
    annotations := compositeField metadata "annotations"
    state := match (object.field "state").text? with
      | some state => some state
      | none => (metadata.field "deletionTimestamp").text?.map fun _ => "deleted" }

def realtimeAction (phase : String) : RealtimeAction :=
  let normalizedPhase := Text.toLower (Text.trim phase)
  if Text.contains "delete" normalizedPhase || Text.contains "removed" normalizedPhase then
    .delete
  else if Text.contains "add" normalizedPhase || Text.contains "modify" normalizedPhase ||
      Text.contains "update" normalizedPhase then
    .upsert
  else .unknown

def buildRealtimeEvent (clusterId : String) (target : WatchTarget) (phase : String) (apiObj : Js)
    (now : Nat) : ClusterRealtimeEvent where
  clusterId := clusterId
  domains := mapDomains target.kind
  kind := target.kind
  phase := phase
  action := realtimeAction phase
  resource := extractResourceSnapshot apiObj
  timestamp := now

/-- A watch request.  `ended` is a watch whose `done` callback came or that did not open,
`stopped` one whose handle was aborted. -/
inductive Connection where
  | unused | opening | live | ended | stopped
  deriving Repr, DecidableEq

/-- Where a `startForCluster` stands: at `getKubeconfig`, or at `watch.watch` for a target, with
the targets after it and those whose handles it holds. -/
inductive StartProgress where
  | fetching
  | opening (target : WatchTarget) (rest handles : List WatchTarget)
  deriving Repr, DecidableEq

inductive WatchEffect where
  | emitted (event : ClusterRealtimeEvent)
  | scheduled (delayMs : Nat)

structure TraceEntry where
  callback : Nat
  current : Nat
  effect : WatchEffect

/-- `starts` and `restarts` are the calls of `startForCluster` and of `ensureClusterWatching` by
a restart timer that are under way, by generation; `requests` those of other callers that wait
for their kubeconfig; `kubeconfig` says whether the cluster has one stored. -/
structure WatchState where
  generation : Nat
  watches : Option (Nat × List WatchTarget)
  restartTimer : Option (Nat × Nat)
  restartFailures : Nat
  dirty : Bool
  connections : Nat → WatchTarget → Connection
  starts : Nat → Option StartProgress
  restarts : Nat → Nat
  requests : Nat
  kubeconfig : Bool
  trace : List TraceEntry

/-- A full sync in `activeSyncs`, by the moment it began to list; it stays there for a moment
after it has ended. -/
structure ActiveSync where
  startedAt : Nat
  settled : Bool
  deriving Repr, DecidableEq

/-- `waiting` counts the debounced runs that wait for their kubeconfig.  The clock orders events
and the beginnings of syncs. -/
structure SyncSchedule where
  debounceTimer : Bool
  waiting : Nat
  activeSync : Option ActiveSync
  clock : Nat
  lastEvent : Option Nat
  lastCompleted : Option Nat
  failed : Bool
  deriving Repr, DecidableEq

structure ClusterState where
  watch : WatchState
  sync : SyncSchedule

/-! ## The watches -/

namespace WatchState

def isCurrentWatchGeneration (s : WatchState) (watchGeneration : Nat) : Bool :=
  s.generation == watchGeneration

def connect (s : WatchState) (watchGeneration : Nat) (target : WatchTarget) (c : Connection) :
    WatchState :=
  let connection := Function.update (s.connections watchGeneration) target c
  { s with connections := Function.update s.connections watchGeneration connection }

def setStart (s : WatchState) (watchGeneration : Nat) (progress : Option StartProgress) :
    WatchState :=
  { s with starts := Function.update s.starts watchGeneration progress }

def abortAll (s : WatchState) (watchGeneration : Nat) (handles : List WatchTarget) : WatchState :=
  { s with connections := Function.update s.connections watchGeneration fun target =>
      if target ∈ handles then .stopped else s.connections watchGeneration target }

def setRestarts (s : WatchState) (watchGeneration n : Nat) : WatchState :=
  { s with restarts := Function.update s.restarts watchGeneration n }

def stopForCluster (s : WatchState) : WatchState :=
  let s := { s with generation := s.generation + 1, restartTimer := none }
  match s.watches with
  | none => s
  | some (watchGeneration, handles) => { s.abortAll watchGeneration handles with watches := none }

/-- Up to `getKubeconfig`. -/
def startForCluster (s : WatchState) : WatchState :=
  let s := s.stopForCluster
  let s := { s with generation := s.generation + 1 }
  s.setStart s.generation (some .fetching)

def restartBaseDelayMs : Nat := 30000

def restartMaxDelayMs : Nat := 10 * 60000

def restartDelayMs (failures : Nat) : Nat :=
  Nat.min (restartBaseDelayMs * 2 ^ Nat.min (failures - 1) 5) restartMaxDelayMs

def scheduleRestart (s : WatchState) (watchGeneration : Nat) : WatchState :=
  if s.isCurrentWatchGeneration watchGeneration then
    match s.restartTimer with
    | some _ => s
    | none =>
        let delayMs := restartDelayMs (s.restartFailures + 1)
        { s with
          restartFailures := s.restartFailures + 1
          restartTimer := some (watchGeneration, delayMs)
          trace := ⟨watchGeneration, s.generation, .scheduled delayMs⟩ :: s.trace }
  else s

def markClusterDirty (s : WatchState) : WatchState := { s with dirty := true }

def emitRealtimeEvent (s : WatchState) (watchGeneration : Nat) (event : ClusterRealtimeEvent) :
    WatchState :=
  { s with trace := ⟨watchGeneration, s.generation, .emitted event⟩ :: s.trace }

def finishStart (s : WatchState) (watchGeneration : Nat) (handles : List WatchTarget) :
    WatchState :=
  let s := s.setStart watchGeneration none
  if s.isCurrentWatchGeneration watchGeneration then
    { s with
      watches := some (watchGeneration, handles)
      restartFailures :=
        if handles.length = buildTargets.length then 0 else s.restartFailures }
  else s.abortAll watchGeneration handles

/-- The loop over the targets, from its head up to the next `watch.watch`. -/
def nextTarget (s : WatchState) (watchGeneration : Nat) (targets handles : List WatchTarget) :
    WatchState :=
  match targets with
  | [] => s.finishStart watchGeneration handles
  | target :: rest =>
      if s.isCurrentWatchGeneration watchGeneration then
        (s.setStart watchGeneration (some (.opening target rest handles))).connect
          watchGeneration target .opening
      else s.finishStart watchGeneration handles

/-- `watch.watch` has resolved; a watch that has ended before stays ended. -/
def watchOpened (s : WatchState) (watchGeneration : Nat) (target : WatchTarget)
    (rest handles : List WatchTarget) : WatchState :=
  if s.isCurrentWatchGeneration watchGeneration then
    let s := if s.connections watchGeneration target = .opening
      then s.connect watchGeneration target .live else s
    s.nextTarget watchGeneration rest (handles ++ [target])
  else
    (s.connect watchGeneration target .stopped).nextTarget watchGeneration rest handles

/-- `watch.watch` was rejected. -/
def watchRefused (s : WatchState) (watchGeneration : Nat) (target : WatchTarget)
    (rest handles : List WatchTarget) : WatchState :=
  let s := s.connect watchGeneration target .ended
  if s.isCurrentWatchGeneration watchGeneration then
    (s.markClusterDirty.scheduleRestart watchGeneration).nextTarget watchGeneration rest handles
  else s.nextTarget watchGeneration rest handles

def listens (s : WatchState) (watchGeneration : Nat) (target : WatchTarget) : Bool :=
  s.connections watchGeneration target != .stopped && s.isCurrentWatchGeneration watchGeneration

/-- The `done` callback. -/
def watchEnded (s : WatchState) (watchGeneration : Nat) (target : WatchTarget) : WatchState :=
  if s.listens watchGeneration target then
    ((s.connect watchGeneration target .ended).markClusterDirty).scheduleRestart watchGeneration
  else s

def restartFires (s : WatchState) (watchGeneration : Nat) : WatchState :=
  let s := { s with restartTimer := none }
  if s.isCurrentWatchGeneration watchGeneration then
    s.setRestarts watchGeneration (s.restarts watchGeneration + 1)
  else s

end WatchState

namespace SyncSchedule

def scheduleSync (s : SyncSchedule) : SyncSchedule := { s with debounceTimer := true }

def eventReceived (s : SyncSchedule) : SyncSchedule :=
  { s with lastEvent := some s.clock, clock := s.clock + 1 }.scheduleSync

/-- The callback of the debounce timer, up to `getKubeconfig`. -/
def runSync (s : SyncSchedule) : SyncSchedule :=
  { s with debounceTimer := false, waiting := s.waiting + 1 }

def syncCluster (s : SyncSchedule) : SyncSchedule :=
  match s.activeSync with
  | some _ => s
  | none => { s with activeSync := some ⟨s.clock, false⟩, clock := s.clock + 1 }

def syncSettled (s : SyncSchedule) (active : ActiveSync) (succeeded : Bool) : SyncSchedule :=
  { s with
    activeSync := some { active with settled := true }
    lastCompleted := some active.startedAt
    failed := s.failed || !succeeded }

end SyncSchedule

/-- The answer to `getKubeconfig`: what is stored, if anything, and whether it can be loaded. -/
inductive KubeconfigAnswer where
  | rejected
  | absent
  | stored (loads : Bool)
  deriving Repr, DecidableEq

inductive WatchAction where
  /-- The bootstrap calls `startForCluster`. -/
  | start
  /-- A caller other than the restart timer calls `ensureClusterWatching`. -/
  | ensure
  /-- The stored kubeconfig changes, by a request that goes on to `ensureClusterWatching` or
  does not. -/
  | saved (kubeconfig triggers : Bool)
  | startAnswered (watchGeneration : Nat) (answer : KubeconfigAnswer)
  | restartAnswered (watchGeneration : Nat) (answer : KubeconfigAnswer)
  | requestAnswered (answer : KubeconfigAnswer)
  | watchOpened (watchGeneration : Nat)
  | watchRefused (watchGeneration : Nat)
  | watchEvent (watchGeneration : Nat) (target : WatchTarget) (phase : String) (apiObj : Js)
      (now : Nat)
  | watchEnded (watchGeneration : Nat) (target : WatchTarget)
  | restartFires
  | dirtyConsumed
  | debounceFires
  | runAnswered (answer : KubeconfigAnswer)
  /-- Another caller calls `syncCluster`. -/
  | syncRequested
  | syncSettled (succeeded : Bool)
  | syncReleased

namespace WatchState

/-- `ensureClusterWatching` once `getKubeconfig` has answered. -/
def ensureAnswered (s : WatchState) : KubeconfigAnswer → WatchState
  | .stored _ => s.startForCluster
  | .absent | .rejected => s

/-- `startForCluster` once `getKubeconfig` has answered. -/
def startAnswered (s : WatchState) (watchGeneration : Nat) : KubeconfigAnswer → WatchState
  | .stored true => s.nextTarget watchGeneration buildTargets []
  | .stored false | .absent | .rejected => s.setStart watchGeneration none

def act (clusterId : String) (s : WatchState) : WatchAction → Option WatchState
  | .start => some s.startForCluster
  | .ensure => some { s with requests := s.requests + 1 }
  | .saved kubeconfig triggers =>
      some { s with
        kubeconfig := kubeconfig
        requests := if triggers then s.requests + 1 else s.requests }
  | .startAnswered watchGeneration answer =>
      if s.starts watchGeneration = some .fetching then
        some (s.startAnswered watchGeneration answer)
      else none
  | .restartAnswered watchGeneration answer =>
      if 0 < s.restarts watchGeneration then
        let s := s.setRestarts watchGeneration (s.restarts watchGeneration - 1)
        some (s.ensureAnswered answer)
      else none
  | .requestAnswered answer =>
      if 0 < s.requests then some ({ s with requests := s.requests - 1 }.ensureAnswered answer)
      else none
  | .watchOpened watchGeneration =>
      match s.starts watchGeneration with
      | some (.opening target rest handles) =>
          some (s.watchOpened watchGeneration target rest handles)
      | _ => none
  | .watchRefused watchGeneration =>
      match s.starts watchGeneration with
      | some (.opening target rest handles) =>
          some (s.watchRefused watchGeneration target rest handles)
      | _ => none
  | .watchEvent watchGeneration target phase apiObj now =>
      if s.connections watchGeneration target = .unused then none
      else if s.listens watchGeneration target then
        some (s.markClusterDirty.emitRealtimeEvent watchGeneration
          (buildRealtimeEvent clusterId target phase apiObj now))
      else some s
  | .watchEnded watchGeneration target =>
      if s.connections watchGeneration target = .unused then none
      else some (s.watchEnded watchGeneration target)
  | .restartFires => s.restartTimer.map fun timer => s.restartFires timer.1
  | .dirtyConsumed => if s.dirty then some { s with dirty := false } else none
  | .debounceFires | .runAnswered _ | .syncRequested | .syncSettled _ | .syncReleased => some s

end WatchState

namespace SyncSchedule

/-- What the action does to the syncs; `heard` says whether a watch event is listened to. -/
def act (heard : Nat → WatchTarget → Bool) (s : SyncSchedule) : WatchAction → Option SyncSchedule
  | .watchEvent watchGeneration target _ _ _ =>
      some (if heard watchGeneration target then s.eventReceived else s)
  | .debounceFires => if s.debounceTimer then some s.runSync else none
  | .runAnswered answer =>
      if 0 < s.waiting then
        let s := { s with waiting := s.waiting - 1 }
        match answer with
        | .stored _ => some s.syncCluster
        | .absent | .rejected => some s
      else none
  | .syncRequested => some s.syncCluster
  | .syncSettled succeeded =>
      match s.activeSync with
      | some active => if active.settled then none else some (s.syncSettled active succeeded)
      | none => none
  | .syncReleased =>
      match s.activeSync with
      | some active => if active.settled then some { s with activeSync := none } else none
      | none => none
  | .start | .ensure | .saved _ _ | .startAnswered _ _ | .restartAnswered _ _
  | .requestAnswered _ | .watchOpened _ | .watchRefused _ | .watchEnded _ _ | .restartFires
  | .dirtyConsumed => some s

end SyncSchedule

def clusterMachine (clusterId : String) : Machine WatchAction ClusterState where
  step a s :=
    (s.watch.act clusterId a).bind fun watch =>
      (s.sync.act s.watch.listens a).map fun sync => ⟨watch, sync⟩

def eventSync : Machine (String × WatchAction) (String → ClusterState) :=
  Machine.family clusterMachine

def unwatched (kubeconfig : Bool) : ClusterState where
  watch :=
    { generation := 0, watches := none, restartTimer := none, restartFailures := 0,
      dirty := false, connections := fun _ _ => .unused, starts := fun _ => none,
      restarts := fun _ => 0, requests := 0, kubeconfig := kubeconfig, trace := [] }
  sync :=
    { debounceTimer := false, waiting := 0, activeSync := none, clock := 0, lastEvent := none,
      lastCompleted := none, failed := false }

def freshService (kubeconfig : String → Bool) : String → ClusterState :=
  fun clusterId => unwatched (kubeconfig clusterId)

end KubeNova.Clusters
