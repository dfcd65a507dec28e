import KubeNova.Update.TaskQueue

/-!
# The three Deployments and the image update

`KubernetesUpdateAdapter` and `applyKubernetesImageUpdate`.  The world of a worker
holds the Deployments as the API server has them, the task queue, and everything
outside the program that decides whether a call fails.  Each call to the API server
is one statement; a patch is tested and applied by the server in one statement.
-/

namespace KubeNova.Update

open KubeNova.Common KubeNova.Foundation

structure Container where
  name : Option String
  image : Option String
  deriving Repr, DecidableEq

structure DeploymentStatus where
  observedGeneration : Option Nat
  updatedReplicas : Option Nat
  availableReplicas : Option Nat
  /-- The `reason` of each condition. -/
  conditions : List (Option String)
  deriving Repr, DecidableEq

/-- `KubernetesDeploymentLike`; a record of labels is a list without repeated keys. -/
structure Deployment where
  labels : List (String × String)
  annotations : List (String × String)
  managers : List (Option String)
  generation : Option Nat
  /-- The API server's revision of the object; `0` where it is missing or empty. -/
  resourceVersion : Nat
  replicas : Option Nat
  containers : List Container
  status : Option DeploymentStatus
  deriving Repr, DecidableEq

/-- A patch that reached the API server and passed its tests. -/
structure Patch where
  component : KubernetesComponent
  /-- The image the caller expected to replace. -/
  expected : String
  /-- The image the caller last read or wrote there. -/
  lastKnown : Option String
  /-- The image the patch replaced. -/
  replaced : Option String
  image : String
  deriving Repr, DecidableEq

structure MigrationTarget where
  id : String
  isLocal : Bool
  connection : Option String
  deriving Repr, DecidableEq

structure UpdateSettings where
  backupTargets : List String
  migrationTargets : List MigrationTarget
  fingerprint : Option String
  deriving Repr, DecidableEq

structure Backup where
  location : String
  bytes : Nat
  deriving Repr, DecidableEq

structure Rehearsal where
  passed : Bool
  checks : List TaskCheck
  deriving Repr, DecidableEq

/-- What lies outside the program: it may change between any two statements. -/
structure Outside where
  /-- The next call fails with this message. -/
  failure : Option String
  /-- A call that fails has taken effect nevertheless: only its answer was lost. -/
  applied : Bool
  /-- How often the rollout loop still finds its deadline ahead. -/
  polls : Nat
  /-- A lease renewal of the worker's timer has failed. -/
  leaseError : Option String
  settings : UpdateSettings
  backup : Backup
  rehearsal : Rehearsal

/-- What the worker is about: it looks for a task, works on it, and goes through two
more steps after its adapter has returned with changed images. -/
inductive Stage where
  | claiming
  | working
  | verifying
  | finishing
  deriving Repr, DecidableEq

structure World where
  deployments : KubernetesComponent → Deployment
  queue : Queue
  outside : Outside
  /-- The image that the update last read or wrote, by component. -/
  seen : KubernetesComponent → Option String
  patches : List Patch
  stage : Stage

abbrev WorkerHandler (α : Type) := Async Exception World α

/-! ## Reading a Deployment -/

namespace KubernetesComponent

def deployment : KubernetesComponent → String
  | controlApi => "control-api"
  | runtimeGateway => "runtime-gateway"
  | frontend => "frontend"

def container : KubernetesComponent → String := deployment

end KubernetesComponent

def components : List KubernetesComponent := [.controlApi, .runtimeGateway, .frontend]

def gitOpsMarkers : List String :=
  ["argocd.", "meta.helm.sh/", "kustomize.toolkit.fluxcd.io/", "helm.toolkit.fluxcd.io/",
    "source.toolkit.fluxcd.io/"]

/-- `/(argocd|flux|kustomize-controller|helm-controller|^helm$)/i`. -/
def isGitOpsManager (manager : String) : Bool :=
  let name := Text.toLower manager
  ["argocd", "flux", "kustomize-controller", "helm-controller"].any (Text.contains · name) ||
    name == "helm"

/-- `{ ...metadata.labels, ...metadata.annotations }`. -/
def Deployment.marks (d : Deployment) : List (String × String) :=
  d.annotations ++ d.labels.filter fun l => !d.annotations.any (·.1 == l.1)

def isGitOpsManagedDeployment (d : Deployment) : Bool :=
  (d.marks.any fun mark => gitOpsMarkers.any (Text.startsWith · (Text.toLower mark.1))) ||
    (d.marks.any fun mark => mark.1 == "app.kubernetes.io/managed-by" &&
      ["argocd", "flux", "helm"].contains (Text.toLower mark.2)) ||
    d.managers.any fun manager => isGitOpsManager (manager.getD "")

def isContainerOf (c : KubernetesComponent) (x : Container) : Bool := x.name == some c.container

def currentImage (c : KubernetesComponent) (d : Deployment) : Option String :=
  (d.containers.find? (isContainerOf c)).bind (·.image)

def deploymentImage (d : Deployment) (c : KubernetesComponent) : Except Exception String :=
  match (currentImage c d).filter (· ≠ "") with
  | some image => .ok image
  | none => .error (.error
      ("Kubernetes deployment " ++ c.deployment ++ " is missing container " ++ c.container))

def assertDeploymentReady (d : Deployment) (c : KubernetesComponent) : Except Exception Unit := do
  if isGitOpsManagedDeployment d then
    throw (.error ("Kubernetes deployment " ++ c.deployment ++
      " is GitOps-managed; direct updates are blocked"))
  let desired := d.replicas.getD 1
  let isReady := d.status.any fun status =>
    d.generation.getD 0 ≤ status.observedGeneration.getD 0 &&
      desired ≤ status.updatedReplicas.getD 0 && desired ≤ status.availableReplicas.getD 0
  if desired < 1 || !isReady then
    throw (.error ("Kubernetes deployment " ++ c.deployment ++ " is not ready"))
  let _ ← deploymentImage d c
  return ()

/-- A rollout is over: the controller has seen the change and all replicas are updated. -/
def isRolledOut (d : Deployment) : Bool :=
  let desired := d.replicas.getD 1
  let observed := (d.status.bind (·.observedGeneration)).getD 0
  let updated := (d.status.bind (·.updatedReplicas)).getD 0
  let available := (d.status.bind (·.availableReplicas)).getD 0
  d.generation.getD 0 ≤ observed && desired ≤ updated && desired ≤ available

def progressDeadlineExceeded (d : Deployment) : Bool :=
  d.status.any fun status => status.conditions.any (· == some "ProgressDeadlineExceeded")

def World.image (s : World) (c : KubernetesComponent) : Option String :=
  currentImage c (s.deployments c)

def World.see (s : World) (c : KubernetesComponent) (image : Option String) : World :=
  { s with seen := Function.update s.seen c image }

def Deployment.setImage (d : Deployment) (index : Nat) (image : String) : Deployment :=
  { d with
    containers := d.containers.modify index fun x => { x with image := some image }
    resourceVersion := d.resourceVersion + 1 }

structure ImagePatch where
  version : Nat
  index : Nat
  container : String
  image : String

def ImagePatch.passes (patch : ImagePatch) (d : Deployment) : Bool :=
  d.resourceVersion == patch.version &&
    (d.containers[patch.index]?).any fun x => x.name == some patch.container

def World.servePatch (s : World) (c : KubernetesComponent) (patch : ImagePatch)
    (expected : String) : Except Exception Unit × World :=
  let d := s.deployments c
  if patch.passes d then
    (.ok (), { s with
      deployments := Function.update s.deployments c (d.setImage patch.index patch.image)
      seen := Function.update s.seen c (some patch.image)
      patches := ⟨c, expected, s.seen c, s.image c, patch.image⟩ :: s.patches })
  else (.error (.error "the server rejected our request due to an error in our request"), s)

/-- A call with an effect, which the network may lose before or after the effect. -/
def remote {α : Type} (f : World → Except Exception α × World) : WorkerHandler α := do
  let result ← Async.exec fun s => match s.outside.failure with
    | none => f s
    | some message => (.error (.error message), if s.outside.applied then (f s).2 else s)
  Async.ofExcept result

def readNamespacedDeployment (c : KubernetesComponent) : WorkerHandler Deployment := do
  let result ← Async.exec fun s => match s.outside.failure with
    | none => (.ok (s.deployments c), s.see c (s.image c))
    | some message => (.error (.error message), s)
  Async.ofExcept result

def patchNamespacedDeployment (c : KubernetesComponent) (patch : ImagePatch) (expected : String) :
    WorkerHandler Unit :=
  remote fun s => s.servePatch c patch expected

/-! ## The image update -/

/-- The callbacks and the target of `applyKubernetesImageUpdate`.  The callback
that waits calls `onWaiting` with the time of the last heartbeat and takes the new
one from it. -/
structure ImageUpdate where
  readDeployment : KubernetesComponent → WorkerHandler Deployment
  patchImage : KubernetesComponent → String → String → WorkerHandler Unit
  waitForReady : KubernetesComponent → String → (Nat → WorkerHandler Nat) → Nat → WorkerHandler Unit
  targetImages : Images
  onProgress : String → Nat → String → WorkerHandler Unit

/-- One entry of `changed`. -/
structure Change where
  component : KubernetesComponent
  previous : String
  target : String

namespace ImageUpdate

variable (u : ImageUpdate)

/-- The loop over the components that fills `previousImages`. -/
def readPrevious : List KubernetesComponent → Images → WorkerHandler Images
  | [], previousImages => return previousImages
  | c :: rest, previousImages => do
      Async.ensure (isTrustedImage (imageName c) (u.targetImages c).toList = true)
        (.error ("target " ++ componentKey c ++ " image must use a trusted immutable digest"))
      let deployment ← u.readDeployment c
      Async.ofExcept (assertDeploymentReady deployment c)
      let image ← Async.ofExcept (deploymentImage deployment c)
      readPrevious rest (Function.update previousImages c image)

/-- `onWaiting` of a rollout: a heartbeat every ten seconds. -/
def reportWaiting (percent : Nat) (message : String) (lastHeartbeat : Nat) : WorkerHandler Nat := do
  let now ← Async.query (·.queue.now)
  if lastHeartbeat + 10000 ≤ now then do
    u.onProgress "health-check" percent message
    return now
  else return lastHeartbeat

def updateComponent (index : Nat) (c : KubernetesComponent) (previous : String) :
    WorkerHandler Unit := do
  u.onProgress "updating" (10 + index * 25) ("正在更新 " ++ c.deployment)
  u.patchImage c (u.targetImages c) previous
  u.onProgress "health-check" (15 + index * 25) ("正在等待 " ++ c.deployment ++ " 就绪")
  let lastHeartbeat ← Async.query (·.queue.now)
  u.waitForReady c (u.targetImages c)
    (u.reportWaiting (20 + index * 25) ("正在等待 " ++ c.deployment ++ " 滚动完成")) lastHeartbeat

/-- The loop over the components: the error that stopped it, and `changed`. -/
def rollOut (previousImages : Images) :
    List (Nat × KubernetesComponent) → List Change → WorkerHandler (Option Exception × List Change)
  | [], changed => return (none, changed)
  | (index, c) :: rest, changed =>
      if u.targetImages c = previousImages c then rollOut previousImages rest changed
      else do
        let changed := changed ++ [⟨c, previousImages c, u.targetImages c⟩]
        match ← (u.updateComponent index c (previousImages c)).toExcept with
        | .ok _ => rollOut previousImages rest changed
        | .error e => return (some e, changed)

def restoreComponent (entry : Change) : WorkerHandler Unit := do
  u.onProgress "updating" 75 ("正在恢复 " ++ entry.component.deployment)
  u.patchImage entry.component entry.previous entry.target
  let lastHeartbeat ← Async.query (·.queue.now)
  u.waitForReady entry.component entry.previous
    (u.reportWaiting 80 ("正在等待 " ++ entry.component.deployment ++ " 回到原版本")) lastHeartbeat

/-- The rollback loop; the answer is `rollbackFailed`. -/
def rollBack : List Change → Bool → WorkerHandler Bool
  | [], rollbackFailed => return rollbackFailed
  | entry :: rest, rollbackFailed => do
      match ← (u.restoreComponent entry).toExcept with
      | .ok _ => rollBack rest rollbackFailed
      | .error _ => rollBack rest true

def rollbackIncomplete : String :=
  "Kubernetes update failed and automatic rollback was incomplete; inspect all three Deployments immediately"

def restoredPrefix : String := "Kubernetes update failed; restored previous images: "

def applyKubernetesImageUpdate : WorkerHandler Images := do
  let previousImages ← u.readPrevious components fun _ => ""
  match ← u.rollOut previousImages [(0, .controlApi), (1, .runtimeGateway), (2, .frontend)] [] with
  | (none, _) => return previousImages
  | (some e, changed) => do
      let rollbackFailed ← u.rollBack changed.reverse false
      if rollbackFailed then throw (.error rollbackIncomplete)
      else throw (.error (restoredPrefix ++ e.message))

end ImageUpdate

def patchImage (c : KubernetesComponent) (image expectedCurrentImage : String) :
    WorkerHandler Unit := do
  let deployment ← readNamespacedDeployment c
  Async.ensure (isGitOpsManagedDeployment deployment = false)
    (.error ("Kubernetes deployment " ++ c.deployment ++ " became GitOps-managed during update"))
  match deployment.containers.findIdx? (isContainerOf c) with
  | none => throw (.error
      ("Kubernetes deployment " ++ c.deployment ++ " is missing container " ++ c.container))
  | some index =>
      if currentImage c deployment = some image then return ()
      else do
        Async.ensure (deployment.resourceVersion ≠ 0 ∧
            currentImage c deployment = some expectedCurrentImage)
          (.error ("Kubernetes deployment " ++ c.deployment ++
            " changed outside this update; refusing to overwrite it"))
        patchNamespacedDeployment c ⟨deployment.resourceVersion, index, c.container, image⟩
          expectedCurrentImage

/-- The loop of `waitForDeployment`, with the polls left before the deadline. -/
def waitLoop (c : KubernetesComponent) (image : String) (onWaiting : Nat → WorkerHandler Nat) :
    Nat → Nat → WorkerHandler Unit
  | 0, _ => throw (.error ("Kubernetes deployment " ++ c.deployment ++ " rollout timed out"))
  | polls + 1, lastHeartbeat => do
      let deployment ← readNamespacedDeployment c
      let current ← Async.ofExcept (deploymentImage deployment c)
      Async.ensure (current = image) (.error ("Kubernetes deployment " ++ c.deployment ++
        " was changed by another controller during rollout"))
      if isRolledOut deployment then return ()
      else do
        Async.ensure (progressDeadlineExceeded deployment = false)
          (.error ("Kubernetes deployment " ++ c.deployment ++ " exceeded its rollout deadline"))
        let lastHeartbeat ← onWaiting lastHeartbeat
        waitLoop c image onWaiting polls lastHeartbeat

def waitForDeployment (c : KubernetesComponent) (image : String)
    (onWaiting : Nat → WorkerHandler Nat) (lastHeartbeat : Nat) : WorkerHandler Unit := do
  let polls ← Async.query (·.outside.polls)
  waitLoop c image onWaiting polls lastHeartbeat

/-- `KubernetesUpdateAdapter.apply`. -/
def apply (targetImages : Images) (onProgress : String → Nat → String → WorkerHandler Unit) :
    WorkerHandler Images :=
  ImageUpdate.applyKubernetesImageUpdate
    { readDeployment := readNamespacedDeployment
      patchImage := patchImage
      waitForReady := waitForDeployment
      targetImages := targetImages
      onProgress := onProgress }

end KubeNova.Update
