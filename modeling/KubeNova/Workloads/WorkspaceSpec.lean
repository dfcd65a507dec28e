import KubeNova.Workloads.WorkspaceValidation

/-!
# The spec of a workspace

`resolveWorkspaceMountPlan` decides which claim is mounted, and `buildWorkspaceSpec` makes the spec of
the workload from what it can interpret of the request.
-/

namespace KubeNova.Workloads.Workspace

open KubeNova.Foundation

structure ClaimRequest where
  name : String
  capacity : Option String
  storageClass : Option String
  volumeName : Option String

structure MountPlan where
  claimName : Option String
  createPvc : Option ClaimRequest

def isDnsChar (c : Char) : Bool := ('a' ≤ c && c ≤ 'z') || Text.isDigit c || c == '-'

def joinDashes : List Char → List Char
  | [] => []
  | c :: cs => if c = '-' ∧ (joinDashes cs).head? = some '-' then joinDashes cs else c :: joinDashes cs

/-- `toDns1123Name`, with `toLowerCase` as `lower`. -/
def toDns1123Name (lower : String → String) (value : String) : String :=
  let dashed := (lower value).toList.map fun c => if isDnsChar c then c else '-'
  let normalized := trimBoth (· == '-') (joinDashes dashed)
  String.ofList ((if normalized = [] then "workspace-pvc".toList else normalized).take 63)

def noMount : MountPlan := ⟨none, none⟩

def claimFor (lower : String → String) (mount : StorageMount) (workloadName resource : String)
    (storageClass volumeName : Option String) : MountPlan :=
  let pvcName := mount.newPvcName.getD
    (toDns1123Name lower (workloadName ++ "-" ++ resource ++ "-claim"))
  ⟨some pvcName, some ⟨pvcName, mount.newPvcCapacity, storageClass, volumeName⟩⟩

def resolveWorkspaceMountPlan (lower : String → String) (body : WorkspaceRequest)
    (workloadName : String) : MountPlan :=
  match body.mountPvc, body.pvcMount with
  | true, some mount =>
      if mount.useExistingPvc ∧ sourceTypeOf mount = "PVC" then
        match mount.existingPvcName with
        | none => noMount
        | some pvc => ⟨some pvc, none⟩
      else if mount.useExistingPvc ∧ sourceTypeOf mount = "PV" then
        match mount.existingPvName with
        | none => noMount
        | some pv => claimFor lower mount workloadName pv mount.newPvcStorageClass (some pv)
      else if mount.useExistingPvc ∧ sourceTypeOf mount = "SC" then
        match mount.existingStorageClassName with
        | none => noMount
        | some sc => claimFor lower mount workloadName sc (some sc) none
      else if mount.useExistingPvc then noMount
      else
        match mount.newPvcName with
        | some pvc =>
            ⟨some pvc, some ⟨pvc, mount.newPvcCapacity, mount.newPvcStorageClass, none⟩⟩
        | none => noMount
  | _, _ => noMount

inductive ProbeHandler where
  | exec (command : List String)
  | tcpSocket (port : Int)
  | httpGet (path : String) (port : Int) (scheme : String)
  deriving DecidableEq

structure ProbeSpec where
  handler : ProbeHandler
  initialDelaySeconds : Option Int
  periodSeconds : Option Int
  timeoutSeconds : Option Int
  successThreshold : Option Int
  failureThreshold : Option Int

/-- The number goes into the spec if it is an integer that is not too small. -/
def commonField (min : Int) (value : NumberField) : Option Int := value.int?.filter (min ≤ ·)

def portOf (port : NumberField) : Option Int := if isValidProbePort port then port.int? else none

def handlerOf (probe : Probe) : Option ProbeHandler :=
  let type := probe.type.getD "httpGet"
  if type = "exec" then (toWorkspaceTokens probe.command).map .exec
  else if type = "tcpSocket" then (portOf probe.port).map .tcpSocket
  else
    match portOf probe.port, probe.path.filter (· ≠ "") with
    | some port, some path =>
        some (.httpGet path port (if probe.scheme = some "HTTPS" then "HTTPS" else "HTTP"))
    | _, _ => none

def buildWorkspaceProbeSpec : Option Probe → Option ProbeSpec
  | none => none
  | some probe =>
      if !probe.enabled then none
      else
        (handlerOf probe).map fun handler =>
          { handler := handler
            initialDelaySeconds := commonField 0 probe.initialDelaySeconds
            periodSeconds := commonField 1 probe.periodSeconds
            timeoutSeconds := commonField 1 probe.timeoutSeconds
            successThreshold := commonField 1 probe.successThreshold
            failureThreshold := commonField 1 probe.failureThreshold }

structure VolumeMount where
  name : String
  mountPath : String
  deriving DecidableEq

structure ContainerSpec where
  name : String
  image : String
  command : Option (List String)
  args : Option (List String)
  livenessProbe : Option ProbeSpec
  readinessProbe : Option ProbeSpec
  startupProbe : Option ProbeSpec
  volumeMounts : List VolumeMount

def buildWorkspaceContainerSpec (name image : String) (command args : Option String)
    (probes : Option Probes) : ContainerSpec where
  name := name
  image := image
  command := toWorkspaceTokens command
  args := toWorkspaceTokens args
  livenessProbe := buildWorkspaceProbeSpec (probes.bind (·.liveness))
  readinessProbe := buildWorkspaceProbeSpec (probes.bind (·.readiness))
  startupProbe := buildWorkspaceProbeSpec (probes.bind (·.startup))
  volumeMounts := []

def initContainerSpec (item : InitContainer) : Option ContainerSpec :=
  match trim item.name, trim item.image with
  | some name, some image => some (buildWorkspaceContainerSpec name image item.command item.args none)
  | _, _ => none

structure Volume where
  name : String
  claimName : String
  deriving DecidableEq

structure SchedulingPatch where
  nodeSelector : Option (List (String × String))
  tolerations : Option Js
  affinity : Option Js

/-- What a text says, if it can be read and is of the kind asked for. -/
def jsonPatch (parse : String → Except String Js) (raw : Option String) (field : String)
    (isKind : Js → Bool) : Option Js :=
  match raw with
  | none => none
  | some raw =>
      match parseJsonValue parse raw field with
      | .error _ => none
      | .ok value => if isKind value then some value else none

def selectorPatch (raw : Option String) : Option (List (String × String)) :=
  match raw with
  | none => none
  | some raw =>
      match parseNodeSelector raw with
      | .error _ => none
      | .ok selector => if selector = [] then none else some selector

def buildWorkspaceSchedulingSpec (parse : String → Except String Js) (body : WorkspaceRequest) :
    SchedulingPatch where
  nodeSelector := selectorPatch (schedulingText body (·.nodeSelector))
  tolerations := jsonPatch parse (schedulingText body (·.tolerations)) "tolerations" isArray
  affinity := jsonPatch parse (schedulingText body (·.affinity)) "affinity"
    fun value => value.isComposite && !isArray value

structure PodSpec where
  containers : List ContainerSpec
  initContainers : List ContainerSpec
  volumes : List Volume
  scheduling : SchedulingPatch

def mountOf (body : WorkspaceRequest) (mountedClaimName : Option String) :
    Option (String × String) :=
  if body.mountPvc then
    match trim (body.pvcMount.bind (·.mountPath)), trim mountedClaimName with
    | some mountPath, some claimName => some (mountPath, claimName)
    | _, _ => none
  else none

def podSpecOf (parse : String → Except String Js) (body : WorkspaceRequest) (image : String)
    (mountedClaimName : Option String) : PodSpec :=
  let mount := mountOf body mountedClaimName
  let main := buildWorkspaceContainerSpec ((trim body.containerName).getD "main") image body.command
    body.args body.probes
  { containers := [{ main with
      volumeMounts := (mount.map fun entry => ⟨"workspace-pvc", entry.1⟩).toList }]
    initContainers := (body.initContainers.getD []).filterMap initContainerSpec
    volumes := (mount.map fun entry => ⟨"workspace-pvc", entry.2⟩).toList
    scheduling := buildWorkspaceSchedulingSpec parse body }

structure WorkloadTemplate where
  replicas : Option Number
  serviceName : Option String
  labels : List (String × String)
  spec : PodSpec

inductive WorkspaceSpec where
  | pod (spec : PodSpec)
  | templated (template : WorkloadTemplate)

def WorkspaceSpec.podSpec : WorkspaceSpec → PodSpec
  | pod spec => spec
  | templated template => template.spec

/-- `buildWorkspaceSpec`, which throws where there is no name or no image. -/
def buildWorkspaceSpec (parse : String → Except String Js) (body : WorkspaceRequest)
    (mountedClaimName : Option String) : Option WorkspaceSpec :=
  match body.name, body.image with
  | some name, some image =>
      let podSpec := podSpecOf parse body (Text.trim image) mountedClaimName
      let labels := [("app", Text.trim name)]
      let replicas := some (body.replicas.getD (.ofNat 1))
      some (
        if body.kind = some "Pod" then .pod podSpec
        else if body.kind = some "Deployment" then .templated ⟨replicas, none, labels, podSpec⟩
        else if body.kind = some "StatefulSet" then
          .templated ⟨replicas, some (Text.trim name), labels, podSpec⟩
        else if body.kind = some "ReplicaSet" then .templated ⟨replicas, none, labels, podSpec⟩
        else .templated ⟨none, none, labels, podSpec⟩)
  | _, _ => none

end KubeNova.Workloads.Workspace
