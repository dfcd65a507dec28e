import KubeNova.Foundation.JsFields
import KubeNova.Foundation.JsonText
import KubeNova.Foundation.JsNumber
import KubeNova.Foundation.Trimming

/-!
# Workspace requests

What a user fills in to create a workload with its volume, its service and its ingress, how a
request is normalised, and how the texts in it are read by both the validation and the builder.
-/

namespace KubeNova.Workloads.Workspace

open KubeNova.Foundation

/-! ## Requests -/

/-- A field for a number: absent or null, a number, or anything else. -/
inductive NumberField where
  | unset
  | number (value : Number)
  | other

structure StorageMount where
  storageSourceType : Option String
  useExistingPvc : Bool
  existingPvcName : Option String
  existingPvName : Option String
  existingStorageClassName : Option String
  newPvcName : Option String
  newPvcCapacity : Option String
  newPvcStorageClass : Option String
  mountPath : Option String

structure Service where
  name : Option String
  containerPort : Option Number
  servicePort : Option Number

structure Ingress where
  name : Option String
  host : Option String

structure IngressRoute where
  name : Option String
  entryPoints : Option String
  routeMatch : Option String

structure InitContainer where
  name : Option String
  image : Option String
  command : Option String
  args : Option String

structure Scheduling where
  nodeSelector : Option String
  tolerations : Option String
  affinity : Option String

structure Probe where
  enabled : Bool
  type : Option String
  path : Option String
  port : NumberField
  scheme : Option String
  command : Option String
  initialDelaySeconds : NumberField
  periodSeconds : NumberField
  timeoutSeconds : NumberField
  successThreshold : NumberField
  failureThreshold : NumberField

structure Probes where
  liveness : Option Probe
  readiness : Option Probe
  startup : Option Probe

structure WorkspaceRequest where
  clusterId : Option String
  ns : Option String
  kind : Option String
  name : Option String
  replicas : Option Number
  containerName : Option String
  image : Option String
  command : Option String
  args : Option String
  mountPvc : Bool
  pvcMount : Option StorageMount
  createService : Bool
  service : Option Service
  createIngress : Bool
  networkMode : Option String
  ingress : Option Ingress
  ingressRoute : Option IngressRoute
  initContainers : Option (List InitContainer)
  scheduling : Option Scheduling
  probes : Option Probes

/-- `value?.trim() || undefined` -/
def trim (value : Option String) : Option String := (value.map Text.trim).filter (· ≠ "")

def normalizeMount (mount : StorageMount) : StorageMount where
  storageSourceType :=
    if mount.storageSourceType = some "PV" ∨ mount.storageSourceType = some "SC" then
      mount.storageSourceType
    else some "PVC"
  useExistingPvc := mount.useExistingPvc
  existingPvcName := trim mount.existingPvcName
  existingPvName := trim mount.existingPvName
  existingStorageClassName := trim mount.existingStorageClassName
  newPvcName := trim mount.newPvcName
  newPvcCapacity := trim mount.newPvcCapacity
  newPvcStorageClass := trim mount.newPvcStorageClass
  mountPath := trim mount.mountPath

def normalizeWorkspaceProbe (probe : Probe) : Probe :=
  { probe with
    type := if probe.type = some "tcpSocket" ∨ probe.type = some "exec" then probe.type
      else some "httpGet"
    path := trim probe.path
    scheme := some (if probe.scheme = some "HTTPS" then "HTTPS" else "HTTP")
    command := trim probe.command }

def normalizeProbes (probes : Probes) : Probes where
  liveness := probes.liveness.map normalizeWorkspaceProbe
  readiness := probes.readiness.map normalizeWorkspaceProbe
  startup := probes.startup.map normalizeWorkspaceProbe

def normalizeInitContainer (item : InitContainer) : InitContainer :=
  ⟨trim item.name, trim item.image, trim item.command, trim item.args⟩

def normalizeWorkspaceRequest (body : WorkspaceRequest) : WorkspaceRequest :=
  { body with
    clusterId := trim body.clusterId
    ns := trim body.ns
    kind := trim body.kind
    name := trim body.name
    containerName := trim body.containerName
    image := trim body.image
    command := trim body.command
    args := trim body.args
    pvcMount := body.pvcMount.map normalizeMount
    service := body.service.map fun service => { service with name := trim service.name }
    ingress := body.ingress.map fun ingress => ⟨trim ingress.name, trim ingress.host⟩
    networkMode := some (if body.networkMode = some "ingressroute" then "ingressroute" else "ingress")
    ingressRoute := body.ingressRoute.map fun route =>
      ⟨trim route.name, trim route.entryPoints, trim route.routeMatch⟩
    scheduling := body.scheduling.map fun scheduling =>
      ⟨trim scheduling.nodeSelector, trim scheduling.tolerations, trim scheduling.affinity⟩
    probes := body.probes.map normalizeProbes
    initContainers := some ((body.initContainers.getD []).map normalizeInitContainer) }

/-! ## Reading the fields -/

def NumberField.int? : NumberField → Option Int
  | .number (.finite q) => if q.den = 1 then some q.num else none
  | _ => none

def NumberField.ofInt (n : Int) : NumberField := .number (.finite n)

def isValidProbePort (port : NumberField) : Bool :=
  port.int?.any fun n => decide (1 ≤ n ∧ n ≤ 65535)

def toWorkspaceTokens (raw : Option String) : Option (List String) :=
  let tokens := (((raw.map Text.trim).getD "").toList.splitOnP Text.isSpace).filter (· ≠ [])
  if tokens = [] then none else some (tokens.map String.ofList)

def selectorLines (raw : String) : List String := ((Text.split '\n' raw).map Text.trim).filter (· ≠ "")

/-- What stands before the first `=` of a line and behind it. -/
def linePair (line : String) : String × String :=
  (Text.trim (String.ofList (line.toList.takeWhile (· ≠ '='))),
    Text.trim (String.ofList (line.toList.dropWhile (· ≠ '=')).tail))

def selectorMessage (line : String) : String :=
  "nodeSelector 格式错误：" ++ line ++ "（应为 key=value）"

/-- `result[key] = value`, where a text is no prototype. -/
def assignText (result : List (String × String)) (entry : String × String) :
    List (String × String) :=
  if entry.1 = "__proto__" then result else setField result entry.1 entry.2

/-- What a line says, unless there is no `=` in it, nothing before it or nothing behind it. -/
def readLine (line : String) : Except String (String × String) :=
  let before := line.toList.takeWhile (· ≠ '=')
  let rest := line.toList.dropWhile (· ≠ '=')
  if before = [] ∨ rest.length ≤ 1 ∨ (linePair line).1 = "" ∨ (linePair line).2 = "" then
    .error (selectorMessage line)
  else .ok (linePair line)

def parseSelectorLines (result : List (String × String)) :
    List String → Except String (List (String × String))
  | [] => .ok result
  | line :: lines =>
      match readLine line with
      | .error message => .error message
      | .ok entry => parseSelectorLines (assignText result entry) lines

def parseNodeSelector (raw : String) : Except String (List (String × String)) :=
  parseSelectorLines [] (selectorLines raw)

/-- `JSON.parse(raw)` by `parse`, with the message for the field it is in. -/
def parseJsonValue (parse : String → Except String Js) (raw field : String) : Except String Js :=
  match parse raw with
  | .ok value => .ok value
  | .error message => .error (field ++ " 不是合法 JSON：" ++ message)

section Readers

theorem trim_eq_some {value : Option String} {text : String} (h : trim value = some text) :
    Text.trim text = text ∧ text ≠ "" := by
  obtain ⟨hmap, hne⟩ := Option.filter_eq_some_iff.mp h
  obtain ⟨raw, -, rfl⟩ := Option.map_eq_some_iff.mp hmap
  exact ⟨Text.trim_trim raw, of_decide_eq_true hne⟩

theorem trim_trim (value : Option String) : trim (trim value) = trim value := by
  cases h : trim value with
  | none => rfl
  | some text =>
      obtain ⟨htrim, hne⟩ := trim_eq_some h
      rw [trim, Option.map_some, htrim, Option.filter_some, if_pos (decide_eq_true hne)]

theorem eq_ofInt {field : NumberField} {n : Int} (h : field.int? = some n) :
    field = .ofInt n := by
  cases field with
  | unset => cases h
  | other => cases h
  | number value =>
      cases value with
      | finite q =>
          rw [NumberField.int?] at h
          split_ifs at h with hden
          rw [← Option.some.inj h, NumberField.ofInt, Rat.coe_int_num_of_den_eq_one hden]
      | _ => cases h

theorem readLine_eq_ok {line : String} {entry : String × String} (h : readLine line = .ok entry) :
    entry = linePair line := by
  unfold readLine at h
  dsimp only at h
  split at h
  · cases h
  · exact (Except.ok.inj h).symm

theorem parseSelectorLines_eq_ok {result selector : List (String × String)} {lines : List String}
    (h : parseSelectorLines result lines = .ok selector) :
    selector = (lines.map linePair).foldl assignText result := by
  induction lines generalizing result with
  | nil => exact (Except.ok.inj h).symm
  | cons line lines ih =>
      rw [parseSelectorLines] at h
      cases hline : readLine line with
      | error message =>
          rw [hline] at h
          cases h
      | ok entry =>
          rw [hline] at h
          rw [List.map_cons, List.foldl_cons, ← readLine_eq_ok hline]
          exact ih h

theorem lookup_assignText {result : List (String × String)} {entry : String × String}
    {key : String} (hkey : key ≠ "__proto__") : (assignText result entry).lookup key =
      if key = entry.1 then some entry.2 else result.lookup key := by
  rw [assignText]
  by_cases hproto : entry.1 = "__proto__"
  · rw [if_pos hproto, if_neg fun heq => hkey (heq.trans hproto)]
  · rw [if_neg hproto]
    by_cases heq : key = entry.1
    · rw [if_pos heq, heq]
      exact lookup_setField_self
    · rw [if_neg heq]
      exact lookup_setField_of_ne heq

theorem lookup_foldl_assignText {entries result : List (String × String)} {key : String}
    (hkey : key ≠ "__proto__") : (entries.foldl assignText result).lookup key =
      (entries.reverse.lookup key).or (result.lookup key) := by
  induction entries generalizing result with
  | nil => rfl
  | cons entry entries ih =>
      rw [List.foldl_cons, ih, lookup_assignText hkey, List.reverse_cons, List.lookup_append,
        Option.or_assoc]
      congr 1
      rw [lookup_cons_eq]
      split <;> rfl

theorem lookup_proto_foldl (entries : List (String × String)) :
    (entries.foldl assignText []).lookup "__proto__" = none := by
  have hkeep : ∀ result : List (String × String), result.lookup "__proto__" = none →
      (entries.foldl assignText result).lookup "__proto__" = none := by
    induction entries with
    | nil => exact fun result hresult => hresult
    | cons entry entries ih =>
        intro result hresult
        rw [List.foldl_cons]
        apply ih
        rw [assignText]
        split
        · exact hresult
        · rename_i hproto
          rw [lookup_setField_of_ne (Ne.symm hproto), hresult]
  exact hkeep [] rfl

end Readers

end KubeNova.Workloads.Workspace
