import KubeNova.Common.Exceptions
import KubeNova.Foundation.JsValue

/-!
# Autoscaling policies

How `AutoscalingService` reads a policy out of a HorizontalPodAutoscaler or a VerticalPodAutoscaler
and writes one.  The numbers of a request are rational, those of the cluster integers.
-/

namespace KubeNova.Autoscaling

open KubeNova.Foundation KubeNova.Common

inductive AutoscalingType where
  | hpa
  | vpa
  deriving Repr, DecidableEq

def AutoscalingType.text : AutoscalingType → String
  | hpa => "HPA"
  | vpa => "VPA"

def hpaApiVersion : String := "autoscaling/v2"

def hpaKind : String := "HorizontalPodAutoscaler"

def vpaApiVersion : String := "autoscaling.k8s.io/v1"

def vpaKind : String := "VerticalPodAutoscaler"

def AutoscalingType.apiVersion : AutoscalingType → String
  | hpa => hpaApiVersion
  | vpa => vpaApiVersion

def AutoscalingType.kind : AutoscalingType → String
  | hpa => hpaKind
  | vpa => vpaKind

structure Identity where
  clusterId : String
  «namespace» : String
  kind : String
  name : String
  deriving Repr, DecidableEq

structure K8sObject where
  apiVersion : String
  kind : String
  «namespace» : String
  name : String
  uid : String
  resourceVersion : Nat
  creationTimestamp : String
  annotations : List (String × String)
  spec : Js
  status : Js

/-- A request's `Partial<HpaPolicyConfig>`. -/
structure HpaPolicyInput where
  minReplicas : Option Rat
  maxReplicas : Option Rat
  targetCpuUtilizationPercentage : Option Rat
  targetMemoryUtilizationPercentage : Option Rat
  metrics : Js
  behavior : Js

structure VpaPolicyInput where
  updateMode : Option String
  minAllowedCpu : Option String
  maxAllowedCpu : Option String
  minAllowedMemory : Option String
  maxAllowedMemory : Option String
  controlledResources : Option (List String)

structure HpaConfig where
  minReplicas : Int
  maxReplicas : Int
  targetCpuUtilizationPercentage : Option Int
  targetMemoryUtilizationPercentage : Option Int
  metrics : Js
  behavior : Js

structure VpaConfig where
  updateMode : String
  minAllowedCpu : Option String
  maxAllowedCpu : Option String
  minAllowedMemory : Option String
  maxAllowedMemory : Option String
  controlledResources : Option (List String)

inductive PolicyConfig where
  | hpa (config : HpaConfig)
  | vpa (config : VpaConfig)

structure AutoscalingPolicyItem where
  id : String
  type : AutoscalingType
  enabled : Bool
  clusterId : String
  «namespace» : String
  workloadKind : String
  workloadName : String
  resourceName : String
  workloadId : String
  replicas : Option Int
  readyReplicas : Option Int
  config : PolicyConfig
  createdAt : String
  updatedAt : String

namespace AutoscalingPolicyItem

def state (item : AutoscalingPolicyItem) : String := if item.enabled then "enabled" else "disabled"

end AutoscalingPolicyItem

/-! ## Reading -/

def isHpaEnabled (resource : K8sObject) : Bool :=
  resource.annotations.lookup "aiops.kubenova.io/disabled" != some "true"

def readVpaUpdateMode (value : Js) : String :=
  match value.text? with
  | some "Off" => "Off"
  | some "Initial" => "Initial"
  | _ => "Auto"

def isVpaEnabled (resource : K8sObject) : Bool :=
  readVpaUpdateMode ((resource.spec.field "updatePolicy").field "updateMode") != "Off"

def readNumber (value : Js) (fallback : Int) : Int := value.int?.getD fallback

def readTarget (resource : String) (metrics : Js) : Option Int :=
  match metrics.elements? with
  | none => none
  | some elements =>
      match elements.find? fun metric =>
          ((metric.field "resource").field "name").text? == some resource with
      | none => none
      | some metric => (((metric.field "resource").field "target").field "averageUtilization").int?

def readTargetCpu (metrics : Js) : Option Int := readTarget "cpu" metrics

def readTargetMemory (metrics : Js) : Option Int := readTarget "memory" metrics

def readHpaMetrics (metrics : Js) : Js :=
  if metrics.elements?.isSome then metrics else .undefined

def readHpaBehavior (behavior : Js) : Js := if behavior.isComposite then behavior else .undefined

def containerPolicy (policy : Js) : Js :=
  ((policy.field "containerPolicies").child (.index 0)).getD .undefined

/-- The bound on the resource, `minAllowed` or `maxAllowed`. -/
def readVpaResourceLimit (policy : Js) (resource bound : String) : Option String :=
  (((containerPolicy policy).field bound).field resource).text?

def readVpaControlledResources (policy : Js) : List String :=
  match ((containerPolicy policy).field "controlledResources").elements? with
  | some list => list.filterMap Js.text?
  | none => ["cpu", "memory"]

def hpaToPolicy (resource : K8sObject) : AutoscalingPolicyItem :=
  let spec := resource.spec
  let workloadName := ((spec.field "scaleTargetRef").field "name").text?.getD ""
  let workloadKind := ((spec.field "scaleTargetRef").field "kind").text?.getD ""
  { id := resource.uid ++ "/" ++ resource.name
    type := .hpa
    enabled := isHpaEnabled resource
    clusterId := ""
    «namespace» := resource.namespace
    workloadKind := workloadKind
    workloadName := workloadName
    resourceName := resource.name
    workloadId := resource.namespace ++ "/" ++ workloadKind ++ "/" ++ workloadName
    replicas := (resource.status.field "currentReplicas").int?
    readyReplicas := (resource.status.field "desiredReplicas").int?
    config := .hpa
      { minReplicas := readNumber (spec.field "minReplicas") 1
        maxReplicas := readNumber (spec.field "maxReplicas") 1
        targetCpuUtilizationPercentage := readTargetCpu (spec.field "metrics")
        targetMemoryUtilizationPercentage := readTargetMemory (spec.field "metrics")
        metrics := readHpaMetrics (spec.field "metrics")
        behavior := readHpaBehavior (spec.field "behavior") }
    createdAt := resource.creationTimestamp
    updatedAt := resource.creationTimestamp }

def vpaToPolicy (resource : K8sObject) : AutoscalingPolicyItem :=
  let spec := resource.spec
  let policy := spec.field "resourcePolicy"
  let workloadName := ((spec.field "targetRef").field "name").text?.getD ""
  let workloadKind := ((spec.field "targetRef").field "kind").text?.getD ""
  { id := resource.uid ++ "/" ++ resource.name
    type := .vpa
    enabled := isVpaEnabled resource
    clusterId := ""
    «namespace» := resource.namespace
    workloadKind := workloadKind
    workloadName := workloadName
    resourceName := resource.name
    workloadId := resource.namespace ++ "/" ++ workloadKind ++ "/" ++ workloadName
    replicas := none
    readyReplicas := none
    config := .vpa
      { updateMode := readVpaUpdateMode ((spec.field "updatePolicy").field "updateMode")
        minAllowedCpu := readVpaResourceLimit policy "cpu" "minAllowed"
        maxAllowedCpu := readVpaResourceLimit policy "cpu" "maxAllowed"
        minAllowedMemory := readVpaResourceLimit policy "memory" "minAllowed"
        maxAllowedMemory := readVpaResourceLimit policy "memory" "maxAllowed"
        controlledResources := some (readVpaControlledResources policy) }
    createdAt := resource.creationTimestamp
    updatedAt := resource.creationTimestamp }

def toPolicyItem (resource : K8sObject) : AutoscalingType → AutoscalingPolicyItem
  | .hpa => hpaToPolicy resource
  | .vpa => vpaToPolicy resource

def attachClusterId (item : AutoscalingPolicyItem) (clusterId : String) : AutoscalingPolicyItem :=
  { item with clusterId := clusterId }

def normalizePercent (value : Rat) (field : String) : Except Exception Int :=
  if value.den ≠ 1 ∨ value < 1 ∨ 100 < value then
    .error (.badRequest (field ++ " 需为 1-100 的整数"))
  else .ok value.num

def normalizePercent? (value : Option Rat) (field : String) : Except Exception (Option Int) :=
  match value with
  | none => .ok none
  | some value => (normalizePercent value field).map some

/-- The metric that one of a request stands for; `metricName` names it where no resource does. -/
def metricOfSource (metric metricName : Js) : List Js :=
  let sourceType := metric.field "sourceType"
  let targetType := metric.field "targetType"
  let targetValue := metric.field "targetValue"
  let given (wanted : String) : Js :=
    if targetType.text? = some wanted then targetValue else .undefined
  if !sourceType.truthy || !targetType.truthy || !targetValue.truthy then []
  else if sourceType.text? = some "Resource" then
    if !(metric.field "name").truthy then []
    else [.object [("type", .string "Resource"), ("resource", .object [
      ("name", metric.field "name"),
      ("target", .object [("type", targetType),
        ("averageUtilization",
          if targetType.text? = some "Utilization" then targetValue.toNumber else .undefined),
        ("averageValue", given "AverageValue"), ("value", given "Value")])])]]
  else if !metricName.truthy then []
  else
    let selector := metric.field "selector"
    [.object [("type", sourceType),
      (if sourceType.text? = some "Pods" then "pods" else "external", .object [
        ("metric", .object [("name", metricName)]),
        ("selector", if selector.truthy then selector else .undefined),
        ("target", .object [("type", targetType), ("averageValue", given "AverageValue"),
          ("value", given "Value")])])]]

def normalizeHpaMetrics (metrics : Js) : List Js :=
  (metrics.elements?.getD []).flatMap fun metric =>
    if metric.isComposite then metricOfSource metric (metric.field "metricName") else []

def normalizeSingleHpaMetric (metric : Js) : List Js :=
  match metric with
  | .object _ =>
      let type := metric.field "type"
      if type.text?.any fun text => Text.trim text != "" then
        if type.text? = some "Resource" ∧ (metric.field "targetType").truthy = true ∧
            (metric.field "resource").isComposite = false then
          let name := (metric.field "name").orElse ((metric.field "resource").field "name")
          metricOfSource (.object [("sourceType", .string "Resource"), ("name", name),
            ("targetType", metric.field "targetType"),
            ("targetValue", metric.field "targetValue")]) name
        else [metric]
      else metricOfSource metric ((metric.field "metricName").orElse (metric.field "name"))
  | _ => []

def buildHpaConfig (input : Option HpaPolicyInput) : Except Exception HpaConfig :=
  match input with
  | some ⟨some minReplicas, some maxReplicas, cpu, memory, metrics, behavior⟩ => do
      if minReplicas.den ≠ 1 ∨ maxReplicas.den ≠ 1 ∨ minReplicas < 1 ∨ maxReplicas < minReplicas then
        throw (.badRequest "HPA 参数非法：要求 minReplicas>=1 且 maxReplicas>=minReplicas")
      let cpu ← normalizePercent? cpu "targetCpuUtilizationPercentage"
      let memory ← normalizePercent? memory "targetMemoryUtilizationPercentage"
      return ⟨minReplicas.num, maxReplicas.num, cpu, memory,
        if metrics.truthy then .array (normalizeHpaMetrics metrics) else .undefined, behavior⟩
  | _ => .error (.badRequest "HPA 需要 minReplicas 与 maxReplicas")

def buildVpaConfig (input : Option VpaPolicyInput) : Except Exception VpaConfig :=
  match input with
  | some ⟨some updateMode, minCpu, maxCpu, minMemory, maxMemory, controlledResources⟩ =>
      if ["Off", "Initial", "Auto"].contains updateMode then
        .ok ⟨updateMode, minCpu, maxCpu, minMemory, maxMemory, controlledResources⟩
      else .error (.badRequest "VPA 需要 updateMode，取值 Off|Initial|Auto")
  | _ => .error (.badRequest "VPA 需要 updateMode，取值 Off|Initial|Auto")

def resolveWorkloadApiVersion (kind : String) : String :=
  match Text.toLower (Text.trim kind) with
  | "pod" => "v1"
  | "job" => "batch/v1"
  | "cronjob" => "batch/v1"
  | _ => "apps/v1"

def resolveAutoscalingResourceName (name suffix : String) : String :=
  if Text.endsWith suffix (Text.trim name) then Text.trim name else Text.trim name ++ suffix

def writtenName (name suffix : String) : String :=
  if Text.endsWith suffix name then name else resolveAutoscalingResourceName name suffix

def utilizationMetric (resource : String) (target : Option Int) : List Js :=
  match target with
  | none => []
  | some n => [.object [("type", .string "Resource"), ("resource", .object [
      ("name", .string resource),
      ("target", .object [("type", .string "Utilization"), ("averageUtilization", .ofInt n)])])]]

def buildHpaMetricsFromConfig (config : HpaConfig) : List Js :=
  match config.metrics.elements? with
  | some (metric :: metrics) => (metric :: metrics).flatMap normalizeSingleHpaMetric
  | _ => utilizationMetric "cpu" config.targetCpuUtilizationPercentage ++
      utilizationMetric "memory" config.targetMemoryUtilizationPercentage

def targetRef (identity : Identity) (workloadName : Option String) : Js :=
  .object [("apiVersion", .string (resolveWorkloadApiVersion identity.kind)),
    ("kind", .string identity.kind), ("name", .string (workloadName.getD identity.name))]

def toHpaSpec (identity : Identity) (config : HpaConfig) (workloadName : Option String) : Js :=
  let metrics := buildHpaMetricsFromConfig config
  .object [("scaleTargetRef", targetRef identity workloadName),
    ("minReplicas", .ofInt config.minReplicas), ("maxReplicas", .ofInt config.maxReplicas),
    ("metrics", if metrics.isEmpty then .undefined else .array metrics),
    ("behavior", if config.behavior.truthy then config.behavior else .undefined)]

def buildResourceBound (cpu memory : Option String) : Js :=
  let given (name : String) (value : Option String) : List (String × Js) :=
    match value with
    | none => []
    | some text => if Text.trim text = "" then [] else [(name, .string (Text.trim text))]
  match given "cpu" cpu ++ given "memory" memory with
  | [] => .undefined
  | fields => .object fields

/-- The `spec` of `toVpaObject`. -/
def toVpaSpec (identity : Identity) (config : VpaConfig) (workloadName : Option String) : Js :=
  .object [("targetRef", targetRef identity workloadName),
    ("updatePolicy", .object [
      ("updateMode", .string (readVpaUpdateMode (.string config.updateMode)))]),
    ("resourcePolicy", .object [("containerPolicies", .array [.object [
      ("containerName", .string "*"),
      ("controlledResources", .array
        ((config.controlledResources.getD ["cpu", "memory"]).map Js.string)),
      ("minAllowed", buildResourceBound config.minAllowedCpu config.minAllowedMemory),
      ("maxAllowed", buildResourceBound config.maxAllowedCpu config.maxAllowedMemory)]])])]

end KubeNova.Autoscaling
