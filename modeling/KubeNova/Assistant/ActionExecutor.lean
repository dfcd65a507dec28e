import KubeNova.Foundation.JsValue
import KubeNova.Native.Request

/-!
# Actions of the assistant

The registry of operations, the aliases, and what `AiActionExecutorService`
checks of an action before it shows a preview.
-/

namespace KubeNova.Assistant

open KubeNova.Foundation

inductive AiActionScope where
  | platform
  | cluster
  | namespaced
  | resource
  deriving Repr, DecidableEq

inductive AiActionRisk where
  | read
  | low
  | medium
  | high
  | critical
  deriving Repr, DecidableEq

structure AiActionDefinition where
  scope : AiActionScope
  risk : AiActionRisk
  requiresApproval : Bool
  deriving Repr, DecidableEq

def aiActionRegistry : List (String × AiActionDefinition) :=
  [("enable", ⟨.resource, .medium, true⟩),
   ("disable", ⟨.resource, .high, true⟩),
   ("batch-enable", ⟨.resource, .high, true⟩),
   ("batch-disable", ⟨.resource, .high, true⟩),
   ("query-pods-overview", ⟨.namespaced, .read, false⟩),
   ("query-deployments-overview", ⟨.namespaced, .read, false⟩),
   ("query-nodes-overview", ⟨.cluster, .read, false⟩),
   ("query-pv-pvc-bindings", ⟨.namespaced, .read, false⟩),
   ("query-pvcs", ⟨.namespaced, .read, false⟩),
   ("query-storageclasses", ⟨.cluster, .read, false⟩),
   ("query-configmaps", ⟨.namespaced, .read, false⟩),
   ("query-helm-releases", ⟨.namespaced, .read, false⟩),
   ("query-helm-repositories", ⟨.cluster, .read, false⟩),
   ("import-helm-repository-presets", ⟨.cluster, .high, true⟩),
   ("restart-workload", ⟨.resource, .high, true⟩),
   ("vm-power-on", ⟨.resource, .high, true⟩),
   ("vm-power-off", ⟨.resource, .critical, true⟩),
   ("vm-restart", ⟨.resource, .high, true⟩),
   ("apply-resource-manifest", ⟨.namespaced, .critical, true⟩)]

def getAiActionDefinition (operation : Option String) : Option AiActionDefinition :=
  operation.bind fun name => aiActionRegistry.lookup name

def isReadOnlyAiAction (operation : Option String) : Bool :=
  (getAiActionDefinition operation).any (·.risk == .read)

/-- `AiActionExecuteInput`: the operation and whatever other fields the request carries. -/
structure AiActionExecuteInput where
  operation : Option String
  fields : List (String × Js)
  others : ∀ field ∈ fields, field.1 ≠ "operation"

namespace AiActionExecuteInput

def js (action : AiActionExecuteInput) : Js :=
  .object (("operation", (action.operation.map Js.string).getD .undefined) :: action.fields)

def target (action : AiActionExecuteInput) : Js := (Js.object action.fields).field "target"

def targets (action : AiActionExecuteInput) : Js := (Js.object action.fields).field "targets"

end AiActionExecuteInput

structure AiActionActor where
  userId : Option String
  username : Option String
  role : Option String
  deriving Repr, DecidableEq

inductive ErrorCode where
  | validationError
  | forbidden
  | notFound
  | internalError
  deriving Repr, DecidableEq

structure AiActionExecutionError where
  code : ErrorCode
  message : String
  deriving Repr, DecidableEq

/-- What `AiActionExecutorService.preview` answers. -/
inductive AiActionPreview where
  | ok (operation : String) (targets : Js) (rollbackSuggestion : String) (result : Option Js)
  | invalid (error : AiActionExecutionError)

namespace AiActionExecutorService

def invalid {α : Type} (message : String) : Except AiActionExecutionError α :=
  .error ⟨.validationError, message⟩

def normalizeActionOperationAlias : Option String → Option String
  | none => none
  | some "" => none
  | some "query-configmaps-overview" => some "query-configmaps"
  | some "query-pvc-overview" => some "query-pvcs"
  | some "query-storageclass-overview" => some "query-storageclasses"
  | some "vm-power-restart" => some "vm-restart"
  | some operation => some operation

/-- `value?.trim()`, for a field that is a string when it is there. -/
def trimmed (value : Js) : String := (value.text?.map Text.trim).getD ""

def requireSimpleField (value : Js) (path : String) (min max : Nat) :
    Except AiActionExecutionError String :=
  let normalized := trimmed value
  if normalized = "" then invalid (path ++ " is required")
  else if Text.length normalized < min ∨ max < Text.length normalized then
    invalid (path ++ " length must be " ++ toString min ++ "-" ++ toString max)
  else .ok normalized

def requireClusterId (target : Js) (path : String) : Except AiActionExecutionError String :=
  requireSimpleField (target.field "clusterId") path 1 64

def isK8sName (name : String) : Bool := Native.isName ['-'] name.toList

def requireNamespace (value : Js) (path : String) : Except AiActionExecutionError String := do
  let namespaceName ← requireSimpleField value path 1 63
  if isK8sName namespaceName then .ok namespaceName else invalid (path ++ " is invalid")

def requireManifest (value : Js) : Except AiActionExecutionError String :=
  let manifest := trimmed value
  if manifest = "" ∨ 2000000 < Text.length manifest then
    invalid "target.manifest 必须是有效的非空 YAML"
  else .ok manifest

def validateTarget (target : Js) (path : String) (requireResourceIdentity : Bool) :
    Except AiActionExecutionError Unit := do
  if target.isComposite = false then
    invalid (path ++ " is required")
  else if requireResourceIdentity ∧ trimmed (target.field "resourceType") = "" then
    invalid (path ++ ".resourceType is required")
  else if requireResourceIdentity ∧ trimmed (target.field "resourceId") = "" then
    invalid (path ++ ".resourceId is required")
  else .ok ()

def validateTargets (targets : List Js) : Except AiActionExecutionError Unit :=
  targets.zipIdx.forM fun (target, index) =>
    validateTarget target ("targets[" ++ toString index ++ "]") true

def validateAction (action : AiActionExecuteInput) : Except AiActionExecutionError String := do
  match normalizeActionOperationAlias action.operation with
  | none => invalid "operation is invalid"
  | some operation =>
      if (getAiActionDefinition (some operation)).isNone then
        invalid "operation is invalid"
      else if operation = "batch-enable" ∨ operation = "batch-disable" then
        match action.targets with
        | .array (target :: rest) => do
            validateTargets (target :: rest)
            return operation
        | _ => invalid "targets is required for batch operation"
      else if action.target.truthy = false then
        invalid "target is required"
      else
        validateTarget action.target "target" (operation == "enable" || operation == "disable")
        if operation = "apply-resource-manifest" then
          let _ ← requireClusterId action.target "target.clusterId"
          let _ ← requireNamespace (action.target.field "namespace") "target.namespace"
          let _ ← requireManifest (action.target.field "manifest")
          return operation
        else return operation

def normalizeTargets (operation : String) (action : AiActionExecuteInput) : Js :=
  if operation = "batch-enable" ∨ operation = "batch-disable" then action.targets
  else .array [action.target]

def buildRollbackSuggestion (operation : String) : String :=
  match operation with
  | "enable" => "建议回滚操作: disable 同一资源。"
  | "disable" => "建议回滚操作: enable 同一资源。"
  | "batch-enable" => "建议回滚操作: 对同一批资源执行 batch-disable。"
  | "batch-disable" => "建议回滚操作: 对同一批资源执行 batch-enable。"
  | "restart-workload" => "建议回滚操作: 回滚到前一版本 revision。"
  | "vm-power-on" => "建议回滚操作: 执行 vm-power-off。"
  | "vm-power-off" => "建议回滚操作: 执行 vm-power-on。"
  | "vm-restart" => "建议回滚操作: 依据运行状态执行 vm-power-on/vm-power-off。"
  | "import-helm-repository-presets" => "建议回滚操作: 删除新导入的模板仓库记录。"
  | _ => "建议回滚操作: 根据审计记录执行反向动作。"

/-- `dryRun` is what the access checks and the dry run of a manifest come to. -/
def preview (dryRun : Except AiActionExecutionError Js) (action : AiActionExecuteInput) :
    AiActionPreview :=
  match validateAction action with
  | .error error => .invalid error
  | .ok operation =>
      let targets := normalizeTargets operation action
      if operation = "apply-resource-manifest" then
        match dryRun with
        | .error error => .invalid error
        | .ok result => .ok operation targets (buildRollbackSuggestion operation) (some result)
      else .ok operation targets (buildRollbackSuggestion operation) none

end AiActionExecutorService
end KubeNova.Assistant
