import KubeNova.Assistant.ActionExecutor
import KubeNova.Assistant.StableJson
import KubeNova.Foundation.RelyGuarantee
import KubeNova.Foundation.Table

/-!
# Approvals of the assistant's writes

`AiActionApprovalService`: a preview leaves a pending approval behind, and a
write has to consume it before the executor is invoked.
-/

namespace KubeNova.Assistant

open KubeNova.Common KubeNova.Foundation

def approvalTtlMs : Nat := 5 * 60000

inductive ApprovalStatus where
  | pending
  | approved
  | rejected
  | executed
  | expired
  deriving Repr, DecidableEq

/-- A row of `AiActionApproval`. -/
structure StoredApproval where
  actorUserId : Option String
  clusterId : Option String
  action : String
  targetJson : Js
  previewJson : Js
  status : ApprovalStatus
  approvedAt : Option Nat
  createdAt : Nat

/-- What happened, newest first in `ApprovalState.log`; no table keeps it. -/
inductive ApprovalEvent where
  /-- A preview of this action created the approval. -/
  | previewed (approvalId userId : String) (action : AiActionExecuteInput) (createdAt : Nat)
  /-- The executor was invoked by this user with this action, without an approval. -/
  | ran (userId : Option String) (action : AiActionExecuteInput) (invokedAt : Nat)
  /-- The executor was invoked for the approval, whose age was looked at when the clock
  showed `checkedAt`. -/
  | invoked (approvalId userId : String) (action : AiActionExecuteInput)
      (checkedAt invokedAt : Nat)

structure ApprovalState where
  now : Nat
  /-- The clock that dates the rows. -/
  dbNow : Nat
  approvals : Table String StoredApproval
  log : List ApprovalEvent

abbrev ApprovalHandler (α : Type) := Async Exception ApprovalState α

def ApprovalState.record (e : ApprovalEvent) (s : ApprovalState) : ApprovalState :=
  { s with log := e :: s.log }

/-- What the platform and the clusters answer to one request. -/
structure ApprovalOutcomes (ρ : Type) where
  /-- The id of a new row. -/
  approvalId : String
  dryRun : Except AiActionExecutionError Js
  /-- What the executor's work comes to. -/
  executed : Except Exception ρ

structure PreviewResponse where
  preview : AiActionPreview
  approvalId : Option String
  expiresAt : Option Nat

def isReadOnly (action : AiActionExecuteInput) : Bool := isReadOnlyAiAction action.operation

def canonicalAction (action : AiActionExecuteInput) (operation : String) : AiActionExecuteInput :=
  { action with operation := some operation }

namespace AiActionApprovalService

/-- Pending approvals of before `Date.now() - APPROVAL_TTL_MS` expire. -/
def expirePending (s : ApprovalState) : Unit × ApprovalState :=
  let isStale := fun (_ : String) (row : StoredApproval) =>
    row.status == .pending && row.createdAt + approvalTtlMs < s.now
  ((), { s with
    approvals := s.approvals.updateWhere isStale fun row => { row with status := .expired } })

/-- The row of `aiActionApproval.create`. -/
def newApproval (userId : String) (confirmedAction : AiActionExecuteInput) (operation : String)
    (targets : Js) (rollbackSuggestion : String) (createdAt : Nat) : StoredApproval where
  actorUserId := some userId
  clusterId := ((confirmedAction.target.orElse
    ((confirmedAction.targets.child (.index 0)).getD .undefined)).field "clusterId").text?
  action := operation
  targetJson := confirmedAction.js
  previewJson := .object
    [("targets", targets), ("rollbackSuggestion", .string rollbackSuggestion)]
  status := .pending
  approvedAt := none
  createdAt := createdAt

/-- `create`, with `action` as it was previewed. -/
def createApproval (approvalId userId : String) (action : AiActionExecuteInput) (operation : String)
    (targets : Js) (rollbackSuggestion : String) :
    StateT ApprovalState (Except Exception) Nat := fun s =>
  if approvalId ∈ s.approvals then .error (.database "P2002")
  else
    let row := newApproval userId (canonicalAction action operation) operation targets
      rollbackSuggestion s.dbNow
    .ok (s.dbNow, ApprovalState.record (.previewed approvalId userId action s.dbNow)
      { s with approvals := AList.insert approvalId row s.approvals })

/-- `updateMany({ where: { id, actorUserId, status: 'pending' } })`, and how many rows it changed. -/
def consumeApproval (approvalId userId : String) (s : ApprovalState) : Nat × ApprovalState :=
  match s.approvals.lookup approvalId with
  | some row =>
      if row.actorUserId = some userId ∧ row.status = .pending then
        (1, { s with approvals := s.approvals.update approvalId fun row =>
          { row with status := .approved, approvedAt := some s.now } })
      else (0, s)
  | none => (0, s)

/-- `update({ where: { id }, data: { status: 'executed' } })`, whose failure is ignored. -/
def markExecuted (approvalId : String) (s : ApprovalState) : Unit × ApprovalState :=
  ((), { s with approvals := s.approvals.update approvalId fun row =>
    { row with status := .executed } })

/-- `this.executor.execute(actor, action)`. -/
def invokeExecutor {ρ : Type} (outcomes : ApprovalOutcomes ρ) (event : Nat → ApprovalEvent) :
    ApprovalHandler (Except Exception ρ) :=
  Async.exec fun s => (outcomes.executed, s.record (event s.now))

def actorUserId (actor : Option AiActionActor) : Option String :=
  (actor.bind (·.userId)).map Text.trim

def preview {ρ : Type} (outcomes : ApprovalOutcomes ρ) (actor : Option AiActionActor)
    (action : AiActionExecuteInput) : ApprovalHandler PreviewResponse := do
  let shown := AiActionExecutorService.preview outcomes.dryRun action
  match shown with
  | .invalid _ => return ⟨shown, none, none⟩
  | .ok operation targets rollbackSuggestion _ =>
      if isReadOnly action then
        return ⟨shown, none, none⟩
      else
        let userId := (actorUserId actor).getD ""
        Async.ensure (userId ≠ "") (.forbidden "高风险操作需要有效的用户身份")
        Async.exec expirePending
        let createdAt ← Async.attempt (createApproval outcomes.approvalId userId action operation
          targets rollbackSuggestion)
        return ⟨shown, some outcomes.approvalId, some (createdAt + approvalTtlMs)⟩

def matchesApproval (approval : Option StoredApproval) (userId : String)
    (confirmedAction : AiActionExecuteInput) : Bool :=
  approval.any fun approval =>
    approval.actorUserId == some userId && approval.status == .pending &&
      stableJson approval.targetJson == stableJson confirmedAction.js

def execute {ρ : Type} (outcomes : ApprovalOutcomes ρ) (actor : Option AiActionActor)
    (action : AiActionExecuteInput) (approvalId : Option String) : ApprovalHandler ρ := do
  if isReadOnly action then
    let answer ← invokeExecutor outcomes (.ran (actorUserId actor) action)
    Async.ofExcept answer
  else
    let userId := (actorUserId actor).getD ""
    let approvalId := approvalId.getD ""
    Async.ensure (userId ≠ "" ∧ Text.trim approvalId ≠ "")
      (.forbidden "写操作必须先预览并由用户确认")
    match AiActionExecutorService.preview outcomes.dryRun action with
    | .invalid _ => throw (.forbidden "当前操作无法验证，请重新预览")
    | .ok operation _ _ _ => do
        let approval ← Async.query fun s => s.approvals.lookup approvalId
        let checkedAt ← Async.query (·.now)
        Async.ensure (matchesApproval approval userId (canonicalAction action operation) ∧
            approval.all fun approval => checkedAt - approval.createdAt ≤ approvalTtlMs ∧
              approval.createdAt ≤ checkedAt)
          (.forbidden "审批不存在、已过期、已使用或与当前操作不匹配")
        let consumed ← Async.exec (consumeApproval approvalId userId)
        Async.ensure (consumed = 1) (.forbidden "审批已被使用或撤销")
        let answer ← invokeExecutor outcomes (.invoked approvalId userId action checkedAt)
        -- The approval was already atomically consumed before dispatch.
        Async.exec (markExecuted approvalId)
        Async.ofExcept answer

end AiActionApprovalService
end KubeNova.Assistant
