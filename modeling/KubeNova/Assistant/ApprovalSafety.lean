import KubeNova.Assistant.ActionApproval
import KubeNova.Foundation.Tokens

/-!
# Approvals are single use

The token of an approval is the right to invoke the executor for it.  Consuming
the pending row hands the token out, and invoking the executor spends it, so an
approval is invoked once however the requests interleave.
-/

namespace KubeNova.Assistant

open KubeNova.Common KubeNova.Foundation TokenProtocol AiActionExecutorService
  AiActionApprovalService

def confirmed (action : AiActionExecuteInput) : AiActionExecuteInput :=
  { action with operation := normalizeActionOperationAlias action.operation }

def isRead (action : AiActionExecuteInput) : Bool := isReadOnlyAiAction (confirmed action).operation

def ApprovalEvent.invokes (approvalId : String) : ApprovalEvent → Bool
  | .invoked id _ _ _ _ => id == approvalId
  | _ => false

/-- The user created the approval by a preview of this very action, at most five
minutes before `checkedAt`. -/
def Covered (log : List ApprovalEvent) (approvalId userId : String) (action : AiActionExecuteInput)
    (checkedAt : Nat) : Prop :=
  ∃ previewed createdAt, .previewed approvalId userId previewed createdAt ∈ log ∧
    SameJson (confirmed previewed).js (confirmed action).js ∧ createdAt ≤ checkedAt ∧
    checkedAt ≤ createdAt + approvalTtlMs

/-! ## Steps -/

def RowMoved (old new : Option StoredApproval) : Prop :=
  Option.Rel (fun row row' => row'.actorUserId = row.actorUserId ∧ row'.createdAt = row.createdAt ∧
    SameJson row'.targetJson row.targetJson ∧ (row.status ≠ .pending → row'.status ≠ .pending)) old new

theorem RowMoved.refl (old : Option StoredApproval) : RowMoved old old := by
  cases old with
  | none => exact .none
  | some row => exact .some ⟨rfl, rfl, .refl _, id⟩

def Settled (approvalId : String) (s : ApprovalState) : Prop :=
  ∃ row, s.approvals.lookup approvalId = some row ∧ row.status ≠ .pending

theorem Settled.moved {approvalId : String} {s t : ApprovalState} (h : Settled approvalId s)
    (hrow : RowMoved (s.approvals.lookup approvalId) (t.approvals.lookup approvalId)) :
    Settled approvalId t := by
  obtain ⟨row, hs, hstatus⟩ := h
  rw [hs] at hrow
  cases ht : t.approvals.lookup approvalId with
  | none => rw [ht] at hrow; cases hrow
  | some row' =>
      rw [ht] at hrow
      cases hrow with
      | some hmoved => exact ⟨row', ht, hmoved.2.2.2 hstatus⟩

/-- One step of a request or of its surroundings, and the token held before and after. -/
inductive ApprovalStep : Option String → ApprovalState → ApprovalState → Option String → Prop
  | rows {tok s t} (hlog : t.log = s.log)
      (hrows : ∀ id, RowMoved (s.approvals.lookup id) (t.approvals.lookup id)) :
      ApprovalStep tok s t tok
  | create {tok s t id userId action row} (hfresh : s.approvals.lookup id = none)
      (hrows : ∀ k, t.approvals.lookup k = if k = id then some row else s.approvals.lookup k)
      (hactor : row.actorUserId = some userId) (htarget : row.targetJson = (confirmed action).js)
      (hlog : t.log = .previewed id userId action row.createdAt :: s.log) : ApprovalStep tok s t tok
  /-- Whoever consumes the pending approval holds its token. -/
  | consume {s t id} (hpending : ¬Settled id s) (hlog : t.log = s.log)
      (hrows : ∀ k, RowMoved (s.approvals.lookup k) (t.approvals.lookup k))
      (hsettled : Settled id t) : ApprovalStep none s t (some id)
  | invoke {s t id userId action checkedAt invokedAt}
      (hcovered : Covered s.log id userId action checkedAt) (hrows : t.approvals = s.approvals)
      (hlog : t.log = .invoked id userId action checkedAt invokedAt :: s.log) :
      ApprovalStep (some id) s t none
  | run {tok s t userId action invokedAt} (hread : isRead action = true)
      (hrows : t.approvals = s.approvals) (hlog : t.log = .ran userId action invokedAt :: s.log) :
      ApprovalStep tok s t tok

structure ApprovalInv (s : ApprovalState) : Prop where
  rows : ∀ id row, s.approvals.lookup id = some row → ∃ userId action,
    .previewed id userId action row.createdAt ∈ s.log ∧ row.actorUserId = some userId ∧
    SameJson row.targetJson (confirmed action).js
  settled : ∀ e ∈ s.log, ∀ id, e.invokes id = true → Settled id s
  once : ∀ id, s.log.countP (·.invokes id) ≤ 1
  covered : ∀ id userId action checkedAt invokedAt,
    .invoked id userId action checkedAt invokedAt ∈ s.log → Covered s.log id userId action checkedAt
  reads : ∀ userId action invokedAt, .ran userId action invokedAt ∈ s.log → isRead action = true

def Out (approvalId : String) (s : ApprovalState) : Prop :=
  Settled approvalId s ∧ ∀ e ∈ s.log, e.invokes approvalId = false

theorem Covered.mono {log log' : List ApprovalEvent} {id userId : String}
    {action : AiActionExecuteInput} {checkedAt : Nat} (h : Covered log id userId action checkedAt)
    (hlog : log ⊆ log') : Covered log' id userId action checkedAt := by
  obtain ⟨previewed, createdAt, hmem, hrest⟩ := h
  exact ⟨previewed, createdAt, hlog hmem, hrest⟩

namespace ApprovalStep

variable {tok tok' : Option String} {s t : ApprovalState}

theorem log_subset (h : ApprovalStep tok s t tok') : s.log ⊆ t.log := by
  cases h with
  | rows hlog => exact hlog ▸ List.Subset.refl _
  | create _ _ _ _ hlog => exact hlog ▸ List.subset_cons_self _ _
  | consume _ hlog => exact hlog ▸ List.Subset.refl _
  | invoke _ _ hlog => exact hlog ▸ List.subset_cons_self _ _
  | run _ _ hlog => exact hlog ▸ List.subset_cons_self _ _

theorem settled (h : ApprovalStep tok s t tok') {id : String} (hid : Settled id s) :
    Settled id t := by
  cases h with
  | rows _ hrows => exact hid.moved (hrows id)
  | @create _ _ _ id' _ _ _ hfresh hrows =>
      obtain ⟨row, hrow, hstatus⟩ := hid
      have hne : id ≠ id' := fun h => by rw [h, hfresh] at hrow; cases hrow
      exact ⟨row, by rw [hrows, if_neg hne, hrow], hstatus⟩
  | consume _ _ hrows => exact hid.moved (hrows id)
  | invoke _ hrows =>
      unfold Settled
      rwa [hrows]
  | run _ hrows =>
      unfold Settled
      rwa [hrows]

theorem keeps_out (h : ApprovalStep tok s t tok') {id : String} (hid : Out id s)
    (hother : tok ≠ some id) : Out id t := by
  refine ⟨h.settled hid.1, ?_⟩
  cases h with
  | rows hlog => exact hlog ▸ hid.2
  | create _ _ _ _ hlog =>
      rw [hlog]
      exact List.forall_mem_cons.mpr ⟨rfl, hid.2⟩
  | consume _ hlog => exact hlog ▸ hid.2
  | @invoke _ _ id' _ _ _ _ _ _ hlog =>
      have hne : id' ≠ id := fun h => hother (congrArg some h)
      rw [hlog]
      exact List.forall_mem_cons.mpr ⟨beq_eq_false_iff_ne.mpr hne, hid.2⟩
  | run _ _ hlog =>
      rw [hlog]
      exact List.forall_mem_cons.mpr ⟨rfl, hid.2⟩

end ApprovalStep

namespace ApprovalInv

variable {s t : ApprovalState}

theorem rows_moved (hs : ApprovalInv s) (hlog : s.log ⊆ t.log) {id : String} {row : StoredApproval}
    (hmoved : RowMoved (s.approvals.lookup id) (t.approvals.lookup id))
    (hrow : t.approvals.lookup id = some row) : ∃ userId action,
    .previewed id userId action row.createdAt ∈ t.log ∧ row.actorUserId = some userId ∧
    SameJson row.targetJson (confirmed action).js := by
  rw [hrow] at hmoved
  cases hold : s.approvals.lookup id with
  | none => rw [hold] at hmoved; cases hmoved
  | some old =>
      rw [hold] at hmoved
      cases hmoved with
      | some hsame =>
          obtain ⟨userId, action, hmem, hactor, htarget⟩ := hs.rows id old hold
          exact ⟨userId, action, hsame.2.1 ▸ hlog hmem, hsame.1.trans hactor,
            hsame.2.2.1.trans htarget⟩

theorem of_quiet {tok tok' : Option String} (hs : ApprovalInv s) (hstep : ApprovalStep tok s t tok')
    (hrows : ∀ id row, t.approvals.lookup id = some row → ∃ userId action,
      .previewed id userId action row.createdAt ∈ t.log ∧ row.actorUserId = some userId ∧
      SameJson row.targetJson (confirmed action).js)
    (hnew : ∀ e ∈ t.log, e ∈ s.log ∨ ∀ id, e.invokes id = false)
    (hcount : ∀ id, t.log.countP (·.invokes id) = s.log.countP (·.invokes id))
    (hreads : ∀ userId action invokedAt, .ran userId action invokedAt ∈ t.log → isRead action = true) :
    ApprovalInv t where
  rows := hrows
  settled := by
    intro e he id hinvokes
    rcases hnew e he with hold | hquiet
    · exact hstep.settled (hs.settled e hold id hinvokes)
    · rw [hquiet id] at hinvokes
      cases hinvokes
  once := fun id => hcount id ▸ hs.once id
  covered := by
    intro id userId action checkedAt invokedAt hmem
    rcases hnew _ hmem with hold | hquiet
    · exact (hs.covered _ _ _ _ _ hold).mono hstep.log_subset
    · have hself := hquiet id
      simp [ApprovalEvent.invokes] at hself
  reads := hreads

theorem of_logged {tok tok' : Option String} (hs : ApprovalInv s) (hstep : ApprovalStep tok s t tok')
    {event : ApprovalEvent} (hlog : t.log = event :: s.log) (hquiet : ∀ id, event.invokes id = false)
    (hrows : ∀ id row, t.approvals.lookup id = some row → ∃ userId action,
      .previewed id userId action row.createdAt ∈ t.log ∧ row.actorUserId = some userId ∧
      SameJson row.targetJson (confirmed action).js)
    (hread : ∀ userId action invokedAt, event = .ran userId action invokedAt → isRead action = true) :
    ApprovalInv t := by
  refine hs.of_quiet hstep hrows ?_ ?_ ?_
  · intro e he
    rw [hlog, List.mem_cons] at he
    rcases he with rfl | he
    · exact .inr hquiet
    · exact .inl he
  · intro id
    rw [hlog, List.countP_cons_of_neg (by simp [hquiet id])]
  · intro userId action invokedAt hmem
    rw [hlog, List.mem_cons] at hmem
    rcases hmem with h | hmem
    · exact hread userId action invokedAt h.symm
    · exact hs.reads _ _ _ hmem

theorem step {tok tok' : Option String} (hs : ApprovalInv s) (hout : ∀ id ∈ tok, Out id s)
    (hstep : ApprovalStep tok s t tok') : ApprovalInv t := by
  have hsub := hstep.log_subset
  cases hstep with
  | rows hlog hrows =>
      refine hs.of_quiet (@ApprovalStep.rows tok _ _ hlog hrows)
        (fun id row hrow => hs.rows_moved hsub (hrows id) hrow) ?_ ?_ ?_
      · exact fun e he => .inl (hlog ▸ he)
      · exact fun id => hlog ▸ rfl
      · exact hlog ▸ hs.reads
  | @create _ _ _ id userId action row hfresh hrows hactor htarget hlog =>
      refine hs.of_logged (@ApprovalStep.create tok _ _ _ _ _ _ hfresh hrows hactor htarget hlog)
        hlog (fun _ => rfl) (fun k row' hrow' => ?_) fun _ _ _ h => (nomatch h)
      rw [hrows] at hrow'
      split at hrow'
      · rename_i hk
        obtain rfl := Option.some.inj hrow'
        refine ⟨userId, action, ?_, hactor, htarget ▸ .refl _⟩
        rw [hlog, hk]
        exact List.mem_cons_self
      · obtain ⟨userId', action', hmem, hrest⟩ := hs.rows k row' hrow'
        exact ⟨userId', action', hsub hmem, hrest⟩
  | @consume _ _ id hpending hlog hrows hsettled =>
      refine hs.of_quiet (.consume hpending hlog hrows hsettled)
        (fun k row hrow => hs.rows_moved hsub (hrows k) hrow) ?_ ?_ ?_
      · exact fun e he => .inl (hlog ▸ he)
      · exact fun id => hlog ▸ rfl
      · exact hlog ▸ hs.reads
  | @invoke _ _ id userId action checkedAt invokedAt hcovered hrows hlog =>
      obtain ⟨hsettled, hunused⟩ := hout id rfl
      have hstep : ApprovalStep (some id) s t none := .invoke hcovered hrows hlog
      refine ⟨?_, ?_, ?_, ?_, ?_⟩
      · intro k row hrow
        obtain ⟨userId', action', hmem, hrest⟩ := hs.rows k row (hrows ▸ hrow)
        exact ⟨userId', action', hsub hmem, hrest⟩
      · intro e he k hinvokes
        rw [hlog, List.mem_cons] at he
        rcases he with rfl | he
        · obtain rfl : id = k := by simpa [ApprovalEvent.invokes] using hinvokes
          exact hstep.settled hsettled
        · exact hstep.settled (hs.settled e he k hinvokes)
      · intro k
        rw [hlog]
        by_cases hk : id = k
        · subst hk
          -- The token is spent here for the first time.
          have hzero : s.log.countP (·.invokes id) = 0 :=
            List.countP_eq_zero.mpr fun e he => by simp [hunused e he]
          rw [List.countP_cons, hzero]
          simp [ApprovalEvent.invokes]
        · rw [List.countP_cons_of_neg (by simp [ApprovalEvent.invokes, hk])]
          exact hs.once k
      · intro id' userId' action' checkedAt' invokedAt' hmem
        rw [hlog, List.mem_cons] at hmem
        rcases hmem with h | hmem
        · cases h
          exact hcovered.mono hsub
        · exact (hs.covered _ _ _ _ _ hmem).mono hsub
      · intro userId' action' invokedAt' hmem
        rw [hlog, List.mem_cons] at hmem
        rcases hmem with h | hmem
        · cases h
        · exact hs.reads _ _ _ hmem
  | @run _ _ _ userId action invokedAt hread hrows hlog =>
      refine hs.of_logged (@ApprovalStep.run tok _ _ _ _ _ hread hrows hlog) hlog (fun _ => rfl)
        (fun k row hrow => ?_) fun userId' action' invokedAt' h => ?_
      · obtain ⟨userId', action', hmem, hrest⟩ := hs.rows k row (hrows ▸ hrow)
        exact ⟨userId', action', hsub hmem, hrest⟩
      · obtain ⟨-, rfl, -⟩ := ApprovalEvent.ran.inj h
        exact hread

end ApprovalInv

def approvalProtocol : TokenProtocol ApprovalState String where
  inv := ApprovalInv
  step := ApprovalStep
  out := Out
  refl _ _ := .rows rfl fun _ => .refl _
  preserves hs hout hstep := hs.step hout hstep
  fresh h := by
    cases h with
    | rows => exact .inl rfl
    | create => exact .inl rfl
    | consume hpending => exact .inr fun hout => hpending hout.1
    | run => exact .inl rfl
  held hs h hout := by
    cases h with
    | rows hlog hrows => exact ⟨(hout _ rfl).1.moved (hrows _), hlog ▸ (hout _ rfl).2⟩
    | create hfresh hrows hactor htarget hlog =>
        have hstep := @ApprovalStep.create none _ _ _ _ _ _ hfresh hrows hactor htarget hlog
        exact hstep.keeps_out (hout _ rfl) (fun h => nomatch h)
    | consume hpending hlog hrows hsettled =>
        refine ⟨hsettled, fun e he => ?_⟩
        cases hinvokes : e.invokes _ with
        | false => rfl
        | true => exact (hpending (hs.settled e (hlog ▸ he) _ hinvokes)).elim
    | run hread hrows hlog =>
        have hstep := @ApprovalStep.run none _ _ _ _ _ hread hrows hlog
        exact hstep.keeps_out (hout _ rfl) (fun h => nomatch h)
  keeps h hout hother := h.keeps_out hout hother

theorem isRead_of_isReadOnly {action : AiActionExecuteInput} (h : isReadOnly action = true) :
    isRead action = true := by
  cases hname : action.operation with
  | none => simp [isReadOnly, isReadOnlyAiAction, getAiActionDefinition, hname] at h
  | some name =>
      have hsame : normalizeActionOperationAlias (some name) = some name := by
        have hdefined : (aiActionRegistry.lookup name).isSome := by
          simp only [isReadOnly, isReadOnlyAiAction, getAiActionDefinition, hname,
            Option.bind_some] at h
          obtain ⟨definition, hdefinition, -⟩ := (Option.any_eq_true _ _).mp h
          rw [hdefinition]
          rfl
        unfold normalizeActionOperationAlias
        -- no alias is registered itself
        split <;> rename_i heq <;> cases heq <;> first | rfl | exact absurd hdefined (by decide)
      rw [isRead, confirmed, hname, hsame, ← hname]
      exact h

theorem expirePending_step (tok : Option String) (s : ApprovalState) :
    ApprovalStep tok s (expirePending s).2 tok := by
  refine .rows rfl fun id => ?_
  simp only [expirePending, Table.lookup_updateWhere]
  cases s.approvals.lookup id with
  | none => exact .none
  | some row =>
      refine .some ?_
      dsimp only
      split
      · exact ⟨rfl, rfl, .refl _, fun _ => by simp⟩
      · exact ⟨rfl, rfl, .refl _, fun hstatus => hstatus⟩

theorem update_moved {approvals : Table String StoredApproval} (approvalId : String)
    {f : StoredApproval → StoredApproval}
    (hf : ∀ row, (f row).actorUserId = row.actorUserId ∧ (f row).createdAt = row.createdAt ∧
      (f row).targetJson = row.targetJson ∧ (f row).status ≠ .pending) (id : String) :
    RowMoved (approvals.lookup id) ((approvals.update approvalId f).lookup id) := by
  by_cases hid : id = approvalId
  · subst hid
    rw [Table.lookup_update_self]
    cases approvals.lookup id with
    | none => exact .none
    | some row =>
        obtain ⟨hactor, hcreated, htarget, hstatus⟩ := hf row
        exact .some ⟨hactor, hcreated, htarget ▸ .refl _, fun _ => hstatus⟩
  · rw [Table.lookup_update_ne _ _ hid]
    exact .refl _

theorem markExecuted_step (tok : Option String) (approvalId : String) (s : ApprovalState) :
    ApprovalStep tok s (markExecuted approvalId s).2 tok :=
  .rows rfl (update_moved approvalId fun _ => ⟨rfl, rfl, rfl, by simp⟩)

theorem consumeApproval_cases (approvalId userId : String) (s : ApprovalState) :
    consumeApproval approvalId userId s = (0, s) ∨
      ((consumeApproval approvalId userId s).1 = 1 ∧
        ApprovalStep none s (consumeApproval approvalId userId s).2 (some approvalId)) := by
  unfold consumeApproval
  cases hrow : s.approvals.lookup approvalId with
  | none => exact .inl rfl
  | some row =>
      simp only
      split
      · rename_i hpending
        refine .inr ⟨rfl, .consume ?_ rfl ?_ ?_⟩
        · rintro ⟨row', hrow', hstatus⟩
          obtain rfl : row = row' := Option.some.inj (hrow.symm.trans hrow')
          exact hstatus hpending.2
        · exact update_moved approvalId fun _ => ⟨rfl, rfl, rfl, by simp⟩
        · exact ⟨_, by rw [Table.lookup_update_self, hrow, Option.map_some], by simp⟩
      · exact .inl rfl

theorem validateAction_eq_ok {action : AiActionExecuteInput} {operation : String}
    (h : validateAction action = .ok operation) :
    normalizeActionOperationAlias action.operation = some operation := by
  unfold validateAction at h
  cases hname : normalizeActionOperationAlias action.operation with
  | none =>
      rw [hname] at h
      cases h
  | some name =>
      simp only [hname] at h
      have hreturn : (pure name : Except AiActionExecutionError String) = .ok operation →
          some name = some operation := fun hok => congrArg some (Except.ok.inj hok)
      split at h
      · cases h
      split at h
      · split at h
        · obtain ⟨-, -, h⟩ := exists_of_bind_eq_ok h
          exact hreturn h
        · cases h
      split at h
      · cases h
      obtain ⟨-, -, h⟩ := exists_of_bind_eq_ok h
      split at h
      · obtain ⟨-, -, h⟩ := exists_of_bind_eq_ok h
        obtain ⟨-, -, h⟩ := exists_of_bind_eq_ok h
        obtain ⟨-, -, h⟩ := exists_of_bind_eq_ok h
        exact hreturn h
      · exact hreturn h

theorem canonicalAction_of_preview {dryRun : Except AiActionExecutionError Js}
    {action : AiActionExecuteInput} {operation : String} {targets : Js} {rollbackSuggestion : String}
    {result : Option Js}
    (h : AiActionExecutorService.preview dryRun action =
      .ok operation targets rollbackSuggestion result) :
    canonicalAction action operation = confirmed action := by
  have hname : normalizeActionOperationAlias action.operation = some operation := by
    unfold AiActionExecutorService.preview at h
    cases hvalid : validateAction action with
    | error e =>
        rw [hvalid] at h
        cases h
    | ok name =>
        rw [validateAction_eq_ok hvalid]
        simp only [hvalid] at h
        split at h
        · split at h
          · cases h
          · cases h
            rfl
        · cases h
          rfl
  rw [canonicalAction, confirmed, hname]

theorem createApproval_step {approvalId userId : String} {action : AiActionExecuteInput}
    {operation : String} {targets : Js} {rollbackSuggestion : String} {s t : ApprovalState}
    {createdAt : Nat} (hname : canonicalAction action operation = confirmed action)
    (h : createApproval approvalId userId action operation targets rollbackSuggestion s =
      .ok (createdAt, t)) (tok : Option String) : ApprovalStep tok s t tok := by
  unfold createApproval at h
  split at h
  · cases h
  · rename_i hfresh
    obtain ⟨rfl, rfl⟩ := Prod.mk.inj (Except.ok.inj h)
    refine .create (AList.lookup_eq_none.mpr hfresh) (fun k => Table.lookup_insert _ _ _ _) rfl ?_
      rfl
    rw [← hname]
    rfl

section Requests

variable {ρ : Type} (outcomes : ApprovalOutcomes ρ) (actor : Option AiActionActor)
  (action : AiActionExecuteInput)

theorem holds_preview : Holds approvalProtocol none (fun _ => True)
    (AiActionApprovalService.preview outcomes actor action) := by
  unfold AiActionApprovalService.preview
  cases hshown : AiActionExecutorService.preview outcomes.dryRun action with
  | invalid error => exact .done _
  | ok operation targets rollbackSuggestion result =>
      have hname := canonicalAction_of_preview hshown
      refine .ite (fun _ => .done _) fun _ => .ensure_bind fun _ =>
        .exec_bind (.true _) fun s _ _ _ => ⟨none, fun _ => True, expirePending_step _ _, trivial, ?_⟩
      exact .attempt_bind (.true _) fun s createdAt t _ _ hcreate =>
        ⟨fun _ => True, createApproval_step hname hcreate _, trivial, .done _⟩

/-- Everything about the approval but its age has been seen to fit. -/
def Fits (approvalId userId : String) (action : AiActionExecuteInput) (createdAt : Nat)
    (s : ApprovalState) : Prop :=
  ∃ previewed, .previewed approvalId userId previewed createdAt ∈ s.log ∧
    SameJson (confirmed previewed).js (confirmed action).js

theorem fits_stable (tok : Option String) (approvalId userId : String) (createdAt : Nat) :
    StableFor approvalProtocol tok (Fits approvalId userId action createdAt) := by
  rintro s t ⟨previewed, hmem, hsame⟩ ⟨-, a, b, hstep, -⟩
  exact ⟨previewed, ApprovalStep.log_subset hstep hmem, hsame⟩

theorem covered_stable (tok : Option String) (approvalId userId : String) (checkedAt : Nat) :
    StableFor approvalProtocol tok fun s => Covered s.log approvalId userId action checkedAt := by
  rintro s t hcovered ⟨-, a, b, hstep, -⟩
  exact hcovered.mono (ApprovalStep.log_subset hstep)

theorem fits_of_matches {s : ApprovalState} (hs : ApprovalInv s) {approvalId userId : String}
    {row : StoredApproval} (hrow : s.approvals.lookup approvalId = some row)
    (hmatch : matchesApproval (some row) userId (confirmed action) = true) :
    Fits approvalId userId action row.createdAt s := by
  simp only [matchesApproval, Option.any_some, Bool.and_eq_true, beq_iff_eq] at hmatch
  obtain ⟨⟨hactor, -⟩, htext⟩ := hmatch
  obtain ⟨creator, previewed, hmem, hcreator, htarget⟩ := hs.rows approvalId row hrow
  obtain rfl : creator = userId := Option.some.inj (hcreator.symm.trans hactor)
  exact ⟨previewed, hmem, htarget.symm.trans (sameJson_of_stableJson htext)⟩

theorem holds_dispatch {approvalId userId : String} {checkedAt : Nat} :
    Holds approvalProtocol none (fun s => Covered s.log approvalId userId action checkedAt) (do
      let consumed ← Async.exec (consumeApproval approvalId userId)
      Async.ensure (consumed = 1) (.forbidden "审批已被使用或撤销")
      let answer ← invokeExecutor outcomes (.invoked approvalId userId action checkedAt)
      Async.exec (markExecuted approvalId)
      Async.ofExcept answer : ApprovalHandler ρ) := by
  refine .exec_bind (covered_stable action _ _ _ _) fun s hcovered _ _ => ?_
  rcases consumeApproval_cases approvalId userId s with hsame | ⟨hone, hstep⟩
  · refine ⟨none, fun _ => True, ?_, trivial, .ensure_bind fun hone => ?_⟩
    · rw [hsame]
      exact approvalProtocol.refl _ _
    · rw [hsame] at hone
      cases hone
  · refine ⟨some approvalId, fun s => Covered s.log approvalId userId action checkedAt, hstep,
      hcovered.mono hstep.log_subset, .ensure_bind fun _ => ?_⟩
    refine .exec_bind (covered_stable action _ _ _ _) fun t hcovered _ _ =>
      ⟨none, fun _ => True, .invoke hcovered rfl rfl, trivial, ?_⟩
    exact .exec_bind (.true _) fun u _ _ _ =>
      ⟨none, fun _ => True, markExecuted_step _ _ _, trivial, .ofExcept _⟩

theorem holds_execute (approvalId : Option String) : Holds approvalProtocol none (fun _ => True)
    (AiActionApprovalService.execute outcomes actor action approvalId) := by
  unfold AiActionApprovalService.execute
  refine .ite (fun hread => ?_) fun _ => ?_
  · refine .exec_bind (.true _) fun s _ _ _ => ⟨none, fun _ => True, .run ?_ rfl rfl, trivial,
      .ofExcept _⟩
    exact isRead_of_isReadOnly hread
  · refine .ensure_bind fun _ => ?_
    split
    · exact .fail _
    · rename_i operation _ _ _ hshown
      rw [canonicalAction_of_preview hshown]
      refine .query_bind (.true _) fun s _ hs => ?_
      cases hrow : s.approvals.lookup (approvalId.getD "") with
      | none =>
          refine ⟨fun _ => True, trivial, .query_bind (.true _) fun t _ _ => ⟨fun _ => True, trivial,
            .ensure_bind fun hcheck => ?_⟩⟩
          simp [matchesApproval] at hcheck
      | some row =>
          by_cases hmatch : matchesApproval (some row) ((actorUserId actor).getD "")
              (confirmed action) = true
          · refine ⟨_, fits_of_matches action hs hrow hmatch, .query_bind (fits_stable action _ _ _ _)
              fun t ht _ => ⟨_, ht, .ensure_bind fun hcheck => ?_⟩⟩
            refine (holds_dispatch outcomes action).conseq fun u hu => ?_
            obtain ⟨previewed, hmem, hsame⟩ := hu
            simp only [Option.all_some, decide_eq_true_eq] at hcheck
            exact ⟨previewed, row.createdAt, hmem, hsame, hcheck.2.2, by omega⟩
          · refine ⟨fun _ => True, trivial, .query_bind (.true _) fun t _ _ => ⟨fun _ => True, trivial,
              .ensure_bind fun hcheck => ?_⟩⟩
            exact absurd hcheck.1 hmatch

end Requests

def isApprovalHandler (h : ApprovalHandler Unit) : Prop :=
  ∃ (outcomes : ApprovalOutcomes Unit) (actor : Option AiActionActor)
    (action : AiActionExecuteInput),
    h = discard (AiActionApprovalService.preview outcomes actor action) ∨
      ∃ approvalId, h = AiActionApprovalService.execute outcomes actor action approvalId

/-- The clocks move, and the database gives stored JSON back in another order of keys. -/
def clocksAndReordering (s t : ApprovalState) : Prop :=
  t.log = s.log ∧ ∀ id, Option.Rel (fun row row' => ∃ targetJson,
    SameJson targetJson row.targetJson ∧ row' = { row with targetJson := targetJson })
    (s.approvals.lookup id) (t.approvals.lookup id)

def noApprovals : ApprovalState where
  now := 0
  dbNow := 0
  approvals := ∅
  log := []

theorem noApprovals_inv : ApprovalInv noApprovals where
  rows := fun _ _ hrow => nomatch hrow
  settled := fun _ he => nomatch he
  once := fun _ => Nat.zero_le 1
  covered := fun _ _ _ _ _ hmem => nomatch hmem
  reads := fun _ _ _ hmem => nomatch hmem

/-- However previews and executions interleave, the executor is invoked at most
once for an approval, and with a write only for an approval that its actor
created by a preview of the same action, and that was at most five minutes old
when it was looked at before it was consumed. -/
theorem approvals_single_use {c : Pool Exception ApprovalState Unit}
    (hc : Reach isApprovalHandler clocksAndReordering noApprovals c) :
    (∀ id, c.shared.log.countP (·.invokes id) ≤ 1) ∧
      (∀ userId action invokedAt, .ran userId action invokedAt ∈ c.shared.log →
        isRead action = true) ∧
      ∀ id userId action checkedAt invokedAt,
        .invoked id userId action checkedAt invokedAt ∈ c.shared.log →
        Covered c.shared.log id userId action checkedAt := by
  have hinv : ApprovalInv c.shared := by
    refine TokenProtocol.reachable (T := approvalProtocol) ?_ ?_ noApprovals_inv hc
    · rintro _ s ⟨outcomes, actor, action, rfl | ⟨approvalId, rfl⟩⟩
      · exact (holds_preview outcomes actor action s trivial).map _
      · exact holds_execute outcomes actor action approvalId s trivial
    · rintro s t - ⟨hlog, hrows⟩
      refine .rows hlog fun id => ?_
      have hrow := hrows id
      generalize s.approvals.lookup id = old at hrow
      generalize t.approvals.lookup id = new at hrow
      cases hrow with
      | none => exact .none
      | some hsame =>
          obtain ⟨targetJson, hjson, rfl⟩ := hsame
          exact .some ⟨rfl, rfl, hjson, fun hstatus => hstatus⟩
  exact ⟨hinv.once, hinv.reads, hinv.covered⟩

theorem clocksAndReordering_refl {s : ApprovalState} (now dbNow : Nat) :
    clocksAndReordering s { s with now := now, dbNow := dbNow } := by
  refine ⟨rfl, fun id => ?_⟩
  show Option.Rel _ (s.approvals.lookup id) (s.approvals.lookup id)
  cases s.approvals.lookup id with
  | none => exact .none
  | some row => exact .some ⟨row.targetJson, .refl _, rfl⟩

def restartWeb : AiActionExecuteInput where
  operation := some "restart-workload"
  fields := [("target", .object [("clusterId", .string "c1"), ("namespace", .string "apps"),
    ("kind", .string "Deployment"), ("name", .string "web")])]
  others := by simp

def operator : AiActionActor := ⟨some "user-a", some "ann", some "operator"⟩

def sampleOutcomes : ApprovalOutcomes Unit := ⟨"approval-1", .ok .null, .ok ()⟩

def previewedPool : Pool Exception ApprovalState Unit :=
  Pool.play ⟨noApprovals,
    [discard (AiActionApprovalService.preview sampleOutcomes (some operator) restartWeb),
      AiActionApprovalService.execute sampleOutcomes (some operator) restartWeb
        (some "approval-1")]⟩ [0, 0, 1, 1, 1]

/-- The approval has been looked at and consumed; then the handler waits ten minutes. -/
def latePool : Pool Exception ApprovalState Unit :=
  Pool.play ⟨{ previewedPool.shared with now := 600000, dbNow := 600000 }, previewedPool.handlers⟩
    [1, 1]

theorem latePool_reachable : Reach isApprovalHandler clocksAndReordering noApprovals latePool := by
  have hpreviewed : Reach isApprovalHandler clocksAndReordering noApprovals previewedPool := by
    refine Reach.play (Reach.arrive_all (c := ⟨noApprovals, []⟩) .refl _ fun h hh => ?_) _
    simp only [List.mem_cons, List.not_mem_nil, or_false] at hh
    rcases hh with rfl | rfl
    · exact ⟨sampleOutcomes, some operator, restartWeb, .inl rfl⟩
    · exact ⟨sampleOutcomes, some operator, restartWeb, .inr ⟨some "approval-1", rfl⟩⟩
  exact Reach.play (hpreviewed.tail (.environment (clocksAndReordering_refl 600000 600000))) _

/-- The invocations of writes are at most five minutes younger than their approval. -/
def InTime (log : List ApprovalEvent) : Prop :=
  ∀ id userId action checkedAt invokedAt, .invoked id userId action checkedAt invokedAt ∈ log →
    isRead action = false → ∃ previewed createdAt,
      .previewed id userId previewed createdAt ∈ log ∧ invokedAt ≤ createdAt + approvalTtlMs

def ApprovalEvent.writeAt : ApprovalEvent → Option Nat
  | .invoked _ _ action _ invokedAt => if isRead action then none else some invokedAt
  | _ => none

def ApprovalEvent.previewAt : ApprovalEvent → Option Nat
  | .previewed _ _ _ createdAt => some createdAt
  | _ => none

/-- The age of an approval is not looked at again between its consumption and the
invocation. -/
theorem invoked_out_of_time :
    ¬∀ c, Reach isApprovalHandler clocksAndReordering noApprovals c → InTime c.shared.log := by
  intro hall
  have hwrites : latePool.shared.log.filterMap ApprovalEvent.writeAt = [600000] := by decide +kernel
  have hpreviews : latePool.shared.log.filterMap ApprovalEvent.previewAt = [0] := by decide +kernel
  have hwrite : 600000 ∈ latePool.shared.log.filterMap ApprovalEvent.writeAt := by simp [hwrites]
  obtain ⟨e, he, hat⟩ := List.mem_filterMap.mp hwrite
  cases e with
  | previewed => cases hat
  | ran => cases hat
  | invoked id userId action checkedAt invokedAt =>
      simp only [ApprovalEvent.writeAt, Option.ite_none_left_eq_some, Bool.not_eq_true,
        Option.some.injEq] at hat
      obtain ⟨hwrite, rfl⟩ := hat
      obtain ⟨previewed, createdAt, hmem, hle⟩ :=
        hall latePool latePool_reachable id userId action checkedAt 600000 he hwrite
      have hcreated : createdAt ∈ latePool.shared.log.filterMap ApprovalEvent.previewAt :=
        List.mem_filterMap.mpr ⟨_, hmem, rfl⟩
      rw [hpreviews, List.mem_singleton] at hcreated
      rw [hcreated, approvalTtlMs] at hle
      omega

/-- The late invocation is still the only one, and of the action that was previewed. -/
theorem latePool_single_use : (∀ id, latePool.shared.log.countP (·.invokes id) ≤ 1) ∧
    latePool.shared.log.countP (·.invokes "approval-1") = 1 :=
  ⟨(approvals_single_use latePool_reachable).1, by decide +kernel⟩

end KubeNova.Assistant
