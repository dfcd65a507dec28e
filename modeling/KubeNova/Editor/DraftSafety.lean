import KubeNova.Editor.DraftStore
import Mathlib.Data.List.Induction

/-!
# What the drafts promise

However the calls of all users come, and whichever calls of the storage throw: no entry holds a
Secret, and what is read is what was saved last for the very same scope, less than a day ago.
-/

namespace KubeNova.Editor

open KubeNova.Foundation KubeNova.Foundation.Json

/-! ## Secrets anywhere in a document -/

inductive HoldsSecret : Js → Prop
  | here {fields : List (String × Js)} {kind : String} : ("kind", .string kind) ∈ fields →
      isSecretKind kind = true → HoldsSecret (.object fields)
  | field {fields : List (String × Js)} {name : String} {value : Js} : (name, value) ∈ fields →
      HoldsSecret value → HoldsSecret (.object fields)
  | element {elements : List Js} {value : Js} : value ∈ elements → HoldsSecret value →
      HoldsSecret (.array elements)

theorem anyHasSecret_eq (elements : List Js) : anyHasSecret elements = elements.any hasSecret := by
  induction elements with
  | nil => rfl
  | cons element elements ih => rw [anyHasSecret, ih, List.any_cons]

theorem anyFieldHasSecret_eq (fields : List (String × Js)) :
    anyFieldHasSecret fields = fields.any fun field => isSecretField field || hasSecret field.2 := by
  induction fields with
  | nil => rfl
  | cons field fields ih =>
      obtain ⟨name, value⟩ := field
      rw [anyFieldHasSecret, ih, List.any_cons]

theorem isSecretField_iff {field : String × Js} : isSecretField field = true ↔
    ∃ kind, field = ("kind", .string kind) ∧ isSecretKind kind = true := by
  obtain ⟨name, value⟩ := field
  rw [isSecretField, Bool.and_eq_true, beq_iff_eq]
  cases value with
  | string kind =>
      constructor
      · rintro ⟨hname, hkind⟩
        dsimp only at hname
        exact ⟨kind, by rw [hname], hkind⟩
      · rintro ⟨other, heq, hkind⟩
        cases heq
        exact ⟨rfl, hkind⟩
  | _ => simp

theorem hasSecret_of_holds {value : Js} (h : HoldsSecret value) : hasSecret value = true := by
  induction h with
  | here hmem hkind =>
      rw [hasSecret, anyFieldHasSecret_eq, List.any_eq_true]
      refine ⟨_, hmem, ?_⟩
      rw [isSecretField_iff.mpr ⟨_, rfl, hkind⟩]
      rfl
  | field hmem _ ih =>
      rw [hasSecret, anyFieldHasSecret_eq, List.any_eq_true]
      exact ⟨_, hmem, by rw [ih, Bool.or_true]⟩
  | element hmem _ ih =>
      rw [hasSecret, anyHasSecret_eq, List.any_eq_true]
      exact ⟨_, hmem, ih⟩

section Documents

variable {reading : Reading} {yaml : String} {scope : EditorDraftScope} {draft : Draft}

def NoSecret (reading : Reading) (yaml : String) : Prop :=
  ∀ documents, reading.loadAll yaml = .ok documents → ∀ document ∈ documents, ¬HoldsSecret document

theorem eq_of_checkDocument {value document : Js} {index : Nat}
    (h : checkDocument value index = .ok document) : document = value := by
  unfold checkDocument at h
  split at h
  · cases h
  · split at h
    · split at h
      · exact (Except.ok.inj h).symm
      · cases h
    · cases h

theorem eq_of_checkDocuments {values documents : List Js} {index : Nat}
    (h : checkDocuments values index = .ok documents) : documents = values := by
  induction values generalizing index documents with
  | nil => exact (Except.ok.inj h).symm
  | cons value rest ih =>
      rw [checkDocuments] at h
      cases hdocument : checkDocument value index with
      | error message =>
          rw [hdocument] at h
          cases h
      | ok document =>
          rw [hdocument] at h
          cases hrest : checkDocuments rest (index + 1) with
          | error message =>
              rw [hrest] at h
              cases h
          | ok checked =>
              rw [hrest] at h
              rw [← Except.ok.inj h, eq_of_checkDocument hdocument, ih hrest]

theorem parseResourceDocuments_ok {documents : List Js}
    (h : parseResourceDocuments reading yaml = .ok documents) :
    ∃ values, reading.loadAll yaml = .ok values ∧
      documents = values.filter fun value => !isNullish value := by
  rw [parseResourceDocuments] at h
  split at h
  · cases h
  · cases hload : reading.loadAll yaml with
    | error message =>
        rw [hload] at h
        cases h
    | ok values =>
        rw [hload] at h
        dsimp only at h
        split at h
        · cases h
        · exact ⟨values, rfl, eq_of_checkDocuments h⟩

theorem not_holds_of_nullish {value : Js} (h : isNullish value = true) : ¬HoldsSecret value := by
  intro hsecret
  cases hsecret <;> cases h

theorem noSecret_of_ordinary (h : ordinaryYaml reading yaml = true) : NoSecret reading yaml := by
  intro documents hload document hdocument hsecret
  rw [ordinaryYaml] at h
  split at h
  · cases h
  · cases hparse : parseResourceDocuments reading yaml with
    | error message =>
        rw [hparse] at h
        cases h
    | ok parsed =>
        rw [hparse] at h
        obtain ⟨values, hvalues, hfilter⟩ := parseResourceDocuments_ok hparse
        rw [hload] at hvalues
        obtain rfl := Except.ok.inj hvalues
        have hnot : anyHasSecret parsed = false := by simpa using h
        have hmem : document ∈ parsed := by
          rw [hfilter, List.mem_filter]
          refine ⟨hdocument, ?_⟩
          cases hnull : isNullish document with
          | false => rfl
          | true => exact absurd hsecret (not_holds_of_nullish hnull)
        rw [anyHasSecret_eq, List.any_eq_false] at hnot
        exact hnot document hmem (hasSecret_of_holds hsecret)

theorem noSecret_of_safe (h : safe reading scope draft = true) :
    NoSecret reading draft.yaml ∧ ∀ original ∈ draft.originalYaml, NoSecret reading original := by
  rw [safe, Bool.and_eq_true, Bool.and_eq_true] at h
  refine ⟨noSecret_of_ordinary h.1.2, ?_⟩
  intro original horiginal
  have hordinary := h.2
  rw [Option.mem_def.mp horiginal] at hordinary
  exact noSecret_of_ordinary hordinary

end Documents

theorem key_injective : Function.Injective key := by
  intro scope other h
  have hitems := stringifyStrings_injective (String.append_right_inj _ |>.mp h)
  cases scope
  cases other
  simpa using hitems

section Entries

variable {reading : Reading}

theorem ownOrder_of_no_index {fields : List (String × Js)}
    (h : ∀ field ∈ fields, isIndex field.1 = false) : ownOrder fields = fields := by
  have hnone : fields.filter (fun field => isIndex field.1) = [] := by
    rw [List.filter_eq_nil_iff]
    intro field hfield
    rw [h field hfield]
    exact Bool.false_ne_true
  have hall : fields.filter (fun field => !isIndex field.1) = fields := by
    rw [List.filter_eq_self]
    intro field hfield
    rw [h field hfield]
    rfl
  rw [ownOrder, hnone, hall]
  rfl

/-- The object as it is read back: what was undefined is gone, and a time that is not finite is
null. -/
def readBack (draft : Draft) (savedAt : Option (Instant reading)) : Js :=
  .object ([("version", .number oneNumber), ("yaml", .string draft.yaml)] ++
    (draft.originalYaml.elim [] fun original => [("originalYaml", .string original)]) ++
    [("savedAt", savedAt.elim .null (.number ·.number))])

theorem stringify_entry (draft : Draft) (savedAt : Option (Instant reading)) :
    stringify (entry draft savedAt) = stringify (readBack draft savedAt) := by
  obtain ⟨yaml, original⟩ := draft
  cases original <;> cases savedAt <;> rfl

theorem parsed_readBack (draft : Draft) (savedAt : Option (Instant reading)) :
    Parsed reading.numbers (readBack draft savedAt) := by
  have hone : Parsed reading.numbers (.number oneNumber) := .number (by decide) reading.read_one
  have hsavedAt : Parsed reading.numbers (savedAt.elim .null (.number ·.number)) := by
    cases savedAt with
    | none => exact .null
    | some instant => exact .number instant.literal instant.read
  have hkeys : ∀ name ∈ ["version", "yaml", "originalYaml", "savedAt"], isIndex name = false := by
    decide
  obtain ⟨yaml, original⟩ := draft
  cases original with
  | none =>
      refine .object (by simp) (ownOrder_of_no_index ?_) ?_
      · intro field hfield
        simp only [Option.elim_none, List.append_nil, List.cons_append, List.nil_append,
          List.mem_cons, List.not_mem_nil, or_false] at hfield
        rcases hfield with rfl | rfl | rfl <;> exact hkeys _ (by simp)
      · intro field hfield
        simp only [Option.elim_none, List.append_nil, List.cons_append, List.nil_append,
          List.mem_cons, List.not_mem_nil, or_false] at hfield
        rcases hfield with rfl | rfl | rfl
        · exact hone
        · exact .string yaml
        · exact hsavedAt
  | some original =>
      refine .object (by simp) (ownOrder_of_no_index ?_) ?_
      · intro field hfield
        simp only [Option.elim_some, List.cons_append, List.nil_append, List.mem_cons,
          List.not_mem_nil, or_false] at hfield
        rcases hfield with rfl | rfl | rfl | rfl <;> exact hkeys _ (by simp)
      · intro field hfield
        simp only [Option.elim_some, List.cons_append, List.nil_append, List.mem_cons,
          List.not_mem_nil, or_false] at hfield
        rcases hfield with rfl | rfl | rfl | rfl
        · exact hone
        · exact .string yaml
        · exact .string original
        · exact hsavedAt

theorem finite_readBack (draft : Draft) (savedAt : Option (Instant reading)) :
    (readBack draft savedAt).finite = true := by
  obtain ⟨yaml, original⟩ := draft
  cases original <;> cases savedAt <;> rfl

theorem parse_entryText (draft : Draft) (savedAt : Option (Instant reading)) :
    parse reading.numbers (entryText draft savedAt) = some (readBack draft savedAt) := by
  have hparsed := parsed_readBack draft savedAt
  rw [entryText, stringify_entry, hparsed.parse_stringify,
    (Js.clone_eq_self_iff hparsed).mpr (finite_readBack draft savedAt)]

theorem field_readBack (draft : Draft) (savedAt : Option (Instant reading)) :
    (readBack draft savedAt).field "version" = .number oneNumber ∧
    (readBack draft savedAt).field "yaml" = .string draft.yaml ∧
    (readBack draft savedAt).field "originalYaml" = draft.originalYaml.elim .undefined .string ∧
    (readBack draft savedAt).field "savedAt" = savedAt.elim .null (.number ·.number) := by
  obtain ⟨yaml, original⟩ := draft
  refine ⟨?_, ?_, ?_, ?_⟩
  · cases original <;> cases savedAt <;> rfl
  · cases original <;> cases savedAt <;> rfl
  · cases original <;> cases savedAt <;> rfl
  · cases original <;> cases savedAt <;> rfl

theorem accept_entryText {scope : EditorDraftScope} {now : ℚ} {draft : Draft}
    {savedAt : Option (Instant reading)} {result : EditorDraft}
    (h : accept reading scope now (entryText draft savedAt) = some result) :
    ∃ instant, savedAt = some instant ∧ result = ⟨draft, instant.number⟩ ∧
      reading.value instant.number ≤ now ∧ now - reading.value instant.number < day := by
  obtain ⟨hversion, hyaml, horiginal, hsavedAt⟩ := field_readBack draft savedAt
  rw [accept, parse_entryText] at h
  dsimp only at h
  rw [hversion, hyaml, hsavedAt] at h
  cases savedAt with
  | none => cases h
  | some instant =>
      refine ⟨instant, rfl, ?_⟩
      simp only [Option.elim_some] at h
      split at h
      · cases h
      · rename_i hfresh
        rw [not_or, not_or, not_le, not_lt] at hfresh
        rw [horiginal] at h
        obtain ⟨yaml, original⟩ := draft
        cases original with
        | none =>
            dsimp only [Option.elim_none] at h
            split at h
            · exact ⟨(Option.some.inj h).symm, hfresh.2.2, hfresh.2.1⟩
            · cases h
        | some original =>
            dsimp only [Option.elim_some] at h
            split at h
            · exact ⟨(Option.some.inj h).symm, hfresh.2.2, hfresh.2.1⟩
            · cases h

end Entries

/-! ## Calls in any order -/

/-- A call of the store; the storage throws where it is said to. -/
inductive Call (reading : Reading) where
  | save (scope : EditorDraftScope) (draft : Draft) (allowed : Bool)
      (now : Option (Instant reading)) (setFails clearFails : Bool)
  | read (scope : EditorDraftScope) (now : ℚ) (getFails clearFails : Bool)
  | clear (scope : EditorDraftScope) (clearFails : Bool)

section Calls

variable {reading : Reading} {storage : Storage} {calls : List (Call reading)}

def Call.perform (storage : Storage) : Call reading → Storage
  | .save scope draft allowed now setFails clearFails =>
      (Editor.save scope draft allowed now setFails clearFails storage).2
  | .read scope now getFails clearFails =>
      (Editor.read reading scope now getFails clearFails storage).2
  | .clear scope clearFails => Editor.clear scope clearFails storage

def stored (calls : List (Call reading)) : Storage := calls.foldl Call.perform fun _ => none

def Call.saved? (scope : EditorDraftScope) : Call reading → Option (Draft × Option (Instant reading))
  | .save other draft allowed now setFails clearFails =>
      if other = scope ∧
          (Editor.save other draft allowed now setFails clearFails fun _ => none).1 = true then
        some (draft, now)
      else none
  | _ => none

/-- What the last successful call of `save` for a scope saved. -/
def lastSaved (calls : List (Call reading)) (scope : EditorDraftScope) :
    Option (Draft × Option (Instant reading)) :=
  calls.reverse.findSome? (Call.saved? scope)

theorem lastSaved_append (calls : List (Call reading)) (call : Call reading)
    (scope : EditorDraftScope) :
    lastSaved (calls ++ [call]) scope = (call.saved? scope).or (lastSaved calls scope) := by
  rw [lastSaved, List.reverse_append, List.reverse_singleton, List.singleton_append,
    List.findSome?_cons, lastSaved]
  cases call.saved? scope <;> rfl

theorem stored_append (calls : List (Call reading)) (call : Call reading) :
    stored (calls ++ [call]) = call.perform (stored calls) := by
  rw [stored, List.foldl_append, List.foldl_cons, List.foldl_nil, stored]

def Kept (storage : Storage) (last : EditorDraftScope → Option (Draft × Option (Instant reading))) :
    Prop :=
  ∀ name raw, storage name = some raw → ∃ scope draft savedAt, name = key scope ∧
    last scope = some (draft, savedAt) ∧ raw = entryText draft savedAt ∧
      safe reading scope draft = true

variable {last : EditorDraftScope → Option (Draft × Option (Instant reading))}

theorem Kept.clear (h : Kept storage last) (scope : EditorDraftScope) (fails : Bool) :
    Kept (clear scope fails storage) last := by
  intro name raw hraw
  rw [Editor.clear] at hraw
  split at hraw
  · exact h name raw hraw
  · by_cases hname : name = key scope
    · rw [hname, Function.update_self] at hraw
      cases hraw
    · rw [Function.update_of_ne hname] at hraw
      exact h name raw hraw

theorem Kept.read (h : Kept storage last) (scope : EditorDraftScope) (now : ℚ)
    (getFails clearFails : Bool) :
    Kept (Editor.read reading scope now getFails clearFails storage).2 last := by
  rw [Editor.read]
  split
  · exact h.clear scope clearFails
  · split
    · exact h
    · split
      · exact h
      · split
        · exact h
        · exact h.clear scope clearFails

theorem Kept.save (h : Kept storage last) (scope : EditorDraftScope) (draft : Draft)
    (hsafe : safe reading scope draft = true) (now : Option (Instant reading)) :
    Kept (Function.update storage (key scope) (some (entryText draft now)))
      fun other => if scope = other then some (draft, now) else last other := by
  intro name raw hraw
  by_cases hname : name = key scope
  · rw [hname, Function.update_self] at hraw
    exact ⟨scope, draft, now, hname, if_pos rfl, (Option.some.inj hraw).symm, hsafe⟩
  · rw [Function.update_of_ne hname] at hraw
    obtain ⟨other, draft', savedAt, hother, hlast, htext, hsafe'⟩ := h name raw hraw
    have hne : scope ≠ other := by
      rintro rfl
      exact hname hother
    exact ⟨other, draft', savedAt, hother, (if_neg hne).trans hlast, htext, hsafe'⟩

theorem save_cases (scope : EditorDraftScope) (draft : Draft) (allowed : Bool)
    (now : Option (Instant reading)) (setFails clearFails : Bool) :
    ((∀ storage, save scope draft allowed now setFails clearFails storage =
        (true, Function.update storage (key scope) (some (entryText draft now)))) ∧
      safe reading scope draft = true) ∨
    (∀ storage, (save scope draft allowed now setFails clearFails storage).1 = false ∧
      ((save scope draft allowed now setFails clearFails storage).2 = storage ∨
        (save scope draft allowed now setFails clearFails storage).2 =
          clear scope clearFails storage)) := by
  by_cases hmay : allowed = false ∨ safe reading scope draft = false
  · refine Or.inr fun storage => ?_
    rw [save, if_pos hmay]
    exact ⟨rfl, Or.inr rfl⟩
  · cases setFails with
    | true =>
        refine Or.inr fun storage => ?_
        rw [save, if_neg hmay]
        exact ⟨rfl, Or.inl rfl⟩
    | false =>
        refine Or.inl ⟨fun storage => ?_, ?_⟩
        · rw [save, if_neg hmay]
          rfl
        · rw [not_or, Bool.not_eq_false, Bool.not_eq_false] at hmay
          exact hmay.2

theorem Kept.perform (h : Kept storage (lastSaved calls)) (call : Call reading) :
    Kept (call.perform storage) (lastSaved (calls ++ [call])) := by
  have hnone : (∀ scope, call.saved? scope = none) →
      lastSaved (calls ++ [call]) = lastSaved calls := by
    intro hnothing
    funext scope
    rw [lastSaved_append, hnothing scope, Option.none_or]
  cases call with
  | read scope now getFails clearFails =>
      rw [hnone fun _ => rfl]
      exact h.read scope now getFails clearFails
  | clear scope clearFails =>
      rw [hnone fun _ => rfl]
      exact h.clear scope clearFails
  | save scope draft allowed now setFails clearFails =>
      rcases save_cases scope draft allowed now setFails clearFails with ⟨hdone, hsafe⟩ | hnot
      · have hlast : lastSaved (calls ++ [.save scope draft allowed now setFails clearFails]) =
            fun other => if scope = other then some (draft, now) else lastSaved calls other := by
          funext other
          rw [lastSaved_append, Call.saved?, hdone]
          by_cases hother : scope = other
          · rw [if_pos ⟨hother, rfl⟩, if_pos hother, Option.some_or]
          · rw [if_neg fun hboth => hother hboth.1, if_neg hother, Option.none_or]
        rw [hlast, Call.perform, hdone]
        exact h.save scope draft hsafe now
      · have hnothing : ∀ other,
            (Call.save scope draft allowed now setFails clearFails).saved? other = none := by
          intro other
          refine if_neg ?_
          rintro ⟨-, htrue⟩
          rw [(hnot _).1] at htrue
          cases htrue
        rw [hnone hnothing, Call.perform]
        rcases (hnot storage).2 with hsame | hcleared
        · rw [hsame]
          exact h
        · rw [hcleared]
          exact h.clear scope clearFails

theorem kept_stored (calls : List (Call reading)) : Kept (stored calls) (lastSaved calls) := by
  induction calls using List.reverseRecOn with
  | nil =>
      intro name raw h
      cases h
  | append_singleton calls call ih =>
      rw [stored_append]
      exact ih.perform call

end Calls

end KubeNova.Editor
