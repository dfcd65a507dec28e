import KubeNova.Foundation.JsonRoundTrip
import Mathlib.Algebra.Order.Ring.Rat

/-!
# Drafts of the resource editor

`createEditorDraftStore`: the drafts of all users in one storage of the browser, any call of which
may throw, and `parseResourceDocuments`, which decides what may be kept there.  How YAML is read and
which number a text stands for are parameters.
-/

namespace KubeNova.Editor

open KubeNova.Foundation KubeNova.Foundation.Json

def oneNumber : JsNumber := ⟨"1", by decide⟩

/-- What the store relies on: the documents of a YAML text, an error where reading them throws or
one of them contains itself, and the numbers of JSON. -/
structure Reading where
  loadAll : String → Except String (List Js)
  numbers : Numbers
  value : JsNumber → ℚ
  read_one : numbers.read oneNumber.text.toList = some oneNumber
  value_one : value oneNumber = 1

structure Instant (reading : Reading) where
  number : JsNumber
  literal : isNumberLiteral number.text.toList = true
  read : reading.numbers.read number.text.toList = some number

structure EditorDraftScope where
  username : String
  clusterId : String
  kind : String
  apiVersion : String
  resource : String
  «namespace» : String
  name : String
  deriving DecidableEq

/-- An `EditorDraft` without the time it was saved at. -/
structure Draft where
  yaml : String
  originalYaml : Option String
  deriving DecidableEq

structure EditorDraft extends Draft where
  savedAt : JsNumber

/-! ## Which documents are ordinary -/

def unsafeFields : List String := ["__proto__", "constructor", "prototype"]

mutual

/-- `assertSerializable`, on a value that does not contain itself. -/
def assertSerializable (depth : Nat) : Js → Except String Unit
  | .array elements =>
      if 60 < depth then .error "YAML 包含循环引用或过深嵌套"
      else assertElements (depth + 1) elements
  | .object fields =>
      if 60 < depth then .error "YAML 包含循环引用或过深嵌套" else assertFields (depth + 1) fields
  | _ => .ok ()

def assertElements (depth : Nat) : List Js → Except String Unit
  | [] => .ok ()
  | element :: elements =>
      match assertSerializable depth element with
      | .error message => .error message
      | .ok _ => assertElements depth elements

def assertFields (depth : Nat) : List (String × Js) → Except String Unit
  | [] => .ok ()
  | (key, value) :: fields =>
      if unsafeFields.contains key then .error "YAML 包含不安全的字段"
      else
        match assertSerializable depth value with
        | .error message => .error message
        | .ok _ => assertFields depth fields

end

def isNullish : Js → Bool
  | .null | .undefined => true
  | _ => false

def checkDocument (value : Js) (index : Nat) : Except String Js :=
  match assertSerializable 0 value with
  | .error message => .error message
  | .ok _ =>
      match value with
      | .object fields =>
          match value.field "apiVersion", value.field "kind", value.field "metadata" with
          | .string _, .string _, .object _ => .ok (.object fields)
          | _, _, _ =>
              .error ("第 " ++ toString (index + 1) ++ " 个文档缺少 apiVersion、kind 或 metadata")
      | _ => .error ("第 " ++ toString (index + 1) ++ " 个文档不是资源对象")

def checkDocuments : List Js → Nat → Except String (List Js)
  | [], _ => .ok []
  | value :: rest, index =>
      match checkDocument value index with
      | .error message => .error message
      | .ok document => (checkDocuments rest (index + 1)).map (document :: ·)

def parseResourceDocuments (reading : Reading) (yaml : String) : Except String (List Js) :=
  if 2000000 < Text.length yaml then .error "YAML 超过 2MB，请拆分资源后提交"
  else
    match reading.loadAll yaml with
    | .error message => .error message
    | .ok values =>
        let documents := values.filter fun value => !isNullish value
        if documents = [] then .error "请输入资源 YAML" else checkDocuments documents 0

/-- A text that is `secret` in some letter case. -/
def isSecretKind (kind : String) : Bool := Text.toLower kind == "secret"

/-- `key==='kind' && typeof item==='string' && item.toLowerCase()==='secret'` -/
def isSecretField (field : String × Js) : Bool :=
  field.1 == "kind" && (match field.2 with | .string kind => isSecretKind kind | _ => false)

mutual

def hasSecret : Js → Bool
  | .array elements => anyHasSecret elements
  | .object fields => anyFieldHasSecret fields
  | _ => false

def anyHasSecret : List Js → Bool
  | [] => false
  | element :: elements => hasSecret element || anyHasSecret elements

def anyFieldHasSecret : List (String × Js) → Bool
  | [] => false
  | (key, item) :: fields =>
      isSecretField (key, item) || hasSecret item || anyFieldHasSecret fields

end

def ordinaryYaml (reading : Reading) (yaml : String) : Bool :=
  if 2000000 < Text.length yaml then false
  else
    match parseResourceDocuments reading yaml with
    | .ok documents => !anyHasSecret documents
    | .error _ => false

abbrev Storage := String → Option String

def key (scope : EditorDraftScope) : String :=
  "kubenova-editor-draft:" ++ stringifyStrings [scope.username, scope.clusterId, scope.kind,
    scope.apiVersion, scope.resource, scope.namespace, scope.name]

def safe (reading : Reading) (scope : EditorDraftScope) (draft : Draft) : Bool :=
  scope.username != "" && scope.clusterId != "" && !isSecretKind scope.kind &&
    ordinaryYaml reading draft.yaml &&
      (match draft.originalYaml with
        | none => true
        | some originalYaml => ordinaryYaml reading originalYaml)

variable {reading : Reading}

/-- The object that is written; a time that is not finite is `null` there. -/
def entry (draft : Draft) (savedAt : Option (Instant reading)) : Js :=
  .object [("version", .number oneNumber), ("yaml", .string draft.yaml),
    ("originalYaml", draft.originalYaml.elim .undefined .string),
    ("savedAt", savedAt.elim .nonFinite (.number ·.number))]

def entryText (draft : Draft) (savedAt : Option (Instant reading)) : String :=
  String.ofList (stringify (entry draft savedAt))

def clear (scope : EditorDraftScope) (fails : Bool) (storage : Storage) : Storage :=
  if fails then storage else Function.update storage (key scope) none

def save (scope : EditorDraftScope) (draft : Draft) (allowed : Bool)
    (now : Option (Instant reading)) (setFails clearFails : Bool) (storage : Storage) :
    Bool × Storage :=
  if allowed = false ∨ safe reading scope draft = false then
    (false, clear scope clearFails storage)
  else if setFails then (false, storage)
  else (true, Function.update storage (key scope) (some (entryText draft now)))

def day : ℚ := 86400000

/-- What `read` accepts of the text of an entry. -/
def accept (reading : Reading) (scope : EditorDraftScope) (now : ℚ) (raw : String) :
    Option EditorDraft :=
  match parse reading.numbers raw with
  | none => none
  | some draft =>
      match draft.field "version", draft.field "yaml", draft.field "savedAt" with
      | .number version, .string yaml, .number savedAt =>
          if reading.value version ≠ 1 ∨ day ≤ now - reading.value savedAt ∨
              now < reading.value savedAt then none
          else
            match draft.field "originalYaml" with
            | .undefined =>
                if safe reading scope ⟨yaml, none⟩ then some ⟨⟨yaml, none⟩, savedAt⟩ else none
            | .string originalYaml =>
                if safe reading scope ⟨yaml, some originalYaml⟩ then
                  some ⟨⟨yaml, some originalYaml⟩, savedAt⟩
                else none
            | _ => none
      | _, _, _ => none

def read (reading : Reading) (scope : EditorDraftScope) (now : ℚ) (getFails clearFails : Bool)
    (storage : Storage) : Option EditorDraft × Storage :=
  if getFails then (none, clear scope clearFails storage)
  else
    match storage (key scope) with
    | none => (none, storage)
    | some raw =>
        if raw = "" then (none, storage)
        else
          match accept reading scope now raw with
          | some draft => (some draft, storage)
          | none => (none, clear scope clearFails storage)

end KubeNova.Editor
