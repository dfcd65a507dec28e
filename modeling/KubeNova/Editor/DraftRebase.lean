import KubeNova.Editor.ResourceChanges

/-!
# Rebasing a draft

`rebaseResourceDraft` takes what the user changed of a manifest over to the latest version of it.
-/

namespace KubeNova.Editor

open KubeNova.Foundation KubeNova.Foundation.Json
open Found

/-- What is written where the value goes: nothing for `undefined`, and JSON has no word for a
function either. -/
def Found.json? : Found → Option Js
  | .inherited => none
  | .value .undefined => none
  | .value v => some v

/-- `copy[n] = value` on an array: what is skipped is left empty. -/
def setElement (elements : List Js) (n : Nat) (next : Js) : List Js :=
  if n < elements.length then elements.set n next
  else elements ++ List.replicate (n - elements.length) .undefined ++ [next]

def arrayLength? : Js → Option Nat
  | .null => some 0
  | .bool b => some b.toNat
  | v =>
      match v.toNumber.int? with
      | some (.ofNat n) => if n < 4294967296 then some n else none
      | _ => none

/-- `copy.length = value`, or `delete copy.length` -/
def setLength (elements : List Js) : Option Js → Except String (List Js)
  | none => .error "Cannot delete property 'length' of [object Array]"
  | some v =>
      match arrayLength? v with
      | some n => .ok (elements.take n ++ List.replicate (n - elements.length) .undefined)
      | none => .error "Invalid array length"

/-- A copy of the value with `copy[key] = next`, or without the key where nothing is written.  What
is no object and no array is replaced by an object, and JSON drops what an array has under a key
that is no index. -/
def assign (current : Js) (key : String) (next : Option Js) : Except String Js :=
  match current with
  | .array elements =>
      match arrayIndex? key with
      | some n =>
          .ok (.array (match next with
            | some v => setElement elements n v
            | none => elements.set n .undefined))
      | none =>
          if key = "length" then (setLength elements next).map .array
          else .ok (.array elements)
  | .object fields =>
      .ok (.object (match next with
        | some v => setField fields key v
        | none => removeField fields key))
  | _ =>
      .ok (.object (match next with
        | some v => [(key, v)]
        | none => []))

/-- `getManifestValue(current, [key]) ?? {}`; a function is copied to an empty object. -/
def childOrObject (current : Js) (key : String) : Js :=
  match member (.value current) key with
  | .inherited => .object []
  | .value .undefined => .object []
  | .value .null => .object []
  | .value v => v

def update (next : Option Js) : Js → List String → Except String Js
  | current, [] => .ok current
  | current, [key] => assign current key next
  | current, key :: rest => do
      let child ← update next (childOrObject current key) rest
      assign current key (some child)

def unsafeKeys : List String := ["__proto__", "prototype", "constructor"]

def setManifestValue (value : Js) (path : List String) (next : Found) : Except String Js :=
  if path.isEmpty then .error "修改路径不能为空"
  else if path.any unsafeKeys.contains then .error "不安全的字段路径"
  else update next.json? value path

inductive Choice where
  | draft
  | server
  deriving DecidableEq

structure ConflictField where
  key : String
  path : String
  deriving DecidableEq

structure Rebased where
  draft : Js
  conflicts : List String
  conflictFields : List ConflictField

def joined (path : List String) : String := ".".intercalate path

def pathKey (path : List String) : String := stringifyStrings path

def conflictField (path : List String) : ConflictField where
  key := pathKey path
  path := joined path

/-- The path the server counts its versions at, which is never taken over. -/
def isVersion (path : List String) : Prop := joined path = "metadata.resourceVersion"

instance : DecidablePred isVersion := fun _ => inferInstanceAs (Decidable (_ = _))

section Rebase

variable (locale : Update.Locale) (latest : Found) (choices : String → Option Choice)

def takeOver (before after : Found) (path : List String) (state : Rebased) :
    Except String Rebased :=
  let live := getManifestValue latest path
  if resourceFingerprint locale live ≠ resourceFingerprint locale before ∧
      resourceFingerprint locale live ≠ resourceFingerprint locale after then do
    let state := { state with conflictFields := state.conflictFields ++ [conflictField path] }
    match choices (pathKey path) with
    | some .draft =>
        let draft ← setManifestValue state.draft path after
        return { state with draft := draft }
    | some .server => return state
    | none => return { state with conflicts := state.conflicts ++ [joined path] }
  else do
    let draft ← setManifestValue state.draft path after
    return { state with draft := draft }

/-- `visit(before, after, path)`, as deep as `fuel` allows. -/
def visit : Nat → Found → Found → List String → Rebased → Except String Rebased
  | 0, _, _, _, state => .ok state
  | fuel + 1, before, after, path, state =>
      if isVersion path ∨ resourceFingerprint locale before = resourceFingerprint locale after then
        .ok state
      else if before.isObject && after.isObject then
        (unionKeys before after).foldlM (fun state key =>
          visit fuel (member before key) (member after key) (path ++ [key]) state) state
      else takeOver locale latest choices before after path state

end Rebase

def rebaseResourceDraft (locale : Update.Locale) (original draft latest : Js)
    (choices : String → Option Choice) : Except String Rebased :=
  visit locale (.value latest) choices (objectDepth original + objectDepth draft + 1)
    (.value original) (.value draft) []
    { draft := latest, conflicts := [], conflictFields := [] }

end KubeNova.Editor
