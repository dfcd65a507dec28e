import KubeNova.Foundation.Text

/-!
# Values of a JSON document

The values a program can hold that it reads from JSON or writes as JSON.  Two
values are the same JSON when they have the same thing at every path: the order
of keys and fields that are undefined make no difference.
-/

namespace KubeNova.Foundation

def isNumberText (text : String) : Bool :=
  match text.toList with
  | [] => false
  | c :: cs => (Text.isDigit c || c == '-') &&
      cs.all fun d => Text.isDigit d || ['.', 'e', '+', '-'].contains d

structure JsNumber where
  text : String
  valid : isNumberText text = true
  deriving DecidableEq

inductive Js where
  | undefined
  | null
  /-- An infinity, which is what a number like `1e999` reads as. -/
  | nonFinite
  | bool (value : Bool)
  | number (value : JsNumber)
  | string (value : String)
  | array (elements : List Js)
  | object (fields : List (String × Js))

inductive PathStep where
  | key (name : String)
  | index (n : Nat)
  deriving DecidableEq

inductive Leaf where
  | null
  | bool (value : Bool)
  | number (value : JsNumber)
  | string (value : String)
  | array (length : Nat)
  | object
  deriving DecidableEq

namespace Js

def isUndefined : Js → Bool
  | undefined => true
  | _ => false

def present (fields : List (String × Js)) : List (String × Js) :=
  fields.filter fun field => !field.2.isUndefined

/-- What the value is in JSON, where `undefined` and non-finite numbers are written `null`. -/
def leaf : Js → Leaf
  | undefined => .null
  | null => .null
  | nonFinite => .null
  | bool value => .bool value
  | number value => .number value
  | string value => .string value
  | array elements => .array elements.length
  | object _ => .object

def child : Js → PathStep → Option Js
  | array elements, .index n => elements[n]?
  | object fields, .key name => (present fields).lookup name
  | _, _ => none

def get (value : Js) : List PathStep → Option Leaf
  | [] => some value.leaf
  | step :: path =>
      match value.child step with
      | some part => part.get path
      | none => none

/-- `value[name]`, with `undefined` for an absent field. -/
def field (value : Js) (name : String) : Js := (value.child (.key name)).getD undefined

theorem present_cons (field : String × Js) (fields : List (String × Js)) :
    present (field :: fields) =
      if field.2.isUndefined then present fields else field :: present fields := by
  unfold present
  rw [List.filter_cons]
  cases field.2.isUndefined <;> rfl

/-- Where no key comes twice, a field is what stands under its key. -/
theorem field_object {fields : List (String × Js)} (h : (fields.map Prod.fst).Nodup)
    (name : String) : (object fields).field name = (fields.lookup name).getD undefined := by
  show ((present fields).lookup name).getD undefined = _
  induction fields with
  | nil => rfl
  | cons field fields ih =>
      obtain ⟨key, value⟩ := field
      obtain ⟨hnew, hrest⟩ := List.nodup_cons.mp h
      rw [present_cons, List.lookup_cons]
      by_cases hkey : name = key
      · subst hkey
        have hnone : fields.lookup name = none :=
          List.lookup_eq_none_iff.mpr fun p hp => by
            have hne : p.1 ≠ name := fun heq => hnew (List.mem_map.mpr ⟨p, hp, heq⟩)
            simpa using Ne.symm hne
        cases hvalue : value.isUndefined with
        | true =>
            simp only [if_true, beq_self_eq_true, ih hrest, hnone]
            cases value <;> first | rfl | cases hvalue
        | false => simp
      · have hbeq : (name == key) = false := by simpa using hkey
        rw [hbeq, ← ih hrest]
        split
        · rfl
        · rw [List.lookup_cons, hbeq]

/-- `value ?? other`. -/
def orElse (value other : Js) : Js :=
  match value with
  | undefined => other
  | null => other
  | _ => value

def text? : Js → Option String
  | string value => some value
  | _ => none

def int? : Js → Option Int
  | number value => value.text.toInt?
  | _ => none

def ofInt (n : Int) : Js :=
  if h : isNumberText (toString n) then number ⟨toString n, h⟩ else nonFinite

def elements? : Js → Option (List Js)
  | array elements => some elements
  | _ => none

/-- `Number(value)`, for a value that is a number or its text. -/
def toNumber : Js → Js
  | number value => number value
  | string text => if h : isNumberText text then number ⟨text, h⟩ else nonFinite
  | _ => nonFinite

/-- `Boolean(value)`. -/
def truthy : Js → Bool
  | undefined => false
  | null => false
  | nonFinite => true
  | bool value => value
  | number value => value.text ≠ "0"
  | string value => value ≠ ""
  | array _ => true
  | object _ => true

/-- `typeof value === 'object'`, for a value that is not null. -/
def isComposite : Js → Bool
  | array _ => true
  | object _ => true
  | _ => false

end Js

/-- The two documents have the same thing at every path. -/
def SameJson (a b : Js) : Prop := ∀ path, a.get path = b.get path

namespace SameJson

theorem refl (a : Js) : SameJson a a := fun _ => rfl

theorem symm {a b : Js} (h : SameJson a b) : SameJson b a := fun path => (h path).symm

theorem trans {a b c : Js} (h : SameJson a b) (h' : SameJson b c) : SameJson a c :=
  fun path => (h path).trans (h' path)

end SameJson

/-- A relation between documents that agree on what they are and whose parts are
related again relates the same JSON only. -/
theorem sameJson_of_parts {R : Js → Js → Prop} (hleaf : ∀ a b, R a b → a.leaf = b.leaf)
    (hparts : ∀ a b, R a b → ∀ step, Option.Rel R (a.child step) (b.child step)) {a b : Js}
    (h : R a b) : SameJson a b := by
  intro path
  induction path generalizing a b with
  | nil => exact congrArg some (hleaf a b h)
  | cons step path ih =>
      have hpart := hparts a b h step
      simp only [Js.get]
      cases ha : a.child step with
      | none =>
          rw [ha] at hpart
          cases hb : b.child step with
          | none => rfl
          | some part => rw [hb] at hpart; cases hpart
      | some part =>
          rw [ha] at hpart
          cases hb : b.child step with
          | none => rw [hb] at hpart; cases hpart
          | some part' =>
              rw [hb] at hpart
              cases hpart with
              | some hrel => exact ih hrel

end KubeNova.Foundation
