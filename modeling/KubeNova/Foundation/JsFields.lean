import KubeNova.Foundation.JsValue

/-!
# Writing the fields of an object

Setting and deleting fields, and the copy `JSON.parse(JSON.stringify(value))` makes, with what is
read back from them.
-/

namespace KubeNova.Foundation

/-- `object[key] = value`, where a new key comes last. -/
def setField {β : Type} (fields : List (String × β)) (key : String) (value : β) :
    List (String × β) :=
  if fields.any (·.1 == key) then fields.map fun p => if p.1 == key then (key, value) else p
  else fields ++ [(key, value)]

/-- `delete object[key]` -/
def removeField {β : Type} (fields : List (String × β)) (key : String) : List (String × β) :=
  fields.filter (·.1 != key)

section Lookup

variable {β : Type} {fields : List (String × β)} {key other : String} {value : β}

theorem lookup_setField_self : (setField fields key value).lookup key = some value := by
  rw [setField]
  split
  · rename_i hany
    induction fields with
    | nil => cases hany
    | cons field fields ih =>
        rw [List.map_cons]
        by_cases hkey : field.1 = key
        · rw [if_pos (beq_iff_eq.mpr hkey), List.lookup_cons_self]
        · rw [if_neg (mt beq_iff_eq.mp hkey), List.lookup_cons, beq_false_of_ne (Ne.symm hkey)]
          rw [List.any_cons, beq_false_of_ne hkey, Bool.false_or] at hany
          exact ih hany
  · rename_i hany
    have hnone : fields.lookup key = none := by
      rw [List.lookup_eq_none_iff]
      intro field hfield
      rw [bne_iff_ne]
      rintro rfl
      exact hany (List.any_eq_true.mpr ⟨field, hfield, beq_self_eq_true _⟩)
    rw [List.lookup_append, hnone, List.lookup_cons_self]
    rfl

theorem lookup_setField_of_ne (hne : key ≠ other) :
    (setField fields other value).lookup key = fields.lookup key := by
  rw [setField]
  split
  · clear * - hne
    induction fields with
    | nil => rfl
    | cons p fields ih =>
        rw [List.map_cons]
        by_cases hp : p.1 = other
        · rw [if_pos (beq_iff_eq.mpr hp), List.lookup_cons, List.lookup_cons, hp,
            beq_false_of_ne hne]
          exact ih
        · rw [if_neg (mt beq_iff_eq.mp hp), List.lookup_cons, List.lookup_cons, ih]
  · rw [List.lookup_append]
    have hlast : List.lookup key [(other, value)] = none := by
      rw [List.lookup_cons, beq_false_of_ne hne]
      rfl
    rw [hlast, Option.or_none]

theorem lookup_removeField_of_ne (hne : key ≠ other) :
    (removeField fields other).lookup key = fields.lookup key := by
  rw [removeField]
  induction fields with
  | nil => rfl
  | cons p fields ih =>
      by_cases hp : p.1 = other
      · rw [List.filter_cons_of_neg (by simp [hp]), List.lookup_cons, hp, beq_false_of_ne hne]
        exact ih
      · rw [List.filter_cons_of_pos (by simp [hp]), List.lookup_cons, List.lookup_cons, ih]

theorem lookup_removeField_self : (removeField fields key).lookup key = none := by
  rw [List.lookup_eq_none_iff]
  intro p hp
  have hne := (List.mem_filter.mp hp).2
  rw [bne_iff_ne] at hne ⊢
  exact Ne.symm hne

end Lookup

mutual

/-- `String(value)` -/
def jsText : Js → String
  | .undefined => "undefined"
  | .null => "null"
  | .nonFinite => "Infinity"
  | .bool value => if value then "true" else "false"
  | .number value => value.text
  | .string value => value
  | .array elements => ",".intercalate (jsTexts elements)
  | .object _ => "[object Object]"

def jsTexts : List Js → List String
  | [] => []
  | element :: elements =>
      (match element with
        | .undefined => ""
        | .null => ""
        | element => jsText element) :: jsTexts elements

end

/-- `value === text` -/
def Js.isText (value : Js) (text : String) : Bool :=
  match value with
  | .string value => value == text
  | _ => false

namespace Js

mutual

/-- `JSON.parse(JSON.stringify(value))`: fields that are undefined go, and what JSON has no word
for becomes null. -/
def clone : Js → Js
  | undefined => null
  | null => null
  | nonFinite => null
  | bool value => .bool value
  | number value => .number value
  | string value => .string value
  | array elements => .array (cloneElements elements)
  | object fields => .object (cloneFields fields)

def cloneElements : List Js → List Js
  | [] => []
  | element :: elements => clone element :: cloneElements elements

def cloneFields : List (String × Js) → List (String × Js)
  | [] => []
  | (name, value) :: fields =>
      if value.isUndefined then cloneFields fields else (name, clone value) :: cloneFields fields

end

section Fields

variable {fields : List (String × Js)} {key other : String} {value : Js}

theorem field_eq (fields : List (String × Js)) (key : String) :
    (object fields).field key = ((present fields).lookup key).getD undefined := rfl

theorem field_of_not_mem (h : key ∉ fields.map Prod.fst) : (object fields).field key = undefined := by
  have hnone : (present fields).lookup key = none := by
    rw [List.lookup_eq_none_iff]
    intro p hp
    rw [bne_iff_ne]
    rintro rfl
    exact h (List.mem_map_of_mem (List.mem_filter.mp hp).1)
  rw [field_eq, hnone]
  rfl

theorem field_setField_self (hvalue : value.isUndefined = false) :
    (object (setField fields key value)).field key = value := by
  have hlookup : (present (setField fields key value)).lookup key = some value := by
    rw [setField]
    split
    · rename_i hany
      induction fields with
      | nil => cases hany
      | cons p fields ih =>
          rw [List.map_cons]
          by_cases hp : p.1 = key
          · rw [if_pos (beq_iff_eq.mpr hp), present_cons]
            rw [hvalue, if_neg Bool.false_ne_true, List.lookup_cons_self]
          · rw [if_neg (mt beq_iff_eq.mp hp), present_cons]
            rw [List.any_cons, beq_false_of_ne hp, Bool.false_or] at hany
            split
            · exact ih hany
            · rw [List.lookup_cons, beq_false_of_ne (Ne.symm hp)]
              exact ih hany
    · rename_i hany
      have hnone : (present fields).lookup key = none := by
        rw [List.lookup_eq_none_iff]
        intro p hp
        rw [bne_iff_ne]
        intro hsame
        apply hany
        rw [List.any_eq_true]
        exact ⟨p, (List.mem_filter.mp hp).1, beq_iff_eq.mpr hsame.symm⟩
      have hlast : present [(key, value)] = [(key, value)] := by
        rw [present_cons, hvalue, if_neg Bool.false_ne_true]
        rfl
      rw [present, List.filter_append, List.lookup_append]
      show ((present fields).lookup key).or ((present [(key, value)]).lookup key) = _
      rw [hnone, hlast, List.lookup_cons_self]
      rfl
  rw [field_eq, hlookup]
  rfl

theorem field_setField_of_ne (hne : key ≠ other) :
    (object (setField fields other value)).field key = (object fields).field key := by
  have hlookup : (present (setField fields other value)).lookup key =
      (present fields).lookup key := by
    have hother : ∀ v : Js, (present [(other, v)]).lookup key = none := by
      intro v
      rw [present_cons]
      split
      · rfl
      · rw [List.lookup_cons, beq_false_of_ne hne]
        rfl
    rw [setField]
    split
    · clear * - hne
      induction fields with
      | nil => rfl
      | cons p fields ih =>
          rw [List.map_cons, present_cons, present_cons]
          by_cases hp : p.1 = other
          · rw [if_pos (beq_iff_eq.mpr hp)]
            have hskip : ∀ (v : Js) (rest : List (String × Js)),
                (if v.isUndefined then rest else (other, v) :: rest).lookup key =
                  rest.lookup key := by
              intro v rest
              split
              · rfl
              · rw [List.lookup_cons, beq_false_of_ne hne]
            have hp' : p = (other, p.2) := by rw [← hp]
            rw [hskip, ih, hp', hskip]
          · rw [if_neg (mt beq_iff_eq.mp hp)]
            split
            · exact ih
            · rw [List.lookup_cons, List.lookup_cons, ih]
    · rw [present, List.filter_append, List.lookup_append]
      show ((present fields).lookup key).or ((present [(other, value)]).lookup key) = _
      rw [hother, Option.or_none]
  rw [field_eq, field_eq, hlookup]

theorem present_removeField : present (removeField fields key) = removeField (present fields) key := by
  rw [present, present, removeField, removeField, List.filter_filter, List.filter_filter]
  congr 1
  funext p
  rw [Bool.and_comm]

theorem field_removeField_self : (object (removeField fields key)).field key = undefined := by
  rw [field_eq, present_removeField, lookup_removeField_self]
  rfl

theorem field_removeField_of_ne (hne : key ≠ other) :
    (object (removeField fields other)).field key = (object fields).field key := by
  rw [field_eq, field_eq, present_removeField, lookup_removeField_of_ne hne]

theorem isUndefined_clone (value : Js) : value.clone.isUndefined = false := by
  cases value <;> (rw [clone]; rfl)

theorem present_cloneFields (fields : List (String × Js)) :
    present (cloneFields fields) = (present fields).map fun p => (p.1, p.2.clone) := by
  induction fields with
  | nil => rw [cloneFields]; rfl
  | cons p fields ih =>
      rw [cloneFields, present_cons]
      split
      · exact ih
      · rw [present_cons, isUndefined_clone, if_neg Bool.false_ne_true, List.map_cons, ih]

theorem field_clone : (object fields).clone.field key =
    if ((object fields).field key).isUndefined then undefined
    else ((object fields).field key).clone := by
  have hdefined : ∀ p ∈ present fields, p.2.isUndefined = false := by
    intro p hp
    exact Bool.not_eq_true' _ |>.mp (List.mem_filter.mp hp).2
  have hlookup : ∀ ps : List (String × Js), (∀ p ∈ ps, p.2.isUndefined = false) →
      ((ps.map fun p => (p.1, p.2.clone)).lookup key).getD undefined =
        if ((ps.lookup key).getD undefined).isUndefined then undefined
        else ((ps.lookup key).getD undefined).clone := by
    intro ps hps
    induction ps with
    | nil => rfl
    | cons p ps ih =>
        rw [List.map_cons, List.lookup_cons, List.lookup_cons]
        cases hkey : key == p.1 with
        | true =>
            show p.2.clone = if p.2.isUndefined then undefined else p.2.clone
            rw [hps p List.mem_cons_self, if_neg Bool.false_ne_true]
        | false => exact ih fun q hq => hps q (List.mem_cons_of_mem _ hq)
  rw [clone, field_eq, field_eq, present_cloneFields]
  exact hlookup _ hdefined

end Fields

end Js

end KubeNova.Foundation
