import KubeNova.Foundation.JsonText
import Mathlib.Data.List.Lex
import Mathlib.Data.List.Sort

/-!
# The canonical text of an action

`stableJson` writes a value with its fields in order of their names.  Two values
with one text are the same JSON, whatever their shape.
-/

namespace KubeNova.Assistant

open KubeNova.Foundation KubeNova.Foundation.Json

/-- The UTF-16 code units of a string, by which `Array.prototype.sort` compares. -/
def codeUnits (s : String) : List Nat :=
  s.toList.flatMap fun c =>
    if c.toNat < 0x10000 then [c.toNat]
    else [0xD800 + (c.toNat - 0x10000) / 0x400, 0xDC00 + (c.toNat - 0x10000) % 0x400]

def keyLe {α : Type} (a b : String × α) : Prop := codeUnits a.1 ≤ codeUnits b.1

instance {α : Type} : DecidableRel (keyLe (α := α)) := fun _ _ => inferInstanceAs (Decidable (_ ≤ _))

def sortFields {α : Type} (fields : List (String × α)) : List (String × α) :=
  fields.insertionSort keyLe

mutual

def stableText : Js → List Char
  | .undefined => "null".toList
  | .null => "null".toList
  | .nonFinite => "null".toList
  | .bool true => "true".toList
  | .bool false => "false".toList
  | .number value => value.text.toList
  | .string value => quote value
  | .array elements => '[' :: (join (stableElements elements) ++ [']'])
  | .object fields => '{' :: (join ((sortFields (stableFields fields)).map printField) ++ ['}'])

def stableElements : List Js → List (List Char)
  | [] => []
  | value :: rest => stableText value :: stableElements rest

def stableFields : List (String × Js) → List (String × List Char)
  | [] => []
  | (name, value) :: rest =>
      if value.isUndefined then stableFields rest
      else (name, stableText value) :: stableFields rest

end

def stableJson (value : Js) : String := String.ofList (stableText value)

theorem stableFields_eq (fields : List (String × Js)) :
    stableFields fields =
      (Js.present fields).map fun field => (field.1, stableText field.2) := by
  induction fields with
  | nil => rfl
  | cons field rest ih =>
      obtain ⟨name, value⟩ := field
      rw [stableFields, ih]
      cases hvalue : value.isUndefined <;> simp [Js.present, hvalue]

/-- Sorting finds the same field under a name: a field never moves past another
one of its own name. -/
theorem lookup_orderedInsert {α : Type} (field : String × α) (fields : List (String × α))
    (name : String) :
    (fields.orderedInsert keyLe field).lookup name = (field :: fields).lookup name := by
  induction fields with
  | nil => rfl
  | cons other rest ih =>
      rw [List.orderedInsert_cons]
      split
      · rfl
      · rename_i hlater
        have hne : field.1 ≠ other.1 := by
          intro h
          refine hlater ?_
          have hle : codeUnits other.1 ≤ codeUnits other.1 := le_refl _
          simpa only [keyLe, h] using hle
        rw [lookup_cons_eq, ih, lookup_cons_eq, lookup_cons_eq, lookup_cons_eq]
        by_cases hname : name = field.1
        · subst hname
          rw [if_neg hne, if_pos rfl, if_pos rfl]
        · rw [if_neg hname, if_neg hname]

theorem lookup_sortFields {α : Type} (fields : List (String × α)) (name : String) :
    (sortFields fields).lookup name = fields.lookup name := by
  induction fields with
  | nil => rfl
  | cons field rest ih =>
      show ((sortFields rest).orderedInsert keyLe field).lookup name = _
      rw [lookup_orderedInsert, lookup_cons_eq, ih, lookup_cons_eq]

theorem sortFields_map {α β : Type} (f : α → β) (fields : List (String × α)) :
    sortFields (fields.map fun field => (field.1, f field.2)) =
      (sortFields fields).map fun field => (field.1, f field.2) := by
  have hmap := List.map_insertionSort keyLe keyLe (fun field : String × α => (field.1, f field.2))
    fields fun _ _ _ _ => Iff.rfl
  exact hmap.symm

/-- The order `stableJson` writes the fields in. -/
def stableOrder (fields : List (String × Js)) : List (String × Js) := sortFields (Js.present fields)

theorem present_stableOrder (fields : List (String × Js)) :
    Js.present (stableOrder fields) = stableOrder fields := by
  rw [Js.present, List.filter_eq_self]
  intro field hfield
  have hmem : field ∈ Js.present fields := (List.perm_insertionSort _ _).mem_iff.mp hfield
  exact (List.mem_filter.mp hmem).2

theorem lookup_stableOrder (fields : List (String × Js)) (name : String) :
    (Js.present (stableOrder fields)).lookup name = (Js.present fields).lookup name := by
  rw [present_stableOrder, stableOrder, lookup_sortFields]

theorem stableText_object {fields : List (String × Js)}
    (h : ∀ field ∈ fields, stableText field.2 = stringify (arrange stableOrder field.2)) :
    stableText (.object fields) = stringify (arrange stableOrder (.object fields)) := by
  have hfields : stableFields fields = printed (arrangeFields stableOrder fields) := by
    rw [stableFields_eq, printed_eq, present_arrangeFields, List.map_map]
    apply List.map_congr_left
    intro field hfield
    exact Prod.ext rfl (h field (List.mem_filter.mp hfield).1)
  have hsorted : printed (stableOrder (arrangeFields stableOrder fields)) =
      sortFields (printed (arrangeFields stableOrder fields)) := by
    rw [printed_eq, present_stableOrder, printed_eq, sortFields_map, stableOrder]
  rw [stableText, arrange, stringify, hsorted, hfields]

mutual

theorem stableText_eq : ∀ value : Js, stableText value = stringify (arrange stableOrder value)
  | .undefined => rfl
  | .null => rfl
  | .nonFinite => rfl
  | .bool true => rfl
  | .bool false => rfl
  | .number _ => rfl
  | .string _ => rfl
  | .array elements => by
      rw [stableText, arrange, stringify, stableElements_arranged elements]
  | .object fields => stableText_object (stableFields_arranged fields)

theorem stableElements_arranged : ∀ elements : List Js,
    stableElements elements = stringifyElements (arrangeElements stableOrder elements)
  | [] => rfl
  | value :: rest => by
      rw [stableElements, arrangeElements, stringifyElements, stableText_eq value,
        stableElements_arranged rest]

theorem stableFields_arranged : ∀ fields : List (String × Js), ∀ field ∈ fields,
    stableText field.2 = stringify (arrange stableOrder field.2)
  | [], _, hfield => absurd hfield List.not_mem_nil
  | (_, value) :: rest, field, hfield =>
      (List.mem_cons.mp hfield).elim (fun h => h ▸ stableText_eq value)
        (stableFields_arranged rest field)

end

theorem sameJson_of_stableJson {a b : Js} (h : stableJson a = stableJson b) : SameJson a b := by
  have htexts : stringify (arrange stableOrder a) = stringify (arrange stableOrder b) := by
    rw [← stableText_eq, ← stableText_eq]
    exact String.ofList_injective h
  have harrange : ∀ v, SameJson (arrange stableOrder v) v := fun v =>
    @sameJson_arrange stableOrder (fun _ => True) (fun _ _ _ _ _ => trivial)
      (fun _ _ name => lookup_stableOrder _ name) v trivial
  exact ((harrange a).symm.trans (sameJson_of_stringify htexts)).trans (harrange b)

end KubeNova.Assistant
