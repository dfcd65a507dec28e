import KubeNova.Foundation.JsObject

/-!
# What one document holds of another

A document contains another when everything of the other that is not null stands in it at the same
place: the members of objects may be joined by others, the elements of arrays may not.
-/

namespace KubeNova.Foundation

def Contains (whole part : Js) : Prop :=
  ∀ path l, part.get path = some l → l ≠ .null → whole.get path = some l

namespace Js

/-- `value === undefined || value === null` -/
def isNullish : Js → Bool
  | undefined => true
  | null => true
  | _ => false

theorem Proper.leaf_eq_null {value : Js} (h : Proper value) :
    value.leaf = .null ↔ value.isNullish = true := by
  cases h <;> simp [leaf, isNullish]

theorem child_of_leaf {value : Js} (h : value.leaf = .null) (step : PathStep) :
    value.child step = none := by
  cases value <;> first | rfl | cases h

/-- Where no key comes twice, what stands under a key is what the key has that is not undefined. -/
theorem child_object {fields : List (String × Js)} (h : (fields.map Prod.fst).Nodup) {key : String}
    {value : Js} : (object fields).child (.key key) = some value ↔
      fields.lookup key = some value ∧ value.isUndefined = false := by
  show (present fields).lookup key = some value ↔ _
  rw [← mem_iff_lookup (nodup_present h), mem_present, mem_iff_lookup h]

/-- `{ ...object, ...fields }` -/
def spread (object fields : List (String × Js)) : List (String × Js) :=
  fields.foldl (fun object field => setField object field.1 field.2) object

theorem nodup_spread {object : List (String × Js)} (h : (object.map Prod.fst).Nodup)
    (fields : List (String × Js)) : ((spread object fields).map Prod.fst).Nodup := by
  induction fields generalizing object with
  | nil => exact h
  | cons field fields ih => exact ih (nodup_setField h _ _)

theorem lookup_spread_of_not_mem {object fields : List (String × Js)} {key : String}
    (h : key ∉ fields.map Prod.fst) : (spread object fields).lookup key = object.lookup key := by
  induction fields generalizing object with
  | nil => rfl
  | cons field fields ih =>
      rw [List.map_cons, List.mem_cons, not_or] at h
      show (spread (setField object field.1 field.2) fields).lookup key = _
      rw [ih h.2, lookup_setField_of_ne h.1]

theorem lookup_spread {object fields : List (String × Js)} (hobject : (object.map Prod.fst).Nodup)
    (h : (fields.map Prod.fst).Nodup) {key : String} {value : Js}
    (hvalue : fields.lookup key = some value) :
    (spread object fields).lookup key = some value := by
  induction fields generalizing object with
  | nil => cases hvalue
  | cons field fields ih =>
      obtain ⟨hnew, hrest⟩ := List.nodup_cons.mp h
      have hset := nodup_setField hobject field.1 field.2
      show (spread (setField object field.1 field.2) fields).lookup key = _
      rw [lookup_cons_eq] at hvalue
      by_cases hkey : key = field.1
      · rw [if_pos hkey] at hvalue
        rw [hkey, lookup_spread_of_not_mem hnew, ← hvalue]
        exact lookup_setField_self
      · rw [if_neg hkey] at hvalue
        exact ih hset hrest hvalue

end Js

open Js

theorem Contains.refl (value : Js) : Contains value value := fun _ _ h _ => h

theorem Contains.trans {a b c : Js} (h : Contains a b) (h' : Contains b c) : Contains a c :=
  fun path l hl hne => h path l (h' path l hl hne) hne

theorem contains_iff {whole part : Js} (hpart : part.leaf ≠ .null) :
    Contains whole part ↔ whole.leaf = part.leaf ∧ ∀ step value, part.child step = some value →
      value.leaf ≠ .null → ∃ other, whole.child step = some other ∧ Contains other value := by
  constructor
  · intro h
    refine ⟨Option.some.inj (h [] _ rfl hpart), fun step value hvalue hleaf => ?_⟩
    have hhere := h [step] value.leaf (by simp only [Js.get, hvalue]) hleaf
    cases hother : whole.child step with
    | none =>
        simp only [Js.get, hother] at hhere
        cases hhere
    | some other =>
        refine ⟨other, rfl, fun path l hl hne => ?_⟩
        have hbelow := h (step :: path) l (by simp only [Js.get, hvalue, hl]) hne
        simp only [Js.get, hother] at hbelow
        exact hbelow
  · rintro ⟨hleaf, hparts⟩ path l hl hne
    cases path with
    | nil => exact (congrArg some hleaf).trans hl
    | cons step path =>
        cases hvalue : part.child step with
        | none =>
            simp only [Js.get, hvalue] at hl
            cases hl
        | some value =>
            simp only [Js.get, hvalue] at hl
            by_cases hnull : value.leaf = .null
            · cases path with
              | nil => exact absurd ((Option.some.inj hl).symm.trans hnull) hne
              | cons below path =>
                  simp only [Js.get, child_of_leaf hnull] at hl
                  cases hl
            · obtain ⟨other, hother, hcontains⟩ := hparts step value hvalue hnull
              simp only [Js.get, hother]
              exact hcontains path l hl hne

/-- An object is contained in one that has its members, apart from those that are null. -/
theorem contains_object {whole part : List (String × Js)} (hwhole : (whole.map Prod.fst).Nodup)
    (hpart : (part.map Prod.fst).Nodup) : Contains (.object whole) (.object part) ↔
      ∀ field ∈ part, field.2.leaf ≠ .null →
        ∃ value, whole.lookup field.1 = some value ∧ Contains value field.2 := by
  have hdefined : ∀ {value : Js}, value.leaf ≠ .null → value.isUndefined = false := by
    intro value hvalue
    cases value <;> first | rfl | exact absurd rfl hvalue
  rw [contains_iff (show (Js.object part).leaf ≠ .null from Leaf.noConfusion)]
  constructor
  · rintro ⟨-, hparts⟩ ⟨key, value⟩ hfield hvalue
    have hchild : (Js.object part).child (.key key) = some value :=
      (child_object hpart).mpr ⟨(mem_iff_lookup hpart).mp hfield, hdefined hvalue⟩
    obtain ⟨other, hother, hcontains⟩ := hparts (.key key) value hchild hvalue
    exact ⟨other, ((child_object hwhole).mp hother).1, hcontains⟩
  · intro h
    refine ⟨rfl, fun step value hchild hvalue => ?_⟩
    cases step with
    | index n => cases hchild
    | key key =>
        have hfield := (mem_iff_lookup hpart).mpr ((child_object hpart).mp hchild).1
        obtain ⟨other, hother, hcontains⟩ := h (key, value) hfield hvalue
        have hleaf : other.leaf = value.leaf := ((contains_iff hvalue).mp hcontains).1
        exact ⟨other, (child_object hwhole).mpr ⟨hother, hdefined (hleaf ▸ hvalue)⟩, hcontains⟩

/-- A list is contained in one of its length that has its elements, apart from those that are
null. -/
theorem contains_array {whole part : List Js} : Contains (.array whole) (.array part) ↔
    whole.length = part.length ∧ ∀ (n : Nat) (value : Js), part[n]? = some value → value.leaf ≠ .null →
      ∃ other, whole[n]? = some other ∧ Contains other value := by
  rw [contains_iff (show (Js.array part).leaf ≠ .null from Leaf.noConfusion)]
  have hlength : (Js.array whole).leaf = (Js.array part).leaf ↔ whole.length = part.length :=
    ⟨fun h => Leaf.array.inj h, fun h => congrArg Leaf.array h⟩
  rw [hlength]
  refine and_congr_right fun _ => ⟨fun h n => h (.index n), fun h step value hchild => ?_⟩
  cases step with
  | index n => exact h n value hchild
  | key name => cases hchild

theorem contains_spread {object fields : List (String × Js)} (hobject : (object.map Prod.fst).Nodup)
    (h : (fields.map Prod.fst).Nodup) : Contains (.object (spread object fields)) (.object fields) :=
  (contains_object (nodup_spread hobject fields) h).mpr fun field hfield _ =>
    ⟨field.2, lookup_spread hobject h ((mem_iff_lookup h).mp hfield), .refl field.2⟩

end KubeNova.Foundation
