import KubeNova.Foundation.JsFields
import KubeNova.Foundation.JsonText
import Mathlib.Data.List.Sort

/-!
# The order of an object's keys

An object lists its array indices first, in the order of the numbers, and its other keys as they
were written.  Two objects with the same keys in an order that tells all keys apart are listed
alike.
-/

namespace KubeNova.Foundation

/-! ## Array indices -/

def arrayIndex? (key : String) : Option Nat :=
  let n := key.toList.foldl (fun n c => n * 10 + (c.toNat - 48)) 0
  if key.toList.all Text.isDigit ∧ toString n = key ∧ n < 4294967295 then some n else none

theorem eq_of_arrayIndex? {key : String} {n : Nat} (h : arrayIndex? key = some n) :
    key = toString n := by
  unfold arrayIndex? at h
  dsimp only at h
  split_ifs at h with hindex
  rw [← Option.some.inj h]
  exact hindex.2.1.symm

def isIndex (key : String) : Bool := (arrayIndex? key).isSome

/-- Indices come by number and before all other keys, which come as `le` says. -/
def KeyLe (le : String → String → Prop) (key other : String) : Prop :=
  match arrayIndex? key, arrayIndex? other with
  | some n, some m => n ≤ m
  | some _, none => True
  | none, some _ => False
  | none, none => le key other

theorem KeyLe.eq_of_swap {le : String → String → Prop} {key other : String}
    (hle : le key other → le other key → isIndex key = false → isIndex other = false → key = other)
    (h : KeyLe le key other) (hswap : KeyLe le other key) : key = other := by
  unfold KeyLe at h hswap
  cases hkey : arrayIndex? key with
  | some n =>
      cases hother : arrayIndex? other with
      | some m =>
          rw [hkey, hother] at h hswap
          have heq : n = m := Nat.le_antisymm h hswap
          rw [eq_of_arrayIndex? hkey, eq_of_arrayIndex? hother, heq]
      | none =>
          rw [hkey, hother] at hswap
          exact hswap.elim
  | none =>
      cases hother : arrayIndex? other with
      | some m =>
          rw [hkey, hother] at h
          exact h.elim
      | none =>
          rw [hkey, hother] at h hswap
          exact hle h hswap (by rw [isIndex, hkey]; rfl) (by rw [isIndex, hother]; rfl)

section Order

variable {β γ : Type}

def indexLe (a b : String × β) : Prop := (arrayIndex? a.1).getD 0 ≤ (arrayIndex? b.1).getD 0

instance : DecidableRel (indexLe (β := β)) := fun _ _ => inferInstanceAs (Decidable (_ ≤ _))

instance : Std.Total (indexLe (β := β)) := ⟨fun _ _ => Nat.le_total _ _⟩

instance : IsTrans (String × β) indexLe := ⟨fun _ _ _ => Nat.le_trans⟩

def ownOrder (fields : List (String × β)) : List (String × β) :=
  (fields.filter fun field => isIndex field.1).insertionSort indexLe ++
    fields.filter fun field => !isIndex field.1

/-- `Object.fromEntries(entries)`: the last of the entries under one key counts. -/
def fromEntries (entries : List (String × β)) : List (String × β) :=
  ownOrder (entries.foldl (fun fields entry => setField fields entry.1 entry.2) [])

theorem perm_ownOrder (fields : List (String × β)) : (ownOrder fields).Perm fields :=
  ((List.perm_insertionSort _ _).append_right _).trans (List.filter_append_perm _ _)

theorem pairwise_ownOrder {le : String → String → Prop} {fields : List (String × β)}
    (h : fields.Pairwise fun a b => le a.1 b.1) :
    (ownOrder fields).Pairwise fun a b => KeyLe le a.1 b.1 := by
  have hindices : ∀ a ∈ (fields.filter fun field => isIndex field.1).insertionSort indexLe,
      ∃ n, arrayIndex? a.1 = some n := by
    intro a ha
    rw [List.mem_insertionSort, List.mem_filter] at ha
    exact Option.isSome_iff_exists.mp ha.2
  have hothers : ∀ a ∈ fields.filter fun field => !isIndex field.1, arrayIndex? a.1 = none := by
    intro a ha
    have hnot := (List.mem_filter.mp ha).2
    rwa [Bool.not_eq_true', isIndex, Option.isSome_eq_false_iff, Option.isNone_iff_eq_none] at hnot
  rw [ownOrder, List.pairwise_append]
  refine ⟨?_, ?_, fun a ha b hb => ?_⟩
  · refine (List.pairwise_insertionSort indexLe _).imp_of_mem fun {a b} ha hb hab => ?_
    obtain ⟨n, hn⟩ := hindices a ha
    obtain ⟨m, hm⟩ := hindices b hb
    rw [indexLe, hn, hm] at hab
    rw [KeyLe, hn, hm]
    exact hab
  · refine (h.filter _).imp_of_mem fun {a b} ha hb hab => ?_
    rw [KeyLe, hothers a ha, hothers b hb]
    exact hab
  · obtain ⟨n, hn⟩ := hindices a ha
    rw [KeyLe, hn, hothers b hb]
    trivial

theorem sublist_ownOrder {fields : List (String × β)} {l : List (String × β)}
    (hl : ∀ a ∈ l, isIndex a.1 = false) (h : l.Sublist fields) : l.Sublist (ownOrder fields) := by
  have hfilter : l.filter (fun field => !isIndex field.1) = l := by
    rw [List.filter_eq_self]
    intro a ha
    rw [hl a ha]
    rfl
  have hkept := h.filter fun field => !isIndex field.1
  rw [hfilter] at hkept
  exact hkept.trans (List.sublist_append_right _ _)

theorem setField_of_fresh {fields : List (String × β)} {key : String} {value : β}
    (h : key ∉ fields.map Prod.fst) : setField fields key value = fields ++ [(key, value)] := by
  rw [setField, if_neg]
  intro hany
  obtain ⟨field, hfield, hkey⟩ := List.any_eq_true.mp hany
  exact h (List.mem_map.mpr ⟨field, hfield, beq_iff_eq.mp hkey⟩)

theorem foldl_setField {entries acc : List (String × β)}
    (h : ((acc ++ entries).map Prod.fst).Nodup) :
    entries.foldl (fun fields entry => setField fields entry.1 entry.2) acc = acc ++ entries := by
  induction entries generalizing acc with
  | nil => rw [List.append_nil]; rfl
  | cons entry entries ih =>
      have hfresh : entry.1 ∉ acc.map Prod.fst := by
        intro hmem
        rw [List.map_append, List.map_cons, List.nodup_append] at h
        exact h.2.2 entry.1 hmem entry.1 List.mem_cons_self rfl
      have happend : acc ++ [entry] ++ entries = acc ++ entry :: entries := by simp
      rw [List.foldl_cons, setField_of_fresh hfresh]
      show entries.foldl _ (acc ++ [entry]) = _
      rw [ih (by rw [happend]; exact h), happend]

theorem fromEntries_of_nodup {entries : List (String × β)} (h : (entries.map Prod.fst).Nodup) :
    fromEntries entries = ownOrder entries := by
  have hfold : entries.foldl (fun fields entry => setField fields entry.1 entry.2) [] = entries :=
    foldl_setField h
  rw [fromEntries, hfold]

theorem map_fst_setField (fields : List (String × β)) (key : String) (value : β) :
    (setField fields key value).map Prod.fst =
      if key ∈ fields.map Prod.fst then fields.map Prod.fst else fields.map Prod.fst ++ [key] := by
  have hany : (fields.any (·.1 == key)) = true ↔ key ∈ fields.map Prod.fst := by
    rw [List.any_eq_true, List.mem_map]
    constructor
    · rintro ⟨field, hfield, hkey⟩
      exact ⟨field, hfield, beq_iff_eq.mp hkey⟩
    · rintro ⟨field, hfield, hkey⟩
      exact ⟨field, hfield, beq_iff_eq.mpr hkey⟩
  rw [setField]
  by_cases hmem : key ∈ fields.map Prod.fst
  · rw [if_pos (hany.mpr hmem), if_pos hmem, List.map_map]
    apply List.map_congr_left
    intro field _
    show (if (field.1 == key) = true then (key, value) else field).1 = field.1
    split
    · rename_i hkey
      exact (beq_iff_eq.mp hkey).symm
    · rfl
  · rw [if_neg (mt hany.mp hmem), if_neg hmem, List.map_append]
    rfl

theorem nodup_setField {fields : List (String × β)} (h : (fields.map Prod.fst).Nodup)
    (key : String) (value : β) : ((setField fields key value).map Prod.fst).Nodup := by
  rw [map_fst_setField]
  split
  · exact h
  · rename_i hnew
    rw [List.nodup_append]
    refine ⟨h, List.nodup_singleton key, fun a ha b hb => ?_⟩
    rw [List.mem_singleton] at hb
    rintro rfl
    exact hnew (hb ▸ ha)

theorem mem_setField {fields : List (String × β)} {key : String} {value : β} {field : String × β}
    (h : field ∈ setField fields key value) : field = (key, value) ∨ field ∈ fields := by
  rw [setField] at h
  split at h
  · obtain ⟨other, hother, rfl⟩ := List.mem_map.mp h
    split
    · exact .inl rfl
    · exact .inr hother
  · rw [List.mem_append, List.mem_singleton] at h
    exact h.symm

theorem nodup_fromEntries (entries : List (String × β)) :
    ((fromEntries entries).map Prod.fst).Nodup := by
  have hfold : ∀ acc : List (String × β), (acc.map Prod.fst).Nodup →
      ((entries.foldl (fun fields entry => setField fields entry.1 entry.2) acc).map
        Prod.fst).Nodup := by
    induction entries with
    | nil => exact fun acc hacc => hacc
    | cons entry entries ih => exact fun acc hacc => ih _ (nodup_setField hacc _ _)
  exact (((perm_ownOrder _).map _).nodup_iff).mpr (hfold [] List.nodup_nil)

theorem mem_foldl_setField {entries acc : List (String × β)} {field : String × β}
    (h : field ∈ entries.foldl (fun fields entry => setField fields entry.1 entry.2) acc) :
    field ∈ acc ∨ field ∈ entries := by
  induction entries generalizing acc with
  | nil => exact .inl h
  | cons entry entries ih =>
      rcases ih h with hset | hlater
      · rcases mem_setField hset with rfl | hacc
        · exact .inr List.mem_cons_self
        · exact .inl hacc
      · exact .inr (List.mem_cons_of_mem _ hlater)

theorem mem_of_mem_fromEntries {entries : List (String × β)} {field : String × β}
    (h : field ∈ fromEntries entries) : field ∈ entries :=
  (mem_foldl_setField ((perm_ownOrder _).mem_iff.mp h)).resolve_left List.not_mem_nil

theorem ownOrder_ownOrder (fields : List (String × β)) :
    ownOrder (ownOrder fields) = ownOrder fields := by
  have hindices : ∀ field ∈ (fields.filter fun field => isIndex field.1).insertionSort indexLe,
      isIndex field.1 = true := by
    intro field hfield
    rw [List.mem_insertionSort] at hfield
    exact (List.mem_filter.mp hfield).2
  have hothers : ∀ field ∈ fields.filter fun field => !isIndex field.1,
      (!isIndex field.1) = true := fun field hfield => (List.mem_filter.mp hfield).2
  have hnoOther : (fields.filter fun field => !isIndex field.1).filter
      (fun field => isIndex field.1) = [] := by
    rw [List.filter_eq_nil_iff]
    intro field hfield hindex
    have hother := hothers field hfield
    rw [hindex] at hother
    cases hother
  have hnoIndex : ((fields.filter fun field => isIndex field.1).insertionSort indexLe).filter
      (fun field => !isIndex field.1) = [] := by
    rw [List.filter_eq_nil_iff]
    intro field hfield hother
    rw [hindices field hfield] at hother
    cases hother
  have hfirst : (ownOrder fields).filter (fun field => isIndex field.1) =
      (fields.filter fun field => isIndex field.1).insertionSort indexLe := by
    rw [ownOrder, List.filter_append, List.filter_eq_self.mpr hindices, hnoOther, List.append_nil]
  have hlast : (ownOrder fields).filter (fun field => !isIndex field.1) =
      fields.filter fun field => !isIndex field.1 := by
    rw [ownOrder, List.filter_append, hnoIndex, List.filter_eq_self.mpr hothers, List.nil_append]
  have hsorted := List.pairwise_insertionSort indexLe (fields.filter fun field => isIndex field.1)
  calc
    ownOrder (ownOrder fields)
      = ((ownOrder fields).filter fun field => isIndex field.1).insertionSort indexLe ++
          (ownOrder fields).filter fun field => !isIndex field.1 := rfl
    _ = ownOrder fields := by rw [hfirst, hlast, hsorted.insertionSort_eq, ownOrder]

theorem ownOrder_fromEntries (entries : List (String × β)) :
    ownOrder (fromEntries entries) = fromEntries entries := ownOrder_ownOrder _

theorem ownOrder_map (f : β → γ) (fields : List (String × β)) :
    ownOrder (fields.map fun field => (field.1, f field.2)) =
      (ownOrder fields).map fun field => (field.1, f field.2) := by
  have hfilter : ∀ p : String → Bool,
      (fields.map fun field => (field.1, f field.2)).filter (fun field => p field.1) =
        (fields.filter fun field => p field.1).map fun field => (field.1, f field.2) := by
    intro p
    rw [List.filter_map]
    rfl
  have hsort := List.map_insertionSort indexLe indexLe
    (fun field : String × β => (field.1, f field.2)) (fields.filter fun field => isIndex field.1)
    fun _ _ _ _ => Iff.rfl
  rw [ownOrder, ownOrder, List.map_append, hfilter isIndex, hfilter fun key => !isIndex key, hsort]

end Order

/-! ## Documents -/

namespace Js

section Induction

variable {P : Js → Prop} (leaf : ∀ v : Js, v.isComposite = false → P v)
  (array : ∀ elements, (∀ e ∈ elements, P e) → P (.array elements))
  (object : ∀ fields, (∀ f ∈ fields, P f.2) → P (.object fields))

include leaf array object

mutual

theorem induction : ∀ v : Js, P v
  | .undefined => leaf _ rfl
  | .null => leaf _ rfl
  | .nonFinite => leaf _ rfl
  | .bool _ => leaf _ rfl
  | .number _ => leaf _ rfl
  | .string _ => leaf _ rfl
  | .array elements => array elements (induction_elements elements)
  | .object fields => object fields (induction_fields fields)

theorem induction_elements : ∀ elements : List Js, ∀ e ∈ elements, P e
  | [], _, h => absurd h List.not_mem_nil
  | v :: rest, e, h => (List.mem_cons.mp h).elim (fun heq => heq ▸ induction v)
      (induction_elements rest e)

theorem induction_fields : ∀ fields : List (String × Js), ∀ f ∈ fields, P f.2
  | [], _, h => absurd h List.not_mem_nil
  | (_, v) :: rest, f, h => (List.mem_cons.mp h).elim (fun heq => heq ▸ induction v)
      (induction_fields rest f)

end

end Induction

/-- A value of the language: no key comes twice, and numbers are finite. -/
inductive Proper : Js → Prop
  | undefined : Proper .undefined
  | null : Proper .null
  | bool (value : Bool) : Proper (.bool value)
  | number (value : JsNumber) : Proper (.number value)
  | string (value : String) : Proper (.string value)
  | array {elements : List Js} : (∀ e ∈ elements, Proper e) → Proper (.array elements)
  | object {fields : List (String × Js)} : (fields.map Prod.fst).Nodup →
      (∀ f ∈ fields, Proper f.2) → Proper (.object fields)

/-- What JSON text can hold: nothing in it is undefined. -/
inductive IsJson : Js → Prop
  | null : IsJson .null
  | bool (value : Bool) : IsJson (.bool value)
  | number (value : JsNumber) : IsJson (.number value)
  | string (value : String) : IsJson (.string value)
  | array {elements : List Js} : (∀ e ∈ elements, IsJson e) → IsJson (.array elements)
  | object {fields : List (String × Js)} : (fields.map Prod.fst).Nodup →
      (∀ f ∈ fields, IsJson f.2) → IsJson (.object fields)

theorem IsJson.proper {v : Js} (h : IsJson v) : Proper v := by
  induction h with
  | null => exact .null
  | bool value => exact .bool value
  | number value => exact .number value
  | string value => exact .string value
  | array _ ih => exact .array ih
  | object hnodup _ ih => exact .object hnodup ih

theorem IsJson.isUndefined {v : Js} (h : IsJson v) : v.isUndefined = false := by
  cases h <;> rfl

theorem cloneElements_eq (elements : List Js) : cloneElements elements = elements.map clone := by
  induction elements with
  | nil => rfl
  | cons element elements ih => rw [cloneElements, ih, List.map_cons]

theorem cloneFields_eq (fields : List (String × Js)) :
    cloneFields fields = (present fields).map fun p => (p.1, p.2.clone) := by
  induction fields with
  | nil => rfl
  | cons p fields ih =>
      rw [cloneFields, present_cons]
      split
      · exact ih
      · rw [List.map_cons, ih]

theorem nodup_present {fields : List (String × Js)} (h : (fields.map Prod.fst).Nodup) :
    ((present fields).map Prod.fst).Nodup :=
  h.sublist (List.filter_sublist.map _)

theorem present_eq_self {fields : List (String × Js)}
    (h : ∀ f ∈ fields, f.2.isUndefined = false) : present fields = fields := by
  rw [present, List.filter_eq_self]
  intro f hf
  rw [h f hf]
  rfl

theorem mem_present {fields : List (String × Js)} {field : String × Js} :
    field ∈ present fields ↔ field ∈ fields ∧ field.2.isUndefined = false := by
  rw [present, List.mem_filter, Bool.not_eq_true']

theorem Proper.nodup_keys {fields : List (String × Js)} (h : Proper (.object fields)) :
    (fields.map Prod.fst).Nodup := by
  cases h with
  | object hnodup _ => exact hnodup

theorem Proper.member {fields : List (String × Js)} (h : Proper (.object fields))
    {field : String × Js} (hfield : field ∈ fields) : Proper field.2 := by
  cases h with
  | object _ hfields => exact hfields field hfield

theorem Proper.element {elements : List Js} (h : Proper (.array elements)) {element : Js}
    (helement : element ∈ elements) : Proper element := by
  cases h with
  | array helements => exact helements element helement

theorem Proper.isJson_clone {v : Js} (hv : Proper v) : IsJson v.clone := by
  induction hv with
  | undefined => rw [clone]; exact .null
  | null => rw [clone]; exact .null
  | bool value => rw [clone]; exact .bool value
  | number value => rw [clone]; exact .number value
  | string value => rw [clone]; exact .string value
  | array _ ih =>
      rw [clone, cloneElements_eq]
      refine .array fun e he => ?_
      obtain ⟨element, helement, rfl⟩ := List.mem_map.mp he
      exact ih element helement
  | object hnodup _ ih =>
      rw [clone, cloneFields_eq]
      refine .object ?_ fun f hf => ?_
      · rw [List.map_map]
        exact nodup_present hnodup
      · obtain ⟨field, hfield, rfl⟩ := List.mem_map.mp hf
        exact ih field (mem_present.mp hfield).1

theorem Proper.child {v part : Js} (hv : Proper v) {step : PathStep}
    (h : v.child step = some part) : Proper part := by
  cases hv with
  | array helements =>
      cases step with
      | key name => cases h
      | index n => exact helements _ (List.mem_of_getElem? h)
  | object hnodup hfields =>
      cases step with
      | index n => cases h
      | key name =>
          have hmem := (mem_iff_lookup (nodup_present hnodup)).mpr h
          exact hfields _ (mem_present.mp hmem).1
  | _ => cases step <;> cases h

theorem IsJson.perm {fs gs : List (String × Js)} (h : (Js.object fs).IsJson) (hperm : fs.Perm gs) :
    (Js.object gs).IsJson := by
  cases h with
  | object hnodup hparts =>
      exact .object ((hperm.map _).nodup_iff.mp hnodup)
        fun f hf => hparts f (hperm.mem_iff.mpr hf)

end Js

namespace SameJson

theorem leaf {a b : Js} (h : SameJson a b) : a.leaf = b.leaf := Option.some.inj (h [])

theorem child {a b : Js} (h : SameJson a b) (step : PathStep) :
    Option.Rel SameJson (a.child step) (b.child step) := by
  cases ha : a.child step with
  | none =>
      cases hb : b.child step with
      | none => exact .none
      | some part =>
          have hget := h [step]
          simp only [Js.get, ha, hb] at hget
          cases hget
  | some part =>
      cases hb : b.child step with
      | none =>
          have hget := h [step]
          simp only [Js.get, ha, hb] at hget
          cases hget
      | some part' =>
          refine .some fun path => ?_
          have hget := h (step :: path)
          simp only [Js.get, ha, hb] at hget
          exact hget

theorem object_of_perm {fs gs : List (String × Js)} (h : (fs.map Prod.fst).Nodup)
    (hperm : fs.Perm gs) : SameJson (.object gs) (.object fs) := by
  intro path
  cases path with
  | nil => rfl
  | cons step path =>
      have hchild : (Js.object gs).child step = (Js.object fs).child step := by
        cases step with
        | index n => rfl
        | key name => exact lookup_of_perm (Js.nodup_present h) (hperm.filter _) name
      rw [Js.get, Js.get, hchild]

theorem clone (v : Js) : SameJson v.clone v := by
  apply sameJson_of_parts (R := fun a b => a = b.clone)
  · rintro a b rfl
    cases b with
    | array elements => rw [Js.clone, Js.cloneElements_eq, Js.leaf, Js.leaf, List.length_map]
    | _ => rfl
  · rintro a b rfl step
    cases b with
    | array elements =>
        cases step with
        | key name => exact .none
        | index n =>
            show Option.Rel _ (Js.cloneElements elements)[n]? elements[n]?
            rw [Js.cloneElements_eq, List.getElem?_map]
            cases elements[n]? with
            | none => exact .none
            | some part => exact .some rfl
    | object fields =>
        cases step with
        | index n => exact .none
        | key name =>
            show Option.Rel _ ((Js.present (Js.cloneFields fields)).lookup name)
              ((Js.present fields).lookup name)
            rw [Js.present_cloneFields, lookup_map_snd]
            cases (Js.present fields).lookup name with
            | none => exact .none
            | some part => exact .some rfl
    | _ => cases step <;> exact .none
  · rfl

end SameJson

end KubeNova.Foundation
