import Mathlib.Data.List.Perm.Basic

/-!
# Association lists

What `List.lookup` finds, above all where no key comes twice.
-/

namespace KubeNova.Foundation

variable {α β : Type}

theorem mem_of_lookup {κ : Type} [BEq κ] [LawfulBEq κ] {fields : List (κ × β)} {key : κ} {value : β}
    (h : fields.lookup key = some value) : (key, value) ∈ fields := by
  obtain ⟨before, after, rfl, -⟩ := List.lookup_eq_some_iff.mp h
  exact List.mem_append_right _ List.mem_cons_self

theorem lookup_cons_eq (field : String × α) (rest : List (String × α)) (name : String) :
    (field :: rest).lookup name = if name = field.1 then some field.2 else rest.lookup name := by
  obtain ⟨key, value⟩ := field
  rw [List.lookup_cons]
  by_cases h : name = key
  · rw [if_pos h, beq_iff_eq.mpr h]
  · rw [if_neg h, beq_eq_false_iff_ne.mpr h]

theorem lookup_map_snd (f : α → β) (fields : List (String × α)) (name : String) :
    (fields.map fun field => (field.1, f field.2)).lookup name = (fields.lookup name).map f := by
  induction fields with
  | nil => rfl
  | cons field rest ih =>
      rw [List.map_cons, lookup_cons_eq, lookup_cons_eq, ih]
      split <;> rfl

variable {fields : List (String × β)}

theorem mem_iff_lookup (h : (fields.map Prod.fst).Nodup) {key : String} {value : β} :
    (key, value) ∈ fields ↔ fields.lookup key = some value := by
  refine ⟨fun hmem => ?_, mem_of_lookup⟩
  induction fields with
  | nil => cases hmem
  | cons field fields ih =>
      obtain ⟨hnew, hrest⟩ := List.nodup_cons.mp h
      rw [lookup_cons_eq]
      rcases List.mem_cons.mp hmem with rfl | hmem
      · exact if_pos rfl
      · have hne : key ≠ field.1 := by
          rintro rfl
          exact hnew (List.mem_map.mpr ⟨_, hmem, rfl⟩)
        rw [if_neg hne]
        exact ih hrest hmem

theorem lookup_of_perm {other : List (String × β)} (h : (fields.map Prod.fst).Nodup)
    (hperm : fields.Perm other) (key : String) : other.lookup key = fields.lookup key := by
  have hother : (other.map Prod.fst).Nodup := (hperm.map _).nodup_iff.mp h
  apply Option.ext
  intro value
  rw [← mem_iff_lookup hother, ← mem_iff_lookup h, hperm.mem_iff]

end KubeNova.Foundation
