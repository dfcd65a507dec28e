import KubeNova.Foundation.Merging

/-!
# Groups by key

Items collected under their keys, in their order: `groups.set(key, [...(groups.get(key) ?? []), a])`.
-/

namespace KubeNova.Foundation

variable {α κ : Type} [DecidableEq κ] {keyOf : α → κ} {items : List α}

def grouping (keyOf : α → κ) : Merging α (κ × List α) κ where
  keyOf := keyOf
  key := Prod.fst
  create a := (keyOf a, [a])
  merge group a := (group.1, group.2 ++ [a])
  key_create _ := rfl
  key_merge _ _ := rfl

def groupsOf (keyOf : α → κ) (items : List α) : List (κ × List α) := (grouping keyOf).collect items

omit [DecidableEq κ] in
theorem foldl_merge_grouping (group : κ × List α) (items : List α) :
    items.foldl (grouping keyOf).merge group = (group.1, group.2 ++ items) := by
  induction items generalizing group with
  | nil => rw [List.append_nil]; rfl
  | cons a items ih =>
      rw [List.foldl_cons, ih]
      show (group.1, group.2 ++ [a] ++ items) = _
      rw [List.append_assoc, List.singleton_append]

theorem mem_groupsOf_iff {k : κ} {members : List α} :
    (k, members) ∈ groupsOf keyOf items ↔
      members = items.filter (fun a => keyOf a = k) ∧ members ≠ [] := by
  rw [groupsOf, Merging.mem_collect_iff, Merging.entryAt]
  have hsame : items.filter (fun a => (grouping keyOf).keyOf a = (grouping keyOf).key (k, members)) =
      items.filter fun a => decide (keyOf a = k) := rfl
  rw [hsame]
  cases hitems : items.filter fun a => decide (keyOf a = k) with
  | nil =>
      constructor
      · intro h
        cases h
      · rintro ⟨rfl, hne⟩
        exact absurd rfl hne
  | cons a rest =>
      have hkey : keyOf a = k := by
        have hmem : a ∈ items.filter fun a => decide (keyOf a = k) := by
          rw [hitems]
          exact List.mem_cons_self
        exact of_decide_eq_true (List.mem_filter.mp hmem).2
      simp only [foldl_merge_grouping]
      show some (keyOf a, [a] ++ rest) = some (k, members) ↔ _
      rw [hkey, Option.some_inj, Prod.mk.injEq]
      constructor
      · rintro ⟨-, rfl⟩
        exact ⟨rfl, List.cons_ne_nil _ _⟩
      · rintro ⟨rfl, -⟩
        exact ⟨rfl, rfl⟩

theorem nodup_keys_groupsOf : ((groupsOf keyOf items).map Prod.fst).Nodup :=
  (grouping keyOf).nodup_keys_collect items

theorem exists_mem_groupsOf {a : α} (ha : a ∈ items) :
    (keyOf a, items.filter fun b => keyOf b = keyOf a) ∈ groupsOf keyOf items := by
  rw [mem_groupsOf_iff]
  refine ⟨rfl, ?_⟩
  intro hnil
  have hmem : a ∈ items.filter fun b => decide (keyOf b = keyOf a) :=
    List.mem_filter.mpr ⟨ha, decide_eq_true rfl⟩
  rw [hnil] at hmem
  cases hmem

end KubeNova.Foundation
