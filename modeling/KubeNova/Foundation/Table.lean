import Mathlib.Data.List.AList
import Mathlib.Data.List.MinMax

/-!
# Database tables with a primary key

A table is an association list without duplicate keys, so a lookup by primary
key and a scan over the rows always agree.  The operations are the statements a
relational client issues: conditional update, conditional delete, insertion
under a fresh key, counting and searching.
-/

namespace KubeNova.Foundation

/-- Rows `ν` under the primary key `κ`. -/
abbrev Table (κ ν : Type) := AList fun _ : κ => ν

namespace Table

variable {κ ν : Type} [DecidableEq κ]

/-- `UPDATE ... SET f WHERE p`. -/
def updateWhere (p : κ → ν → Bool) (f : ν → ν) (t : Table κ ν) : Table κ ν where
  entries := t.entries.map fun r => ⟨r.1, if p r.1 r.2 then f r.2 else r.2⟩
  nodupKeys := by
    have hkeys : (t.entries.map fun r => (⟨r.1, if p r.1 r.2 then f r.2 else r.2⟩ :
        Sigma fun _ : κ => ν)).keys = t.entries.keys := by
      simp [List.keys]
    rw [List.NodupKeys, hkeys]
    exact t.nodupKeys

/-- `UPDATE ... SET f WHERE id = k`. -/
def update (k : κ) (f : ν → ν) (t : Table κ ν) : Table κ ν :=
  t.updateWhere (fun k' _ => decide (k' = k)) f

/-- `DELETE ... WHERE p`. -/
def deleteWhere (p : κ → ν → Bool) (t : Table κ ν) : Table κ ν where
  entries := t.entries.filter fun r => !p r.1 r.2
  nodupKeys := t.nodupKeys.sublist List.filter_sublist

/-- `INSERT ... ON CONFLICT (key) DO UPDATE`. -/
def upsert (k : κ) (create : ν) (change : ν → ν) (t : Table κ ν) : Table κ ν :=
  t.insert k ((t.lookup k).elim create change)

/-- `SELECT f ... WHERE p`. -/
def select {δ : Type} (p : κ → ν → Bool) (f : κ → ν → δ) (t : Table κ ν) : List δ :=
  (t.entries.filter fun r => p r.1 r.2).map fun r => f r.1 r.2

/-- `SELECT COUNT(*) ... WHERE p`. -/
def count (p : κ → ν → Bool) (t : Table κ ν) : Nat :=
  t.entries.countP fun r => p r.1 r.2

/-- `SELECT ... WHERE p LIMIT 1`, with the key of the row. -/
def first? (p : κ → ν → Bool) (t : Table κ ν) : Option (κ × ν) :=
  (t.entries.find? fun r => p r.1 r.2).map fun r => (r.1, r.2)

/-- `SELECT ... WHERE p ORDER BY f LIMIT 1`, with the key of the row. -/
def oldest? (p : κ → ν → Bool) (f : ν → Nat) (t : Table κ ν) : Option (κ × ν) :=
  ((t.entries.filter fun r => p r.1 r.2).argmin fun r => f r.2).map fun r => (r.1, r.2)

/-- `SELECT ... WHERE p ORDER BY f DESC LIMIT 1`, with the key of the row. -/
def latest? (p : κ → ν → Bool) (f : ν → Nat) (t : Table κ ν) : Option (κ × ν) :=
  ((t.entries.filter fun r => p r.1 r.2).argmax fun r => f r.2).map fun r => (r.1, r.2)

theorem mem_entries_iff {t : Table κ ν} {k : κ} {v : ν} :
    (⟨k, v⟩ : Sigma fun _ : κ => ν) ∈ t.entries ↔ t.lookup k = some v :=
  AList.mem_lookup_iff.symm

theorem lookup_updateWhere (p : κ → ν → Bool) (f : ν → ν) (t : Table κ ν) (k : κ) :
    (t.updateWhere p f).lookup k = (t.lookup k).map fun v => if p k v then f v else v := by
  apply Option.ext
  intro w
  rw [← mem_entries_iff, Option.map_eq_some_iff]
  simp only [updateWhere, List.mem_map]
  constructor
  · rintro ⟨⟨k', v⟩, hmem, heq⟩
    simp only [Sigma.mk.injEq, heq_eq_eq] at heq
    obtain ⟨rfl, rfl⟩ := heq
    exact ⟨v, mem_entries_iff.mp hmem, rfl⟩
  · rintro ⟨v, hv, rfl⟩
    exact ⟨⟨k, v⟩, mem_entries_iff.mpr hv, rfl⟩

@[simp] theorem lookup_update_self (k : κ) (f : ν → ν) (t : Table κ ν) :
    (t.update k f).lookup k = (t.lookup k).map f := by
  simp [update, lookup_updateWhere]

theorem lookup_update_ne {k k' : κ} (f : ν → ν) (t : Table κ ν) (h : k' ≠ k) :
    (t.update k f).lookup k' = t.lookup k' := by
  simp [update, lookup_updateWhere, h]

theorem lookup_deleteWhere (p : κ → ν → Bool) (t : Table κ ν) (k : κ) :
    (t.deleteWhere p).lookup k = (t.lookup k).filter fun v => !p k v := by
  apply Option.ext
  intro v
  rw [← mem_entries_iff]
  simp [deleteWhere, mem_entries_iff]

theorem lookup_insert (k k' : κ) (v : ν) (t : Table κ ν) :
    (AList.insert k v t : Table κ ν).lookup k' = if k' = k then some v else t.lookup k' := by
  by_cases h : k' = k
  · subst h
    simp
  · rw [if_neg h, AList.lookup_insert_ne h]

theorem lookup_upsert (k k' : κ) (create : ν) (change : ν → ν) (t : Table κ ν) :
    (t.upsert k create change).lookup k' =
      if k' = k then some ((t.lookup k).elim create change) else t.lookup k' :=
  lookup_insert k k' _ t

theorem updateWhere_congr {p q : κ → ν → Bool} {f : ν → ν} {t : Table κ ν}
    (h : ∀ k v, t.lookup k = some v → p k v = q k v) : t.updateWhere p f = t.updateWhere q f := by
  apply AList.ext
  refine List.map_congr_left fun r hr => ?_
  rw [h r.1 r.2 (mem_entries_iff.mp hr)]

theorem updateWhere_eq_self {p : κ → ν → Bool} {f : ν → ν} {t : Table κ ν}
    (h : ∀ k v, t.lookup k = some v → p k v = false) : t.updateWhere p f = t := by
  apply AList.ext
  refine (List.map_congr_left fun r hr => ?_).trans (List.map_id t.entries)
  rw [h r.1 r.2 (mem_entries_iff.mp hr)]
  rfl

section Select

variable {δ : Type} {p : κ → ν → Bool} {f : κ → ν → δ} {t : Table κ ν}

theorem mem_select_iff {x : δ} :
    x ∈ t.select p f ↔ ∃ k v, t.lookup k = some v ∧ p k v = true ∧ f k v = x := by
  simp only [select, List.mem_map, List.mem_filter, Sigma.exists, mem_entries_iff, and_assoc]

/-- Tables that hold the same under the keys that are asked for answer alike. -/
theorem mem_select_congr {u : Table κ ν} {x : δ}
    (h : ∀ k v, p k v = true → t.lookup k = u.lookup k) : x ∈ t.select p f ↔ x ∈ u.select p f := by
  simp only [mem_select_iff]
  refine exists_congr fun k => exists_congr fun v => and_congr_left fun hfound => ?_
  rw [h k v hfound.1]

theorem nodup_select (hinj : ∀ k v k' v', t.lookup k = some v → t.lookup k' = some v' →
    p k v = true → p k' v' = true → f k v = f k' v' → k = k') : (t.select p f).Nodup := by
  have hkeys : (t.entries.filter fun r => p r.1 r.2).Pairwise fun r r' => r.1 ≠ r'.1 :=
    List.pairwise_map.mp (List.Nodup.sublist (List.filter_sublist.map Sigma.fst) t.nodupKeys)
  refine List.pairwise_map.mpr (hkeys.imp_of_mem fun {r r'} hr hr' hne hsame => hne ?_)
  obtain ⟨hmem, hp⟩ := List.mem_filter.mp hr
  obtain ⟨hmem', hp'⟩ := List.mem_filter.mp hr'
  exact hinj _ _ _ _ (mem_entries_iff.mp hmem) (mem_entries_iff.mp hmem') hp hp' hsame

end Select

theorem first?_eq_some {p : κ → ν → Bool} {t : Table κ ν} {k : κ} {v : ν}
    (h : t.first? p = some (k, v)) : t.lookup k = some v ∧ p k v = true := by
  obtain ⟨r, hfind, heq⟩ := Option.map_eq_some_iff.mp h
  have hp := List.find?_some (p := fun r : Sigma fun _ : κ => ν => p r.1 r.2) hfind
  have hmem := List.mem_of_find?_eq_some hfind
  obtain ⟨rfl, rfl⟩ : r.1 = k ∧ r.2 = v := by simpa using heq
  exact ⟨mem_entries_iff.mp hmem, hp⟩

theorem first?_eq_none {p : κ → ν → Bool} {t : Table κ ν} (h : t.first? p = none)
    {k : κ} {v : ν} (hv : t.lookup k = some v) : p k v = false := by
  have hnone := List.find?_eq_none.mp (Option.map_eq_none_iff.mp h) _ (mem_entries_iff.mpr hv)
  simpa using hnone

theorem latest?_eq_some {p : κ → ν → Bool} {f : ν → Nat} {t : Table κ ν} {k : κ} {v : ν}
    (h : t.latest? p f = some (k, v)) : t.lookup k = some v ∧ p k v = true := by
  obtain ⟨r, hargmax, heq⟩ := Option.map_eq_some_iff.mp h
  obtain ⟨rfl, rfl⟩ : r.1 = k ∧ r.2 = v := by simpa using heq
  obtain ⟨hmem, hp⟩ := List.mem_filter.mp (List.argmax_mem hargmax)
  exact ⟨mem_entries_iff.mp hmem, hp⟩

theorem latest?_le {p : κ → ν → Bool} {f : ν → Nat} {t : Table κ ν} {k : κ} {v : ν}
    (h : t.latest? p f = some (k, v)) {k' : κ} {v' : ν} (hv : t.lookup k' = some v')
    (hp : p k' v' = true) : f v' ≤ f v := by
  obtain ⟨r, hargmax, heq⟩ := Option.map_eq_some_iff.mp h
  obtain ⟨rfl, rfl⟩ : r.1 = k ∧ r.2 = v := by simpa using heq
  have hmem : (⟨k', v'⟩ : Sigma fun _ : κ => ν) ∈ t.entries.filter fun r => p r.1 r.2 :=
    List.mem_filter.mpr ⟨mem_entries_iff.mpr hv, hp⟩
  exact @List.le_of_mem_argmax _ _ _ (fun r : Sigma fun _ : κ => ν => f r.2) _ _ _ hmem hargmax

theorem latest?_eq_none {p : κ → ν → Bool} {f : ν → Nat} {t : Table κ ν}
    (h : t.latest? p f = none) {k : κ} {v : ν} (hv : t.lookup k = some v) : p k v = false := by
  have hempty := List.argmax_eq_none.mp (Option.map_eq_none_iff.mp h)
  have hnot := List.filter_eq_nil_iff.mp hempty _ (mem_entries_iff.mpr hv)
  simpa using hnot

theorem count_pos_iff {p : κ → ν → Bool} {t : Table κ ν} :
    0 < t.count p ↔ ∃ k v, t.lookup k = some v ∧ p k v = true := by
  simp only [count, List.countP_pos_iff, Sigma.exists, mem_entries_iff]

theorem exists_ne_of_one_lt_count {p : κ → ν → Bool} {t : Table κ ν} (h : 1 < t.count p)
    (k : κ) : ∃ k' v, k' ≠ k ∧ t.lookup k' = some v ∧ p k' v = true := by
  by_contra hnone
  push Not at hnone
  have hle : (t.entries.filter fun r => p r.1 r.2).keys.length ≤ [k].length := by
    refine List.Subperm.length_le (List.subperm_of_subset
      (t.nodupKeys.sublist List.filter_sublist) fun k' hk' => ?_)
    obtain ⟨⟨k'', v⟩, hmem, rfl⟩ := List.mem_map.mp hk'
    obtain ⟨hv, hp⟩ := List.mem_filter.mp hmem
    by_contra hne
    exact hnone k'' v (by simpa using hne) (mem_entries_iff.mp hv) hp
  rw [count, List.countP_eq_length_filter] at h
  simp only [List.keys, List.length_map, List.length_singleton] at hle
  omega

/-- At most one matching row: every matching row is the known one. -/
theorem eq_of_count_le_one {p : κ → ν → Bool} {t : Table κ ν} (h : t.count p ≤ 1)
    {k k' : κ} {v v' : ν} (hv : t.lookup k = some v) (hp : p k v = true)
    (hv' : t.lookup k' = some v') (hp' : p k' v' = true) : k' = k := by
  by_contra hne
  have hsub : List.Subperm [k, k'] (t.entries.filter fun r => p r.1 r.2).keys := by
    refine List.subperm_of_subset (by simp [Ne.symm hne]) fun x hx => ?_
    simp only [List.mem_cons, List.not_mem_nil, or_false] at hx
    rcases hx with rfl | rfl
    · exact List.mem_map.mpr ⟨⟨x, v⟩, List.mem_filter.mpr ⟨mem_entries_iff.mpr hv, hp⟩, rfl⟩
    · exact List.mem_map.mpr ⟨⟨x, v'⟩, List.mem_filter.mpr ⟨mem_entries_iff.mpr hv', hp'⟩, rfl⟩
  have hle := hsub.length_le
  rw [count, List.countP_eq_length_filter] at h
  simp only [List.keys, List.length_map, List.length_cons, List.length_nil] at hle
  omega

end Table
end KubeNova.Foundation
