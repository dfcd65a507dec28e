import Mathlib.Data.List.Basic
import Mathlib.Data.List.Nodup
import Mathlib.Data.List.Induction
import Mathlib.Tactic.Common

/-!
# Merging by key

A list that is filled item by item: an item with a new key gets an entry of its own at the end, any
other is merged into the entry that has its key.  What an entry comes to depends on nothing but the
items with its key, in their order.
-/

namespace KubeNova.Foundation

structure Merging (α β κ : Type) where
  keyOf : α → κ
  key : β → κ
  create : α → β
  merge : β → α → β
  key_create : ∀ a, key (create a) = keyOf a
  key_merge : ∀ b a, key (merge b a) = key b

namespace Merging

variable {α β κ : Type} [DecidableEq κ] (m : Merging α β κ)

def add (entries : List β) (a : α) : List β :=
  if entries.any fun b => m.key b = m.keyOf a then
    entries.map fun b => if m.key b = m.keyOf a then m.merge b a else b
  else entries ++ [m.create a]

def collect (items : List α) : List β := items.foldl m.add []

def entryAt (k : κ) (items : List α) : Option β :=
  match items.filter fun a => m.keyOf a = k with
  | [] => none
  | a :: rest => some (rest.foldl m.merge (m.create a))

theorem any_eq_true {entries : List β} {k : κ} :
    (entries.any fun b => m.key b = k) = true ↔ k ∈ entries.map m.key := by
  rw [List.any_eq_true, List.mem_map]
  constructor
  · rintro ⟨b, hb, hkey⟩
    exact ⟨b, hb, of_decide_eq_true hkey⟩
  · rintro ⟨b, hb, hkey⟩
    exact ⟨b, hb, decide_eq_true hkey⟩

theorem keys_add (entries : List β) (a : α) : (m.add entries a).map m.key =
    if m.keyOf a ∈ entries.map m.key then entries.map m.key
    else entries.map m.key ++ [m.keyOf a] := by
  rw [add]
  by_cases hmem : m.keyOf a ∈ entries.map m.key
  · rw [if_pos (m.any_eq_true.mpr hmem), if_pos hmem, List.map_map]
    apply List.map_congr_left
    intro b _
    show m.key (if m.key b = m.keyOf a then m.merge b a else b) = m.key b
    split
    · exact m.key_merge b a
    · rfl
  · rw [if_neg (mt m.any_eq_true.mp hmem), if_neg hmem, List.map_append, List.map_singleton,
      m.key_create]

theorem nodup_keys_add {entries : List β} (h : (entries.map m.key).Nodup) (a : α) :
    ((m.add entries a).map m.key).Nodup := by
  rw [keys_add]
  split
  · exact h
  · rename_i hmem
    rw [List.nodup_append]
    refine ⟨h, List.nodup_singleton _, ?_⟩
    intro k hk k' hk' heq
    rw [List.mem_singleton] at hk'
    exact hmem (hk' ▸ heq ▸ hk)

theorem mem_add_of_ne {entries : List β} {a : α} {b : β} (hne : m.key b ≠ m.keyOf a) :
    b ∈ m.add entries a ↔ b ∈ entries := by
  rw [add]
  split
  · rw [List.mem_map]
    constructor
    · rintro ⟨b', hb', rfl⟩
      split at hne
      · rename_i hkey
        rw [m.key_merge] at hne
        exact absurd hkey hne
      · rename_i hkey
        rw [if_neg hkey]
        exact hb'
    · intro hb
      exact ⟨b, hb, if_neg hne⟩
  · rw [List.mem_append, List.mem_singleton]
    constructor
    · rintro (hb | rfl)
      · exact hb
      · exact absurd (m.key_create a) hne
    · exact Or.inl

theorem mem_add_iff {entries : List β} {a : α} {b : β} (hkey : m.key b = m.keyOf a) :
    b ∈ m.add entries a ↔
      (∃ b' ∈ entries, m.key b' = m.keyOf a ∧ m.merge b' a = b) ∨
        m.keyOf a ∉ entries.map m.key ∧ m.create a = b := by
  rw [add]
  by_cases hmem : m.keyOf a ∈ entries.map m.key
  · rw [if_pos (m.any_eq_true.mpr hmem), List.mem_map]
    constructor
    · rintro ⟨b', hb', heq⟩
      split at heq
      · rename_i hkey'
        exact .inl ⟨b', hb', hkey', heq⟩
      · rename_i hkey'
        exact absurd (heq ▸ hkey) hkey'
    · rintro (⟨b', hb', hkey', heq⟩ | ⟨hnew, -⟩)
      · exact ⟨b', hb', (if_pos hkey').trans heq⟩
      · exact absurd hmem hnew
  · rw [if_neg (mt m.any_eq_true.mp hmem), List.mem_append, List.mem_singleton]
    constructor
    · rintro (hb | heq)
      · exact absurd (hkey ▸ List.mem_map_of_mem hb) hmem
      · exact .inr ⟨hmem, heq.symm⟩
    · rintro (⟨b', hb', hkey', -⟩ | ⟨-, heq⟩)
      · exact absurd (hkey' ▸ List.mem_map_of_mem hb') hmem
      · exact .inr heq.symm

theorem collect_append_singleton (items : List α) (a : α) :
    m.collect (items ++ [a]) = m.add (m.collect items) a := by
  rw [collect, List.foldl_append]
  rfl

theorem nodup_keys_collect (items : List α) : ((m.collect items).map m.key).Nodup := by
  induction items using List.reverseRecOn with
  | nil => exact List.nodup_nil
  | append_singleton items a ih =>
      rw [collect_append_singleton]
      exact m.nodup_keys_add ih a

theorem entryAt_append_singleton (k : κ) (items : List α) (a : α) :
    m.entryAt k (items ++ [a]) =
      if m.keyOf a = k then
        some ((m.entryAt k items).elim (m.create a) fun b => m.merge b a)
      else m.entryAt k items := by
  have hsplit : (items ++ [a]).filter (fun a => m.keyOf a = k) =
      items.filter (fun a => m.keyOf a = k) ++ if m.keyOf a = k then [a] else [] := by
    rw [List.filter_append, List.filter_singleton]
    by_cases hkey : m.keyOf a = k
    · rw [if_pos hkey, decide_eq_true hkey]
      rfl
    · rw [if_neg hkey, decide_eq_false hkey]
      rfl
  rw [entryAt, entryAt, hsplit]
  by_cases hkey : m.keyOf a = k
  · rw [if_pos hkey, if_pos hkey]
    cases items.filter fun a => m.keyOf a = k with
    | nil => rfl
    | cons first rest =>
        show some ((rest ++ [a]).foldl m.merge (m.create first)) = _
        rw [List.foldl_append]
        rfl
  · rw [if_neg hkey, if_neg hkey, List.append_nil]

theorem key_entryAt {k : κ} {items : List α} {b : β} (h : m.entryAt k items = some b) :
    m.key b = k := by
  induction items using List.reverseRecOn generalizing b with
  | nil => cases h
  | append_singleton items a ih =>
      rw [entryAt_append_singleton] at h
      split at h
      · rename_i hkey
        cases hentry : m.entryAt k items with
        | none =>
            rw [hentry] at h
            cases h
            exact (m.key_create a).trans hkey
        | some b' =>
            rw [hentry] at h
            cases h
            exact (m.key_merge b' a).trans (ih hentry)
      · exact ih h

theorem entryAt_eq_none_iff {k : κ} {items : List α} :
    m.entryAt k items = none ↔ ∀ a ∈ items, m.keyOf a ≠ k := by
  rw [entryAt]
  have hnil : items.filter (fun a => m.keyOf a = k) = [] ↔ ∀ a ∈ items, m.keyOf a ≠ k := by
    rw [List.filter_eq_nil_iff]
    simp only [decide_eq_true_eq, ne_eq]
  rw [← hnil]
  cases items.filter fun a => m.keyOf a = k with
  | nil => exact ⟨fun _ => rfl, fun _ => rfl⟩
  | cons a rest => exact ⟨fun h => (by cases h), fun h => (by cases h)⟩

theorem mem_collect_iff {items : List α} {b : β} :
    b ∈ m.collect items ↔ m.entryAt (m.key b) items = some b := by
  induction items using List.reverseRecOn generalizing b with
  | nil => exact ⟨fun h => (by cases h), fun h => (by cases h)⟩
  | append_singleton items a ih =>
      rw [collect_append_singleton, entryAt_append_singleton]
      by_cases hkey : m.key b = m.keyOf a
      · rw [m.mem_add_iff hkey, if_pos hkey.symm, hkey, Option.some_inj]
        cases hentry : m.entryAt (m.keyOf a) items with
        | none =>
            have hnew : m.keyOf a ∉ (m.collect items).map m.key := by
              intro hmem
              obtain ⟨b', hb', hkey'⟩ := List.mem_map.mp hmem
              rw [ih, hkey', hentry] at hb'
              cases hb'
            constructor
            · rintro (⟨b', hb', hkey', -⟩ | ⟨-, heq⟩)
              · exact absurd (hkey' ▸ List.mem_map_of_mem hb') hnew
              · exact heq
            · intro heq
              exact .inr ⟨hnew, heq⟩
        | some b' =>
            have hkey' : m.key b' = m.keyOf a := m.key_entryAt hentry
            have hmem : b' ∈ m.collect items := ih.mpr (hkey' ▸ hentry)
            constructor
            · rintro (⟨b'', hb'', hkey'', heq⟩ | ⟨hnew, -⟩)
              · rw [ih, hkey'', hentry] at hb''
                cases hb''
                exact heq
              · exact absurd (hkey' ▸ List.mem_map_of_mem hmem) hnew
            · intro heq
              exact .inl ⟨b', hmem, hkey', heq⟩
      · rw [m.mem_add_of_ne hkey, if_neg (Ne.symm hkey)]
        exact ih

/-- Two lists of items with the same items under every key, in the same order, come to the same
entries. -/
theorem mem_collect_congr {items items' : List α}
    (h : ∀ k, items.filter (fun a => m.keyOf a = k) = items'.filter fun a => m.keyOf a = k)
    {b : β} : b ∈ m.collect items ↔ b ∈ m.collect items' := by
  rw [mem_collect_iff, mem_collect_iff, entryAt, entryAt, h]

theorem exists_mem_collect {items : List α} {a : α} (ha : a ∈ items) :
    ∃ b ∈ m.collect items, m.key b = m.keyOf a := by
  cases hentry : m.entryAt (m.keyOf a) items with
  | none => exact absurd rfl (m.entryAt_eq_none_iff.mp hentry a ha)
  | some b =>
      have hkey := m.key_entryAt hentry
      exact ⟨b, m.mem_collect_iff.mpr (hkey.symm ▸ hentry), hkey⟩

/-- What holds of the entry of every item and is kept by merging holds of every entry, along with
an item the entry began as. -/
theorem exists_of_mem_collect {R : α → β → Prop} {items : List α} {b : β}
    (hb : b ∈ m.collect items) (hcreate : ∀ a ∈ items, R a (m.create a))
    (hmerge : ∀ a b a', R a b → R a (m.merge b a')) :
    ∃ a ∈ items, m.keyOf a = m.key b ∧ R a b := by
  rw [mem_collect_iff, entryAt] at hb
  cases hitems : items.filter fun a => m.keyOf a = m.key b with
  | nil =>
      rw [hitems] at hb
      cases hb
  | cons a rest =>
      rw [hitems] at hb
      have hfirst : a ∈ items ∧ m.keyOf a = m.key b := by
        have hmem : a ∈ items.filter fun a => m.keyOf a = m.key b := by
          rw [hitems]
          exact List.mem_cons_self
        rw [List.mem_filter] at hmem
        exact ⟨hmem.1, of_decide_eq_true hmem.2⟩
      have hfold : ∀ (rest : List α) (b : β), R a b → R a (rest.foldl m.merge b) := by
        intro rest
        induction rest with
        | nil => exact fun b hR => hR
        | cons a' rest ih => exact fun b hR => ih _ (hmerge a b a' hR)
      refine ⟨a, hfirst.1, hfirst.2, ?_⟩
      rw [← Option.some_inj.mp hb]
      exact hfold rest _ (hcreate a hfirst.1)

end Merging

section Perm

variable {α β : Type} {l l' : List α}

theorem filter_eq_of_perm (hperm : l.Perm l') (hnodup : l.Nodup) {p : α → Bool}
    (hone : ∀ a ∈ l, ∀ b ∈ l, p a = true → p b = true → a = b) : l.filter p = l'.filter p := by
  have hfilter : (l.filter p).Perm (l'.filter p) := hperm.filter p
  cases hl : l.filter p with
  | nil =>
      rw [hl] at hfilter
      exact hfilter.nil_eq
  | cons a rest =>
      cases rest with
      | nil =>
          rw [hl] at hfilter
          exact (List.perm_singleton.mp hfilter.symm).symm
      | cons b rest =>
          have ha : a ∈ l ∧ p a = true := by
            rw [← List.mem_filter, hl]
            exact List.mem_cons_self
          have hb : b ∈ l ∧ p b = true := by
            rw [← List.mem_filter, hl]
            exact List.mem_cons_of_mem _ List.mem_cons_self
          have hne : a ≠ b := by
            have hnodup' : (a :: b :: rest).Nodup := hl ▸ hnodup.filter p
            rintro rfl
            exact (List.nodup_cons.mp hnodup').1 List.mem_cons_self
          exact absurd (hone a ha.1 b hb.1 ha.2 hb.2) hne

theorem find?_eq_of_perm (hperm : l.Perm l') (hnodup : l.Nodup) {p : α → Bool}
    (hone : ∀ a ∈ l, ∀ b ∈ l, p a = true → p b = true → a = b) : l.find? p = l'.find? p := by
  rw [← List.head?_filter, ← List.head?_filter, filter_eq_of_perm hperm hnodup hone]

theorem flatMap_filter_ne_nil {g : α → List β} :
    (l.filter fun a => !(g a).isEmpty).flatMap g = l.flatMap g := by
  induction l with
  | nil => rfl
  | cons a l ih =>
      rw [List.filter_cons, List.flatMap_cons]
      cases hg : g a with
      | nil => exact ih
      | cons b rest =>
          rw [List.isEmpty_cons, Bool.not_false, if_pos rfl, List.flatMap_cons, hg, ih]

theorem flatMap_eq_of_perm (hperm : l.Perm l') (hnodup : l.Nodup) {g : α → List β}
    (hone : ∀ a ∈ l, ∀ b ∈ l, g a ≠ [] → g b ≠ [] → a = b) : l.flatMap g = l'.flatMap g := by
  have hfilter := filter_eq_of_perm (p := fun a => !(g a).isEmpty) hperm hnodup (by
    intro a ha b hb hga hgb
    apply hone a ha b hb
    · intro hnil
      rw [hnil] at hga
      cases hga
    · intro hnil
      rw [hnil] at hgb
      cases hgb)
  rw [← flatMap_filter_ne_nil (l := l), hfilter, flatMap_filter_ne_nil]

theorem filter_filterMap_eq {f : α → Option β} {p : β → Bool} :
    (l.filterMap f).filter p = (l.filter fun a => (f a).any p).filterMap f := by
  induction l with
  | nil => rfl
  | cons a l ih =>
      cases hf : f a with
      | none =>
          rw [List.filterMap_cons_none hf, List.filter_cons, hf, ih]
          rfl
      | some b =>
          rw [List.filterMap_cons_some hf, List.filter_cons, List.filter_cons, hf,
            Option.any_some, ih]
          split
          · rw [List.filterMap_cons_some hf]
          · rfl

/-- A list is split in one way at the first occurrence of an element. -/
theorem split_eq_of_notMem {a : α} {xs xs' ys ys' : List α} (hxs : a ∉ xs) (hxs' : a ∉ xs')
    (h : xs ++ a :: ys = xs' ++ a :: ys') : xs = xs' ∧ ys = ys' := by
  induction xs generalizing xs' with
  | nil =>
      cases xs' with
      | nil => exact ⟨rfl, (List.cons_eq_cons.mp h).2⟩
      | cons x xs' =>
          have hhead : a = x := (List.cons_eq_cons.mp h).1
          exact absurd (hhead ▸ List.mem_cons_self) hxs'
  | cons x xs ih =>
      cases xs' with
      | nil =>
          have hhead : x = a := (List.cons_eq_cons.mp h).1
          exact absurd (hhead ▸ List.mem_cons_self) hxs
      | cons x' xs' =>
          rw [List.cons_append, List.cons_append, List.cons_eq_cons] at h
          rw [List.mem_cons, not_or] at hxs hxs'
          obtain ⟨hrest, hys⟩ := ih hxs.2 hxs'.2 h.2
          exact ⟨by rw [h.1, hrest], hys⟩

end Perm

end KubeNova.Foundation
