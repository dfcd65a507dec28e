import KubeNova.Foundation.JsObject
import Mathlib.Data.String.Basic

/-!
# The canonical text of a task

`canonicalJson` writes a value with its keys in the order of `localeCompare`, which takes some
different texts for equal: those stay in the order they came in.  Two values with one canonical text
are the same JSON; the same JSON has one canonical text exactly where `localeCompare` tells the keys
of every object apart.
-/

namespace KubeNova.Update

open KubeNova.Foundation KubeNova.Foundation.Json

/-- How `localeCompare` compares: consistently, but different texts can come out equal. -/
structure Locale where
  localeCompare : String → String → Int
  swap : ∀ a b, 0 ≤ localeCompare a b ↔ localeCompare b a ≤ 0
  trans : ∀ a b c, localeCompare a b ≤ 0 → localeCompare b c ≤ 0 → localeCompare a c ≤ 0

namespace Locale

def le (locale : Locale) (a b : String) : Prop := locale.localeCompare a b ≤ 0

def entryLe {β : Type} (locale : Locale) (a b : String × β) : Prop := locale.le a.1 b.1

instance {β : Type} (locale : Locale) : DecidableRel (locale.entryLe (β := β)) :=
  fun _ _ => inferInstanceAs (Decidable (_ ≤ _))

instance {β : Type} (locale : Locale) : Std.Total (locale.entryLe (β := β)) :=
  ⟨fun a b => by
    rcases Int.le_total (locale.localeCompare a.1 b.1) 0 with h | h
    · exact .inl h
    · exact .inr ((locale.swap _ _).mp h)⟩

instance {β : Type} (locale : Locale) : IsTrans (String × β) locale.entryLe :=
  ⟨fun _ _ _ => locale.trans _ _ _⟩

def TellsApart (locale : Locale) (key other : String) : Prop :=
  isIndex key = true ∨ isIndex other = true ∨ locale.localeCompare key other ≠ 0

theorem eq_zero_of_le {locale : Locale} {a b : String} (h : locale.le a b) (h' : locale.le b a) :
    locale.localeCompare a b = 0 :=
  Int.le_antisymm h ((locale.swap a b).mpr h')

end Locale

/-- `localeCompare` of texts that are equal when `fold` makes them so. -/
def foldLocale (fold : String → String) : Locale where
  localeCompare a b := if fold a = fold b then 0 else if fold a < fold b then -1 else 1
  swap a b := by
    rcases lt_trichotomy (fold a) (fold b) with h | h | h
    · simp [h, h.ne, h.ne', h.asymm]
    · simp [h]
    · simp [h, h.ne, h.ne', h.asymm]
  trans a b c := by
    have hle : ∀ x y : String, (if fold x = fold y then (0 : Int)
        else if fold x < fold y then -1 else 1) ≤ 0 ↔ fold x ≤ fold y := by
      intro x y
      rcases lt_trichotomy (fold x) (fold y) with h | h | h
      · simp [h, h.ne, h.le]
      · simp [h]
      · simp [h.ne', h.asymm, h]
    rw [hle, hle, hle]
    exact le_trans

/-- `Object.entries(value).sort(([left], [right]) => left.localeCompare(right))`, which is stable. -/
def sortEntries {β : Type} (locale : Locale) (entries : List (String × β)) : List (String × β) :=
  entries.insertionSort locale.entryLe

/-- The object that `canonicalValue` builds of the fields. -/
def canonicalOrder {β : Type} (locale : Locale) (fields : List (String × β)) : List (String × β) :=
  fromEntries (sortEntries locale fields)

/-- `canonicalValue(value)`; the values are looked at after the sort, which reads the keys alone. -/
def canonicalValue (locale : Locale) (value : Js) : Js := arrange (canonicalOrder locale) value

def canonicalJson (locale : Locale) (value : Js) : String :=
  String.ofList (stringify (canonicalValue locale value))

def KeysApart (locale : Locale) (value : Js) : Prop :=
  ∀ path key other, key ≠ other → (value.get (path ++ [.key key])).isSome →
    (value.get (path ++ [.key other])).isSome → locale.TellsApart key other

section Order

variable {β : Type} {locale : Locale} {fields : List (String × β)}

theorem canonicalOrder_eq (h : (fields.map Prod.fst).Nodup) :
    canonicalOrder locale fields = ownOrder (sortEntries locale fields) := by
  apply fromEntries_of_nodup
  have hperm : ((sortEntries locale fields).map Prod.fst).Perm (fields.map Prod.fst) :=
    (List.perm_insertionSort _ _).map _
  exact hperm.nodup_iff.mpr h

theorem perm_canonicalOrder (h : (fields.map Prod.fst).Nodup) :
    (canonicalOrder locale fields).Perm fields := by
  rw [canonicalOrder_eq h]
  exact (perm_ownOrder _).trans (List.perm_insertionSort _ _)

theorem pairwise_canonicalOrder (h : (fields.map Prod.fst).Nodup) :
    (canonicalOrder locale fields).Pairwise fun a b => KeyLe locale.le a.1 b.1 := by
  rw [canonicalOrder_eq h]
  exact pairwise_ownOrder (List.pairwise_insertionSort locale.entryLe fields)

theorem sublist_canonicalOrder (h : (fields.map Prod.fst).Nodup) {a b : String × β}
    (ha : isIndex a.1 = false) (hb : isIndex b.1 = false) (hle : locale.le a.1 b.1)
    (hsub : [a, b].Sublist fields) : [a, b].Sublist (canonicalOrder locale fields) := by
  rw [canonicalOrder_eq h]
  apply sublist_ownOrder
  · intro field hfield
    rcases List.mem_cons.mp hfield with rfl | hfield
    · exact ha
    · rw [List.mem_singleton.mp hfield]
      exact hb
  · exact List.pair_sublist_insertionSort hle hsub

end Order

/-! ## The text of an object -/

variable {locale : Locale}

def canonicalText (locale : Locale) (value : Js) : List Char :=
  stringify (canonicalValue locale value)

def canonicalFields (locale : Locale) (fields : List (String × Js)) : List (String × List Char) :=
  printed (canonicalOrder locale (arrangeFields (canonicalOrder locale) fields))

theorem canonicalText_object (fields : List (String × Js)) : canonicalText locale (.object fields) =
    '{' :: (join ((canonicalFields locale fields).map printField) ++ ['}']) := by
  rw [canonicalText, canonicalValue, arrange, stringify, canonicalFields]

theorem keys_arrangeFields (fields : List (String × Js)) :
    (arrangeFields (canonicalOrder locale) fields).map Prod.fst = fields.map Prod.fst := by
  rw [arrangeFields_eq, List.map_map]
  rfl

def textFields (locale : Locale) (fields : List (String × Js)) : List (String × List Char) :=
  (Js.present fields).map fun field => (field.1, canonicalText locale field.2)

theorem nodup_textFields {fields : List (String × Js)} (h : (fields.map Prod.fst).Nodup) :
    ((textFields locale fields).map Prod.fst).Nodup := by
  rw [textFields, List.map_map]
  exact Js.nodup_present h

theorem perm_printed {xs ys : List (String × Js)} (h : xs.Perm ys) :
    (printed xs).Perm (printed ys) := by
  rw [printed_eq, printed_eq]
  exact (h.filter _).map _

theorem perm_canonicalFields {fields : List (String × Js)} (h : (fields.map Prod.fst).Nodup) :
    (canonicalFields locale fields).Perm (textFields locale fields) := by
  have hkeys : ((arrangeFields (canonicalOrder locale) fields).map Prod.fst).Nodup := by
    rw [keys_arrangeFields]
    exact h
  have htexts : printed (arrangeFields (canonicalOrder locale) fields) =
      textFields locale fields := by
    rw [printed_eq, present_arrangeFields, List.map_map]
    rfl
  rw [← htexts]
  exact perm_printed (perm_canonicalOrder hkeys)

theorem pairwise_canonicalFields {fields : List (String × Js)} (h : (fields.map Prod.fst).Nodup) :
    (canonicalFields locale fields).Pairwise fun a b => KeyLe locale.le a.1 b.1 := by
  have hkeys : ((arrangeFields (canonicalOrder locale) fields).map Prod.fst).Nodup := by
    rw [keys_arrangeFields]
    exact h
  rw [canonicalFields, printed_eq, List.pairwise_map]
  exact (pairwise_canonicalOrder hkeys).filter _

theorem lookup_present_canonicalOrder {fields : List (String × Js)}
    (h : (fields.map Prod.fst).Nodup) (name : String) :
    (Js.present (canonicalOrder locale fields)).lookup name = (Js.present fields).lookup name :=
  lookup_of_perm (Js.nodup_present h) ((perm_canonicalOrder h).filter _).symm name

theorem sameJson_canonicalValue {value : Js} (h : value.Proper) :
    SameJson (canonicalValue locale value) value := by
  apply sameJson_arrange (fun _ hv _ _ hpart => Js.Proper.child hv hpart) _ h
  intro fields hfields name
  apply lookup_present_canonicalOrder
  rw [keys_arrangeFields]
  cases hfields with
  | object hnodup _ => exact hnodup

theorem proper_canonicalValue {value : Js} (h : value.Proper) :
    (canonicalValue locale value).Proper := by
  induction h with
  | undefined => exact .undefined
  | null => exact .null
  | bool value => exact .bool value
  | number value => exact .number value
  | string value => exact .string value
  | array _ ih =>
      rw [canonicalValue, arrange, arrangeElements_eq]
      refine .array fun e he => ?_
      obtain ⟨element, helement, rfl⟩ := List.mem_map.mp he
      exact ih element helement
  | @object fields hnodup _ ih =>
      rw [canonicalValue, arrange]
      have hkeys : ((arrangeFields (canonicalOrder locale) fields).map Prod.fst).Nodup := by
        rw [keys_arrangeFields]
        exact hnodup
      have hperm := @perm_canonicalOrder _ locale _ hkeys
      refine .object ((hperm.map _).nodup_iff.mpr hkeys) fun f hf => ?_
      have hmem := hperm.mem_iff.mp hf
      rw [arrangeFields_eq] at hmem
      obtain ⟨field, hfield, rfl⟩ := List.mem_map.mp hmem
      exact ih field hfield

theorem sameJson_of_canonicalJson {a b : Js} (ha : a.Proper) (hb : b.Proper)
    (h : canonicalJson locale a = canonicalJson locale b) : SameJson a b := by
  have htexts := sameJson_of_stringify (String.ofList_injective h)
  exact ((sameJson_canonicalValue ha).symm.trans htexts).trans (sameJson_canonicalValue hb)

theorem KeysApart.sameJson {a b : Js} (ha : KeysApart locale a) (h : SameJson a b) :
    KeysApart locale b := by
  intro path key other hne hkey hother
  rw [← h] at hkey hother
  exact ha path key other hne hkey hother

theorem KeysApart.child {a part : Js} {step : PathStep} (ha : KeysApart locale a)
    (h : a.child step = some part) : KeysApart locale part := by
  intro path key other hne hkey hother
  apply ha (step :: path) key other hne
  · rw [List.cons_append, Js.get, h]
    exact hkey
  · rw [List.cons_append, Js.get, h]
    exact hother

theorem KeysApart.of_parts {a : Js}
    (hnode : ∀ key other, key ≠ other → (a.child (.key key)).isSome →
      (a.child (.key other)).isSome → locale.TellsApart key other)
    (hparts : ∀ step part, a.child step = some part → KeysApart locale part) :
    KeysApart locale a := by
  have hsome : ∀ key, (a.get [.key key]).isSome → (a.child (.key key)).isSome := by
    intro key hkey
    rw [Js.get] at hkey
    split at hkey
    · rename_i part hpart
      rw [hpart]
      rfl
    · cases hkey
  intro path key other hne hkey hother
  cases path with
  | nil => exact hnode key other hne (hsome key hkey) (hsome other hother)
  | cons step path =>
      rw [List.cons_append, Js.get] at hkey hother
      split at hkey
      · rename_i part hpart
        rw [hpart] at hother
        exact hparts step part hpart path key other hne hkey hother
      · cases hkey

theorem KeysApart.node {a : Js} (ha : KeysApart locale a) {key other : String} (hne : key ≠ other)
    (hkey : (a.child (.key key)).isSome) (hother : (a.child (.key other)).isSome) :
    locale.TellsApart key other := by
  have hget : ∀ k, (a.child (.key k)).isSome → (a.get [.key k]).isSome := by
    intro k hk
    obtain ⟨part, hpart⟩ := Option.isSome_iff_exists.mp hk
    rw [Js.get, hpart]
    rfl
  exact ha [] key other hne (hget key hkey) (hget other hother)

theorem lookup_textFields (fields : List (String × Js)) (name : String) :
    (textFields locale fields).lookup name =
      ((Js.present fields).lookup name).map (canonicalText locale) :=
  lookup_map_snd _ _ _

theorem canonicalFields_congr {fs gs : List (String × Js)} (hfs : (fs.map Prod.fst).Nodup)
    (hgs : (gs.map Prod.fst).Nodup) (hapart : KeysApart locale (.object fs))
    (htexts : ∀ name, (textFields locale fs).lookup name = (textFields locale gs).lookup name) :
    canonicalFields locale fs = canonicalFields locale gs := by
  have hfs' := @nodup_textFields locale fs hfs
  have hgs' := @nodup_textFields locale gs hgs
  have hperm : (textFields locale fs).Perm (textFields locale gs) := by
    rw [List.perm_ext_iff_of_nodup hfs'.of_map hgs'.of_map]
    rintro ⟨name, text⟩
    rw [mem_iff_lookup hfs', mem_iff_lookup hgs', htexts]
  have hleft := @perm_canonicalFields locale fs hfs
  have hright := @perm_canonicalFields locale gs hgs
  have hall : (canonicalFields locale fs).Perm (canonicalFields locale gs) :=
    (hleft.trans hperm).trans hright.symm
  have hchild : ∀ a ∈ canonicalFields locale fs, ((Js.object fs).child (.key a.1)).isSome := by
    intro a ha
    obtain ⟨field, hfield, rfl⟩ := List.mem_map.mp (hleft.mem_iff.mp ha)
    have hlookup := (mem_iff_lookup (Js.nodup_present hfs)).mp hfield
    show ((Js.present fs).lookup field.1).isSome = true
    rw [hlookup]
    rfl
  apply hall.eq_of_pairwise _ (pairwise_canonicalFields hfs) (pairwise_canonicalFields hgs)
  intro a b ha hb hab hba
  have hb' := hall.mem_iff.mpr hb
  have hkey : a.1 = b.1 := by
    apply KeyLe.eq_of_swap _ hab hba
    intro hle hle' hplain hplain'
    by_contra hne
    rcases hapart.node hne (hchild a ha) (hchild b hb') with hindex | hindex | hcompare
    · rw [hplain] at hindex
      cases hindex
    · rw [hplain'] at hindex
      cases hindex
    · exact hcompare (Locale.eq_zero_of_le hle hle')
  exact List.inj_on_of_nodup_map hfs' (hleft.mem_iff.mp ha) (hleft.mem_iff.mp hb') hkey

def leafText : Leaf → List Char
  | .bool value => stringify (.bool value)
  | .number value => stringify (.number value)
  | .string value => stringify (.string value)
  | _ => "null".toList

theorem canonicalText_eq_leafText {a : Js} (h : a.isComposite = false) :
    canonicalText locale a = leafText a.leaf := by
  cases a with
  | array elements => cases h
  | object fields => cases h
  | _ => rfl

theorem isComposite_eq_of_leaf {a b : Js} (h : a.leaf = b.leaf) : a.isComposite = b.isComposite := by
  have hleaf : ∀ v : Js, v.isComposite = true ↔ v.leaf = .object ∨ ∃ n, v.leaf = .array n := by
    intro v
    cases v <;> simp [Js.isComposite, Js.leaf]
  rw [Bool.eq_iff_iff, hleaf, hleaf, h]

theorem canonicalText_array (xs : List Js) : canonicalText locale (.array xs) =
    '[' :: (join (xs.map (canonicalText locale)) ++ [']']) := by
  rw [canonicalText, canonicalValue, arrange, stringify, arrangeElements_eq, stringifyElements_eq,
    List.map_map]
  rfl

theorem map_eq_of_rel {α β : Type} {R : α → α → Prop} {f : α → β} {x y : Option α}
    (h : Option.Rel R x y) (hf : ∀ a b, x = some a → y = some b → R a b → f a = f b) :
    x.map f = y.map f := by
  cases h with
  | some hrel => exact congrArg some (hf _ _ rfl rfl hrel)
  | none => rfl

theorem lookup_textFields_congr {fs gs : List (String × Js)}
    (h : SameJson (.object fs) (.object gs))
    (hparts : ∀ name part part', (Js.object fs).child (.key name) = some part →
      (Js.object gs).child (.key name) = some part' → SameJson part part' →
        canonicalText locale part = canonicalText locale part') (name : String) :
    (textFields locale fs).lookup name = (textFields locale gs).lookup name := by
  rw [lookup_textFields, lookup_textFields]
  exact map_eq_of_rel (h.child (.key name)) (hparts name)

theorem texts_congr {xs ys : List Js} (h : SameJson (.array xs) (.array ys))
    (hparts : ∀ n part part', (Js.array xs).child (.index n) = some part →
      (Js.array ys).child (.index n) = some part' → SameJson part part' →
        canonicalText locale part = canonicalText locale part') :
    xs.map (canonicalText locale) = ys.map (canonicalText locale) := by
  apply List.ext_getElem?
  intro n
  rw [List.getElem?_map, List.getElem?_map]
  exact map_eq_of_rel (h.child (.index n)) (hparts n)

theorem canonicalText_congr {a : Js} : a.Proper → KeysApart locale a → ∀ {b : Js}, b.Proper →
    SameJson a b → canonicalText locale a = canonicalText locale b := by
  apply Js.induction (v := a)
  · intro a hleaf _ _ b _ h
    have hleaf' : b.isComposite = false := by rw [← isComposite_eq_of_leaf h.leaf, hleaf]
    rw [canonicalText_eq_leafText hleaf, canonicalText_eq_leafText hleaf', h.leaf]
  · intro xs ih ha hapart b hb h
    cases b with
    | array ys =>
        have htexts : xs.map (canonicalText locale) = ys.map (canonicalText locale) := by
          apply texts_congr h
          intro n part part' hx hy hsame
          exact ih part (List.mem_of_getElem? hx) (ha.child hx) (hapart.child hx) (hb.child hy) hsame
        rw [canonicalText_array, canonicalText_array, htexts]
    | _ => cases h.leaf
  · intro fs ih ha hapart b hb h
    cases b with
    | object gs =>
        have hfs := ha.nodup_keys
        have htexts := @lookup_textFields_congr locale fs gs h fun name part part' hf hg hsame => by
          have hmem := (mem_iff_lookup (Js.nodup_present hfs)).mpr hf
          exact ih _ (Js.mem_present.mp hmem).1 (ha.child hf) (hapart.child hf) (hb.child hg) hsame
        rw [canonicalText_object, canonicalText_object,
          canonicalFields_congr hfs hb.nodup_keys hapart htexts]
    | _ => cases h.leaf

def OneText (locale : Locale) (a : Js) : Prop :=
  ∀ b c : Js, b.IsJson → c.IsJson → SameJson b a → SameJson c a →
    canonicalText locale b = canonicalText locale c

theorem canonicalFields_inj {fs gs : List (String × Js)}
    (h : canonicalText locale (.object fs) = canonicalText locale (.object gs)) :
    canonicalFields locale fs = canonicalFields locale gs := by
  have happend : canonicalText locale (.object fs) ++ [] = canonicalText locale (.object gs) ++ [] := by
    rw [h]
  exact (object_append_inj (ends_fields _) happend).1

theorem sublist_canonicalFields {fs : List (String × Js)} (h : (fs.map Prod.fst).Nodup)
    {a b : String × Js} (ha : isIndex a.1 = false) (hb : isIndex b.1 = false)
    (hle : locale.le a.1 b.1) (ha' : a.2.isUndefined = false) (hb' : b.2.isUndefined = false)
    (hsub : [a, b].Sublist fs) :
    [a.1, b.1].Sublist ((canonicalFields locale fs).map Prod.fst) := by
  have hkeys : ((arrangeFields (canonicalOrder locale) fs).map Prod.fst).Nodup := by
    rw [keys_arrangeFields]
    exact h
  have harranged : [(a.1, arrange (canonicalOrder locale) a.2),
      (b.1, arrange (canonicalOrder locale) b.2)].Sublist
        (arrangeFields (canonicalOrder locale) fs) := by
    rw [arrangeFields_eq]
    exact hsub.map fun field : String × Js => (field.1, arrange (canonicalOrder locale) field.2)
  have hsorted : [(a.1, arrange (canonicalOrder locale) a.2),
      (b.1, arrange (canonicalOrder locale) b.2)].Sublist
        (canonicalOrder locale (arrangeFields (canonicalOrder locale) fs)) :=
    sublist_canonicalOrder hkeys ha hb hle harranged
  have hprinted := (hsorted.filter fun field => !field.2.isUndefined).map Prod.fst
  rw [canonicalFields, printed_eq, List.map_map]
  have hkept : [(a.1, arrange (canonicalOrder locale) a.2),
      (b.1, arrange (canonicalOrder locale) b.2)].filter (fun field => !field.2.isUndefined) =
        [(a.1, arrange (canonicalOrder locale) a.2), (b.1, arrange (canonicalOrder locale) b.2)] := by
    simp [isUndefined_arrange, ha', hb']
  rw [hkept] at hprinted
  exact hprinted

theorem exists_perm_pair {α : Type} {l : List α} {a b : α} (ha : a ∈ l) (hb : b ∈ l) (hne : a ≠ b) :
    ∃ rest, l.Perm (a :: b :: rest) := by
  obtain ⟨s, t, rfl⟩ := List.append_of_mem ha
  have hperm : (s ++ a :: t).Perm (a :: (s ++ t)) := List.perm_middle
  have hmem : b ∈ s ++ t := by
    rcases List.mem_cons.mp (hperm.mem_iff.mp hb) with heq | hmem
    · exact absurd heq.symm hne
    · exact hmem
  obtain ⟨s', t', hsplit⟩ := List.append_of_mem hmem
  refine ⟨s' ++ t', hperm.trans (.cons a ?_)⟩
  rw [hsplit]
  exact List.perm_middle

theorem not_sublist_swap {α : Type} {l : List α} {a b : α} (hl : l.Nodup) (hne : a ≠ b)
    (h : [a, b].Sublist l) : ¬[b, a].Sublist l := by
  induction l with
  | nil => cases h
  | cons c l ih =>
      intro h'
      obtain ⟨hc, hl⟩ := List.nodup_cons.mp hl
      cases h with
      | cons _ h =>
          cases h' with
          | cons _ h' => exact ih hl h h'
          | cons_cons _ h' => exact hc (h.subset (by simp))
      | cons_cons _ h =>
          cases h' with
          | cons _ h' => exact hc (h'.subset (by simp))
          | cons_cons _ h' => exact hne rfl

theorem Locale.tie_of_not_tellsApart {key other : String} (h : ¬locale.TellsApart key other) :
    (isIndex key = false ∧ isIndex other = false) ∧ locale.le key other ∧ locale.le other key := by
  rw [Locale.TellsApart, not_or, not_or, not_not, Bool.not_eq_true, Bool.not_eq_true] at h
  obtain ⟨hplain, hplain', hequal⟩ := h
  refine ⟨⟨hplain, hplain'⟩, ?_, (locale.swap key other).mp ?_⟩
  · rw [Locale.le, hequal]
  · rw [hequal]

theorem OneText.tellsApart {fs : List (String × Js)} (hjson : (Js.object fs).IsJson)
    (h : OneText locale (.object fs)) {key other : String} (hne : key ≠ other)
    (hkey : ((Js.object fs).child (.key key)).isSome)
    (hother : ((Js.object fs).child (.key other)).isSome) : locale.TellsApart key other := by
  by_contra htie
  obtain ⟨⟨hplain, hplain'⟩, hle, hle'⟩ := Locale.tie_of_not_tellsApart htie
  have hnodup := hjson.proper.nodup_keys
  obtain ⟨value, hvalue⟩ := Option.isSome_iff_exists.mp hkey
  obtain ⟨value', hvalue'⟩ := Option.isSome_iff_exists.mp hother
  have hmem := Js.mem_present.mp ((mem_iff_lookup (Js.nodup_present hnodup)).mpr hvalue)
  have hmem' := Js.mem_present.mp ((mem_iff_lookup (Js.nodup_present hnodup)).mpr hvalue')
  have hdiffer : (key, value) ≠ (other, value') := fun heq => hne (Prod.mk.inj heq).1
  obtain ⟨rest, hperm⟩ := exists_perm_pair hmem.1 hmem'.1 hdiffer
  have hswap := hperm.trans (.swap _ _ _)
  have hsame := canonicalFields_inj (h _ _ (hjson.perm hperm) (hjson.perm hswap)
    (SameJson.object_of_perm hnodup hperm) (SameJson.object_of_perm hnodup hswap))
  have hnodup₁ := (hjson.perm hperm).proper.nodup_keys
  have hnodup₂ := (hjson.perm hswap).proper.nodup_keys
  have hfirst : [key, other].Sublist ((canonicalFields locale _).map Prod.fst) :=
    sublist_canonicalFields (a := (key, value)) (b := (other, value')) hnodup₁ hplain hplain' hle
      hmem.2 hmem'.2 (List.prefix_append [(key, value), (other, value')] rest).sublist
  have hsecond : [other, key].Sublist ((canonicalFields locale _).map Prod.fst) :=
    sublist_canonicalFields (a := (other, value')) (b := (key, value)) hnodup₂ hplain' hplain hle'
      hmem'.2 hmem.2 (List.prefix_append [(other, value'), (key, value)] rest).sublist
  rw [← hsame] at hsecond
  have hkeys : ((canonicalFields locale ((key, value) :: (other, value') :: rest)).map
      Prod.fst).Nodup := by
    rw [((perm_canonicalFields hnodup₁).map _).nodup_iff]
    exact nodup_textFields hnodup₁
  exact not_sublist_swap hkeys hne hfirst hsecond

theorem OneText.element {xs : List Js} (hjson : (Js.array xs).IsJson)
    (h : OneText locale (.array xs)) {n : Nat} {x : Js} (hx : xs[n]? = some x) :
    OneText locale x := by
  obtain ⟨hn, hget⟩ := List.getElem?_eq_some_iff.mp hx
  have hset : ∀ b : Js, b.IsJson → (Js.array (xs.set n b)).IsJson := by
    intro b hb
    cases hjson with
    | array hparts =>
        refine .array fun e he => ?_
        rcases List.mem_or_eq_of_mem_set he with hmem | rfl
        · exact hparts e hmem
        · exact hb
  have hsame : ∀ b : Js, SameJson b x → SameJson (.array (xs.set n b)) (.array xs) := by
    intro b hb path
    cases path with
    | nil => rw [Js.get, Js.get, Js.leaf, Js.leaf, List.length_set]
    | cons step path =>
        cases step with
        | key name => rfl
        | index m =>
            have hchild : ∀ l : List Js, (Js.array l).child (.index m) = l[m]? := fun _ => rfl
            rw [Js.get, Js.get, hchild, hchild]
            by_cases hm : m = n
            · rw [hm, List.getElem?_set_self hn, hx]
              exact hb path
            · rw [List.getElem?_set_ne (Ne.symm hm)]
  intro b c hb hc hbx hcx
  have htext := h _ _ (hset b hb) (hset c hc) (hsame b hbx) (hsame c hcx)
  have happend : canonicalText locale (.array (xs.set n b)) ++ [] =
      canonicalText locale (.array (xs.set n c)) ++ [] := by rw [htext]
  have hall := (array_append_inj (ends_elements _) happend).1
  have hlength : ∀ y : Js, n < (arrangeElements (canonicalOrder locale) (xs.set n y)).length := by
    intro y
    rw [arrangeElements_eq, List.length_map, List.length_set]
    exact hn
  have hpart : ∀ y : Js, (arrangeElements (canonicalOrder locale) (xs.set n y)).get ⟨n, hlength y⟩ =
      canonicalValue locale y := by
    intro y
    simp [arrangeElements_eq, canonicalValue]
  have hsameText := hall.get (hlength b) (hlength c)
  rw [hpart, hpart] at hsameText
  exact hsameText

theorem OneText.field {fs : List (String × Js)} (hjson : (Js.object fs).IsJson)
    (h : OneText locale (.object fs)) {key : String} {value : Js}
    (hvalue : (Js.object fs).child (.key key) = some value) : OneText locale value := by
  have hnodup := hjson.proper.nodup_keys
  have hmem := Js.mem_present.mp ((mem_iff_lookup (Js.nodup_present hnodup)).mpr hvalue)
  obtain ⟨s, t, rfl⟩ := List.append_of_mem hmem.1
  have hperm : (s ++ (key, value) :: t).Perm ((key, value) :: (s ++ t)) := List.perm_middle
  have hset : ∀ b : Js, b.IsJson → (Js.object ((key, b) :: (s ++ t))).IsJson := by
    intro b hb
    have hfirst := hjson.perm hperm
    cases hfirst with
    | object hkeys hparts =>
        refine .object hkeys fun f hf => ?_
        rcases List.mem_cons.mp hf with rfl | hf
        · exact hb
        · exact hparts f (List.mem_cons_of_mem _ hf)
  have hsame : ∀ b : Js, b.IsJson → SameJson b value →
      SameJson (.object ((key, b) :: (s ++ t))) (.object (s ++ (key, value) :: t)) := by
    intro b hb hbv
    apply SameJson.trans _ (SameJson.object_of_perm hnodup hperm)
    intro path
    cases path with
    | nil => rfl
    | cons step path =>
        cases step with
        | index n => rfl
        | key name =>
            have hchild : ∀ v : Js, v.isUndefined = false →
                (Js.object ((key, v) :: (s ++ t))).child (.key name) =
                  if name = key then some v else (Js.present (s ++ t)).lookup name := by
              intro v hv
              show (Js.present ((key, v) :: (s ++ t))).lookup name = _
              rw [Js.present_cons, hv, if_neg Bool.false_ne_true, lookup_cons_eq]
            rw [Js.get, Js.get, hchild b hb.isUndefined, hchild value hmem.2]
            by_cases hname : name = key
            · rw [if_pos hname, if_pos hname]
              exact hbv path
            · rw [if_neg hname, if_neg hname]
  intro b c hb hc hbv hcv
  have htexts := canonicalFields_inj (h _ _ (hset b hb) (hset c hc) (hsame b hb hbv)
    (hsame c hc hcv))
  have hfields : ∀ v : Js, v.IsJson → (key, canonicalText locale v) ∈
      canonicalFields locale ((key, v) :: (s ++ t)) := by
    intro v hv
    rw [(perm_canonicalFields (hset v hv).proper.nodup_keys).mem_iff, textFields, Js.present_cons,
      hv.isUndefined, if_neg Bool.false_ne_true]
    exact List.mem_cons_self
  have hleft := hfields b hb
  rw [htexts] at hleft
  have hkeys : ((canonicalFields locale ((key, c) :: (s ++ t))).map Prod.fst).Nodup := by
    rw [((perm_canonicalFields (hset c hc).proper.nodup_keys).map _).nodup_iff]
    exact nodup_textFields (hset c hc).proper.nodup_keys
  have heq := List.inj_on_of_nodup_map hkeys hleft (hfields c hc) rfl
  exact (Prod.mk.inj heq).2

theorem OneText.keysApart {a : Js} : a.IsJson → OneText locale a → KeysApart locale a := by
  apply Js.induction (v := a)
  · intro a hleaf _ _
    have hchild : ∀ step, a.child step = none := by
      intro step
      cases a with
      | array elements => cases hleaf
      | object fields => cases hleaf
      | _ => cases step <;> rfl
    apply KeysApart.of_parts
    · intro key other _ hkey
      rw [hchild] at hkey
      cases hkey
    · intro step part hpart
      rw [hchild] at hpart
      cases hpart
  · intro xs ih hjson h
    apply KeysApart.of_parts
    · intro key other _ hkey
      cases hkey
    · intro step part hpart
      cases step with
      | key name => cases hpart
      | index n =>
          have hmem := List.mem_of_getElem? hpart
          cases hjson with
          | array hparts => exact ih part hmem (hparts part hmem) (h.element (.array hparts) hpart)
  · intro fs ih hjson h
    apply KeysApart.of_parts
    · intro key other hne hkey hother
      exact h.tellsApart hjson hne hkey hother
    · intro step part hpart
      cases step with
      | index n => cases hpart
      | key name =>
          have hmem := (mem_iff_lookup (Js.nodup_present hjson.proper.nodup_keys)).mpr hpart
          have hmem' := (Js.mem_present.mp hmem).1
          have hfield := h.field hjson hpart
          cases hjson with
          | object hnodup hparts => exact ih _ hmem' (hparts _ hmem') hfield

end KubeNova.Update
