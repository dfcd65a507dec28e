import KubeNova.Editor.DraftRebase

/-!
# What the rebase of a draft visits and writes

The rebase stops at the paths the user changed, none of which is above another, and where it writes
through objects it changes nothing else.
-/

namespace KubeNova.Editor

open KubeNova.Foundation KubeNova.Foundation.Json
open KubeNova.Update (canonicalText)
open Found

variable {locale : Update.Locale} {a b x : Found} {key : String} {path rest : List String}

def Through (x : Found) (path : List String) : Prop :=
  ∀ front, front <+: path → front ≠ path → (getManifestValue x front).isObject = true

theorem getManifestValue_append (x : Found) (path rest : List String) :
    getManifestValue x (path ++ rest) = getManifestValue (getManifestValue x path) rest :=
  List.foldl_append

theorem isObject_iff : x.isObject = true ↔ ∃ fields, x = .value (.object fields) := by
  cases x with
  | inherited => simp [isObject]
  | value v => cases v <;> simp [isObject]

theorem through_nil : Through x [] := by
  intro front hfront hne
  exact absurd (List.prefix_nil.mp hfront) hne

theorem through_cons : Through x (key :: path) ↔
    x.isObject = true ∧ Through (member x key) path := by
  constructor
  · intro h
    constructor
    · exact h [] List.nil_prefix (List.cons_ne_nil _ _).symm
    · intro front hfront hne
      exact h (key :: front) (List.cons_prefix_cons.mpr ⟨rfl, hfront⟩)
        (fun heq => hne (List.cons_eq_cons.mp heq).2)
  · intro h front hfront hne
    cases front with
    | nil => exact h.1
    | cons other front =>
        obtain ⟨rfl, hinside⟩ := List.cons_prefix_cons.mp hfront
        exact h.2 front hinside fun heq => hne (congrArg (List.cons other) heq)

theorem Through.front {front : List String} (h : Through x path) (hfront : front <+: path) :
    Through x front := by
  intro other hother hne
  apply h other (hother.trans hfront)
  rintro rfl
  exact hne (hother.eq_of_length_le hfront.length_le)

/-- The values at the path differ and are not both objects, which are compared key by key. -/
def ChangedAt (locale : Update.Locale) (a b : Found) (path : List String) : Prop :=
  Through a path ∧ Through b path ∧
    resourceFingerprint locale (getManifestValue a path) ≠
      resourceFingerprint locale (getManifestValue b path) ∧
    ¬((getManifestValue a path).isObject = true ∧ (getManifestValue b path).isObject = true)

theorem changedAt_cons : ChangedAt locale a b (key :: path) ↔
    (a.isObject = true ∧ b.isObject = true) ∧
      ChangedAt locale (member a key) (member b key) path := by
  rw [ChangedAt, through_cons, through_cons]
  constructor
  · rintro ⟨⟨ha, ha'⟩, ⟨hb, hb'⟩, hdiffer⟩
    exact ⟨⟨ha, hb⟩, ha', hb', hdiffer⟩
  · rintro ⟨⟨ha, hb⟩, ha', hb', hdiffer⟩
    exact ⟨⟨ha, ha'⟩, ⟨hb, hb'⟩, hdiffer⟩

theorem ChangedAt.fingerprint (ha : a.IsValid) (hb : b.IsValid) (h : ChangedAt locale a b path) :
    resourceFingerprint locale a ≠ resourceFingerprint locale b := fun hequal =>
  h.2.2.1 (resourceFingerprint_getManifestValue ha hb hequal path)

theorem ChangedAt.eq_of_above {front : List String} (h : ChangedAt locale a b path)
    (hfront : ChangedAt locale a b front) (hle : front <+: path) : front = path := by
  by_contra hne
  exact hfront.2.2.2 ⟨h.1 front hle hne, h.2.1 front hle hne⟩

theorem member_of_not_mem {fields : List (String × Js)} (h : key ∉ fields.map Prod.fst) :
    member (.value (.object fields)) key = inObject key := by
  have hlookup : fields.lookup key = none := by
    rw [List.lookup_eq_none_iff]
    intro field hfield
    rw [bne_iff_ne]
    rintro rfl
    exact h (List.mem_map_of_mem hfield)
  simp only [member, hlookup]

theorem ChangedAt.mem_unionKeys (h : ChangedAt locale a b (key :: path)) :
    key ∈ unionKeys a b := by
  obtain ⟨⟨hobjectA, hobjectB⟩, hinner⟩ := changedAt_cons.mp h
  obtain ⟨fs, rfl⟩ := isObject_iff.mp hobjectA
  obtain ⟨gs, rfl⟩ := isObject_iff.mp hobjectB
  rw [Editor.mem_unionKeys, mem_ownKeys_object, mem_ownKeys_object]
  by_contra hkey
  rw [not_or] at hkey
  rw [member_of_not_mem hkey.1, member_of_not_mem hkey.2] at hinner
  exact hinner.2.2.1 rfl

theorem descends_of_objects (ha : a.isObject = true) (hb : b.isObject = true) :
    descends a b = true := by
  rw [descends, ha, hb]
  rfl

/-- The paths at which `visit` stops to take a value over. -/
def leaves (locale : Update.Locale) : Nat → Found → Found → List String → List (List String)
  | 0, _, _, _ => []
  | fuel + 1, before, after, path =>
      if isVersion path ∨ resourceFingerprint locale before = resourceFingerprint locale after then
        []
      else if before.isObject && after.isObject then
        (unionKeys before after).flatMap fun key =>
          leaves locale fuel (member before key) (member after key) (path ++ [key])
      else [path]

theorem mem_leaves {fuel : Nat} {leaf : List String} (ha : a.IsValid) (hb : b.IsValid)
    (hfuel : a.depth + b.depth < fuel) :
    leaf ∈ leaves locale fuel a b path ↔ ∃ rest, leaf = path ++ rest ∧ ChangedAt locale a b rest ∧
      ∀ front, front <+: rest → ¬isVersion (path ++ front) := by
  induction fuel generalizing a b path with
  | zero => omega
  | succ fuel ih =>
      rw [leaves]
      by_cases hskip : isVersion path ∨
          resourceFingerprint locale a = resourceFingerprint locale b
      · rw [if_pos hskip]
        refine iff_of_false List.not_mem_nil ?_
        rintro ⟨rest, -, hchanged, hversion⟩
        obtain hskip | hequal := hskip
        · have hnot := hversion [] List.nil_prefix
          rw [List.append_nil] at hnot
          exact hnot hskip
        · exact hchanged.fingerprint ha hb hequal
      · rw [if_neg hskip]
        rw [not_or] at hskip
        by_cases hobjects : (a.isObject && b.isObject) = true
        · rw [if_pos hobjects, List.mem_flatMap]
          rw [Bool.and_eq_true] at hobjects
          have hdescends := descends_of_objects hobjects.1 hobjects.2
          have hinner : ∀ {key}, key ∈ unionKeys a b →
              (leaf ∈ leaves locale fuel (member a key) (member b key) (path ++ [key]) ↔
                ∃ rest, leaf = path ++ [key] ++ rest ∧
                  ChangedAt locale (member a key) (member b key) rest ∧
                  ∀ front, front <+: rest → ¬isVersion (path ++ [key] ++ front)) := by
            intro key hkey
            have hlt := depth_lt hdescends hkey
            exact ih (ha.member key) (hb.member key) (by omega)
          constructor
          · rintro ⟨key, hkey, hleaf⟩
            obtain ⟨rest, rfl, hchanged, hversion⟩ := (hinner hkey).mp hleaf
            refine ⟨key :: rest, by rw [List.append_assoc]; rfl,
              changedAt_cons.mpr ⟨hobjects, hchanged⟩, ?_⟩
            intro front hfront
            cases front with
            | nil =>
                rw [List.append_nil]
                exact hskip.1
            | cons other front =>
                obtain ⟨rfl, hinside⟩ := List.cons_prefix_cons.mp hfront
                have hnot := hversion front hinside
                rw [List.append_assoc] at hnot
                exact hnot
          · rintro ⟨rest, rfl, hchanged, hversion⟩
            cases rest with
            | nil => exact absurd hobjects hchanged.2.2.2
            | cons key rest =>
                have hkey := hchanged.mem_unionKeys
                refine ⟨key, hkey, (hinner hkey).mpr ⟨rest, by rw [List.append_assoc]; rfl,
                  (changedAt_cons.mp hchanged).2, ?_⟩⟩
                intro front hfront
                rw [List.append_assoc]
                exact hversion (key :: front) (List.cons_prefix_cons.mpr ⟨rfl, hfront⟩)
        · rw [if_neg hobjects, List.mem_singleton]
          rw [Bool.and_eq_true] at hobjects
          constructor
          · rintro rfl
            refine ⟨[], (List.append_nil _).symm, ⟨through_nil, through_nil, hskip.2, hobjects⟩, ?_⟩
            intro front hfront
            rw [List.prefix_nil.mp hfront, List.append_nil]
            exact hskip.1
          · rintro ⟨rest, rfl, hchanged, -⟩
            cases rest with
            | nil => rw [List.append_nil]
            | cons key rest => exact absurd (changedAt_cons.mp hchanged).1 hobjects

theorem foldlM_flatMap {α β σ ε : Type} (xs : List α) (g : α → List β)
    (f : σ → β → Except ε σ) (state : σ) :
    (xs.flatMap g).foldlM f state = xs.foldlM (fun state x => (g x).foldlM f state) state := by
  induction xs generalizing state with
  | nil => rfl
  | cons x xs ih =>
      rw [List.flatMap_cons, List.foldlM_append, List.foldlM_cons]
      exact bind_congr fun state => ih state

section Visit

variable (original draft latest : Found) (choices : String → Option Choice)

def takeOverAt (locale : Update.Locale) (state : Rebased) (path : List String) :
    Except String Rebased :=
  takeOver locale latest choices (getManifestValue original path) (getManifestValue draft path)
    path state

theorem visit_eq (fuel : Nat) (path : List String) (state : Rebased) :
    visit locale latest choices fuel (getManifestValue original path) (getManifestValue draft path)
        path state =
      (leaves locale fuel (getManifestValue original path) (getManifestValue draft path)
        path).foldlM (takeOverAt original draft latest choices locale) state := by
  induction fuel generalizing path state with
  | zero => rfl
  | succ fuel ih =>
      rw [visit, leaves]
      split
      · rfl
      · split
        · rw [foldlM_flatMap]
          have hkey : ∀ (value : Found) (key : String),
              member (getManifestValue value path) key = getManifestValue value (path ++ [key]) := by
            intro value key
            rw [getManifestValue_append]
            rfl
          simp only [hkey, ih]
        · rw [List.foldlM_cons]
          exact (bind_pure _).symm

end Visit

inductive SafeJson : Js → Prop
  | null : SafeJson .null
  | bool (v : Bool) : SafeJson (.bool v)
  | number (v : JsNumber) : SafeJson (.number v)
  | string (v : String) : SafeJson (.string v)
  | array {elements : List Js} : (∀ e ∈ elements, SafeJson e) → SafeJson (.array elements)
  | object {fields : List (String × Js)} : (fields.map Prod.fst).Nodup →
      (∀ f ∈ fields, f.1 ∉ unsafeKeys) → (∀ f ∈ fields, SafeJson f.2) → SafeJson (.object fields)

theorem SafeJson.isJson {v : Js} (h : SafeJson v) : v.IsJson := by
  induction h with
  | null => exact .null
  | bool v => exact .bool v
  | number v => exact .number v
  | string v => exact .string v
  | array _ ih => exact .array ih
  | object hkeys _ _ ih => exact .object hkeys ih

def Found.IsSafe : Found → Prop
  | .inherited => True
  | .value v => SafeJson v ∨ v = .undefined

theorem Found.IsSafe.isValid (h : x.IsSafe) : x.IsValid := by
  cases x with
  | inherited => trivial
  | value v =>
      obtain h | h := h
      · exact .inl h.isJson
      · exact .inr h

theorem Found.IsSafe.inObject (key : String) : IsSafe (inObject key) := by
  unfold Found.inObject
  split
  · exact .inl (.object List.nodup_nil (fun f hf => absurd hf List.not_mem_nil)
      fun f hf => absurd hf List.not_mem_nil)
  · split
    · trivial
    · exact .inr rfl

theorem Found.IsSafe.inArray (length : Nat) (key : String) : IsSafe (inArray length key) := by
  unfold Found.inArray
  split
  · exact .inl (.number _)
  · split
    · exact .inl (.array fun e he => absurd he List.not_mem_nil)
    · split
      · trivial
      · exact .inr rfl

theorem Found.IsSafe.member (h : x.IsSafe) (key : String) : IsSafe (member x key) := by
  cases x with
  | inherited => exact .inr rfl
  | value v =>
      obtain h | rfl := h
      · cases h with
        | object _ _ hfields =>
            simp only [Found.member]
            split
            · rename_i v hlookup
              exact .inl (hfields _ (mem_of_lookup hlookup))
            · exact .inObject key
        | array helements =>
            simp only [Found.member]
            split
            · rename_i elements _ n _
              cases hn : elements[n]? with
              | none => exact .inr rfl
              | some e => exact .inl (helements e (List.mem_of_getElem? hn))
            · exact .inArray _ key
        | _ => exact .inr rfl
      · exact .inr rfl

theorem Found.IsSafe.getManifestValue (h : x.IsSafe) (path : List String) :
    IsSafe (getManifestValue x path) := by
  induction path generalizing x with
  | nil => exact h
  | cons key path ih => exact ih (h.member key)

theorem SafeJson.not_mem_unsafeKeys {fields : List (String × Js)} (h : SafeJson (.object fields))
    (hkey : key ∈ fields.map Prod.fst) : key ∉ unsafeKeys := by
  cases h with
  | object _ hsafe _ =>
      obtain ⟨field, hfield, rfl⟩ := List.mem_map.mp hkey
      exact hsafe field hfield

theorem ChangedAt.safe (ha : a.IsSafe) (hb : b.IsSafe) (h : ChangedAt locale a b path) :
    ∀ key ∈ path, key ∉ unsafeKeys := by
  induction path generalizing a b with
  | nil => exact fun key hkey => absurd hkey List.not_mem_nil
  | cons head path ih =>
      have hhead := h.mem_unionKeys
      obtain ⟨⟨hobjectA, hobjectB⟩, hinner⟩ := changedAt_cons.mp h
      intro key hkey
      obtain rfl | hkey := List.mem_cons.mp hkey
      · obtain ⟨fs, rfl⟩ := isObject_iff.mp hobjectA
        obtain ⟨gs, rfl⟩ := isObject_iff.mp hobjectB
        rw [Editor.mem_unionKeys, mem_ownKeys_object, mem_ownKeys_object] at hhead
        obtain hown | hown := hhead
        · exact (ha.resolve_right fun heq => by cases heq).not_mem_unsafeKeys hown
        · exact (hb.resolve_right fun heq => by cases heq).not_mem_unsafeKeys hown
      · exact ih (ha.member head) (hb.member head) hinner key hkey

theorem resourceFingerprint_eq (x : Found) :
    resourceFingerprint locale x = x.json?.map (canonicalText locale) := by
  cases x with
  | inherited => rfl
  | value v => cases v <;> rfl

theorem json?_inObject (hkey : key ≠ "__proto__") : (inObject key).json? = none := by
  rw [inObject, if_neg hkey]
  split
  · rfl
  · rfl

/-- A value after `next` was written at the path. -/
structure Updated (v : Js) (path : List String) (next : Option Js) (v' : Js) : Prop where
  here : (getManifestValue (.value v') path).json? = next
  elsewhere : ∀ other, ¬other <+: path → ¬path <+: other →
    getManifestValue (.value v') other = getManifestValue (.value v) other
  above : Through (.value v') path
  safe : SafeJson v → (∀ w, next = some w → SafeJson w) → SafeJson v'

theorem safeJson_setField {fields : List (String × Js)} {v : Js} (h : SafeJson (.object fields))
    (hkey : key ∉ unsafeKeys) (hv : SafeJson v) : SafeJson (.object (setField fields key v)) := by
  cases h with
  | object hkeys hsafe hparts =>
      refine .object (nodup_setField hkeys key v) (fun field hfield => ?_) fun field hfield => ?_
      · obtain rfl | hfield := mem_setField hfield
        · exact hkey
        · exact hsafe field hfield
      · obtain rfl | hfield := mem_setField hfield
        · exact hv
        · exact hparts field hfield

theorem safeJson_removeField {fields : List (String × Js)} (h : SafeJson (.object fields)) :
    SafeJson (.object (removeField fields key)) := by
  cases h with
  | object hkeys hsafe hparts =>
      exact .object (hkeys.sublist (List.filter_sublist.map _))
        (fun field hfield => hsafe field (List.mem_filter.mp hfield).1)
        fun field hfield => hparts field (List.mem_filter.mp hfield).1

theorem member_congr {fs gs : List (String × Js)} (h : fs.lookup key = gs.lookup key) :
    member (.value (.object fs)) key = member (.value (.object gs)) key := by
  simp only [member, h]

def writeField (fields : List (String × Js)) (key : String) : Option Js → List (String × Js)
  | some v => setField fields key v
  | none => removeField fields key

theorem lookup_writeField_of_ne {fields : List (String × Js)} {other : String} {next : Option Js}
    (hne : other ≠ key) : (writeField fields key next).lookup other = fields.lookup other := by
  cases next with
  | none => exact lookup_removeField_of_ne hne
  | some v => exact lookup_setField_of_ne hne

theorem assign_object (fields : List (String × Js)) (key : String) (next : Option Js) :
    assign (.object fields) key next = .ok (.object (writeField fields key next)) := by
  cases next <;> rfl

theorem ne_proto (hkey : key ∉ unsafeKeys) : key ≠ "__proto__" := by
  rintro rfl
  exact hkey List.mem_cons_self

theorem updated_field {fields : List (String × Js)} {next : Option Js} (hkey : key ∉ unsafeKeys)
    (hnext : next ≠ some .undefined) :
    Updated (.object fields) [key] next (.object (writeField fields key next)) where
  here := by
    show (member (.value (.object (writeField fields key next))) key).json? = next
    cases next with
    | none =>
        have hlookup : (writeField fields key none).lookup key = none := lookup_removeField_self
        simp only [member, hlookup]
        exact json?_inObject (ne_proto hkey)
    | some v =>
        have hlookup : (writeField fields key (some v)).lookup key = some v := lookup_setField_self
        rw [member_object hlookup]
        cases v with
        | undefined => exact absurd rfl hnext
        | _ => rfl
  elsewhere := by
    intro other hnot hnot'
    cases other with
    | nil => exact absurd List.nil_prefix hnot
    | cons head other =>
        have hne : head ≠ key := by
          rintro rfl
          exact hnot' (List.cons_prefix_cons.mpr ⟨rfl, List.nil_prefix⟩)
        show getManifestValue (member _ head) other = getManifestValue (member _ head) other
        rw [member_congr (lookup_writeField_of_ne hne)]
  above := through_cons.mpr ⟨rfl, through_nil⟩
  safe := by
    intro hsafe hv
    cases next with
    | none => exact safeJson_removeField hsafe
    | some v => exact safeJson_setField hsafe hkey (hv v rfl)

theorem updated_inside {fields : List (String × Js)} {part part' : Js} {next : Option Js}
    (hkey : key ∉ unsafeKeys) (hpart : member (.value (.object fields)) key = .value part)
    (hsafe : SafeJson (.object fields) → SafeJson part) (h : Updated part path next part') :
    Updated (.object fields) (key :: path) next (.object (setField fields key part')) := by
  have hmember : member (.value (.object (setField fields key part'))) key = .value part' :=
    member_object lookup_setField_self
  constructor
  · show (getManifestValue (member _ key) path).json? = next
    rw [hmember]
    exact h.here
  · intro other hnot hnot'
    cases other with
    | nil => exact absurd List.nil_prefix hnot
    | cons head other =>
        show getManifestValue (member _ head) other = getManifestValue (member _ head) other
        by_cases hhead : head = key
        · subst hhead
          rw [hmember, hpart]
          apply h.elsewhere
          · exact fun hle => hnot (List.cons_prefix_cons.mpr ⟨rfl, hle⟩)
          · exact fun hle => hnot' (List.cons_prefix_cons.mpr ⟨rfl, hle⟩)
        · rw [member_congr (lookup_setField_of_ne hhead)]
  · rw [through_cons, hmember]
    exact ⟨rfl, h.above⟩
  · intro hfields hv
    exact safeJson_setField hfields hkey (h.safe (hsafe hfields) hv)

theorem update_through {v : Js} {next : Option Js} (hnext : next ≠ some .undefined)
    (hpath : path ≠ []) (hsafe : ∀ key ∈ path, key ∉ unsafeKeys)
    (hthrough : Through (.value v) path) :
    ∃ v', update next v path = .ok v' ∧ Updated v path next v' := by
  induction path generalizing v with
  | nil => exact absurd rfl hpath
  | cons key rest ih =>
      obtain ⟨hobject, hinner⟩ := through_cons.mp hthrough
      obtain ⟨fields, hfields⟩ := isObject_iff.mp hobject
      cases hfields
      have hkey := hsafe key List.mem_cons_self
      cases rest with
      | nil =>
          rw [update, assign_object]
          exact ⟨_, rfl, updated_field hkey hnext⟩
      | cons other rest =>
          obtain ⟨hpart, -⟩ := through_cons.mp hinner
          obtain ⟨parts, hmember⟩ := isObject_iff.mp hpart
          have hchild : childOrObject (.object fields) key = .object parts := by
            rw [childOrObject, hmember]
          rw [hmember] at hinner
          obtain ⟨v', hupdate, hupdated⟩ := ih (List.cons_ne_nil _ _)
            (fun key hmem => hsafe key (List.mem_cons_of_mem _ hmem)) hinner
          have hpartSafe : SafeJson (.object fields) → SafeJson (.object parts) := by
            intro hfields
            have hfound := Found.IsSafe.member (x := .value (.object fields)) (.inl hfields) key
            rw [hmember] at hfound
            exact hfound.resolve_right fun heq => by cases heq
          refine ⟨.object (setField fields key v'), ?_,
            updated_inside hkey hmember hpartSafe hupdated⟩
          rw [update, hchild, hupdate]
          · rfl
          · exact List.cons_ne_nil _ _

end KubeNova.Editor
