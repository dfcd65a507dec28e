import KubeNova.Update.CanonicalJson

/-!
# Manifests in the resource editor

How the editor reads a manifest: `getManifestValue` follows a path, through keys of an object and
indices of an array, and finds what the language has for every object where a key is missing.
`resourceFingerprint` is the text two values are compared by.
-/

namespace KubeNova.Editor

open KubeNova.Foundation KubeNova.Foundation.Json
open KubeNova.Update (canonicalText canonicalValue canonicalOrder canonicalFields)

/-- What a property access finds: a value, which is undefined where there is none, or a function
that every object has. -/
inductive Found where
  | inherited
  | value (v : Js)

/-- The functions of `Object.prototype`. -/
def objectMembers : List String :=
  ["constructor", "__defineGetter__", "__defineSetter__", "hasOwnProperty", "__lookupGetter__",
    "__lookupSetter__", "isPrototypeOf", "propertyIsEnumerable", "toString", "valueOf",
    "toLocaleString"]

/-- The functions of `Array.prototype`. -/
def arrayMembers : List String :=
  ["at", "concat", "copyWithin", "fill", "find", "findIndex", "findLast", "findLastIndex",
    "lastIndexOf", "pop", "push", "reverse", "shift", "unshift", "slice", "sort", "splice",
    "includes", "indexOf", "join", "keys", "entries", "values", "forEach", "filter", "flat",
    "flatMap", "map", "every", "some", "reduce", "reduceRight", "toReversed", "toSorted",
    "toSpliced", "with"]

theorem isNumberText_toString (n : Nat) : isNumberText (toString n) = true := by
  have hdigits : ∀ c ∈ Nat.toDigits 10 n, Text.isDigit c = true := by
    intro c hc
    have hdigit : c.isDigit = true := Nat.isDigit_of_mem_toDigits (by omega) (by omega) hc
    simp only [Char.isDigit, Bool.and_eq_true, decide_eq_true_eq] at hdigit
    simp only [Text.isDigit, Bool.and_eq_true, decide_eq_true_eq]
    exact hdigit
  have htext : (toString n).toList = Nat.toDigits 10 n := Nat.toList_repr
  unfold isNumberText
  rw [htext]
  cases hlist : Nat.toDigits 10 n with
  | nil => exact absurd hlist Nat.toDigits_ne_nil
  | cons c cs =>
      rw [hlist] at hdigits
      rw [Bool.and_eq_true, List.all_eq_true]
      constructor
      · rw [hdigits c List.mem_cons_self, Bool.true_or]
      · intro d hd
        rw [hdigits d (List.mem_cons_of_mem _ hd), Bool.true_or]

def lengthNumber (n : Nat) : JsNumber := ⟨toString n, isNumberText_toString n⟩

namespace Found

def missing : Found := .value .undefined

def inObject (key : String) : Found :=
  if key = "__proto__" then .value (.object [])
  else if objectMembers.contains key then inherited
  else missing

def inArray (length : Nat) (key : String) : Found :=
  if key = "length" then .value (.number (lengthNumber length))
  else if key = "__proto__" then .value (.array [])
  else if arrayMembers.contains key || objectMembers.contains key then inherited
  else missing

/-- `current && typeof current === 'object' ? current[key] : undefined` -/
def member (current : Found) (key : String) : Found :=
  match current with
  | .value (.object fields) =>
      match fields.lookup key with
      | some v => .value v
      | none => inObject key
  | .value (.array elements) =>
      match arrayIndex? key with
      | some n => .value (elements[n]?.getD .undefined)
      | none => inArray elements.length key
  | _ => missing

def getManifestValue (value : Found) (path : List String) : Found := path.foldl member value

def isMissing : Found → Bool
  | .value .undefined => true
  | _ => false

/-- `value && typeof value === 'object' && !Array.isArray(value)` -/
def isObject : Found → Bool
  | .value (.object _) => true
  | _ => false

/-- `Object.keys(value ?? {})`, for a value that is an object, an array or missing. -/
def ownKeys : Found → List String
  | .value (.object fields) => (ownOrder fields).map Prod.fst
  | .value (.array elements) => (List.range elements.length).map toString
  | _ => []

def IsValid : Found → Prop
  | .inherited => True
  | .value v => v.IsJson ∨ v = .undefined

end Found

open Found

/-- `resourceFingerprint(value)`: `JSON.stringify` has no text for a missing value or a function. -/
def resourceFingerprint (locale : Update.Locale) : Found → Option (List Char)
  | .inherited => none
  | .value v => if v.isUndefined then none else some (canonicalText locale v)

variable {locale : Update.Locale} {x y : Found} {key : String}

theorem mem_ownKeys_object {fields : List (String × Js)} :
    key ∈ ownKeys (.value (.object fields)) ↔ key ∈ fields.map Prod.fst := by
  show key ∈ (ownOrder fields).map Prod.fst ↔ _
  exact ((perm_ownOrder fields).map Prod.fst).mem_iff

theorem lookup_isSome {fields : List (String × Js)} (h : key ∈ fields.map Prod.fst) :
    ∃ v, fields.lookup key = some v := by
  cases hlookup : fields.lookup key with
  | some v => exact ⟨v, rfl⟩
  | none =>
      obtain ⟨field, hfield, rfl⟩ := List.mem_map.mp h
      rw [List.lookup_eq_none_iff] at hlookup
      have hne := hlookup field hfield
      simp at hne

theorem member_object {fields : List (String × Js)} {v : Js} (h : fields.lookup key = some v) :
    member (.value (.object fields)) key = .value v := by
  simp only [member, h]

theorem Found.IsValid.missing : IsValid missing := .inr rfl

theorem Found.IsValid.inObject (key : String) : IsValid (inObject key) := by
  unfold Found.inObject
  split
  · exact .inl (.object List.nodup_nil fun f hf => absurd hf List.not_mem_nil)
  · split
    · trivial
    · exact .missing

theorem Found.IsValid.inArray (length : Nat) (key : String) : IsValid (inArray length key) := by
  unfold Found.inArray
  split
  · exact .inl (.number _)
  · split
    · exact .inl (.array fun e he => absurd he List.not_mem_nil)
    · split
      · trivial
      · exact .missing

theorem Found.IsValid.member (hx : IsValid x) (key : String) : IsValid (member x key) := by
  cases x with
  | inherited => exact .missing
  | value v =>
      cases v with
      | object fields =>
          obtain hjson | hundefined := hx
          · cases hjson with
            | object _ hfields =>
                simp only [Found.member]
                split
                · rename_i v hlookup
                  exact .inl (hfields (key, v) (mem_of_lookup hlookup))
                · exact .inObject key
          · cases hundefined
      | array elements =>
          obtain hjson | hundefined := hx
          · cases hjson with
            | array helements =>
                simp only [Found.member]
                split
                · rename_i n hindex
                  cases hn : elements[n]? with
                  | none => exact .missing
                  | some e => exact .inl (helements e (List.mem_of_getElem? hn))
                · exact .inArray _ key
          · cases hundefined
      | _ => exact .missing

theorem Found.IsValid.getManifestValue (hx : IsValid x) (path : List String) :
    IsValid (getManifestValue x path) := by
  induction path generalizing x with
  | nil => exact hx
  | cons key path ih => exact ih (hx.member key)

theorem child_canonicalValue {v : Js} (h : v.Proper) (step : PathStep) :
    (canonicalValue locale v).child step = (v.child step).map (canonicalValue locale) := by
  cases v with
  | array elements =>
      cases step with
      | key name => rfl
      | index n =>
          show (arrangeElements (canonicalOrder locale) elements)[n]? = elements[n]?.map _
          rw [arrangeElements_eq, List.getElem?_map]
          rfl
  | object fields =>
      cases step with
      | index n => rfl
      | key name =>
          have hkeys : ((arrangeFields (canonicalOrder locale) fields).map Prod.fst).Nodup := by
            rw [Update.keys_arrangeFields]
            exact h.nodup_keys
          show (Js.present (canonicalOrder locale
            (arrangeFields (canonicalOrder locale) fields))).lookup name =
              ((Js.present fields).lookup name).map _
          rw [Update.lookup_present_canonicalOrder hkeys, present_arrangeFields, lookup_map_snd]
          rfl
  | _ => cases step <;> rfl

theorem parts_of_canonicalText {v w : Js} (hv : v.Proper) (hw : w.Proper)
    (h : canonicalText locale v = canonicalText locale w) (step : PathStep) :
    (v.child step).map (canonicalText locale) = (w.child step).map (canonicalText locale) := by
  have hparts := (parts_of_text (a := canonicalValue locale v) (b := canonicalValue locale w) h).2 step
  rw [child_canonicalValue hv, child_canonicalValue hw] at hparts
  cases hchild : v.child step with
  | none =>
      rw [hchild] at hparts
      cases hchild' : w.child step with
      | none => rfl
      | some q =>
          rw [hchild'] at hparts
          cases hparts
  | some p =>
      rw [hchild] at hparts
      cases hchild' : w.child step with
      | none =>
          rw [hchild'] at hparts
          cases hparts
      | some q =>
          rw [hchild'] at hparts
          cases hparts with
          | some htext => exact congrArg some htext

theorem lookup_eq_child {fields : List (String × Js)} (h : (Js.object fields).IsJson) (key : String) :
    fields.lookup key = (Js.object fields).child (.key key) := by
  have hpresent : Js.present fields = fields := by
    apply Js.present_eq_self
    intro field hfield
    cases h with
    | object _ hfields => exact (hfields field hfield).isUndefined
  show _ = (Js.present fields).lookup key
  rw [hpresent]

theorem resourceFingerprint_value {v : Js} (h : v.IsJson) :
    resourceFingerprint locale (.value v) = some (canonicalText locale v) := by
  rw [resourceFingerprint, h.isUndefined]
  rfl

theorem resourceFingerprint_eq_none (hx : x.IsValid) :
    resourceFingerprint locale x = none ↔ x = .inherited ∨ x = missing := by
  cases x with
  | inherited => simp [resourceFingerprint]
  | value v =>
      obtain hjson | rfl := hx
      · rw [resourceFingerprint_value hjson]
        refine iff_of_false (Option.some_ne_none _) ?_
        intro h
        obtain h | h := h
        · cases h
        · cases h
          cases hjson
      · exact iff_of_true rfl (.inr rfl)

theorem member_of_no_fingerprint (hx : x.IsValid) (h : resourceFingerprint locale x = none) :
    member x key = missing := by
  obtain rfl | rfl := (resourceFingerprint_eq_none hx).mp h
  · rfl
  · rfl

theorem resourceFingerprint_member_json {v w : Js} (hv : v.IsJson) (hw : w.IsJson)
    (h : canonicalText locale v = canonicalText locale w) (key : String) :
    resourceFingerprint locale (member (.value v) key) =
      resourceFingerprint locale (member (.value w) key) := by
  have hleaf : v.leaf = w.leaf := (Update.sameJson_of_canonicalJson hv.proper hw.proper
    (congrArg String.ofList h)).leaf
  have hparts := parts_of_canonicalText hv.proper hw.proper h
  cases hv with
  | @object fs hfs hfields =>
      cases hw with
      | @object gs hgs hfields' =>
          have hpart := hparts (.key key)
          rw [← lookup_eq_child (.object hfs hfields), ← lookup_eq_child (.object hgs hfields')] at hpart
          cases hf : fs.lookup key with
          | none =>
              rw [hf, Option.map_none, eq_comm, Option.map_eq_none_iff] at hpart
              simp only [member, hf, hpart]
          | some p =>
              rw [hf, Option.map_some, eq_comm, Option.map_eq_some_iff] at hpart
              obtain ⟨q, hg, htext⟩ := hpart
              have hp : p.IsJson := hfields _ ((mem_iff_lookup hfs).mpr hf)
              have hq : q.IsJson := hfields' _ ((mem_iff_lookup hgs).mpr hg)
              rw [member_object hf, member_object hg, resourceFingerprint_value hp,
                resourceFingerprint_value hq, htext]
      | _ => cases hleaf
  | @array xs helements =>
      cases hw with
      | @array ys helements' =>
          have hlength : xs.length = ys.length := by
            have hsizes : Leaf.array xs.length = Leaf.array ys.length := hleaf
            exact Leaf.array.inj hsizes
          simp only [member]
          cases hindex : arrayIndex? key with
          | none => simp only [hlength]
          | some n =>
              have hpart : xs[n]?.map (canonicalText locale) = ys[n]?.map (canonicalText locale) :=
                hparts (.index n)
              cases hn : xs[n]? with
              | none =>
                  rw [hn, Option.map_none, eq_comm, Option.map_eq_none_iff] at hpart
                  simp only [hn, hpart]
              | some p =>
                  rw [hn, Option.map_some, eq_comm, Option.map_eq_some_iff] at hpart
                  obtain ⟨q, hq, htext⟩ := hpart
                  have hp' : p.IsJson := helements p (List.mem_of_getElem? hn)
                  have hq' : q.IsJson := helements' q (List.mem_of_getElem? hq)
                  simp only [hn, hq, Option.getD_some]
                  rw [resourceFingerprint_value hp', resourceFingerprint_value hq', htext]
      | _ => cases hleaf
  | _ =>
      cases hw with
      | object _ _ => cases hleaf
      | array _ => cases hleaf
      | _ => rfl

theorem resourceFingerprint_member (hx : x.IsValid) (hy : y.IsValid)
    (h : resourceFingerprint locale x = resourceFingerprint locale y) (key : String) :
    resourceFingerprint locale (member x key) = resourceFingerprint locale (member y key) := by
  cases hnone : resourceFingerprint locale x with
  | none => rw [member_of_no_fingerprint hx hnone, member_of_no_fingerprint hy (h ▸ hnone)]
  | some text =>
      cases x with
      | inherited => cases hnone
      | value v =>
          cases y with
          | inherited =>
              rw [h] at hnone
              cases hnone
          | value w =>
              obtain hv | rfl := hx
              · obtain hw | rfl := hy
                · rw [resourceFingerprint_value hv, resourceFingerprint_value hw] at h
                  exact resourceFingerprint_member_json hv hw (Option.some.inj h) key
                · rw [h] at hnone
                  cases hnone
              · cases hnone

theorem resourceFingerprint_getManifestValue (hx : x.IsValid) (hy : y.IsValid)
    (h : resourceFingerprint locale x = resourceFingerprint locale y) (path : List String) :
    resourceFingerprint locale (getManifestValue x path) =
      resourceFingerprint locale (getManifestValue y path) := by
  induction path generalizing x y with
  | nil => exact h
  | cons key path ih =>
      exact ih (hx.member key) (hy.member key) (resourceFingerprint_member hx hy h key)

mutual

/-- How deep objects are nested in a value; arrays are not looked into. -/
def objectDepth : Js → Nat
  | .object fields => 1 + fieldsDepth fields
  | _ => 0

def fieldsDepth : List (String × Js) → Nat
  | [] => 0
  | (_, v) :: rest => max (objectDepth v) (fieldsDepth rest)

end

def Found.depth : Found → Nat
  | .inherited => 0
  | .value v => objectDepth v

theorem objectDepth_le {fields : List (String × Js)} {v : Js} (h : fields.lookup key = some v) :
    objectDepth v ≤ fieldsDepth fields := by
  induction fields with
  | nil => cases h
  | cons field fields ih =>
      obtain ⟨name, w⟩ := field
      rw [lookup_cons_eq] at h
      rw [fieldsDepth]
      split at h
      · rw [← Option.some.inj h]
        exact Nat.le_max_left _ _
      · have hrest := ih h
        omega

theorem depth_inObject_le : (inObject key).depth ≤ 1 := by
  unfold inObject
  split
  · exact Nat.le_refl 1
  · split
    · exact Nat.zero_le 1
    · exact Nat.zero_le 1

theorem depth_member (h : x.isObject = true ∨ x = missing) (key : String) :
    (member x key).depth ≤ x.depth ∧ (key ∈ ownKeys x → (member x key).depth < x.depth) := by
  cases x with
  | inherited => exact absurd h (by simp [isObject, missing])
  | value v =>
      cases v with
      | object fields =>
          have hdepth : depth (.value (.object fields)) = 1 + fieldsDepth fields := by
            rw [depth, objectDepth]
          cases hlookup : fields.lookup key with
          | some v =>
              have hle := objectDepth_le hlookup
              rw [member_object hlookup, hdepth]
              show objectDepth v ≤ _ ∧ (_ → objectDepth v < _)
              constructor
              · omega
              · intro _
                omega
          | none =>
              have hle := @depth_inObject_le key
              have hmember : member (.value (.object fields)) key = inObject key := by
                simp only [member, hlookup]
              rw [hmember, hdepth]
              constructor
              · omega
              · intro hkey
                obtain ⟨v, hv⟩ := lookup_isSome (mem_ownKeys_object.mp hkey)
                rw [hlookup] at hv
                cases hv
      | undefined => exact ⟨Nat.le_refl 0, fun hkey => absurd hkey List.not_mem_nil⟩
      | _ => exact absurd h (by simp [isObject, missing])

end KubeNova.Editor
