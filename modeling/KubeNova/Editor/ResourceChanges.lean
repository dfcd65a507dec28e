import KubeNova.Editor.Manifest

/-!
# The differences of two manifests

`resourceChanges` goes down the objects of two manifests and lists what differs, with values that
may be secret replaced.
-/

namespace KubeNova.Editor

open KubeNova.Foundation KubeNova.Foundation.Json
open KubeNova.Update (canonicalText)
open Found

inductive Operation where
  | add
  | remove
  | change
  deriving DecidableEq

/-- A listed change; a value `JSON.stringify` has no text for is shown as nothing. -/
structure ResourceChange where
  path : String
  operation : Operation
  before : Option String
  after : Option String
  deriving DecidableEq

/-! ## What is sensitive -/

/-- The texts a pattern without anchors begins with at the front of a text. -/
abbrev Pattern := List Char → Bool

def word (text : String) : Pattern := fun cs => text.toList.isPrefixOf cs

/-- Two words, with at most one character between them that is one code unit and no line end. -/
def nearby (first second : String) : Pattern := fun cs =>
  word first cs &&
    match cs.drop first.toList.length with
    | [] => false
    | c :: rest => word second (c :: rest) ||
        (c.toNat < 0x10000 && !([0xA, 0xD, 0x2028, 0x2029].contains c.toNat) && word second rest)

def finds (patterns : List Pattern) (text : List Char) : Bool :=
  (text.map Char.toLower).tails.any fun cs => patterns.any fun pattern => pattern cs

def sensitiveKey (key : String) : Bool :=
  finds [word "password", word "token", nearby "private" "key", nearby "client" "secret",
    word "credential"] key.toList

def sensitiveText (text : List Char) : Bool :=
  finds [word "password", word "token", word "secret", word "credential"] text

/-- A value as `JSON.stringify` sees it in an array. -/
def Found.element : Found → Js
  | .inherited => .null
  | .value v => v

def Found.isArray : Found → Bool
  | .value (.array _) => true
  | _ => false

def secretBlocks : List String := ["data", "stringData"]

def sensitive (secret : Bool) (a b : Found) (path : List String) : Bool :=
  (secret && path.head?.any secretBlocks.contains) || path.any sensitiveKey ||
    ((a.isArray || b.isArray) && sensitiveText (stringify (.array [a.element, b.element])))

def format (sensitive : Bool) (value : Found) : Option String :=
  if value.isMissing then some "—"
  else if sensitive then some "••••••（敏感值）"
  else
    match value with
    | .inherited => none
    | .value (.string text) => some text
    | .value v => some (String.ofList (stringify v))

def changeAt (secret : Bool) (a b : Found) (path : List String) : ResourceChange where
  path := ".".intercalate path
  operation := if a.isMissing then .add else if b.isMissing then .remove else .change
  before := format (sensitive secret a b path) a
  after := format (sensitive secret a b path) b

def descends (a b : Found) : Bool :=
  (a.isObject || a.isMissing) && (b.isObject || b.isMissing) && (a.isObject || b.isObject)

/-- `new Set([...Object.keys(a ?? {}), ...Object.keys(b ?? {})])` -/
def unionKeys (a b : Found) : List String := (ownKeys a ++ ownKeys b).eraseDups

/-- `walk(a, b, path)`: the paths and changes it lists, as deep as `fuel` allows. -/
def walk (locale : Update.Locale) (secret : Bool) :
    Nat → Found → Found → List String → List (List String × ResourceChange)
  | 0, _, _, _ => []
  | fuel + 1, a, b, path =>
      if resourceFingerprint locale a = resourceFingerprint locale b then []
      else if descends a b then
        (unionKeys a b).flatMap fun key =>
          walk locale secret fuel (member a key) (member b key) (path ++ [key])
      else [(path, changeAt secret a b path)]

def isSecret (manifest : Found) : Bool :=
  match member manifest "kind" with
  | .value (.string kind) => kind == "Secret"
  | _ => false

/-- The changes with their paths; no manifest is deeper than the fuel. -/
def listed (locale : Update.Locale) (before after : Found) : List (List String × ResourceChange) :=
  walk locale (isSecret after || isSecret before) (before.depth + after.depth + 1) before after []

def resourceChanges (locale : Update.Locale) (before after : Found) : List ResourceChange :=
  (listed locale before after).map Prod.snd

variable {locale : Update.Locale} {secret : Bool} {a b : Found} {key : String} {path : List String}

theorem mem_unionKeys : key ∈ unionKeys a b ↔ key ∈ ownKeys a ∨ key ∈ ownKeys b := by
  rw [unionKeys, List.mem_eraseDups, List.mem_append]

theorem isMissing_iff : a.isMissing = true ↔ a = missing := by
  cases a with
  | inherited => simp [isMissing, missing]
  | value v => cases v <;> simp [isMissing, missing]

theorem descends_iff : descends a b = true ↔
    (a.isObject = true ∨ a = missing) ∧ (b.isObject = true ∨ b = missing) ∧
      (a.isObject = true ∨ b.isObject = true) := by
  simp only [descends, Bool.and_eq_true, Bool.or_eq_true, isMissing_iff, and_assoc]

theorem depth_lt (h : descends a b = true) (hkey : key ∈ unionKeys a b) :
    (member a key).depth + (member b key).depth < a.depth + b.depth := by
  obtain ⟨ha, hb, -⟩ := descends_iff.mp h
  have hleft := depth_member ha key
  have hright := depth_member hb key
  obtain hkey | hkey := mem_unionKeys.mp hkey
  · have hlt := hleft.2 hkey
    omega
  · have hlt := hright.2 hkey
    omega

theorem walk_of_descends {fuel : Nat} (ha : a.IsValid) (hb : b.IsValid)
    (hdescends : descends a b = true) : walk locale secret (fuel + 1) a b path =
      (unionKeys a b).flatMap fun key =>
        walk locale secret fuel (member a key) (member b key) (path ++ [key]) := by
  rw [walk]
  split
  · rename_i hequal
    symm
    rw [List.flatMap_eq_nil_iff]
    intro key _
    cases fuel with
    | zero => rfl
    | succ fuel => rw [walk, if_pos (resourceFingerprint_member ha hb hequal key)]
  · rfl

theorem walk_of_not_descends {fuel : Nat} (hdescends : descends a b = false) :
    walk locale secret (fuel + 1) a b path =
      if resourceFingerprint locale a = resourceFingerprint locale b then []
      else [(path, changeAt secret a b path)] := by
  rw [walk, hdescends]
  rfl

/-! ## Differences -/

/-- The path goes through keys and indices that one of the manifests has itself. -/
def OwnPath : Found → Found → List String → Prop
  | _, _, [] => True
  | a, b, key :: path =>
      (key ∈ ownKeys a ∨ key ∈ ownKeys b) ∧ OwnPath (member a key) (member b key) path

def Differs (locale : Update.Locale) (a b : Found) (path : List String) : Prop :=
  OwnPath a b path ∧ resourceFingerprint locale (getManifestValue a path) ≠
    resourceFingerprint locale (getManifestValue b path)

def Found.isLeaf (x : Found) : Bool := !x.isObject && !x.isMissing

def LeafDiffers (locale : Update.Locale) (a b : Found) (path : List String) : Prop :=
  Differs locale a b path ∧
    ((getManifestValue a path).isLeaf = true ∨ (getManifestValue b path).isLeaf = true)

theorem isLeaf_eq_false_iff : a.isLeaf = false ↔ a.isObject = true ∨ a = missing := by
  rw [isLeaf, ← isMissing_iff]
  cases a.isObject with
  | true => simp
  | false => cases a.isMissing <;> simp

theorem not_isLeaf_of_descends (h : descends a b = true) : a.isLeaf = false ∧ b.isLeaf = false := by
  obtain ⟨ha, hb, -⟩ := descends_iff.mp h
  exact ⟨isLeaf_eq_false_iff.mpr ha, isLeaf_eq_false_iff.mpr hb⟩

theorem isLeaf_of_not_descends
    (hdiffer : resourceFingerprint locale a ≠ resourceFingerprint locale b)
    (h : descends a b = false) : a.isLeaf = true ∨ b.isLeaf = true := by
  by_contra hleaf
  rw [not_or, Bool.not_eq_true, Bool.not_eq_true, isLeaf_eq_false_iff, isLeaf_eq_false_iff] at hleaf
  rw [← Bool.not_eq_true, descends_iff] at h
  have hneither : ¬(a.isObject = true ∨ b.isObject = true) := fun hobject =>
    h ⟨hleaf.1, hleaf.2, hobject⟩
  rw [not_or] at hneither
  obtain hobject | rfl := hleaf.1
  · exact hneither.1 hobject
  · obtain hobject | rfl := hleaf.2
    · exact hneither.2 hobject
    · exact hdiffer rfl

theorem Differs.fingerprint (ha : a.IsValid) (hb : b.IsValid) (h : Differs locale a b path) :
    resourceFingerprint locale a ≠ resourceFingerprint locale b := fun hequal =>
  h.2 (resourceFingerprint_getManifestValue ha hb hequal path)

theorem leafDiffers_of_mem_walk {fuel : Nat} {entry : List String × ResourceChange}
    (ha : a.IsValid) (hb : b.IsValid) (h : entry ∈ walk locale secret fuel a b path) :
    ∃ rest, entry.1 = path ++ rest ∧ LeafDiffers locale a b rest := by
  induction fuel generalizing a b path with
  | zero => exact absurd h List.not_mem_nil
  | succ fuel ih =>
      cases hdescends : descends a b with
      | true =>
          rw [walk_of_descends ha hb hdescends, List.mem_flatMap] at h
          obtain ⟨key, hkey, hentry⟩ := h
          obtain ⟨rest, hpath, hdiffers, hleaf⟩ := ih (ha.member key) (hb.member key) hentry
          refine ⟨key :: rest, ?_, ⟨⟨mem_unionKeys.mp hkey, hdiffers.1⟩, hdiffers.2⟩, hleaf⟩
          rw [hpath, List.append_assoc]
          rfl
      | false =>
          rw [walk_of_not_descends hdescends] at h
          split at h
          · exact absurd h List.not_mem_nil
          · rename_i hdiffer
            rw [List.mem_singleton] at h
            refine ⟨[], ?_, ⟨trivial, hdiffer⟩, isLeaf_of_not_descends hdiffer hdescends⟩
            rw [h, List.append_nil]

theorem exists_mem_walk {fuel : Nat} {rest : List String} (ha : a.IsValid) (hb : b.IsValid)
    (hfuel : a.depth + b.depth < fuel) (h : LeafDiffers locale a b rest) :
    ∃ entry ∈ walk locale secret fuel a b path, ∃ front, entry.1 = path ++ front ∧
      front <+: rest := by
  induction fuel generalizing a b path rest with
  | zero => omega
  | succ fuel ih =>
      have hdiffer := Differs.fingerprint ha hb h.1
      cases hdescends : descends a b with
      | false =>
          rw [walk_of_not_descends hdescends, if_neg hdiffer]
          refine ⟨_, List.mem_singleton_self _, [], ?_, List.nil_prefix⟩
          rw [List.append_nil]
      | true =>
          have hleaf := not_isLeaf_of_descends hdescends
          cases rest with
          | nil =>
              obtain hleft | hright := h.2
              · rw [show getManifestValue a [] = a from rfl, hleaf.1] at hleft
                cases hleft
              · rw [show getManifestValue b [] = b from rfl, hleaf.2] at hright
                cases hright
          | cons key rest =>
              have hkey : key ∈ unionKeys a b := mem_unionKeys.mpr h.1.1.1
              have hlt := depth_lt hdescends hkey
              have hinner : LeafDiffers locale (member a key) (member b key) rest :=
                ⟨⟨h.1.1.2, h.1.2⟩, h.2⟩
              obtain ⟨entry, hentry, front, hpath, hfront⟩ :
                  ∃ entry ∈ walk locale secret fuel (member a key) (member b key) (path ++ [key]),
                    ∃ front, entry.1 = path ++ [key] ++ front ∧ front <+: rest :=
                ih (ha.member key) (hb.member key) (by omega) hinner
              rw [walk_of_descends ha hb hdescends]
              refine ⟨entry, List.mem_flatMap.mpr ⟨key, hkey, hentry⟩, key :: front, ?_, ?_⟩
              · rw [hpath, List.append_assoc]
                rfl
              · exact List.cons_prefix_cons.mpr ⟨rfl, hfront⟩

structure ResourceManifest where
  fields : List (String × Js)
  isJson : (Js.object fields).IsJson
  kind : String
  hasKind : fields.lookup "kind" = some (.string kind)

def ResourceManifest.found (manifest : ResourceManifest) : Found := .value (.object manifest.fields)

/-- The list is empty for equal manifests only, every value that is no object and differs is listed
or in something that is listed, and nothing else differs without anything listed in it or
around it. -/
def Complete (locale : Update.Locale) (before after : Found) : Prop :=
  (resourceChanges locale before after = [] ↔
      resourceFingerprint locale before = resourceFingerprint locale after) ∧
    (∀ path, LeafDiffers locale before after path →
      ∃ entry ∈ listed locale before after, entry.1 <+: path) ∧
    ∀ path, Differs locale before after path →
      ∃ entry ∈ listed locale before after, entry.1 <+: path ∨ path <+: entry.1

/-- Where the manifests differ, they differ in a value that is no object: there, in a part of it, or
in something around it. -/
def ShownByLeaves (locale : Update.Locale) (before after : Found) : Prop :=
  ∀ path, Differs locale before after path →
    ∃ leaf, LeafDiffers locale before after leaf ∧ (leaf <+: path ∨ path <+: leaf)

theorem resourceChanges_eq_nil_iff :
    resourceChanges locale a b = [] ↔ listed locale a b = [] := by
  rw [resourceChanges, List.map_eq_nil_iff]

theorem exists_mem_listed {rest : List String} (ha : a.IsValid) (hb : b.IsValid)
    (h : LeafDiffers locale a b rest) : ∃ entry ∈ listed locale a b, entry.1 <+: rest := by
  obtain ⟨entry, hentry, front, hpath, hfront⟩ :
      ∃ entry ∈ listed locale a b, ∃ front, entry.1 = [] ++ front ∧ front <+: rest :=
    exists_mem_walk ha hb (Nat.lt_succ_self _) h
  refine ⟨entry, hentry, ?_⟩
  rw [hpath]
  exact hfront

theorem leafDiffers_of_mem_listed {entry : List String × ResourceChange} (ha : a.IsValid)
    (hb : b.IsValid) (h : entry ∈ listed locale a b) : LeafDiffers locale a b entry.1 := by
  obtain ⟨rest, hpath, hdiffers⟩ := leafDiffers_of_mem_walk ha hb h
  rw [hpath]
  exact hdiffers

theorem listed_eq_nil (h : resourceFingerprint locale a = resourceFingerprint locale b) :
    listed locale a b = [] := by
  rw [listed, walk, if_pos h]

theorem complete_iff (ha : a.IsValid) (hb : b.IsValid) :
    Complete locale a b ↔ ShownByLeaves locale a b := by
  constructor
  · intro h path hdiffers
    obtain ⟨entry, hentry, hpath⟩ := h.2.2 path hdiffers
    exact ⟨entry.1, leafDiffers_of_mem_listed ha hb hentry, hpath⟩
  · intro h
    refine ⟨⟨?_, ?_⟩, fun path => exists_mem_listed ha hb, ?_⟩
    · intro hempty
      by_contra hdiffer
      obtain ⟨leaf, hleaf, -⟩ := h [] ⟨trivial, hdiffer⟩
      obtain ⟨entry, hentry, -⟩ := exists_mem_listed ha hb hleaf
      rw [resourceChanges_eq_nil_iff] at hempty
      rw [hempty] at hentry
      exact absurd hentry List.not_mem_nil
    · intro hequal
      rw [resourceChanges_eq_nil_iff]
      exact listed_eq_nil hequal
    · intro path hdiffers
      obtain ⟨leaf, hleaf, hnear⟩ := h path hdiffers
      obtain ⟨entry, hentry, hfront⟩ := exists_mem_listed ha hb hleaf
      refine ⟨entry, hentry, ?_⟩
      obtain hnear | hnear := hnear
      · exact .inl (hfront.trans hnear)
      · exact List.prefix_or_prefix_of_prefix hfront hnear

/-! ## Secrets -/

mutual

/-- The values differ at most in what is no object: their objects have the same keys. -/
def sameShape : Js → Js → Bool
  | .object fs, .object gs => sameShapes fs gs
  | .object _, _ => false
  | _, .object _ => false
  | v, w => v.isUndefined == w.isUndefined

def sameShapes : List (String × Js) → List (String × Js) → Bool
  | [], [] => true
  | (key, v) :: fs, (other, w) :: gs => key == other && sameShape v w && sameShapes fs gs
  | _, _ => false

end

def Found.sameShape : Found → Found → Bool
  | .inherited, .inherited => true
  | .value v, .value w => Editor.sameShape v w
  | _, _ => false

def Masked (fs gs : List (String × Js)) : Prop :=
  List.Forall₂ (fun f g => f.1 = g.1 ∧
    if secretBlocks.contains f.1 then sameShape f.2 g.2 = true else f.2 = g.2) fs gs

def SameChanges (locale : Update.Locale) (a b a' b' : Found) : Prop :=
  ∀ key path, secretBlocks.contains key = true → OwnPath a b (key :: path) →
    (resourceFingerprint locale (getManifestValue a (key :: path)) =
        resourceFingerprint locale (getManifestValue b (key :: path)) ↔
      resourceFingerprint locale (getManifestValue a' (key :: path)) =
        resourceFingerprint locale (getManifestValue b' (key :: path)))

def Redacts (locale : Update.Locale) (before after : ResourceManifest) : Prop :=
  ∀ before' after' : ResourceManifest, Masked before.fields before'.fields →
    Masked after.fields after'.fields →
    SameChanges locale before.found after.found before'.found after'.found →
    resourceChanges locale before.found after.found =
      resourceChanges locale before'.found after'.found

section Shape

variable {a' b' : Found}

theorem sameShape_object {fs : List (String × Js)} {w : Js} (h : sameShape (.object fs) w = true) :
    ∃ gs, w = .object gs ∧ sameShapes fs gs = true := by
  cases w with
  | object gs => exact ⟨gs, rfl, by rwa [sameShape] at h⟩
  | _ => exact absurd h (by simp [sameShape])

theorem keys_sameShapes {fs gs : List (String × Js)} (h : sameShapes fs gs = true) :
    fs.map Prod.fst = gs.map Prod.fst := by
  induction fs generalizing gs with
  | nil =>
      cases gs with
      | nil => rfl
      | cons g gs => cases h
  | cons f fs ih =>
      cases gs with
      | nil => cases h
      | cons g gs =>
          obtain ⟨key, v⟩ := f
          obtain ⟨other, w⟩ := g
          simp only [sameShapes, Bool.and_eq_true, beq_iff_eq] at h
          rw [List.map_cons, List.map_cons, ih h.2, h.1.1]

theorem lookup_sameShapes {fs gs : List (String × Js)} (h : sameShapes fs gs = true) (key : String) :
    Option.Rel (fun v w => sameShape v w = true) (fs.lookup key) (gs.lookup key) := by
  induction fs generalizing gs with
  | nil =>
      cases gs with
      | nil => exact .none
      | cons g gs => cases h
  | cons f fs ih =>
      cases gs with
      | nil => cases h
      | cons g gs =>
          obtain ⟨name, v⟩ := f
          obtain ⟨other, w⟩ := g
          simp only [sameShapes, Bool.and_eq_true, beq_iff_eq] at h
          rw [lookup_cons_eq, lookup_cons_eq, ← h.1.1]
          split
          · exact .some h.1.2
          · exact ih h.2

theorem ownOrder_keys {fs gs : List (String × Js)} (h : fs.map Prod.fst = gs.map Prod.fst) :
    (ownOrder fs).map Prod.fst = (ownOrder gs).map Prod.fst := by
  have hbare (fields : List (String × Js)) : (ownOrder fields).map Prod.fst =
      (ownOrder ((fields.map Prod.fst).map fun key => (key, ()))).map Prod.fst := by
    rw [List.map_map]
    have hmap := ownOrder_map (fun _ : Js => ()) fields
    have hfields : fields.map ((fun key => (key, ())) ∘ Prod.fst) =
        fields.map fun field => (field.1, ()) := rfl
    rw [hfields, hmap, List.map_map]
    rfl
  rw [hbare fs, hbare gs, h]

theorem sameShape_inObject (key : String) :
    Found.sameShape (inObject key) (inObject key) = true := by
  unfold inObject
  split
  · rfl
  · split
    · rfl
    · rfl

theorem sameShape_kind (h : a.sameShape a' = true) :
    a.isObject = a'.isObject ∧ a.isMissing = a'.isMissing := by
  cases a with
  | inherited =>
      cases a' with
      | inherited => exact ⟨rfl, rfl⟩
      | value w => cases h
  | value v =>
      cases a' with
      | inherited => cases h
      | value w => cases v <;> cases w <;> first | exact ⟨rfl, rfl⟩ | cases h

theorem sameShape_member (h : a.sameShape a' = true) (hleaf : a.isLeaf = false) (key : String) :
    (member a key).sameShape (member a' key) = true := by
  obtain hobject | rfl := isLeaf_eq_false_iff.mp hleaf
  · cases a with
    | inherited => cases hobject
    | value v =>
        cases v with
        | object fs =>
            cases a' with
            | inherited => cases h
            | value w =>
                obtain ⟨gs, rfl, hfields⟩ := sameShape_object h
                have hlookup := lookup_sameShapes hfields key
                simp only [member]
                cases hf : fs.lookup key with
                | none =>
                    rw [hf] at hlookup
                    cases hg : gs.lookup key with
                    | none => exact sameShape_inObject key
                    | some w =>
                        rw [hg] at hlookup
                        cases hlookup
                | some v =>
                    rw [hf] at hlookup
                    cases hg : gs.lookup key with
                    | none =>
                        rw [hg] at hlookup
                        cases hlookup
                    | some w =>
                        rw [hg] at hlookup
                        cases hlookup with
                        | some hsame => exact hsame
        | _ => cases hobject
  · have hmissing := (sameShape_kind h).2
    rw [isMissing_iff.mp hmissing.symm]
    rfl

theorem sameShape_ownKeys (h : a.sameShape a' = true) (hleaf : a.isLeaf = false) :
    ownKeys a = ownKeys a' := by
  obtain hobject | rfl := isLeaf_eq_false_iff.mp hleaf
  · cases a with
    | inherited => cases hobject
    | value v =>
        cases v with
        | object fs =>
            cases a' with
            | inherited => cases h
            | value w =>
                obtain ⟨gs, rfl, hfields⟩ := sameShape_object h
                exact ownOrder_keys (keys_sameShapes hfields)
        | _ => cases hobject
  · have hmissing := (sameShape_kind h).2
    rw [isMissing_iff.mp hmissing.symm]

theorem walk_sameShape {fuel : Nat} (hblock : path.head?.any secretBlocks.contains = true)
    (ha : a.IsValid) (hb : b.IsValid) (ha' : a'.IsValid) (hb' : b'.IsValid)
    (hleft : a.sameShape a' = true) (hright : b.sameShape b' = true)
    (hchanges : ∀ rest, OwnPath a b rest →
      (resourceFingerprint locale (getManifestValue a rest) =
          resourceFingerprint locale (getManifestValue b rest) ↔
        resourceFingerprint locale (getManifestValue a' rest) =
          resourceFingerprint locale (getManifestValue b' rest))) :
    walk locale true fuel a b path = walk locale true fuel a' b' path := by
  induction fuel generalizing a b a' b' path with
  | zero => rfl
  | succ fuel ih =>
      obtain ⟨hobject, hmissing⟩ := sameShape_kind hleft
      obtain ⟨hobject', hmissing'⟩ := sameShape_kind hright
      have hsame : descends a b = descends a' b' := by
        rw [descends, descends, hobject, hmissing, hobject', hmissing']
      cases hdescends : descends a b with
      | true =>
          obtain ⟨hleaf, hleaf'⟩ := not_isLeaf_of_descends hdescends
          have hkeys : unionKeys a b = unionKeys a' b' := by
            rw [unionKeys, unionKeys, sameShape_ownKeys hleft hleaf, sameShape_ownKeys hright hleaf']
          rw [walk_of_descends ha hb hdescends, walk_of_descends ha' hb' (hsame ▸ hdescends), ← hkeys]
          apply List.flatMap_congr
          intro key hkey
          apply ih
          · cases path with
            | nil => cases hblock
            | cons first path => exact hblock
          · exact ha.member key
          · exact hb.member key
          · exact ha'.member key
          · exact hb'.member key
          · exact sameShape_member hleft hleaf key
          · exact sameShape_member hright hleaf' key
          · intro rest hown
            exact hchanges (key :: rest) ⟨mem_unionKeys.mp hkey, hown⟩
      | false =>
          have hchange : changeAt true a b path = changeAt true a' b' path := by
            have hsensitive (c d : Found) : sensitive true c d path = true := by
              simp only [sensitive, hblock, Bool.and_self, Bool.true_or]
            have hformat (c d : Found) (hkind : c.isMissing = d.isMissing) :
                format true c = format true d := by
              unfold format
              rw [hkind]
              rfl
            rw [changeAt, changeAt, hsensitive, hsensitive, hformat a a' hmissing,
              hformat b b' hmissing', hmissing, hmissing']
          rw [walk_of_not_descends hdescends, walk_of_not_descends (hsame ▸ hdescends), hchange]
          have hroot : resourceFingerprint locale a = resourceFingerprint locale b ↔
              resourceFingerprint locale a' = resourceFingerprint locale b' := hchanges [] trivial
          by_cases hequal : resourceFingerprint locale a = resourceFingerprint locale b
          · rw [if_pos hequal, if_pos (hroot.mp hequal)]
          · rw [if_neg hequal, if_neg fun h => hequal (hroot.mpr h)]

end Shape

/-! ## Manifests of secrets -/

section Secrets

variable {fs gs : List (String × Js)}

theorem sameShape_lookup (h : Masked fs gs) (key : String) :
    if secretBlocks.contains key then
      (member (.value (.object fs)) key).sameShape (member (.value (.object gs)) key) = true
    else member (.value (.object fs)) key = member (.value (.object gs)) key := by
  have hlookup : Option.Rel (fun v w => if secretBlocks.contains key then sameShape v w = true
      else v = w) (fs.lookup key) (gs.lookup key) := by
    induction h with
    | nil => exact .none
    | @cons f g fs gs hfirst _ ih =>
        rw [lookup_cons_eq, lookup_cons_eq, ← hfirst.1]
        by_cases hname : key = f.1
        · rw [if_pos hname, if_pos hname, hname]
          exact .some hfirst.2
        · rw [if_neg hname, if_neg hname]
          exact ih
  simp only [member]
  cases hf : fs.lookup key with
  | none =>
      rw [hf] at hlookup
      cases hg : gs.lookup key with
      | none =>
          split
          · exact sameShape_inObject key
          · rfl
      | some w =>
          rw [hg] at hlookup
          cases hlookup
  | some v =>
      rw [hf] at hlookup
      cases hg : gs.lookup key with
      | none =>
          rw [hg] at hlookup
          cases hlookup
      | some w =>
          rw [hg] at hlookup
          cases hlookup with
          | some hsame =>
              split at hsame
              · rename_i hblock
                rw [if_pos hblock]
                exact hsame
              · rename_i hplain
                rw [if_neg hplain, hsame]

theorem keys_masked (h : Masked fs gs) : fs.map Prod.fst = gs.map Prod.fst := by
  induction h with
  | nil => rfl
  | cons hfirst _ ih => rw [List.map_cons, List.map_cons, hfirst.1, ih]

mutual

theorem objectDepth_sameShape : ∀ {v w : Js}, sameShape v w = true → objectDepth v = objectDepth w
  | .object fs, .object gs, h => by
      rw [sameShape] at h
      rw [objectDepth, objectDepth, fieldsDepth_sameShapes h]
  | .object _, .undefined, h => absurd h (by simp [sameShape])
  | .object _, .null, h => absurd h (by simp [sameShape])
  | .object _, .nonFinite, h => absurd h (by simp [sameShape])
  | .object _, .bool _, h => absurd h (by simp [sameShape])
  | .object _, .number _, h => absurd h (by simp [sameShape])
  | .object _, .string _, h => absurd h (by simp [sameShape])
  | .object _, .array _, h => absurd h (by simp [sameShape])
  | .undefined, w, h => by cases w <;> first | rfl | cases h
  | .null, w, h => by cases w <;> first | rfl | cases h
  | .nonFinite, w, h => by cases w <;> first | rfl | cases h
  | .bool _, w, h => by cases w <;> first | rfl | cases h
  | .number _, w, h => by cases w <;> first | rfl | cases h
  | .string _, w, h => by cases w <;> first | rfl | cases h
  | .array _, w, h => by cases w <;> first | rfl | cases h

theorem fieldsDepth_sameShapes : ∀ {fs gs : List (String × Js)}, sameShapes fs gs = true →
    fieldsDepth fs = fieldsDepth gs
  | [], [], _ => rfl
  | [], _ :: _, h => by cases h
  | _ :: _, [], h => by cases h
  | (_, _) :: _, (_, _) :: _, h => by
      simp only [sameShapes, Bool.and_eq_true] at h
      rw [fieldsDepth, fieldsDepth, objectDepth_sameShape h.1.2, fieldsDepth_sameShapes h.2]

end

theorem fieldsDepth_masked (h : Masked fs gs) : fieldsDepth fs = fieldsDepth gs := by
  induction h with
  | nil => rfl
  | @cons f g fs gs hfirst _ ih =>
      have hvalue : objectDepth f.2 = objectDepth g.2 := by
        have hsame := hfirst.2
        split at hsame
        · exact objectDepth_sameShape hsame
        · rw [hsame]
      show max (objectDepth f.2) (fieldsDepth fs) = max (objectDepth g.2) (fieldsDepth gs)
      rw [hvalue, ih]

theorem isSecret_found (manifest : ResourceManifest) :
    isSecret manifest.found = (manifest.kind == "Secret") := by
  rw [isSecret, ResourceManifest.found, member_object manifest.hasKind]

theorem isValid_found (manifest : ResourceManifest) : manifest.found.IsValid := .inl manifest.isJson

theorem kind_masked {manifest other : ResourceManifest} (h : Masked manifest.fields other.fields) :
    isSecret manifest.found = isSecret other.found := by
  have hmember : member manifest.found "kind" = member other.found "kind" :=
    sameShape_lookup h "kind"
  rw [isSecret, isSecret, hmember]

theorem descends_found (manifest other : ResourceManifest) :
    descends manifest.found other.found = true := rfl

theorem redacts {before after : ResourceManifest}
    (hsecret : before.kind = "Secret" ∨ after.kind = "Secret") : Redacts locale before after := by
  intro before' after' hbefore hafter hchanges
  have hflag : (isSecret after.found || isSecret before.found) = true := by
    rw [isSecret_found, isSecret_found, Bool.or_eq_true, beq_iff_eq, beq_iff_eq]
    exact hsecret.symm
  have hflag' : (isSecret after'.found || isSecret before'.found) = true := by
    rw [← kind_masked hbefore, ← kind_masked hafter]
    exact hflag
  have hdepth : before'.found.depth + after'.found.depth = before.found.depth + after.found.depth := by
    show 1 + fieldsDepth before'.fields + (1 + fieldsDepth after'.fields) = _
    rw [← fieldsDepth_masked hbefore, ← fieldsDepth_masked hafter]
    rfl
  have hkeys : unionKeys before'.found after'.found = unionKeys before.found after.found := by
    show ((ownOrder before'.fields).map Prod.fst ++ (ownOrder after'.fields).map Prod.fst).eraseDups = _
    rw [← ownOrder_keys (keys_masked hbefore), ← ownOrder_keys (keys_masked hafter)]
    rfl
  rw [resourceChanges, resourceChanges, listed, listed, hflag, hflag', hdepth,
    walk_of_descends (isValid_found before) (isValid_found after) (descends_found before after),
    walk_of_descends (isValid_found before') (isValid_found after') (descends_found before' after'),
    hkeys]
  congr 1
  apply List.flatMap_congr
  intro key hkey
  have hleft := sameShape_lookup hbefore key
  have hright := sameShape_lookup hafter key
  by_cases hblock : secretBlocks.contains key = true
  · rw [if_pos hblock] at hleft hright
    apply walk_sameShape
    · exact hblock
    · exact (isValid_found before).member key
    · exact (isValid_found after).member key
    · exact (isValid_found before').member key
    · exact (isValid_found after').member key
    · exact hleft
    · exact hright
    · intro rest hown
      exact hchanges key rest hblock ⟨mem_unionKeys.mp hkey, hown⟩
  · rw [if_neg hblock] at hleft hright
    show walk locale true _ (member before.found key) (member after.found key) _ =
      walk locale true _ (member before'.found key) (member after'.found key) _
    rw [ResourceManifest.found, ResourceManifest.found, ResourceManifest.found,
      ResourceManifest.found, hleft, hright]

end Secrets

/-- The list of changes leaves nothing out if and only if the manifests differ nowhere in objects
alone; of a secret it never shows the contents. -/
theorem resourceChanges_complete_iff (locale : Update.Locale) (before after : ResourceManifest) :
    (Complete locale before.found after.found ↔
        ShownByLeaves locale before.found after.found) ∧
      (before.kind = "Secret" ∨ after.kind = "Secret" → Redacts locale before after) :=
  ⟨complete_iff (isValid_found before) (isValid_found after), redacts⟩

def bareFields (kind : String) : List (String × Js) :=
  [("apiVersion", .string "v1"), ("kind", .string kind), ("metadata", .object [])]

theorem isJson_bareFields (kind : String) : ∀ field ∈ bareFields kind, field.2.IsJson := by
  have hempty : (Js.object []).IsJson := .object List.nodup_nil (by simp)
  simp [bareFields, Js.IsJson.string, hempty]

def bareManifest (kind : String) : ResourceManifest where
  fields := bareFields kind
  isJson := .object (by simp [bareFields]) (isJson_bareFields kind)
  kind := kind
  hasKind := rfl

def blankManifest (kind : String) : ResourceManifest where
  fields := bareFields kind ++ [("spec", .object [])]
  isJson := .object (by simp [bareFields]) (by
    intro field hfield
    obtain hfield | hfield := List.mem_append.mp hfield
    · exact isJson_bareFields kind field hfield
    · rw [List.mem_singleton.mp hfield]
      exact .object List.nodup_nil (by simp))
  kind := kind
  hasKind := rfl

theorem bareManifests_complete :
    Complete (Update.foldLocale id) (bareManifest "Secret").found (bareManifest "Pod").found ∧
      Redacts (Update.foldLocale id) (bareManifest "Secret") (bareManifest "Pod") := by
  have hchanges :=
    resourceChanges_complete_iff (Update.foldLocale id) (bareManifest "Secret") (bareManifest "Pod")
  refine ⟨hchanges.1.mpr ?_, hchanges.2 (.inl rfl)⟩
  have hown {kind key : String} (h : key ∈ ownKeys (bareManifest kind).found) :
      key = "apiVersion" ∨ key = "kind" ∨ key = "metadata" := by
    simpa [bareManifest, bareFields] using mem_ownKeys_object.mp h
  have hkind : LeafDiffers (Update.foldLocale id) (bareManifest "Secret").found
      (bareManifest "Pod").found ["kind"] := by
    refine ⟨⟨⟨.inl ?_, trivial⟩, ?_⟩, .inl rfl⟩
    · exact mem_ownKeys_object.mpr (by simp [bareManifest, bareFields])
    · decide +kernel
  intro path hdiffers
  refine ⟨["kind"], hkind, ?_⟩
  cases path with
  | nil => exact .inr List.nil_prefix
  | cons key path =>
      have hkey : key = "apiVersion" ∨ key = "kind" ∨ key = "metadata" := by
        obtain hkey | hkey := hdiffers.1.1
        · exact hown hkey
        · exact hown hkey
      obtain rfl | rfl | rfl := hkey
      · exact absurd rfl hdiffers.2
      · exact .inl (List.cons_prefix_cons.mpr ⟨rfl, List.nil_prefix⟩)
      · exact absurd rfl hdiffers.2

theorem empty_block_unlisted :
    resourceChanges (Update.foldLocale id) (bareManifest "Pod").found (blankManifest "Pod").found =
        [] ∧
      resourceFingerprint (Update.foldLocale id) (bareManifest "Pod").found ≠
        resourceFingerprint (Update.foldLocale id) (blankManifest "Pod").found := by
  decide +kernel

end KubeNova.Editor
