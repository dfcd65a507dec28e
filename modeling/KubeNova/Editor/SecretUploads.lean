import KubeNova.Editor.SecretFiles
import Mathlib.Data.List.Induction

/-!
# What an upload does to a Secret

Files are refused or written in their order, so what is under a key depends on the files before.
-/

namespace KubeNova.Editor

open KubeNova.Foundation KubeNova.Foundation.Json
open Found

variable {key other part text : String} {bytes : List UInt8}

theorem chunks_eq (size : Nat) (bytes : List UInt8) (n : Nat) :
    (List.range n).flatMap (fun i => (bytes.drop (size * i)).take size) = bytes.take (size * n) := by
  induction n with
  | zero => rw [Nat.mul_zero, List.take_zero, List.range_zero, List.flatMap_nil]
  | succ n ih =>
      rw [List.range_succ, List.flatMap_append, ih, List.flatMap_singleton, Nat.mul_succ,
        List.take_add]

theorem binaryText_eq (bytes : List UInt8) : binaryText bytes = bytes := by
  rw [binaryText, chunks_eq, List.take_of_length_le]
  omega

theorem atob_encodeSecretBytes (bytes : List UInt8) :
    Base64.atob (encodeSecretBytes bytes).toList = some bytes := by
  rw [encodeSecretBytes, String.toList_ofList, binaryText_eq, Base64.atob_btoa]

/-! ## Manifests of Secrets -/

def secretParts : List String := ["data", "stringData"]

/-- The manifest of a Secret: `data` and `stringData` are no arrays. -/
structure SecretManifest where
  fields : List (String × Js)
  maps : ∀ part ∈ secretParts, ∀ elements, fields.lookup part ≠ some (.array elements)

theorem member_part {fields : List (String × Js)} (hpart : part ∈ secretParts) :
    member (.value (.object fields)) part = .value ((fields.lookup part).getD .undefined) := by
  have hnone : inObject part = missing := by
    rcases List.mem_pair.mp hpart with rfl | rfl <;> rfl
  cases hlookup : fields.lookup part with
  | none =>
      rw [member, hlookup]
      exact hnone
  | some v => exact member_object hlookup

theorem recordOf_eq {fields entries : List (String × Js)} (hpart : part ∈ secretParts)
    (h : fields.lookup part = some (.object entries)) : recordOf (.object fields) part = entries := by
  rw [recordOf, member_part hpart, h]
  rfl

namespace SecretManifest

variable (value : SecretManifest)

def toJs : Js := .object value.fields

/-- What `data` or `stringData` has under the key. -/
def entry (part key : String) : Option Js := (recordOf value.toJs part).lookup key

def HasMap (part : String) : Prop := ∃ entries, value.fields.lookup part = some (.object entries)

def Has (key : String) : Prop :=
  ∃ part ∈ secretParts, ∃ v, value.entry part key = some v ∧ v.isUndefined = false

def Lacks (key : String) : Prop :=
  ∃ part ∈ secretParts, value.HasMap part ∧ value.entry part key = none

def writtenFields (part key : String) (next : Option Js) : List (String × Js) :=
  setField value.fields part (.object (writeField (recordOf value.toJs part) key next))

theorem lookup_writtenFields_self {next : Option Js} :
    (value.writtenFields part key next).lookup part =
      some (.object (writeField (recordOf value.toJs part) key next)) := lookup_setField_self

theorem lookup_writtenFields_of_ne {next : Option Js} (hne : other ≠ part) :
    (value.writtenFields part key next).lookup other = value.fields.lookup other :=
  lookup_setField_of_ne hne

def write (part key : String) (next : Option Js) : SecretManifest where
  fields := value.writtenFields part key next
  maps := by
    intro other hother elements
    by_cases hpart : other = part
    · rw [hpart, lookup_writtenFields_self]
      intro h
      cases h
    · rw [lookup_writtenFields_of_ne value hpart]
      exact value.maps other hother elements

theorem fields_write (part key : String) (next : Option Js) :
    (value.write part key next).fields = value.writtenFields part key next := rfl

def store (key : String) (bytes : List UInt8) : SecretManifest :=
  (value.write "data" key (some (.string (encodeSecretBytes bytes)))).write "stringData" key none

variable {value}

theorem entry_write_self {next : Option Js} (hpart : part ∈ secretParts) (key other : String) :
    (value.write part key next).entry part other =
      (writeField (recordOf value.toJs part) key next).lookup other := by
  rw [entry, toJs, fields_write, recordOf_eq hpart (lookup_writtenFields_self value)]

theorem entry_write_of_ne {next : Option Js} {part' : String} (hpart : part' ∈ secretParts)
    (hne : part' ≠ part) : (value.write part key next).entry part' other = value.entry part' other := by
  rw [entry, entry, recordOf, recordOf, toJs, toJs, member_part hpart, member_part hpart,
    fields_write, lookup_writtenFields_of_ne value hne]

theorem entry_store_data : (value.store key bytes).entry "data" key =
    some (.string (encodeSecretBytes bytes)) := by
  rw [store, entry_write_of_ne (by decide) (by decide), entry_write_self (by decide)]
  exact lookup_setField_self

theorem entry_store_stringData : (value.store key bytes).entry "stringData" key = none := by
  rw [store, entry_write_self (by decide)]
  exact lookup_removeField_self

theorem entry_store_of_ne (hpart : part ∈ secretParts) (hne : other ≠ key) :
    (value.store key bytes).entry part other = value.entry part other := by
  rcases List.mem_pair.mp hpart with rfl | rfl
  · rw [store, entry_write_of_ne (by decide) (by decide), entry_write_self (by decide),
      lookup_writeField_of_ne hne]
    rfl
  · rw [store, entry_write_self (by decide), lookup_writeField_of_ne hne]
    exact entry_write_of_ne (by decide) (by decide)

theorem hasMap_write_self {next : Option Js} : (value.write part key next).HasMap part :=
  ⟨_, lookup_writtenFields_self value⟩

theorem hasMap_store (hpart : part ∈ secretParts) : (value.store key bytes).HasMap part := by
  rcases List.mem_pair.mp hpart with rfl | rfl
  · obtain ⟨entries, hentries⟩ : (value.write "data" key
        (some (.string (encodeSecretBytes bytes)))).HasMap "data" := hasMap_write_self
    refine ⟨entries, ?_⟩
    rw [← hentries]
    exact lookup_writtenFields_of_ne _ (by decide)
  · exact hasMap_write_self

theorem writeValue_eq {next : Found} (hpart : part ∈ secretParts) (hkey : key ∉ unsafeKeys) :
    writeValue value.toJs [part, key] next = .ok (value.write part key next.json?).toJs := by
  have hsafe : [part, key].any unsafeKeys.contains = false := by
    have hkey' : unsafeKeys.contains key = false := by
      simpa using hkey
    have hpart' : unsafeKeys.contains part = false := by
      rcases List.mem_pair.mp hpart with rfl | rfl <;> decide
    simp only [List.any_cons, List.any_nil, hkey', hpart', Bool.or_self]
  have hchild : assign (childOrObject value.toJs part) key next.json? =
      .ok (.object (writeField (recordOf value.toJs part) key next.json?)) := by
    rw [childOrObject, recordOf, toJs, member_part hpart]
    have hmaps := value.maps part hpart
    cases hlookup : value.fields.lookup part with
    | none => cases next.json? <;> rfl
    | some v =>
        rw [hlookup] at hmaps
        cases v with
        | array elements => exact absurd rfl (hmaps elements)
        | _ => cases next.json? <;> rfl
  have hupdate : update next.json? value.toJs [part, key] =
      .ok (value.write part key next.json?).toJs := by
    rw [update, update, hchild]
    · rfl
    · intro h
      cases h
  rw [writeValue, setManifestValue, if_neg (by simp), hsafe, hupdate]
  rfl

theorem lookup_part (hpart : part ∈ secretParts) (hproto : key ≠ "__proto__") :
    isMissing (getManifestValue (.value value.toJs) [part, key]) = false ↔
      (∃ v, value.entry part key = some v ∧ v.isUndefined = false) ∨
        key ∈ objectMembers ∧ value.HasMap part ∧ value.entry part key = none := by
  have hvalue : getManifestValue (.value value.toJs) [part, key] =
      member (.value ((value.fields.lookup part).getD .undefined)) key := by
    show member (member (.value value.toJs) part) key = _
    rw [toJs, member_part hpart]
  have hmaps := value.maps part hpart
  rw [hvalue, entry, recordOf, toJs, member_part hpart, HasMap]
  cases hlookup : value.fields.lookup part with
  | none => simp [member, missing, isMissing]
  | some v =>
      rw [hlookup] at hmaps
      cases v with
      | array elements => exact absurd rfl (hmaps elements)
      | object entries =>
          cases hentry : entries.lookup key with
          | some v =>
              rw [Option.getD_some, member_object hentry]
              cases v <;> simp [isMissing, Js.isUndefined, hentry]
          | none =>
              have hinherited : isMissing (member (.value (.object entries)) key) = false ↔
                  key ∈ objectMembers := by
                simp only [member, hentry]
                rw [inObject, if_neg hproto]
                by_cases hmember : key ∈ objectMembers
                · rw [if_pos (by simpa using hmember)]
                  exact iff_of_true rfl hmember
                · rw [if_neg (by simpa using hmember)]
                  exact iff_of_false (by decide) hmember
              rw [Option.getD_some, hinherited]
              simp [hentry]
      | _ => simp [member, missing, isMissing]

theorem keyExists_iff (hproto : key ≠ "__proto__") :
    keyExists value.toJs key = true ↔ value.Has key ∨ key ∈ objectMembers ∧ value.Lacks key := by
  have hdata := @lookup_part _ "data" value (by decide) hproto
  have hplain := @lookup_part _ "stringData" value (by decide) hproto
  rw [keyExists, Bool.or_eq_true, Bool.not_eq_true', Bool.not_eq_true', hdata, hplain, Has, Lacks]
  simp only [secretParts, List.mem_cons, List.not_mem_nil, or_false, exists_eq_or_imp,
    exists_eq_left]
  constructor
  · rintro ((h | ⟨h, h'⟩) | (h | ⟨h, h'⟩))
    · exact .inl (.inl h)
    · exact .inr ⟨h, .inl h'⟩
    · exact .inl (.inr h)
    · exact .inr ⟨h, .inr h'⟩
  · rintro ((h | h) | ⟨h, h' | h'⟩)
    · exact .inl (.inl h)
    · exact .inr (.inl h)
    · exact .inl (.inr ⟨h, h'⟩)
    · exact .inr (.inr ⟨h, h'⟩)

end SecretManifest

/-! ## The files written so far -/

section Files

variable (decisions : String → Option FileDecision) (value : SecretManifest)

def keysOf (files : List SecretFile) : List String :=
  (files.filter fun file => !isSkipped decisions file).map (fileKey decisions)

def storeFile (value : SecretManifest) (file : SecretFile) : SecretManifest :=
  if isSkipped decisions file then value else value.store (fileKey decisions file) file.bytes

def uploaded (files : List SecretFile) : SecretManifest := files.foldl (storeFile decisions) value

def Taken (before : List SecretFile) (key : String) : Prop :=
  value.Has key ∨ key ∈ keysOf decisions before

def Refused (before : List SecretFile) (file : SecretFile) : Prop :=
  file.bytes.length > 1024 * 1024 ∨
    isSkipped decisions file = false ∧
      (isFileKey (fileKey decisions file) = false ∨
        isOverwrite decisions file = false ∧ Taken decisions value before (fileKey decisions file))

/-- The file could be written, but its key is the name of something every object has. -/
def Misread (before : List SecretFile) (file : SecretFile) : Prop :=
  ¬Refused decisions value before file ∧ isSkipped decisions file = false ∧
    isOverwrite decisions file = false ∧ fileKey decisions file ∈ objectMembers ∧
    ∃ part ∈ secretParts, (value.HasMap part ∨ keysOf decisions before ≠ []) ∧
      value.entry part (fileKey decisions file) = none

def Clobbers (before : List SecretFile) (file : SecretFile) : Prop :=
  isSkipped decisions file = false ∧ isOverwrite decisions file = true ∧
    fileKey decisions file ∈ keysOf decisions before

variable {decisions value} {files before after : List SecretFile} {file : SecretFile}

theorem keysOf_append (before after : List SecretFile) :
    keysOf decisions (before ++ after) = keysOf decisions before ++ keysOf decisions after := by
  rw [keysOf, List.filter_append, List.map_append]
  rfl

theorem keysOf_singleton : keysOf decisions [file] =
    if isSkipped decisions file then [] else [fileKey decisions file] := by
  rw [keysOf, List.filter_singleton]
  cases isSkipped decisions file <;> rfl

theorem uploaded_concat (files : List SecretFile) (file : SecretFile) :
    uploaded decisions value (files ++ [file]) =
      storeFile decisions (uploaded decisions value files) file := by
  rw [uploaded, List.foldl_append]
  rfl

theorem mem_keysOf : key ∈ keysOf decisions files ↔
    ∃ file ∈ files, isSkipped decisions file = false ∧ fileKey decisions file = key := by
  simp [keysOf, and_assoc]

theorem entry_uploaded_of_not_mem (hpart : part ∈ secretParts) (hkey : key ∉ keysOf decisions files) :
    (uploaded decisions value files).entry part key = value.entry part key := by
  induction files using List.reverseRecOn with
  | nil => rfl
  | append_singleton files file ih =>
      rw [keysOf_append, List.mem_append, not_or, keysOf_singleton] at hkey
      rw [uploaded_concat, storeFile, ← ih hkey.1]
      split
      · rfl
      · rename_i hskipped
        rw [if_neg hskipped, List.mem_singleton] at hkey
        exact SecretManifest.entry_store_of_ne hpart hkey.2

theorem entry_uploaded_of_mem (hkey : key ∈ keysOf decisions files) :
    ∃ file ∈ files, isSkipped decisions file = false ∧ fileKey decisions file = key ∧
      (uploaded decisions value files).entry "data" key =
        some (.string (encodeSecretBytes file.bytes)) ∧
      (uploaded decisions value files).entry "stringData" key = none := by
  induction files using List.reverseRecOn with
  | nil => cases hkey
  | append_singleton files file ih =>
      rw [uploaded_concat, storeFile]
      by_cases hlast : isSkipped decisions file = false ∧ fileKey decisions file = key
      · obtain ⟨hskipped, rfl⟩ := hlast
        rw [hskipped]
        exact ⟨file, List.mem_append_right _ List.mem_cons_self, hskipped, rfl,
          SecretManifest.entry_store_data, SecretManifest.entry_store_stringData⟩
      · have hbefore : key ∈ keysOf decisions files := by
          obtain ⟨other, hother, hwritten⟩ := mem_keysOf.mp hkey
          rcases List.mem_append.mp hother with hother | hother
          · exact mem_keysOf.mpr ⟨other, hother, hwritten⟩
          · rw [List.mem_singleton.mp hother] at hwritten
            exact absurd hwritten hlast
        obtain ⟨other, hother, hskipped, hkey', hdata, hplain⟩ := ih hbefore
        refine ⟨other, List.mem_append_left _ hother, hskipped, hkey', ?_⟩
        rw [← hdata, ← hplain]
        cases hfile : isSkipped decisions file with
        | true => exact ⟨rfl, rfl⟩
        | false =>
            have hne : key ≠ fileKey decisions file := fun heq => hlast ⟨hfile, heq.symm⟩
            exact ⟨SecretManifest.entry_store_of_ne (by decide) hne,
              SecretManifest.entry_store_of_ne (by decide) hne⟩

theorem has_uploaded : (uploaded decisions value files).Has key ↔ Taken decisions value files key := by
  by_cases hkey : key ∈ keysOf decisions files
  · obtain ⟨file, -, -, -, hdata, -⟩ := @entry_uploaded_of_mem _ _ value _ hkey
    exact iff_of_true ⟨"data", by decide, _, hdata, rfl⟩ (.inr hkey)
  · have hsame : (uploaded decisions value files).Has key ↔ value.Has key := by
      apply exists_congr
      intro part
      apply and_congr_right
      intro hpart
      rw [entry_uploaded_of_not_mem hpart hkey]
    rw [hsame, Taken, or_iff_left hkey]

theorem hasMap_uploaded (hpart : part ∈ secretParts) :
    (uploaded decisions value files).HasMap part ↔
      value.HasMap part ∨ keysOf decisions files ≠ [] := by
  induction files using List.reverseRecOn with
  | nil => simp [uploaded, keysOf]
  | append_singleton files file ih =>
      rw [uploaded_concat, storeFile, keysOf_append, keysOf_singleton]
      cases isSkipped decisions file with
      | true =>
          rw [if_pos rfl, if_pos rfl, List.append_nil]
          exact ih
      | false =>
          rw [if_neg (by decide), if_neg (by decide)]
          exact iff_of_true (SecretManifest.hasMap_store hpart) (.inr (by simp))

theorem lacks_uploaded (hkey : key ∉ keysOf decisions files) :
    (uploaded decisions value files).Lacks key ↔
      ∃ part ∈ secretParts, (value.HasMap part ∨ keysOf decisions files ≠ []) ∧
        value.entry part key = none := by
  apply exists_congr
  intro part
  apply and_congr_right
  intro hpart
  rw [hasMap_uploaded hpart, entry_uploaded_of_not_mem hpart hkey]

end Files

end KubeNova.Editor
