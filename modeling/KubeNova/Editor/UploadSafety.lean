import KubeNova.Editor.SecretUploads
import KubeNova.Foundation.Results

/-!
# When an upload loses nothing

An upload goes on until a file is refused.  Two files are written under one key where the second
may overwrite, and a file is refused without reason where its key is a name every object inherits.
-/

namespace KubeNova.Editor

open KubeNova.Foundation KubeNova.Foundation.Json
open Found

/-- The bytes of a Secret under a key, where `stringData` comes first. -/
def secretBytes (value : Js) (key : String) : Option (List UInt8) :=
  match (recordOf value "stringData").lookup key with
  | some (.string text) => some (Utf8.encode text.toList)
  | some _ => none
  | none =>
      match (recordOf value "data").lookup key with
      | some (.string text) => Base64.atob text.toList
      | _ => none

def dataSize : Js → Nat
  | .string text => ((Base64.atob text.toList).map List.length).getD 0
  | _ => 0

def stringDataSize : Js → Nat
  | .string text => (Utf8.encode text.toList).length
  | _ => 0

def rawSize (value : Js) : Nat :=
  let plain := recordOf value "stringData"
  let shown := (recordOf value "data").filter fun entry => !(plain.map Prod.fst).contains entry.1
  (shown.map fun entry => dataSize entry.2).sum + (plain.map fun entry => stringDataSize entry.2).sum

/-- `data` or `stringData` has the key. -/
def HasKey (value : Js) (key : String) : Prop :=
  ∃ part ∈ secretParts, ∃ v, (recordOf value part).lookup key = some v ∧ v.isUndefined = false

section Upload

variable (decisions : String → Option FileDecision) (value : SecretManifest)
  (files : List SecretFile)

structure Lossless (result : Js) : Prop where
  kept : ∀ file ∈ files, isSkipped decisions file = false →
    secretBytes result (fileKey decisions file) = some file.bytes
  apart : (keysOf decisions files).Nodup
  others : ∀ key ∉ keysOf decisions files, ∀ part ∈ secretParts,
    (recordOf result part).lookup key = value.entry part key
  overwritten : ∀ file ∈ files, isSkipped decisions file = false →
    value.Has (fileKey decisions file) → isOverwrite decisions file = true
  small : rawSize result ≤ 900 * 1024

/-- Where the upload goes through nothing is lost, and where it stops at a key it says exists, the
Secret it had got to has the key. -/
structure LosesNothing : Prop where
  results : ∀ result, applySecretFiles decisions value.toJs files = .ok result →
    Lossless decisions value files result
  refusals : files.length ≤ 50 → ∀ before file after next key, files = before ++ file :: after →
    before.foldlM (applyFile decisions) value.toJs = .ok next →
    applyFile decisions next file = .error (.keyExists key) → HasKey next key

def Passes : Prop :=
  ∀ before file after, files = before ++ file :: after →
    ¬Refused decisions value before file ∧ ¬Misread decisions value before file

/-- No misread key is come to, and what would go through has no file over another. -/
structure Careful : Prop where
  heard : ∀ before file after, files = before ++ file :: after →
    Passes decisions value before → ¬Misread decisions value before file
  apart : Passes decisions value files →
    validateSecretSize (uploaded decisions value files).toJs = .ok () →
    ∀ before file after, files = before ++ file :: after → ¬Clobbers decisions before file

end Upload

section Size

variable {α : Type} {ε : Type}

theorem foldlM_total {f : Nat → α → Except ε Nat} {size : α → Nat} {l : List α} {total n : Nat}
    (hf : ∀ total n, ∀ a ∈ l, f total a = .ok n → n = total + size a)
    (h : l.foldlM f total = .ok n) : n = total + (l.map size).sum := by
  induction l generalizing total with
  | nil =>
      cases h
      rfl
  | cons a l ih =>
      rw [List.foldlM_cons] at h
      obtain ⟨next, hnext, hrest⟩ := Results.bind_eq_ok.mp h
      have hstep := hf total next a List.mem_cons_self hnext
      have htail := ih (fun total n b hb => hf total n b (List.mem_cons_of_mem _ hb)) hrest
      rw [List.map_cons, List.sum_cons]
      omega

end Size

theorem dataBytes_eq_ok {item : Js} {n : Nat} (h : dataBytes item = .ok n) : n = dataSize item := by
  cases item with
  | string text =>
      rw [dataBytes] at h
      rw [dataSize]
      cases hbytes : Base64.atob text.toList with
      | none =>
          rw [hbytes] at h
          cases h
      | some bytes =>
          rw [hbytes] at h
          cases h
          rfl
  | _ => cases h

theorem stringDataBytes_eq_ok {item : Js} {n : Nat} (h : stringDataBytes item = .ok n) :
    n = stringDataSize item := by
  cases item with
  | string text =>
      cases h
      rfl
  | _ => cases h

theorem sum_filter {α : Type} (p : α → Bool) (size : α → Nat) (l : List α) :
    (l.map fun a => if p a then 0 else size a).sum = ((l.filter fun a => !p a).map size).sum := by
  induction l with
  | nil => rfl
  | cons a l ih =>
      rw [List.map_cons, List.sum_cons, ih, List.filter_cons]
      cases p a with
      | true => simp
      | false => simp

theorem secretRawBytes_eq_ok {value : Js} {n : Nat} (h : secretRawBytes value = .ok n) :
    n = rawSize value := by
  rw [secretRawBytes] at h
  obtain ⟨total, hdata, hplain⟩ := Results.bind_eq_ok.mp h
  have hshown := @foldlM_total _ _ _ (fun entry : String × Js =>
    if ((recordOf value "stringData").map Prod.fst).contains entry.1 then 0 else dataSize entry.2) _ _ _
    (fun total n entry _ hentry => by
      split at hentry
      · rename_i hhidden
        cases hentry
        rw [if_pos hhidden, Nat.add_zero]
      · rename_i hhidden
        obtain ⟨size, hsize, hsum⟩ := Results.bind_eq_ok.mp hentry
        cases hsum
        rw [if_neg hhidden, dataBytes_eq_ok hsize]) hdata
  have htexts := @foldlM_total _ _ _ (fun entry : String × Js => stringDataSize entry.2) _ _ _
    (fun total n entry _ hentry => by
      obtain ⟨size, hsize, hsum⟩ := Results.bind_eq_ok.mp hentry
      cases hsum
      rw [stringDataBytes_eq_ok hsize]) hplain
  rw [htexts, hshown, rawSize, ← sum_filter, Nat.zero_add,
    ((perm_ownOrder (recordOf value "data")).map _).sum_nat,
    ((perm_ownOrder (recordOf value "stringData")).map _).sum_nat]

theorem validateSecretSize_eq_ok {value : Js} (h : validateSecretSize value = .ok ()) :
    rawSize value ≤ 900 * 1024 := by
  rw [validateSecretSize] at h
  obtain ⟨total, htotal, hcheck⟩ := Results.bind_eq_ok.mp h
  rw [← secretRawBytes_eq_ok htotal]
  by_contra hlarge
  rw [if_pos (by omega)] at hcheck
  cases hcheck

section Run

variable {decisions : String → Option FileDecision} {value : SecretManifest}
  {files before after : List SecretFile} {file : SecretFile} {key : String}

theorem hasKey_toJs : HasKey value.toJs key ↔ value.Has key := Iff.rfl

theorem not_unsafe_of_isFileKey (h : isFileKey key = true) : key ∉ unsafeKeys := by
  rw [isFileKey, Bool.and_eq_true, Bool.not_eq_true'] at h
  intro hunsafe
  have hlisted : ["__proto__", "constructor", "prototype"].contains key = true := by
    rcases List.mem_cons.mp hunsafe with rfl | hunsafe
    · decide
    · rcases List.mem_pair.mp hunsafe with rfl | rfl <;> decide
  rw [hlisted] at h
  cases h.2

theorem applyFile_store (hsize : file.bytes.length ≤ 1024 * 1024)
    (hskipped : isSkipped decisions file = false)
    (hkey : isFileKey (fileKey decisions file) = true)
    (hfree : keyExists value.toJs (fileKey decisions file) = true →
      isOverwrite decisions file = true) :
    applyFile decisions value.toJs file = .ok (storeFile decisions value file).toJs := by
  have hsafe := not_unsafe_of_isFileKey hkey
  have hcheck : (keyExists value.toJs (fileKey decisions file) && !isOverwrite decisions file) =
      false := by
    cases hexists : keyExists value.toJs (fileKey decisions file) with
    | false => rfl
    | true => rw [hfree hexists]; rfl
  rw [applyFile, if_neg (by omega), hskipped, if_neg (by decide)]
  simp only [hkey, hcheck]
  rw [if_neg (by decide), if_neg (by decide), SecretManifest.writeValue_eq (by decide) hsafe,
    storeFile, hskipped, if_neg (by decide)]
  exact SecretManifest.writeValue_eq (by decide) hsafe

theorem applyFile_of_refused (h : Refused decisions value before file) :
    ∃ e, applyFile decisions (uploaded decisions value before).toJs file = .error e ∧
      ∀ key, e = .keyExists key → HasKey (uploaded decisions value before).toJs key := by
  by_cases hlarge : file.bytes.length > 1024 * 1024
  · refine ⟨.fileTooLarge, ?_, fun key heq => ?_⟩
    · rw [applyFile, if_pos hlarge]
    · cases heq
  · obtain hsize | ⟨hskipped, hrefused⟩ := h
    · exact absurd hsize hlarge
    · rw [applyFile, if_neg hlarge, hskipped, if_neg (by decide)]
      cases hkey : isFileKey (fileKey decisions file) with
      | false =>
          refine ⟨.invalidKey, ?_, fun key heq => ?_⟩
          · simp only [hkey]
            rfl
          · cases heq
      | true =>
          rw [hkey] at hrefused
          obtain hbad | ⟨hoverwrite, htaken⟩ := hrefused
          · cases hbad
          · have hproto : fileKey decisions file ≠ "__proto__" := by
              intro heq
              exact not_unsafe_of_isFileKey hkey (by rw [heq]; decide)
            have hhas := has_uploaded.mpr htaken
            have hexists := (SecretManifest.keyExists_iff hproto).mpr (.inl hhas)
            refine ⟨.keyExists (fileKey decisions file), ?_, fun key heq => ?_⟩
            · simp only [hkey, hexists, hoverwrite]
              rfl
            · cases heq
              exact hhas

theorem applyFile_of_misread (h : Misread decisions value before file) :
    applyFile decisions (uploaded decisions value before).toJs file =
        .error (.keyExists (fileKey decisions file)) ∧
      ¬HasKey (uploaded decisions value before).toJs (fileKey decisions file) := by
  obtain ⟨hrefused, hskipped, hoverwrite, hmember, hlacks⟩ := h
  rw [Refused, not_or, hskipped, hoverwrite] at hrefused
  obtain ⟨hsize, hrefused⟩ := hrefused
  have hkey : isFileKey (fileKey decisions file) = true := by
    by_contra hbad
    exact hrefused ⟨rfl, .inl (Bool.eq_false_of_not_eq_true hbad)⟩
  have hfree : ¬Taken decisions value before (fileKey decisions file) := fun htaken =>
    hrefused ⟨rfl, .inr ⟨rfl, htaken⟩⟩
  have hproto : fileKey decisions file ≠ "__proto__" := by
    intro heq
    exact not_unsafe_of_isFileKey hkey (by rw [heq]; decide)
  have hnew : fileKey decisions file ∉ keysOf decisions before := fun hmem => hfree (.inr hmem)
  have hexists := (SecretManifest.keyExists_iff hproto).mpr
    (.inr ⟨hmember, (@lacks_uploaded _ _ value _ hnew).mpr hlacks⟩)
  constructor
  · rw [applyFile, if_neg hsize, hskipped, if_neg (by decide)]
    simp only [hkey, hexists, hoverwrite]
    rfl
  · rw [hasKey_toJs, has_uploaded]
    exact hfree

theorem applyFile_of_fine (hrefused : ¬Refused decisions value before file)
    (hmisread : ¬Misread decisions value before file) :
    applyFile decisions (uploaded decisions value before).toJs file =
      .ok (uploaded decisions value (before ++ [file])).toJs := by
  have hall := hrefused
  rw [Refused, not_or] at hrefused
  obtain ⟨hsize, hrefused⟩ := hrefused
  rw [uploaded_concat]
  cases hskipped : isSkipped decisions file with
  | true =>
      rw [applyFile, if_neg hsize, hskipped, if_pos rfl, storeFile, hskipped, if_pos rfl]
  | false =>
      have hkey : isFileKey (fileKey decisions file) = true := by
        by_contra hbad
        exact hrefused ⟨hskipped, .inl (Bool.eq_false_of_not_eq_true hbad)⟩
      have hproto : fileKey decisions file ≠ "__proto__" := by
        intro heq
        exact not_unsafe_of_isFileKey hkey (by rw [heq]; decide)
      apply applyFile_store (by omega) hskipped hkey
      intro hexists
      by_contra hoverwrite
      rw [Bool.not_eq_true] at hoverwrite
      have hfree : ¬Taken decisions value before (fileKey decisions file) := fun htaken =>
        hrefused ⟨hskipped, .inr ⟨hoverwrite, htaken⟩⟩
      obtain hhas | ⟨hmember, hlacks⟩ := (SecretManifest.keyExists_iff hproto).mp hexists
      · exact hfree (has_uploaded.mp hhas)
      · have hnew : fileKey decisions file ∉ keysOf decisions before := fun hmem =>
          hfree (.inr hmem)
        exact hmisread ⟨hall, hskipped, hoverwrite, hmember, (lacks_uploaded hnew).mp hlacks⟩

theorem passes_concat : Passes decisions value (files ++ [file]) ↔
    Passes decisions value files ∧
      ¬Refused decisions value files file ∧ ¬Misread decisions value files file := by
  constructor
  · intro h
    constructor
    · intro before other after hfiles
      exact h before other (after ++ [file]) (by rw [hfiles]; simp)
    · exact h files file [] rfl
  · rintro ⟨hfiles, hlast⟩ before other after hsplit
    rcases List.eq_nil_or_concat after with rfl | ⟨front, last, rfl⟩
    · obtain ⟨rfl, hother⟩ := List.append_inj' hsplit rfl
      cases hother
      exact hlast
    · have hfront : files ++ [file] = (before ++ other :: front) ++ [last] := by
        rw [hsplit]
        simp
      obtain ⟨hfront, -⟩ := List.append_inj' hfront rfl
      exact hfiles before other front hfront

theorem foldlM_applyFile {next : Js} :
    files.foldlM (applyFile decisions) value.toJs = .ok next ↔
      Passes decisions value files ∧ next = (uploaded decisions value files).toJs := by
  induction files using List.reverseRecOn generalizing next with
  | nil =>
      constructor
      · intro h
        cases h
        refine ⟨fun before file after hnil => ?_, rfl⟩
        cases before <;> cases hnil
      · rintro ⟨-, rfl⟩
        rfl
  | append_singleton files file ih =>
      rw [List.foldlM_append, passes_concat, Results.bind_eq_ok]
      have hsingle : ∀ v, [file].foldlM (applyFile decisions) v = applyFile decisions v file := by
        intro v
        rw [List.foldlM_cons]
        cases applyFile decisions v file <;> rfl
      simp only [hsingle]
      constructor
      · rintro ⟨v, hv, hlast⟩
        obtain ⟨hpasses, rfl⟩ := ih.mp hv
        have hrefused : ¬Refused decisions value files file := by
          intro hrefused
          obtain ⟨e, he, -⟩ := applyFile_of_refused hrefused
          rw [he] at hlast
          cases hlast
        have hmisread : ¬Misread decisions value files file := by
          intro hmisread
          rw [(applyFile_of_misread hmisread).1] at hlast
          cases hlast
        rw [applyFile_of_fine hrefused hmisread] at hlast
        exact ⟨⟨hpasses, hrefused, hmisread⟩, (Except.ok.inj hlast).symm⟩
      · rintro ⟨⟨hpasses, hrefused, hmisread⟩, rfl⟩
        exact ⟨_, ih.mpr ⟨hpasses, rfl⟩, applyFile_of_fine hrefused hmisread⟩

theorem applySecretFiles_eq_ok {result : Js} :
    applySecretFiles decisions value.toJs files = .ok result ↔
      files.length ≤ 50 ∧ Passes decisions value files ∧
        result = (uploaded decisions value files).toJs ∧ validateSecretSize result = .ok () := by
  rw [applySecretFiles]
  by_cases hmany : files.length > 50
  · rw [if_pos hmany]
    constructor
    · intro h
      cases h
    · intro h
      omega
  · rw [if_neg hmany, Results.bind_eq_ok]
    constructor
    · rintro ⟨next, hnext, hcheck⟩
      obtain ⟨hvalid, hresult⟩ := Results.check_eq_ok.mp hcheck
      obtain ⟨hpasses, rfl⟩ := foldlM_applyFile.mp hnext
      cases hresult
      exact ⟨by omega, hpasses, rfl, hvalid⟩
    · rintro ⟨-, hpasses, rfl, hvalid⟩
      exact ⟨_, foldlM_applyFile.mpr ⟨hpasses, rfl⟩, Results.check_eq_ok.mpr ⟨hvalid, rfl⟩⟩

theorem nodup_keysOf (hpasses : Passes decisions value files)
    (happart : ∀ before file after, files = before ++ file :: after →
      ¬Clobbers decisions before file) : (keysOf decisions files).Nodup := by
  induction files using List.reverseRecOn with
  | nil => exact List.nodup_nil
  | append_singleton files file ih =>
      have hlast := happart files file [] rfl
      obtain ⟨hfiles, hrefused, -⟩ := passes_concat.mp hpasses
      have hnodup := ih hfiles fun before other after hsplit =>
        happart before other (after ++ [file]) (by rw [hsplit]; simp)
      rw [keysOf_append, keysOf_singleton]
      cases hskipped : isSkipped decisions file with
      | true =>
          rw [if_pos rfl, List.append_nil]
          exact hnodup
      | false =>
          rw [if_neg (by decide), List.nodup_append]
          refine ⟨hnodup, List.nodup_singleton _, fun key hkey other hother heq => ?_⟩
          rw [List.mem_singleton] at hother
          subst heq hother
          cases hoverwrite : isOverwrite decisions file with
          | true => exact hlast ⟨hskipped, hoverwrite, hkey⟩
          | false => exact hrefused (.inr ⟨hskipped, .inr ⟨hoverwrite, .inr hkey⟩⟩)

theorem not_clobbers_of_nodup (h : (keysOf decisions files).Nodup)
    (hsplit : files = before ++ file :: after) : ¬Clobbers decisions before file := by
  rintro ⟨hskipped, -, hkey⟩
  rw [hsplit, ← List.singleton_append, keysOf_append, keysOf_append, keysOf_singleton, hskipped,
    if_neg (by decide)] at h
  exact (List.nodup_append.mp h).2.2 _ hkey _ (List.mem_append_left _ List.mem_cons_self) rfl

theorem lossless_uploaded (hpasses : Passes decisions value files)
    (hnodup : (keysOf decisions files).Nodup)
    (hvalid : validateSecretSize (uploaded decisions value files).toJs = .ok ()) :
    Lossless decisions value files (uploaded decisions value files).toJs where
  kept := by
    intro file hfile hskipped
    have hkey : fileKey decisions file ∈ keysOf decisions files :=
      mem_keysOf.mpr ⟨file, hfile, hskipped, rfl⟩
    obtain ⟨other, hother, hskipped', hkey', hdata, hplain⟩ :=
      @entry_uploaded_of_mem _ _ value _ hkey
    have hsame : other = file := by
      have hlisted : ∀ f ∈ files, isSkipped decisions f = false →
          f ∈ files.filter fun file => !isSkipped decisions file := by
        intro f hf hwritten
        rw [List.mem_filter, hwritten]
        exact ⟨hf, rfl⟩
      exact List.inj_on_of_nodup_map hnodup (hlisted other hother hskipped')
        (hlisted file hfile hskipped) hkey'
    rw [SecretManifest.entry] at hdata hplain
    rw [secretBytes, hplain, hdata, hsame]
    exact atob_encodeSecretBytes file.bytes
  apart := hnodup
  others := fun key hkey part hpart => entry_uploaded_of_not_mem hpart hkey
  overwritten := by
    intro file hfile hskipped hhas
    obtain ⟨before, after, hsplit⟩ := List.append_of_mem hfile
    by_contra hoverwrite
    rw [Bool.not_eq_true] at hoverwrite
    exact (hpasses before file after hsplit).1 (.inr ⟨hskipped, .inr ⟨hoverwrite, .inl hhas⟩⟩)
  small := validateSecretSize_eq_ok hvalid

end Run

/-- What an upload of at most fifty files does is right exactly where it is careful. -/
theorem losesNothing_iff (decisions : String → Option FileDecision) (value : SecretManifest)
    (files : List SecretFile) :
    LosesNothing decisions value files ↔ files.length > 50 ∨ Careful decisions value files := by
  constructor
  · intro h
    by_cases hmany : files.length > 50
    · exact .inl hmany
    · right
      constructor
      · intro before file after hsplit hpasses hmisread
        obtain ⟨hrefusal, hlacks⟩ := applyFile_of_misread hmisread
        exact hlacks (h.refusals (by omega) before file after _ _ hsplit
          (foldlM_applyFile.mpr ⟨hpasses, rfl⟩) hrefusal)
      · intro hpasses hvalid before file after hsplit
        have hlossless := h.results _ (applySecretFiles_eq_ok.mpr
          ⟨by omega, hpasses, rfl, hvalid⟩)
        exact not_clobbers_of_nodup hlossless.apart hsplit
  · intro h
    constructor
    · intro result hresult
      obtain ⟨hfew, hpasses, rfl, hvalid⟩ := applySecretFiles_eq_ok.mp hresult
      obtain hmany | hcareful := h
      · omega
      · exact lossless_uploaded hpasses (nodup_keysOf hpasses (hcareful.apart hpasses hvalid)) hvalid
    · intro hfew before file after next key hsplit hnext herror
      obtain ⟨hpasses, rfl⟩ := foldlM_applyFile.mp hnext
      by_cases hrefused : Refused decisions value before file
      · obtain ⟨e, he, hhas⟩ := applyFile_of_refused hrefused
        rw [he] at herror
        exact hhas key (Except.error.inj herror)
      · by_cases hmisread : Misread decisions value before file
        · obtain hmany | hcareful := h
          · omega
          · exact absurd hmisread (hcareful.heard before file after hsplit hpasses)
        · rw [applyFile_of_fine hrefused hmisread] at herror
          cases herror

/-- A Secret with an empty `data`. -/
def emptySecret : SecretManifest where
  fields := [("kind", .string "Secret"), ("data", .object [])]
  maps := by
    intro part hpart elements
    rcases List.mem_pair.mp hpart with rfl | rfl
    · intro h
      cases h
    · intro h
      cases h

def overwriting (name : String) : Option FileDecision :=
  if name = "a" then some ⟨.rename, some "b"⟩
  else if name = "b" then some ⟨.overwrite, none⟩
  else none

/-- Of two files one is lost, and a file is refused that nothing stands in the way of. -/
theorem upload_loses :
    ¬LosesNothing overwriting emptySecret [⟨"a", [1]⟩, ⟨"b", [2]⟩] ∧
      ¬LosesNothing (fun _ => none) emptySecret [⟨"toString", []⟩] := by
  constructor
  · intro h
    have hkeys := (h.results _ rfl).apart
    revert hkeys
    decide
  · intro h
    obtain ⟨part, hpart, v, hv, -⟩ :=
      h.refusals (by decide) [] ⟨"toString", []⟩ [] emptySecret.toJs "toString" rfl rfl rfl
    rcases List.mem_pair.mp hpart with rfl | rfl
    · cases hv
    · cases hv

end KubeNova.Editor
