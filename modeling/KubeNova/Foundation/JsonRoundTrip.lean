import KubeNova.Foundation.JsonParse

/-!
# Reading printed JSON

A value that was read from a text is printed and read again as itself, but for the numbers that were
too large to be finite, which are printed `null`.
-/

namespace KubeNova.Foundation.Json

/-! ## Strings -/

theorem char_toNat_cases (c : Char) :
    c.toNat < 0xD800 ∨ 0xDFFF < c.toNat ∧ c.toNat < 0x110000 := c.valid

theorem unitChar_toNat (c : Char) : unitChar c.toNat = c := by
  have hvalid := char_toNat_cases c
  rw [unitChar, if_neg (by omega), Char.ofNat_toNat]

theorem decodeUnits_codeUnits_append (c : Char) (units : List Nat) :
    decodeUnits (codeUnits c ++ units) = c :: decodeUnits units := by
  have hvalid := char_toNat_cases c
  unfold codeUnits
  split
  · rename_i hsmall
    cases units with
    | nil => simp only [List.append_nil, decodeUnits, unitChar_toNat]
    | cons v units =>
        rw [List.cons_append, List.nil_append, decodeUnits, if_neg (by omega), unitChar_toNat]
  · rename_i hlarge
    have hpair : 0x10000 + (0xD800 + (c.toNat - 0x10000) / 0x400 - 0xD800) * 0x400 +
        (0xDC00 + (c.toNat - 0x10000) % 0x400 - 0xDC00) = c.toNat := by omega
    rw [List.cons_append, List.cons_append, List.nil_append, decodeUnits, if_pos (by omega), hpair,
      Char.ofNat_toNat]

theorem decodeUnits_codeUnits (cs : List Char) : decodeUnits (cs.flatMap codeUnits) = cs := by
  induction cs with
  | nil => rfl
  | cons c cs ih => rw [List.flatMap_cons, decodeUnits_codeUnits_append, ih]

theorem textOf_codeUnits (s : String) : textOf (s.toList.flatMap codeUnits) = s := by
  rw [textOf, decodeUnits_codeUnits, String.ofList_toList]

theorem hexUnit?_control :
    ∀ n < 32, hexUnit? '0' '0' (hexDigit (n / 16)) (hexDigit (n % 16)) = some n := by
  decide

theorem stringBody_escapeChar {rest after : List Char} {units : List Nat} (c : Char)
    (h : stringBody rest = some (units, after)) :
    stringBody (escapeChar c ++ rest) = some (codeUnits c ++ units, after) := by
  have hcontrol : ∀ {n : Nat}, n < 0x10000 → c.toNat = n → codeUnits c = [n] := by
    intro n hn hc
    rw [codeUnits, hc, if_pos hn]
  unfold escapeChar
  split
  · subst c
    simp [stringBody, simpleEscape?, h, codeUnits]
  split
  · subst c
    simp [stringBody, simpleEscape?, h, codeUnits]
  split
  · rename_i hc
    simp [stringBody, simpleEscape?, h, hcontrol (by decide) hc]
  split
  · rename_i hc
    simp [stringBody, simpleEscape?, h, hcontrol (by decide) hc]
  split
  · rename_i hc
    simp [stringBody, simpleEscape?, h, hcontrol (by decide) hc]
  split
  · rename_i hc
    simp [stringBody, simpleEscape?, h, hcontrol (by decide) hc]
  split
  · rename_i hc
    simp [stringBody, simpleEscape?, h, hcontrol (by decide) hc]
  split
  · rename_i hlt
    simp [stringBody, hexUnit?_control _ hlt, h, hcontrol (by omega) rfl]
  · rename_i hslash _ _ _ _ _ hprintable
    simp [stringBody, hslash, hprintable, h]

theorem stringBody_escaped (cs rest : List Char) :
    stringBody (cs.flatMap escapeChar ++ '"' :: rest) = some (cs.flatMap codeUnits, rest) := by
  induction cs with
  | nil => simp [stringBody]
  | cons c cs ih =>
      rw [List.flatMap_cons, List.append_assoc, stringBody_escapeChar c ih, List.flatMap_cons]

theorem Delimited.takeWhile_isNumberChar {rest : List Char} (h : Delimited rest) :
    rest.takeWhile isNumberChar = [] := by
  cases rest with
  | nil => rfl
  | cons c rest =>
      have hc := h c rfl
      simp only [List.mem_cons, List.not_mem_nil, or_false] at hc
      rcases hc with rfl | rfl | rfl <;> rfl

theorem isNumberChar_text (n : JsNumber) : ∀ c ∈ n.text.toList, isNumberChar c = true := by
  obtain ⟨c, cs, htext, hhead, htail⟩ := number_text n
  have hsign : ∀ {d : Char}, d ∈ ['-', '+', '.', 'e', 'E'] → isNumberChar d = true := by
    intro d hd
    rw [isNumberChar, List.contains_iff_mem.mpr hd, Bool.or_true]
  have hdigit : ∀ {d : Char}, Text.isDigit d = true → isNumberChar d = true := by
    intro d hd
    rw [isNumberChar, hd, Bool.true_or]
  rw [htext]
  intro d hd
  rcases List.mem_cons.mp hd with rfl | hd
  · rcases hhead with hhead | rfl
    · exact hdigit hhead
    · exact hsign (by simp)
  · rcases htail d hd with hd | hd
    · exact hdigit hd
    · simp only [List.mem_cons, List.not_mem_nil, or_false] at hd
      rcases hd with rfl | rfl | rfl | rfl | rfl
      all_goals exact hsign (by simp)

theorem parseWord_number {numbers : Numbers} {n : JsNumber} {rest : List Char}
    (hrest : Delimited rest) (hliteral : isNumberLiteral n.text.toList = true)
    (hread : numbers.read n.text.toList = some n) :
    parseWord numbers (n.text.toList ++ rest) = some (.number n, rest) := by
  have hchars := isNumberChar_text n
  have htake : (n.text.toList ++ rest).takeWhile isNumberChar = n.text.toList := by
    rw [List.takeWhile_append_of_pos hchars, hrest.takeWhile_isNumberChar, List.append_nil]
  have hdrop : (n.text.toList ++ rest).dropWhile isNumberChar = rest := by
    have hsplit := @List.takeWhile_append_dropWhile _ isNumberChar (n.text.toList ++ rest)
    rw [htake] at hsplit
    exact List.append_cancel_left hsplit
  have hnot : ∀ {c : Char} {word : List Char}, Text.isDigit c = false → c ≠ '-' →
      (c :: word).isPrefixOf (n.text.toList ++ rest) = false := by
    intro c word hdigit hsign
    obtain ⟨d, ds, htext, hhead, -⟩ := number_text n
    rw [htext, List.cons_append, List.isPrefixOf_cons_cons, Bool.and_eq_false_iff]
    left
    rw [beq_eq_false_iff_ne]
    rintro rfl
    rw [hdigit] at hhead
    rcases hhead with hhead | hhead
    · cases hhead
    · exact hsign hhead
  unfold parseWord
  have htrue : "true".toList.isPrefixOf (n.text.toList ++ rest) = false := hnot rfl (by decide)
  have hfalse : "false".toList.isPrefixOf (n.text.toList ++ rest) = false := hnot rfl (by decide)
  have hnull : "null".toList.isPrefixOf (n.text.toList ++ rest) = false := hnot rfl (by decide)
  rw [htrue, hfalse, hnull, htake, hdrop]
  simp only [Bool.false_eq_true, if_false, hliteral, if_true, hread]
  rfl

section Parsed

variable (numbers : Numbers)

/-- What a text is read as: numbers are what their texts are read as, no key comes twice, and the
keys are in the order of the language. -/
inductive Parsed : Js → Prop
  | null : Parsed .null
  | nonFinite : Parsed .nonFinite
  | bool (value : Bool) : Parsed (.bool value)
  | number {n : JsNumber} : isNumberLiteral n.text.toList = true →
      numbers.read n.text.toList = some n → Parsed (.number n)
  | string (value : String) : Parsed (.string value)
  | array {elements : List Js} : (∀ e ∈ elements, Parsed e) → Parsed (.array elements)
  | object {fields : List (String × Js)} : (fields.map Prod.fst).Nodup →
      ownOrder fields = fields → (∀ f ∈ fields, Parsed f.2) → Parsed (.object fields)

variable {numbers}

theorem Parsed.isUndefined {v : Js} (h : Parsed numbers v) : v.isUndefined = false := by
  cases h <;> rfl

theorem parsed_of_parseWord {cs rest : List Char} {v : Js}
    (h : parseWord numbers cs = some (v, rest)) : Parsed numbers v := by
  unfold parseWord at h
  split at h
  · cases h
    exact .bool true
  split at h
  · cases h
    exact .bool false
  split at h
  · cases h
    exact .null
  · dsimp only at h
    split at h
    · cases hread : numbers.read (cs.takeWhile isNumberChar) with
      | none =>
          rw [hread] at h
          cases h
          exact .nonFinite
      | some n =>
          rw [hread] at h
          cases h
          obtain ⟨hliteral, htext⟩ := numbers.reads_text _ _ hread
          exact .number hliteral htext
    · cases h

mutual

theorem Value.parsed : ∀ {cs v rest}, Value numbers cs v rest → Parsed numbers v
  | _, _, _, .string _ _ => .string _
  | _, _, _, .emptyArray _ _ => .array fun _ h => absurd h List.not_mem_nil
  | _, _, _, .array _ helements => .array helements.parsed
  | _, _, _, .emptyObject _ _ => .object List.nodup_nil rfl fun _ h => absurd h List.not_mem_nil
  | _, _, _, .object _ hmembers =>
      .object (nodup_fromEntries _) (ownOrder_fromEntries _) fun f hf =>
        hmembers.parsed f (mem_of_mem_fromEntries hf)
  | _, _, _, .word hword => parsed_of_parseWord hword

theorem Elements.parsed : ∀ {cs elements rest}, Elements numbers cs elements rest →
    ∀ e ∈ elements, Parsed numbers e
  | _, _, _, .last hvalue _, _, he => List.mem_singleton.mp he ▸ hvalue.parsed
  | _, _, _, .more hvalue _ helements, e, he =>
      (List.mem_cons.mp he).elim (fun heq => heq ▸ hvalue.parsed) (helements.parsed e)

theorem Members.parsed : ∀ {cs members rest}, Members numbers cs members rest →
    ∀ f ∈ members, Parsed numbers f.2
  | _, _, _, .last _ _ _ hvalue _, _, hf => List.mem_singleton.mp hf ▸ hvalue.parsed
  | _, _, _, .more _ _ _ hvalue _ hmembers, f, hf =>
      (List.mem_cons.mp hf).elim (fun heq => heq ▸ hvalue.parsed) (hmembers.parsed f)

end

theorem parsed_of_parse {text : String} {v : Js} (h : parse numbers text = some v) :
    Parsed numbers v := by
  obtain ⟨rest, hvalue, -⟩ := parse_eq_some_iff.mp h
  exact hvalue.parsed

/-! ## Printed values are read -/

theorem skipSpace_cons {c : Char} {rest : List Char} (hc : isSpace c = false) :
    skipSpace (c :: rest) = c :: rest := by
  rw [skipSpace, List.dropWhile_cons_of_neg (by rw [hc]; exact Bool.false_ne_true)]

theorem skipSpace_stringify (v : Js) (rest : List Char) :
    skipSpace (stringify v ++ rest) = stringify v ++ rest := by
  obtain ⟨c, cs, htext, -⟩ := stringify_head v
  have hc : isSpace c = false := by
    rw [← Bool.not_eq_true, isSpace, List.contains_iff_mem]
    intro hmem
    simp only [List.mem_cons, List.not_mem_nil, or_false] at hmem
    rcases hmem with rfl | rfl | rfl | rfl <;>
      exact stringify_ne_cons (by decide) (by decide) v cs htext
  rw [htext, List.cons_append, skipSpace_cons hc]

/-- The value is read again from its text, wherever it stands. -/
def Reads (numbers : Numbers) (v : Js) : Prop :=
  ∀ rest, Delimited rest → Value numbers (stringify v ++ rest) v.clone rest

theorem elements_of_reads {first : Js} {elements : List Js} {rest : List Char}
    (h : ∀ e ∈ first :: elements, Reads numbers e) :
    Elements numbers (join ((first :: elements).map stringify) ++ ']' :: rest)
      ((first :: elements).map Js.clone) rest := by
  induction elements generalizing first with
  | nil =>
      exact .last (h first (by simp) _ (Delimited.cons (by simp) rest)) (skipSpace_cons (by decide))
  | cons second elements ih =>
      have hfirst := h first (by simp) (',' :: (join ((second :: elements).map stringify) ++
        ']' :: rest)) (Delimited.cons (by simp) _)
      have htext : join ((first :: second :: elements).map stringify) ++ ']' :: rest =
          stringify first ++ ',' :: (join ((second :: elements).map stringify) ++ ']' :: rest) := by
        simp [join]
      rw [htext]
      exact .more hfirst (skipSpace_cons (by decide)) (ih fun e he => h e (by simp [he]))

theorem stringBody_quote (name : String) (rest : List Char) :
    stringBody (name.toList.flatMap escapeChar ++ ['"'] ++ rest) =
      some (name.toList.flatMap codeUnits, rest) := by
  rw [List.append_assoc]
  exact stringBody_escaped _ _

theorem Members.last_field {name : String} {value after rest : List Char} {v : Js}
    (hvalue : Value numbers value v after) (hclose : skipSpace after = '}' :: rest) :
    Members numbers (printField (name, value)) [(name, v)] rest := by
  have hlast := Members.last (skipSpace_cons (by decide)) (stringBody_quote name (':' :: value))
    (skipSpace_cons (by decide)) hvalue hclose
  rw [textOf_codeUnits] at hlast
  exact hlast

theorem Members.more_field {name : String} {value after rest last : List Char} {v : Js}
    {members : List (String × Js)} (hvalue : Value numbers value v after)
    (hcomma : skipSpace after = ',' :: rest) (hmembers : Members numbers rest members last) :
    Members numbers (printField (name, value)) ((name, v) :: members) last := by
  have hmore := Members.more (skipSpace_cons (by decide)) (stringBody_quote name (':' :: value))
    (skipSpace_cons (by decide)) hvalue hcomma hmembers
  rw [textOf_codeUnits] at hmore
  exact hmore

theorem printField_append (name : String) (value rest : List Char) :
    printField (name, value) ++ rest = printField (name, value ++ rest) := by
  simp [printField]

theorem members_of_reads {first : String × Js} {fields : List (String × Js)} {rest : List Char}
    (h : ∀ f ∈ first :: fields, Reads numbers f.2) :
    Members numbers
      (join (((first :: fields).map fun f => (f.1, stringify f.2)).map printField) ++ '}' :: rest)
      ((first :: fields).map fun f => (f.1, f.2.clone)) rest := by
  induction fields generalizing first with
  | nil =>
      have hvalue := h first (by simp) ('}' :: rest) (Delimited.cons (by simp) rest)
      show Members numbers (printField (first.1, stringify first.2) ++ '}' :: rest) _ rest
      rw [printField_append]
      exact .last_field hvalue (skipSpace_cons (by decide))
  | cons second fields ih =>
      have hrest := @ih second fun f hf => h f (by simp [hf])
      have hvalue := h first (by simp) _ (@Delimited.cons ',' (by simp)
        (join (((second :: fields).map fun f => (f.1, stringify f.2)).map printField) ++ '}' :: rest))
      have htext : join (((first :: second :: fields).map fun f => (f.1, stringify f.2)).map
          printField) ++ '}' :: rest = printField (first.1, stringify first.2) ++ ',' ::
            (join (((second :: fields).map fun f => (f.1, stringify f.2)).map printField) ++
              '}' :: rest) := by
        simp [join]
      rw [htext, printField_append]
      exact .more_field hvalue (skipSpace_cons (by decide)) hrest

theorem reads_array {elements : List Js} (h : ∀ e ∈ elements, Reads numbers e) :
    Reads numbers (.array elements) := by
  intro rest hrest
  have htext : stringify (.array elements) ++ rest =
      '[' :: (join (elements.map stringify) ++ ']' :: rest) := by
    simp [stringify, stringifyElements_eq]
  rw [htext, Js.clone, Js.cloneElements_eq]
  cases elements with
  | nil => exact .emptyArray (skipSpace_cons (by decide)) (skipSpace_cons (by decide))
  | cons first elements =>
      refine .array (skipSpace_cons (by decide)) ?_
      have helements := @elements_of_reads _ first elements rest h
      have hskip : skipSpace (join ((first :: elements).map stringify) ++ ']' :: rest) =
          join ((first :: elements).map stringify) ++ ']' :: rest := by
        cases elements with
        | nil => exact skipSpace_stringify first _
        | cons second elements =>
            simp only [List.map_cons, join, List.append_assoc]
            exact skipSpace_stringify first _
      rw [hskip]
      exact helements

theorem reads_object {fields : List (String × Js)} (hnodup : (fields.map Prod.fst).Nodup)
    (horder : ownOrder fields = fields) (hdefined : ∀ f ∈ fields, f.2.isUndefined = false)
    (h : ∀ f ∈ fields, Reads numbers f.2) : Reads numbers (.object fields) := by
  intro rest hrest
  have hpresent := Js.present_eq_self hdefined
  have hentries : fromEntries (fields.map fun f => (f.1, f.2.clone)) =
      fields.map fun f => (f.1, f.2.clone) := by
    have hkeys : ((fields.map fun f => (f.1, f.2.clone)).map Prod.fst).Nodup := by
      rw [List.map_map]
      exact hnodup
    rw [fromEntries_of_nodup hkeys, ownOrder_map Js.clone, horder]
  have htext : stringify (.object fields) ++ rest =
      '{' :: (join ((fields.map fun f => (f.1, stringify f.2)).map printField) ++ '}' :: rest) := by
    rw [stringify, printed_eq, hpresent]
    simp
  rw [htext, Js.clone, Js.cloneFields_eq, hpresent, ← hentries]
  cases fields with
  | nil => exact .emptyObject (skipSpace_cons (by decide)) (skipSpace_cons (by decide))
  | cons first fields =>
      refine .object (skipSpace_cons (by decide)) ?_
      have hmembers := @members_of_reads _ first fields rest h
      have hskip : ∀ after, skipSpace (printField (first.1, stringify first.2) ++ after) =
          printField (first.1, stringify first.2) ++ after := fun after =>
        skipSpace_cons (by decide)
      cases fields with
      | nil => exact (hskip ('}' :: rest)).symm ▸ hmembers
      | cons second fields =>
          simp only [List.map_cons, join, List.append_assoc] at hmembers ⊢
          rw [hskip]
          exact hmembers

theorem Parsed.reads {v : Js} (h : Parsed numbers v) : Reads numbers v := by
  induction h with
  | null => exact fun rest hrest => .word rfl
  | nonFinite => exact fun rest hrest => .word rfl
  | bool value => cases value <;> exact fun rest hrest => .word rfl
  | number hliteral hread =>
      intro rest hrest
      have hword := parseWord_number hrest hliteral hread
      exact .word ((skipSpace_stringify _ _).symm ▸ hword)
  | string value =>
      intro rest hrest
      have hvalue := @Value.string numbers (stringify (.string value) ++ rest) _ rest _
        (skipSpace_cons (by decide)) (stringBody_quote value rest)
      rw [textOf_codeUnits] at hvalue
      exact hvalue
  | array _ ih => exact reads_array ih
  | object hnodup horder hparts ih =>
      exact reads_object hnodup horder (fun f hf => (hparts f hf).isUndefined) ih

/-- `JSON.parse(JSON.stringify(value))`, for a value that was read. -/
theorem Parsed.parse_stringify {v : Js} (h : Parsed numbers v) :
    parse numbers (String.ofList (stringify v)) = some v.clone := by
  have hvalue := h.reads [] Delimited.nil
  rw [List.append_nil] at hvalue
  rw [parse_eq_some_iff, String.toList_ofList]
  exact ⟨[], hvalue, rfl⟩

end Parsed

end KubeNova.Foundation.Json

namespace KubeNova.Foundation.Js

mutual

def finite : Js → Bool
  | nonFinite => false
  | array elements => finiteElements elements
  | object fields => finiteFields fields
  | _ => true

def finiteElements : List Js → Bool
  | [] => true
  | value :: rest => value.finite && finiteElements rest

def finiteFields : List (String × Js) → Bool
  | [] => true
  | (_, value) :: rest => value.finite && finiteFields rest

end

theorem finiteElements_eq (elements : List Js) : finiteElements elements = elements.all finite := by
  induction elements with
  | nil => rfl
  | cons value rest ih => rw [finiteElements, ih, List.all_cons]

theorem finiteFields_eq (fields : List (String × Js)) :
    finiteFields fields = fields.all fun field => field.2.finite := by
  induction fields with
  | nil => rfl
  | cons field rest ih =>
      obtain ⟨name, value⟩ := field
      rw [finiteFields, ih, List.all_cons]

theorem map_eq_self_iff {α : Type} {f : α → α} {xs : List α} :
    xs.map f = xs ↔ ∀ x ∈ xs, f x = x := by
  constructor
  · intro h x hx
    have hmap : xs.map f = xs.map id := by rw [h, List.map_id]
    exact List.map_inj_left.mp hmap x hx
  · intro h
    rw [List.map_congr_left h, List.map_id']

variable {numbers : Json.Numbers}

/-- What was read comes back from its text if and only if no number in it is an infinity. -/
theorem clone_eq_self_iff {v : Js} (h : Json.Parsed numbers v) : v.clone = v ↔ v.finite = true := by
  induction h with
  | null => simp [clone, finite]
  | nonFinite => simp [clone, finite]
  | bool value => simp [clone, finite]
  | number _ _ => simp [clone, finite]
  | string value => simp [clone, finite]
  | array _ ih =>
      rw [clone, finite, cloneElements_eq, finiteElements_eq, array.injEq, map_eq_self_iff,
        List.all_eq_true]
      exact forall₂_congr ih
  | object _ _ hparts ih =>
      have hpresent := present_eq_self fun f hf => (hparts f hf).isUndefined
      rw [clone, finite, cloneFields_eq, finiteFields_eq, hpresent, object.injEq, map_eq_self_iff,
        List.all_eq_true]
      refine forall₂_congr fun f hf => ?_
      rw [← ih f hf]
      exact ⟨fun heq => congrArg Prod.snd heq, fun heq => by rw [heq]⟩

mutual

/-- The value with every text in it changed; its keys stay as they are. -/
def mapStrings (f : String → String) : Js → Js
  | undefined => undefined
  | null => null
  | nonFinite => nonFinite
  | bool value => bool value
  | number value => number value
  | string value => string (f value)
  | array elements => array (mapElements f elements)
  | object fields => object (mapFields f fields)

def mapElements (f : String → String) : List Js → List Js
  | [] => []
  | value :: rest => value.mapStrings f :: mapElements f rest

def mapFields (f : String → String) : List (String × Js) → List (String × Js)
  | [] => []
  | (name, value) :: rest => (name, value.mapStrings f) :: mapFields f rest

end

mutual

def texts : Js → List String
  | string value => [value]
  | array elements => elementTexts elements
  | object fields => fieldTexts fields
  | _ => []

def elementTexts : List Js → List String
  | [] => []
  | value :: rest => value.texts ++ elementTexts rest

def fieldTexts : List (String × Js) → List String
  | [] => []
  | (name, value) :: rest => name :: (value.texts ++ fieldTexts rest)

end

theorem mapElements_eq (f : String → String) (elements : List Js) :
    mapElements f elements = elements.map (mapStrings f) := by
  induction elements with
  | nil => rfl
  | cons value rest ih => rw [mapElements, ih, List.map_cons]

theorem mapFields_eq (f : String → String) (fields : List (String × Js)) :
    mapFields f fields = fields.map fun field => (field.1, field.2.mapStrings f) := by
  induction fields with
  | nil => rfl
  | cons field rest ih =>
      obtain ⟨name, value⟩ := field
      rw [mapFields, ih, List.map_cons]

theorem parsed_mapStrings (f : String → String) {v : Js} (h : Json.Parsed numbers v) :
    Json.Parsed numbers (v.mapStrings f) := by
  induction h with
  | null => exact .null
  | nonFinite => exact .nonFinite
  | bool value => exact .bool value
  | number hliteral hread => exact .number hliteral hread
  | string value => exact .string _
  | array _ ih =>
      rw [mapStrings, mapElements_eq]
      refine .array fun e he => ?_
      obtain ⟨element, helement, rfl⟩ := List.mem_map.mp he
      exact ih element helement
  | object hnodup horder _ ih =>
      rw [mapStrings, mapFields_eq]
      refine .object ?_ ?_ fun e he => ?_
      · rw [List.map_map]
        exact hnodup
      · rw [ownOrder_map, horder]
      · obtain ⟨field, hfield, rfl⟩ := List.mem_map.mp he
        exact ih field hfield

theorem all_congr_of_mem {α : Type} {p q : α → Bool} {xs : List α} (h : ∀ x ∈ xs, p x = q x) :
    xs.all p = xs.all q := by
  induction xs with
  | nil => rfl
  | cons x xs ih =>
      rw [List.all_cons, List.all_cons, h x List.mem_cons_self,
        ih fun y hy => h y (List.mem_cons_of_mem _ hy)]

theorem finite_mapStrings (f : String → String) (v : Js) : (v.mapStrings f).finite = v.finite := by
  apply Js.induction (v := v)
  · intro v hv
    cases v with
    | array elements => cases hv
    | object fields => cases hv
    | _ => rfl
  · intro elements ih
    rw [mapStrings, finite, finite, mapElements_eq, finiteElements_eq, finiteElements_eq,
      List.all_map]
    exact all_congr_of_mem ih
  · intro fields ih
    rw [mapStrings, finite, finite, mapFields_eq, finiteFields_eq, finiteFields_eq, List.all_map]
    exact all_congr_of_mem ih

end KubeNova.Foundation.Js
