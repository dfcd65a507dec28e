import KubeNova.Foundation.Json
import KubeNova.Foundation.JsValue
import KubeNova.Foundation.Lookup

/-!
# The text of a value

How `JSON.stringify` writes a value.  Two values with one text are the same JSON, and a value whose
fields are put in another order is the same JSON again.
-/

namespace KubeNova.Foundation.Json

def printField (field : String × List Char) : List Char := quote field.1 ++ ':' :: field.2

mutual

def stringify : Js → List Char
  | .undefined => "null".toList
  | .null => "null".toList
  | .nonFinite => "null".toList
  | .bool true => "true".toList
  | .bool false => "false".toList
  | .number value => value.text.toList
  | .string value => quote value
  | .array elements => '[' :: (join (stringifyElements elements) ++ [']'])
  | .object fields => '{' :: (join ((printed fields).map printField) ++ ['}'])

def stringifyElements : List Js → List (List Char)
  | [] => []
  | value :: rest => stringify value :: stringifyElements rest

def printed : List (String × Js) → List (String × List Char)
  | [] => []
  | (name, value) :: rest =>
      if value.isUndefined then printed rest else (name, stringify value) :: printed rest

end

theorem stringifyElements_eq (elements : List Js) :
    stringifyElements elements = elements.map stringify := by
  induction elements with
  | nil => rfl
  | cons value rest ih => rw [stringifyElements, ih, List.map_cons]

theorem printed_eq (fields : List (String × Js)) :
    printed fields = (Js.present fields).map fun field => (field.1, stringify field.2) := by
  induction fields with
  | nil => rfl
  | cons field rest ih =>
      obtain ⟨name, value⟩ := field
      rw [printed, ih]
      cases hvalue : value.isUndefined <;> simp [Js.present, hvalue]

def isWord : Js → Bool
  | .string _ => false
  | .array _ => false
  | .object _ => false
  | _ => true

theorem number_text (value : JsNumber) :
    ∃ c cs, value.text.toList = c :: cs ∧ (Text.isDigit c = true ∨ c = '-') ∧
      ∀ d ∈ cs, Text.isDigit d = true ∨ d ∈ ['.', 'e', '+', '-'] := by
  have hvalid := value.valid
  unfold isNumberText at hvalid
  cases htext : value.text.toList with
  | nil => simp [htext] at hvalid
  | cons c cs =>
      simp only [htext, Bool.and_eq_true, Bool.or_eq_true, beq_iff_eq, List.all_eq_true,
        List.contains_iff_mem] at hvalid
      exact ⟨c, cs, rfl, hvalid.1, hvalid.2⟩

def isWordChar (c : Char) : Bool :=
  c ∉ ['"', '[', '{', ',', ']', '}']

theorem isWordChar_of_digit {c : Char} (h : Text.isDigit c = true) : isWordChar c = true := by
  simp only [isWordChar, List.mem_cons, List.not_mem_nil, or_false, decide_eq_true_eq]
  rintro (rfl | rfl | rfl | rfl | rfl | rfl) <;> simp [Text.isDigit] at h

theorem stringify_word {value : Js} (hword : isWord value = true) :
    stringify value ≠ [] ∧ ∀ c ∈ stringify value, isWordChar c = true := by
  cases value with
  | undefined => exact ⟨by decide, List.all_eq_true.mp (by decide)⟩
  | null => exact ⟨by decide, List.all_eq_true.mp (by decide)⟩
  | nonFinite => exact ⟨by decide, List.all_eq_true.mp (by decide)⟩
  | bool value => cases value <;> exact ⟨by decide, List.all_eq_true.mp (by decide)⟩
  | number value =>
      obtain ⟨c, cs, htext, hhead, htail⟩ := number_text value
      have hstable : stringify (.number value) = c :: cs := by rw [stringify, htext]
      rw [hstable]
      refine ⟨List.cons_ne_nil _ _, fun d hd => ?_⟩
      rw [List.mem_cons] at hd
      have hchar : ∀ d, Text.isDigit d = true ∨ d ∈ ['.', 'e', '+', '-'] → isWordChar d = true := by
        rintro d (hdigit | hsign)
        · exact isWordChar_of_digit hdigit
        · simp only [List.mem_cons, List.not_mem_nil, or_false] at hsign
          rcases hsign with rfl | rfl | rfl | rfl <;> decide
      rcases hd with rfl | hd
      · exact hchar d (hhead.imp id fun h => by simp [h])
      · exact hchar d (htail d hd)
  | string value => cases hword
  | array elements => cases hword
  | object fields => cases hword

theorem word_append_inj {xs ys rest rest' : List Char} (hxs : ∀ c ∈ xs, isWordChar c = true)
    (hys : ∀ c ∈ ys, isWordChar c = true) (hrest : Delimited rest) (hrest' : Delimited rest')
    (h : xs ++ rest = ys ++ rest') : xs = ys ∧ rest = rest' := by
  have hstop : ∀ {r : List Char}, Delimited r → r.takeWhile isWordChar = [] := by
    intro r hr
    cases r with
    | nil => rfl
    | cons c cs =>
        have hc := hr c (by simp)
        have hword : isWordChar c = false := by
          simp only [List.mem_cons, List.not_mem_nil, or_false] at hc
          rcases hc with rfl | rfl | rfl <;> decide
        rw [List.takeWhile_cons_of_neg (by simp [hword])]
  have htake : ∀ {zs r : List Char}, (∀ c ∈ zs, isWordChar c = true) → Delimited r →
      (zs ++ r).takeWhile isWordChar = zs := by
    intro zs r hzs hr
    rw [List.takeWhile_append_of_pos hzs, hstop hr, List.append_nil]
  have heq : xs = ys := by
    rw [← htake hxs hrest, h, htake hys hrest']
  subst heq
  exact ⟨rfl, List.append_cancel_left h⟩

/-! ## One text, one document -/

def SameText (a b : Js) : Prop := stringify a = stringify b

theorem printField_ne_close {close : Char} (hclose : close ∈ [']', '}'])
    (field : String × List Char) (rest rest' : List Char) :
    printField field ++ rest ≠ close :: rest' := by
  rw [printField, List.append_assoc]
  exact quote_ne_close hclose field.1 _ _

/-- The first character of a text tells what kind of value was written. -/
theorem stringify_head (value : Js) : ∃ c cs, stringify value = c :: cs ∧
    (c = '[' ↔ ∃ elements, value = .array elements) ∧
    (c = '{' ↔ ∃ fields, value = .object fields) ∧ (c = '"' ↔ ∃ s, value = .string s) ∧
    c ≠ ']' := by
  by_cases hword : isWord value = true
  · obtain ⟨hne, hchars⟩ := stringify_word hword
    obtain ⟨c, cs, htext⟩ := List.exists_cons_of_ne_nil hne
    have hc : isWordChar c = true := hchars c (by rw [htext]; exact List.mem_cons_self)
    refine ⟨c, cs, htext, ⟨?_, ?_⟩, ⟨?_, ?_⟩, ⟨?_, ?_⟩, ?_⟩
    any_goals
      rintro rfl
      exact absurd hc (by decide)
    all_goals
      rintro ⟨_, hvalue⟩
      rw [hvalue] at hword
      cases hword
  · cases value with
    | string s => exact ⟨'"', _, rfl, by simp, by simp, by simp, by decide⟩
    | array elements => exact ⟨'[', _, rfl, by simp, by simp, by simp, by decide⟩
    | object fields => exact ⟨'{', _, rfl, by simp, by simp, by simp, by decide⟩
    | undefined => exact absurd rfl hword
    | null => exact absurd rfl hword
    | nonFinite => exact absurd rfl hword
    | bool value => exact absurd rfl hword
    | number value => exact absurd rfl hword

/-- Values of which one is no string, array or object, and whose texts begin alike, are words. -/
theorem isWord_of_head {a b : Js} {rest rest' : List Char}
    (h : stringify a ++ rest = stringify b ++ rest') (ha : isWord a = true) : isWord b = true := by
  obtain ⟨c, cs, hta, ha1, ha2, ha3, -⟩ := stringify_head a
  obtain ⟨d, ds, htb, hb1, hb2, hb3, -⟩ := stringify_head b
  rw [hta, htb] at h
  obtain rfl : c = d := (List.cons.inj h).1
  cases b with
  | string s =>
      obtain ⟨s', rfl⟩ := ha3.mp (hb3.mpr ⟨s, rfl⟩)
      cases ha
  | array elements =>
      obtain ⟨elements', rfl⟩ := ha1.mp (hb1.mpr ⟨elements, rfl⟩)
      cases ha
  | object fields =>
      obtain ⟨fields', rfl⟩ := ha2.mp (hb2.mpr ⟨fields, rfl⟩)
      cases ha
  | undefined => rfl
  | null => rfl
  | nonFinite => rfl
  | bool value => rfl
  | number value => rfl

/-- The text of a value ends where the next delimiter begins. -/
def Ends (a : Js) : Prop := ∀ b, Separates SameText (stringify a) (stringify b) a b

theorem ends_word {a : Js} (hword : isWord a = true) : Ends a := by
  intro b rest rest' hrest hrest' h
  obtain ⟨-, ha⟩ := stringify_word hword
  obtain ⟨-, hb⟩ := stringify_word (isWord_of_head h hword)
  exact word_append_inj ha hb hrest hrest' h

theorem ends_string (s : String) : Ends (.string s) := by
  intro b rest rest' hrest hrest' h
  obtain ⟨d, ds, htb, -, -, hb, -⟩ := stringify_head b
  have hhead : '"' = d := by
    rw [htb] at h
    exact (List.cons.inj h).1
  obtain ⟨s', rfl⟩ := hb.mp hhead.symm
  obtain ⟨rfl, hrest⟩ := quote_append_inj h
  exact ⟨rfl, hrest⟩

theorem array_append_inj {xs ys : List Js} (hxs : ∀ x ∈ xs, Ends x) {rest rest' : List Char}
    (h : stringify (.array xs) ++ rest = stringify (.array ys) ++ rest') :
    List.Forall₂ SameText xs ys ∧ rest = rest' := by
  simp only [stringify, stringifyElements_eq, List.cons_append, List.append_assoc, List.cons.injEq,
    true_and, List.nil_append] at h
  refine join_append_inj stringify (by simp) (fun a ha b _ => hxs a ha b) ?_ h
  intro a rest rest' heq
  obtain ⟨c, cs, hta, -, -, -, hclose⟩ := stringify_head a
  rw [hta] at heq
  exact hclose (List.cons.inj heq).1

theorem object_append_inj {fs gs : List (String × Js)} (hfs : ∀ f ∈ fs, Ends f.2)
    {rest rest' : List Char} (h : stringify (.object fs) ++ rest = stringify (.object gs) ++ rest') :
    printed fs = printed gs ∧ rest = rest' := by
  simp only [stringify, List.cons_append, List.append_assoc, List.cons.injEq, true_and,
    List.nil_append] at h
  have hmem : ∀ {l : List (String × Js)} {field : String × List Char}, field ∈ printed l →
      ∃ f ∈ l, field = (f.1, stringify f.2) := by
    intro l field hfield
    rw [printed_eq, List.mem_map] at hfield
    obtain ⟨f, hf, rfl⟩ := hfield
    exact ⟨f, (List.mem_filter.mp hf).1, rfl⟩
  have hall := join_append_inj (R := Eq) printField (by simp) ?_ (printField_ne_close (by simp)) h
  · exact ⟨List.forall₂_eq_eq_eq ▸ hall.1, hall.2⟩
  · intro a ha b hb r r' hr hr' heq
    obtain ⟨f, hf, rfl⟩ := hmem ha
    obtain ⟨g, -, rfl⟩ := hmem hb
    simp only [printField, List.append_assoc, List.cons_append] at heq
    obtain ⟨hname, htail⟩ := quote_append_inj heq
    obtain ⟨htext, hend⟩ := hfs f hf g.2 r r' hr hr' (List.cons.inj htail).2
    exact ⟨Prod.ext hname htext, hend⟩

theorem ends_array {xs : List Js} (hxs : ∀ x ∈ xs, Ends x) : Ends (.array xs) := by
  intro b rest rest' hrest hrest' h
  obtain ⟨d, ds, htb, hb, -, -, -⟩ := stringify_head b
  have hhead : '[' = d := by
    rw [htb] at h
    exact (List.cons.inj h).1
  obtain ⟨ys, rfl⟩ := hb.mp hhead.symm
  obtain ⟨-, rfl⟩ := array_append_inj hxs h
  exact ⟨List.append_cancel_right h, rfl⟩

theorem ends_object {fs : List (String × Js)} (hfs : ∀ f ∈ fs, Ends f.2) : Ends (.object fs) := by
  intro b rest rest' hrest hrest' h
  obtain ⟨d, ds, htb, -, hb, -, -⟩ := stringify_head b
  have hhead : '{' = d := by
    rw [htb] at h
    exact (List.cons.inj h).1
  obtain ⟨gs, rfl⟩ := hb.mp hhead.symm
  obtain ⟨-, rfl⟩ := object_append_inj hfs h
  exact ⟨List.append_cancel_right h, rfl⟩

mutual

theorem ends : ∀ a : Js, Ends a
  | .undefined => ends_word rfl
  | .null => ends_word rfl
  | .nonFinite => ends_word rfl
  | .bool _ => ends_word rfl
  | .number _ => ends_word rfl
  | .string s => ends_string s
  | .array elements => ends_array (ends_elements elements)
  | .object fields => ends_object (ends_fields fields)

theorem ends_elements : ∀ elements : List Js, ∀ x ∈ elements, Ends x
  | [], _, hx => absurd hx List.not_mem_nil
  | value :: rest, x, hx =>
      (List.mem_cons.mp hx).elim (fun h => h ▸ ends value) (ends_elements rest x)

theorem ends_fields : ∀ fields : List (String × Js), ∀ f ∈ fields, Ends f.2
  | [], _, hf => absurd hf List.not_mem_nil
  | (_, value) :: rest, f, hf =>
      (List.mem_cons.mp hf).elim (fun h => h ▸ ends value) (ends_fields rest f)

end

theorem number_ne_word {value : JsNumber} {w : List Char} (hw : w ∈ ["null".toList, "true".toList,
    "false".toList]) : value.text.toList ≠ w := by
  obtain ⟨c, cs, htext, hhead, -⟩ := number_text value
  rw [htext]
  rintro rfl
  simp only [List.mem_cons, List.not_mem_nil, or_false, String.toList] at hw
  rcases hw with hw | hw | hw <;>
  · obtain rfl := (List.cons.inj hw).1
    revert hhead
    decide

theorem number_text_inj {value value' : JsNumber} (h : value.text.toList = value'.text.toList) :
    value = value' := by
  obtain ⟨text, hvalid⟩ := value
  obtain ⟨text', hvalid'⟩ := value'
  obtain rfl : text = text' := String.toList_inj.mp h
  rfl

theorem bool_text_ne_null (value : Bool) : stringify (.bool value) ≠ "null".toList := by
  cases value <;> simp [stringify]

theorem bool_text_inj {value value' : Bool} (h : SameText (.bool value) (.bool value')) :
    value = value' := by
  cases value <;> cases value' <;> simp_all [SameText, stringify]

theorem leaf_of_word {a b : Js} (ha : isWord a = true) (hb : isWord b = true) (h : SameText a b) :
    a.leaf = b.leaf := by
  have hnull : ∀ {v : Js}, isWord v = true → stringify v = "null".toList → v.leaf = .null := by
    intro v hv htext
    cases v with
    | undefined => rfl
    | null => rfl
    | nonFinite => rfl
    | bool value => exact absurd htext (bool_text_ne_null value)
    | number value => exact absurd htext (number_ne_word (by simp))
    | string value => cases hv
    | array elements => cases hv
    | object fields => cases hv
  have hcases : ∀ {v : Js}, isWord v = true → stringify v = "null".toList ∨
      (∃ value, v = .bool value) ∨ ∃ value, v = .number value := by
    intro v hv
    cases v with
    | undefined => exact .inl rfl
    | null => exact .inl rfl
    | nonFinite => exact .inl rfl
    | bool value => exact .inr (.inl ⟨value, rfl⟩)
    | number value => exact .inr (.inr ⟨value, rfl⟩)
    | string value => cases hv
    | array elements => cases hv
    | object fields => cases hv
  have hmixed : ∀ (value : Bool) (number : JsNumber), ¬SameText (.number number) (.bool value) := by
    intro value number hsame
    exact number_ne_word (by cases value <;> simp [stringify]) hsame
  rcases hcases ha with htext | ⟨value, rfl⟩ | ⟨number, rfl⟩
  · rw [hnull ha htext, hnull hb (h.symm.trans htext)]
  · rcases hcases hb with htext | ⟨value', rfl⟩ | ⟨number, rfl⟩
    · exact absurd (h.trans htext) (bool_text_ne_null value)
    · rw [bool_text_inj h]
    · exact absurd h.symm (hmixed value number)
  · rcases hcases hb with htext | ⟨value, rfl⟩ | ⟨number', rfl⟩
    · exact absurd (h.trans htext) (number_ne_word (by simp))
    · exact absurd h (hmixed value number)
    · rw [number_text_inj h]

theorem child_of_word {v : Js} (hword : isWord v = true) (step : PathStep) : v.child step = none := by
  cases v with
  | array elements => cases hword
  | object fields => cases hword
  | _ => cases step <;> rfl

/-- What two values with one text are, and that their parts have the same texts again. -/
theorem parts_of_text {a b : Js} (h : SameText a b) :
    a.leaf = b.leaf ∧ ∀ step, Option.Rel SameText (a.child step) (b.child step) := by
  have happend : stringify a ++ [] = stringify b ++ [] := by rw [h]
  obtain ⟨c, cs, hta, ha1, ha2, ha3, -⟩ := stringify_head a
  obtain ⟨d, ds, htb, hb1, hb2, hb3, -⟩ := stringify_head b
  have hhead : c = d := by
    have htexts : c :: cs = d :: ds := by rw [← hta, ← htb, h]
    exact (List.cons.inj htexts).1
  by_cases hword : isWord a = true
  · have hword' := isWord_of_head happend hword
    refine ⟨leaf_of_word hword hword' h, fun step => ?_⟩
    rw [child_of_word hword, child_of_word hword']
    exact .none
  cases a with
  | string s =>
      obtain ⟨s', rfl⟩ := hb3.mp (hhead ▸ ha3.mpr ⟨s, rfl⟩)
      obtain ⟨rfl, -⟩ := quote_append_inj happend
      exact ⟨rfl, fun step => .none⟩
  | array xs =>
      obtain ⟨ys, rfl⟩ := hb1.mp (hhead ▸ ha1.mpr ⟨xs, rfl⟩)
      obtain ⟨hall, -⟩ := array_append_inj (ends_elements xs) happend
      refine ⟨congrArg Leaf.array hall.length_eq, fun step => ?_⟩
      cases step with
      | key name => exact .none
      | index n =>
          show Option.Rel SameText xs[n]? ys[n]?
          rcases Nat.lt_or_ge n xs.length with hn | hn
          · rw [List.getElem?_eq_getElem hn, List.getElem?_eq_getElem (hall.length_eq ▸ hn)]
            exact .some (hall.get hn (hall.length_eq ▸ hn))
          · rw [List.getElem?_eq_none hn, List.getElem?_eq_none (hall.length_eq ▸ hn)]
            exact .none
  | object fs =>
      obtain ⟨gs, rfl⟩ := hb2.mp (hhead ▸ ha2.mpr ⟨fs, rfl⟩)
      obtain ⟨hprinted, -⟩ := object_append_inj (ends_fields fs) happend
      refine ⟨rfl, fun step => ?_⟩
      cases step with
      | index n => exact .none
      | key name =>
          show Option.Rel SameText ((Js.present fs).lookup name) ((Js.present gs).lookup name)
          have hfound : ((Js.present fs).lookup name).map stringify =
              ((Js.present gs).lookup name).map stringify := by
            rw [← lookup_map_snd, ← lookup_map_snd, ← printed_eq, ← printed_eq, hprinted]
          cases hf : (Js.present fs).lookup name with
          | none =>
              rw [hf, Option.map_none, eq_comm, Option.map_eq_none_iff] at hfound
              rw [hfound]
              exact .none
          | some v =>
              rw [hf, Option.map_some, eq_comm, Option.map_eq_some_iff] at hfound
              obtain ⟨w, hw, htext⟩ := hfound
              rw [hw]
              exact .some htext.symm
  | undefined => exact absurd rfl hword
  | null => exact absurd rfl hword
  | nonFinite => exact absurd rfl hword
  | bool value => exact absurd rfl hword
  | number value => exact absurd rfl hword

theorem sameJson_of_stringify {a b : Js} (h : stringify a = stringify b) : SameJson a b :=
  sameJson_of_parts (R := SameText) (fun _ _ htext => (parts_of_text htext).1)
    (fun _ _ htext => (parts_of_text htext).2) h

mutual

def arrange (order : List (String × Js) → List (String × Js)) : Js → Js
  | .undefined => .undefined
  | .null => .null
  | .nonFinite => .nonFinite
  | .bool value => .bool value
  | .number value => .number value
  | .string value => .string value
  | .array elements => .array (arrangeElements order elements)
  | .object fields => .object (order (arrangeFields order fields))

def arrangeElements (order : List (String × Js) → List (String × Js)) : List Js → List Js
  | [] => []
  | value :: rest => arrange order value :: arrangeElements order rest

def arrangeFields (order : List (String × Js) → List (String × Js)) :
    List (String × Js) → List (String × Js)
  | [] => []
  | (name, value) :: rest => (name, arrange order value) :: arrangeFields order rest

end

variable {order : List (String × Js) → List (String × Js)}

theorem arrangeElements_eq (elements : List Js) :
    arrangeElements order elements = elements.map (arrange order) := by
  induction elements with
  | nil => rfl
  | cons value rest ih => rw [arrangeElements, ih, List.map_cons]

theorem arrangeFields_eq (fields : List (String × Js)) :
    arrangeFields order fields = fields.map fun field => (field.1, arrange order field.2) := by
  induction fields with
  | nil => rfl
  | cons field rest ih =>
      obtain ⟨name, value⟩ := field
      rw [arrangeFields, ih, List.map_cons]

theorem isUndefined_arrange (value : Js) : (arrange order value).isUndefined = value.isUndefined := by
  cases value <;> rfl

theorem present_arrangeFields (fields : List (String × Js)) :
    Js.present (arrangeFields order fields) =
      (Js.present fields).map fun field => (field.1, arrange order field.2) := by
  induction fields with
  | nil => rfl
  | cons field rest ih =>
      obtain ⟨name, value⟩ := field
      rw [arrangeFields, Js.present_cons, Js.present_cons, ih, isUndefined_arrange]
      cases value.isUndefined <;> rfl

/-- An order that finds the same value under every name makes no difference to the JSON. -/
theorem sameJson_arrange {good : Js → Prop}
    (hparts : ∀ v, good v → ∀ step part, v.child step = some part → good part)
    (horder : ∀ fields, good (.object fields) → ∀ name,
      (Js.present (order (arrangeFields order fields))).lookup name =
        (Js.present (arrangeFields order fields)).lookup name)
    {value : Js} (hvalue : good value) : SameJson (arrange order value) value := by
  apply sameJson_of_parts (R := fun a b => good b ∧ a = arrange order b)
  · rintro a b ⟨-, rfl⟩
    cases b with
    | array elements => simp [arrange, arrangeElements_eq, Js.leaf]
    | _ => rfl
  · rintro a b ⟨hgood, rfl⟩ step
    cases b with
    | array elements =>
        cases step with
        | key name => exact .none
        | index n =>
            have hpart := hparts _ hgood (.index n)
            show Option.Rel _ (arrangeElements order elements)[n]? elements[n]?
            rw [arrangeElements_eq, List.getElem?_map]
            cases hn : elements[n]? with
            | none => exact .none
            | some part => exact .some ⟨hpart part hn, rfl⟩
    | object fields =>
        cases step with
        | index n => exact .none
        | key name =>
            have hpart := hparts _ hgood (.key name)
            show Option.Rel _ ((Js.present (order (arrangeFields order fields))).lookup name)
              ((Js.present fields).lookup name)
            rw [horder fields hgood, present_arrangeFields, lookup_map_snd]
            cases hname : (Js.present fields).lookup name with
            | none => exact .none
            | some part => exact .some ⟨hpart part hname, rfl⟩
    | _ => cases step <;> exact .none
  · exact ⟨hvalue, rfl⟩

/-- No value of the language has a text that begins with another letter. -/
theorem stringify_ne_cons {c : Char} (hc : c ∉ ['n', 't', 'f', '"', '[', '{', '-'])
    (hdigit : Text.isDigit c = false) (value : Js) (rest : List Char) :
    stringify value ≠ c :: rest := by
  intro h
  have hhead := congrArg List.head? h
  cases value with
  | number value =>
      obtain ⟨d, ds, htext, hfirst, -⟩ := number_text value
      rw [stringify, htext] at hhead
      obtain rfl : d = c := by simpa using hhead
      rcases hfirst with hfirst | rfl
      · rw [hdigit] at hfirst
        cases hfirst
      · simp at hc
  | bool value =>
      cases value <;> (obtain rfl : _ = c := by simpa [stringify] using hhead) <;> simp at hc
  | _ =>
      obtain rfl : _ = c := by simpa [stringify, quote] using hhead
      simp at hc

end KubeNova.Foundation.Json
