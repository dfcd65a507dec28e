import KubeNova.Foundation.JsObject

/-!
# Reading JSON text

`JSON.parse`, which takes the last of several values under one key and lists the keys as objects do.
Texts are read code unit by code unit; what a number's literal stands for is up to `Numbers`.  A
value that was read is read again from its text, but for numbers too large to be finite.
-/

namespace KubeNova.Foundation.Json

def codeUnits (c : Char) : List Nat :=
  if c.toNat < 0x10000 then [c.toNat]
  else [0xD800 + (c.toNat - 0x10000) / 0x400, 0xDC00 + (c.toNat - 0x10000) % 0x400]

/-- A code unit on its own; half of a pair is no character. -/
def unitChar (u : Nat) : Char :=
  if 0xD800 ≤ u ∧ u < 0xE000 then Char.ofNat 0xFFFD else Char.ofNat u

def decodeUnits : List Nat → List Char
  | [] => []
  | [u] => [unitChar u]
  | u :: v :: rest =>
      if 0xD800 ≤ u ∧ u < 0xDC00 ∧ 0xDC00 ≤ v ∧ v < 0xE000 then
        Char.ofNat (0x10000 + (u - 0xD800) * 0x400 + (v - 0xDC00)) :: decodeUnits rest
      else unitChar u :: decodeUnits (v :: rest)

def hexValue? (c : Char) : Option Nat :=
  if Text.isDigit c then some (c.toNat - 48)
  else if 'a' ≤ c ∧ c ≤ 'f' then some (c.toNat - 87)
  else if 'A' ≤ c ∧ c ≤ 'F' then some (c.toNat - 55)
  else none

def hexUnit? (a b c d : Char) : Option Nat :=
  match hexValue? a, hexValue? b, hexValue? c, hexValue? d with
  | some a, some b, some c, some d => some (((a * 16 + b) * 16 + c) * 16 + d)
  | _, _, _, _ => none

def simpleEscape? : Char → Option Nat
  | '"' => some 34
  | '\\' => some 92
  | '/' => some 47
  | 'b' => some 8
  | 't' => some 9
  | 'n' => some 10
  | 'f' => some 12
  | 'r' => some 13
  | _ => none

def stringBody : List Char → Option (List Nat × List Char)
  | [] => none
  | '"' :: rest => some ([], rest)
  | '\\' :: 'u' :: a :: b :: c :: d :: rest =>
      match hexUnit? a b c d, stringBody rest with
      | some u, some (us, rest) => some (u :: us, rest)
      | _, _ => none
  | '\\' :: c :: rest =>
      match simpleEscape? c, stringBody rest with
      | some u, some (us, rest) => some (u :: us, rest)
      | _, _ => none
  | c :: rest =>
      if c.toNat < 32 then none
      else match stringBody rest with
        | some (us, rest) => some (codeUnits c ++ us, rest)
        | none => none

def textOf (units : List Nat) : String := String.ofList (decodeUnits units)

def dropDigits : List Char → Option (List Char)
  | [] => none
  | c :: cs => if Text.isDigit c then some (cs.dropWhile Text.isDigit) else none

def dropInteger : List Char → Option (List Char)
  | '0' :: cs => some cs
  | cs => dropDigits cs

def dropFraction : List Char → Option (List Char)
  | '.' :: cs => dropDigits cs
  | cs => some cs

def dropExponent : List Char → Option (List Char)
  | c :: cs =>
      if c = 'e' ∨ c = 'E' then
        match cs with
        | '+' :: cs => dropDigits cs
        | '-' :: cs => dropDigits cs
        | cs => dropDigits cs
      else some (c :: cs)
  | [] => some []

/-- `-?(0|[1-9]\d*)(\.\d+)?([eE][+-]?\d+)?` -/
def isNumberLiteral (cs : List Char) : Bool :=
  let magnitude := match cs with
    | '-' :: cs => cs
    | cs => cs
  (dropInteger magnitude).bind (fun cs => (dropFraction cs).bind dropExponent) == some []

def isNumberChar (c : Char) : Bool := Text.isDigit c || ['-', '+', '.', 'e', 'E'].contains c

/-- What the literals stand for: a number, of which the text reads back as itself, or nothing where
the number is too large. -/
structure Numbers where
  read : List Char → Option JsNumber
  reads_text : ∀ literal n, read literal = some n →
    isNumberLiteral n.text.toList = true ∧ read n.text.toList = some n

/-! ## Values -/

def isSpace (c : Char) : Bool := [' ', '\t', '\n', '\r'].contains c

def skipSpace (cs : List Char) : List Char := cs.dropWhile isSpace

variable (numbers : Numbers)

def parseWord (cs : List Char) : Option (Js × List Char) :=
  if "true".toList.isPrefixOf cs then some (.bool true, cs.drop 4)
  else if "false".toList.isPrefixOf cs then some (.bool false, cs.drop 5)
  else if "null".toList.isPrefixOf cs then some (.null, cs.drop 4)
  else
    let literal := cs.takeWhile isNumberChar
    if isNumberLiteral literal then
      some ((numbers.read literal).elim .nonFinite .number, cs.dropWhile isNumberChar)
    else none

mutual

def parseValue : Nat → List Char → Option (Js × List Char)
  | 0, _ => none
  | fuel + 1, cs =>
      match skipSpace cs with
      | '"' :: rest =>
          match stringBody rest with
          | some (units, rest) => some (.string (textOf units), rest)
          | none => none
      | '[' :: rest =>
          match skipSpace rest with
          | ']' :: rest => some (.array [], rest)
          | rest =>
              match parseElements fuel rest with
              | some (elements, rest) => some (.array elements, rest)
              | none => none
      | '{' :: rest =>
          match skipSpace rest with
          | '}' :: rest => some (.object [], rest)
          | rest =>
              match parseMembers fuel rest with
              | some (members, rest) => some (.object (fromEntries members), rest)
              | none => none
      | cs => parseWord numbers cs

def parseElements : Nat → List Char → Option (List Js × List Char)
  | 0, _ => none
  | fuel + 1, cs =>
      match parseValue fuel cs with
      | some (element, rest) =>
          match skipSpace rest with
          | ']' :: rest => some ([element], rest)
          | ',' :: rest =>
              match parseElements fuel rest with
              | some (elements, rest) => some (element :: elements, rest)
              | none => none
          | _ => none
      | none => none

def parseMembers : Nat → List Char → Option (List (String × Js) × List Char)
  | 0, _ => none
  | fuel + 1, cs =>
      match skipSpace cs with
      | '"' :: rest =>
          match stringBody rest with
          | some (units, rest) =>
              match skipSpace rest with
              | ':' :: rest =>
                  match parseValue fuel rest with
                  | some (value, rest) =>
                      match skipSpace rest with
                      | '}' :: rest => some ([(textOf units, value)], rest)
                      | ',' :: rest =>
                          match parseMembers fuel rest with
                          | some (members, rest) => some ((textOf units, value) :: members, rest)
                          | none => none
                      | _ => none
                  | none => none
              | _ => none
          | none => none
      | _ => none

end

def parse (text : String) : Option Js :=
  match parseValue numbers (2 * text.toList.length + 1) text.toList with
  | some (value, rest) => if skipSpace rest = [] then some value else none
  | none => none

mutual

inductive Value : List Char → Js → List Char → Prop
  | string {cs rest rest' : List Char} {units : List Nat} : skipSpace cs = '"' :: rest →
      stringBody rest = some (units, rest') → Value cs (.string (textOf units)) rest'
  | emptyArray {cs rest rest' : List Char} : skipSpace cs = '[' :: rest →
      skipSpace rest = ']' :: rest' → Value cs (.array []) rest'
  | array {cs rest rest' : List Char} {elements : List Js} : skipSpace cs = '[' :: rest →
      Elements (skipSpace rest) elements rest' → Value cs (.array elements) rest'
  | emptyObject {cs rest rest' : List Char} : skipSpace cs = '{' :: rest →
      skipSpace rest = '}' :: rest' → Value cs (.object []) rest'
  | object {cs rest rest' : List Char} {members : List (String × Js)} :
      skipSpace cs = '{' :: rest → Members (skipSpace rest) members rest' →
        Value cs (.object (fromEntries members)) rest'
  | word {cs rest : List Char} {v : Js} : parseWord numbers (skipSpace cs) = some (v, rest) →
      Value cs v rest

inductive Elements : List Char → List Js → List Char → Prop
  | last {cs rest rest' : List Char} {v : Js} : Value cs v rest → skipSpace rest = ']' :: rest' →
      Elements cs [v] rest'
  | more {cs rest rest' rest'' : List Char} {v : Js} {elements : List Js} : Value cs v rest →
      skipSpace rest = ',' :: rest' → Elements rest' elements rest'' →
        Elements cs (v :: elements) rest''

inductive Members : List Char → List (String × Js) → List Char → Prop
  | last {cs key rest value rest' rest'' : List Char} {units : List Nat} {v : Js} :
      skipSpace cs = '"' :: key → stringBody key = some (units, rest) →
        skipSpace rest = ':' :: value → Value value v rest' → skipSpace rest' = '}' :: rest'' →
          Members cs [(textOf units, v)] rest''
  | more {cs key rest value rest' rest'' last : List Char} {units : List Nat} {v : Js}
      {members : List (String × Js)} :
      skipSpace cs = '"' :: key → stringBody key = some (units, rest) →
        skipSpace rest = ':' :: value → Value value v rest' → skipSpace rest' = ',' :: rest'' →
          Members rest'' members last → Members cs ((textOf units, v) :: members) last

end

variable {numbers}

theorem grammar_of_parse (fuel : Nat) :
    (∀ {cs v rest}, parseValue numbers fuel cs = some (v, rest) → Value numbers cs v rest) ∧
    (∀ {cs elements rest}, parseElements numbers fuel cs = some (elements, rest) →
      Elements numbers cs elements rest) ∧
    ∀ {cs members rest}, parseMembers numbers fuel cs = some (members, rest) →
      Members numbers cs members rest := by
  induction fuel with
  | zero => exact ⟨fun h => (nomatch h), fun h => (nomatch h), fun h => (nomatch h)⟩
  | succ fuel ih =>
      obtain ⟨hvalue, helements, hmembers⟩ := ih
      refine ⟨fun {cs v rest} h => ?_, fun {cs elements rest} h => ?_, fun {cs members rest} h => ?_⟩
      · rw [parseValue] at h
        split at h
        · rename_i body hbody
          split at h
          · rename_i units after hstring
            cases h
            exact .string hbody hstring
          · cases h
        · rename_i body hbody
          split at h
          · rename_i after hafter
            cases h
            exact .emptyArray hbody hafter
          · split at h
            · rename_i elements after helems
              cases h
              exact .array hbody (helements helems)
            · cases h
        · rename_i body hbody
          split at h
          · rename_i after hafter
            cases h
            exact .emptyObject hbody hafter
          · split at h
            · rename_i members after hmems
              cases h
              exact .object hbody (hmembers hmems)
            · cases h
        · exact .word h
      · rw [parseElements] at h
        split at h
        · rename_i element after helement
          split at h
          · rename_i after' hafter
            cases h
            exact .last (hvalue helement) hafter
          · rename_i after' hafter
            split at h
            · rename_i elements last helems
              cases h
              exact .more (hvalue helement) hafter (helements helems)
            · cases h
          · cases h
        · cases h
      · rw [parseMembers] at h
        split at h
        · rename_i key hkey
          split at h
          · rename_i units after hunits
            split at h
            · rename_i value hcolon
              split at h
              · rename_i v after' hv
                split at h
                · rename_i last hlast
                  cases h
                  exact .last hkey hunits hcolon (hvalue hv) hlast
                · rename_i last hlast
                  split at h
                  · rename_i members last' hmems
                    cases h
                    exact .more hkey hunits hcolon (hvalue hv) hlast (hmembers hmems)
                  · cases h
                · cases h
              · cases h
            · cases h
          · cases h
        · cases h

theorem length_skipSpace_le (cs : List Char) : (skipSpace cs).length ≤ cs.length :=
  (List.dropWhile_suffix _).length_le

theorem length_stringBody {cs rest : List Char} {units : List Nat}
    (h : stringBody cs = some (units, rest)) : rest.length < cs.length := by
  fun_induction stringBody cs generalizing units rest with
  | case1 => cases h
  | case2 rest' =>
      cases h
      simp
  | case3 a b c d after u us last hlast hunit ih =>
      cases h
      have hshort := ih hlast
      simp only [List.length_cons]
      omega
  | case4 => cases h
  | case5 c after _ u us last hlast hunit ih =>
      cases h
      have hshort := ih hlast
      simp only [List.length_cons]
      omega
  | case6 => cases h
  | case7 => cases h
  | case8 c after _ _ _ hprintable us last hlast ih =>
      cases h
      have hshort := ih hlast
      simp only [List.length_cons]
      omega
  | case9 => cases h

theorem parseWord_eq_some {cs rest : List Char} {v : Js} (h : parseWord numbers cs = some (v, rest)) :
    (∃ w ∈ ["true".toList, "false".toList, "null".toList], cs = w ++ rest) ∨
      isNumberLiteral (cs.takeWhile isNumberChar) = true ∧ rest = cs.dropWhile isNumberChar := by
  have hword : ∀ {w : List Char}, w.isPrefixOf cs = true → cs = w ++ cs.drop w.length := by
    intro w hw
    obtain ⟨tail, rfl⟩ := List.isPrefixOf_iff_prefix.mp hw
    rw [List.drop_left]
  unfold parseWord at h
  split at h
  · rename_i htrue
    cases h
    exact .inl ⟨_, by simp, hword htrue⟩
  split at h
  · rename_i hfalse
    cases h
    exact .inl ⟨_, by simp, hword hfalse⟩
  split at h
  · rename_i hnull
    cases h
    exact .inl ⟨_, by simp, hword hnull⟩
  · dsimp only at h
    split at h
    · rename_i hliteral
      cases h
      exact .inr ⟨hliteral, rfl⟩
    · cases h

theorem length_parseWord {cs rest : List Char} {v : Js} (h : parseWord numbers cs = some (v, rest)) :
    rest.length < cs.length := by
  rcases parseWord_eq_some h with ⟨w, hw, rfl⟩ | ⟨hliteral, rfl⟩
  · rw [List.length_append]
    simp only [List.mem_cons, List.not_mem_nil, or_false] at hw
    rcases hw with rfl | rfl | rfl <;> simp
  · have hsplit := congrArg List.length (@List.takeWhile_append_dropWhile _ isNumberChar cs)
    rw [List.length_append] at hsplit
    cases htake : cs.takeWhile isNumberChar with
    | nil =>
        rw [htake] at hliteral
        exact absurd hliteral (by decide)
    | cons c literal =>
        rw [htake, List.length_cons] at hsplit
        omega

theorem length_of_skipSpace {cs rest : List Char} {c : Char} (h : skipSpace cs = c :: rest) :
    rest.length < cs.length := by
  have hspace := length_skipSpace_le cs
  rw [h, List.length_cons] at hspace
  exact hspace

theorem length_skipSpace_of {cs rest : List Char} {c : Char} (h : skipSpace cs = c :: rest) :
    (skipSpace rest).length < cs.length :=
  (length_skipSpace_le rest).trans_lt (length_of_skipSpace h)

mutual

theorem Value.length_lt : ∀ {cs v rest}, Value numbers cs v rest → rest.length < cs.length
  | _, _, _, .string hbody hstring =>
      (length_stringBody hstring).trans (length_of_skipSpace hbody)
  | _, _, _, .emptyArray hbody hclose =>
      (length_of_skipSpace hclose).trans (length_of_skipSpace hbody)
  | _, _, _, .array hbody helements =>
      helements.length_lt.trans (length_skipSpace_of hbody)
  | _, _, _, .emptyObject hbody hclose =>
      (length_of_skipSpace hclose).trans (length_of_skipSpace hbody)
  | _, _, _, .object hbody hmembers =>
      hmembers.length_lt.trans (length_skipSpace_of hbody)
  | _, _, _, .word hword => (length_parseWord hword).trans_le (length_skipSpace_le _)

theorem Elements.length_lt :
    ∀ {cs elements rest}, Elements numbers cs elements rest → rest.length < cs.length
  | _, _, _, .last hvalue hclose => (length_of_skipSpace hclose).trans hvalue.length_lt
  | _, _, _, .more hvalue hcomma helements =>
      (helements.length_lt.trans (length_of_skipSpace hcomma)).trans hvalue.length_lt

theorem Members.length_lt :
    ∀ {cs members rest}, Members numbers cs members rest → rest.length < cs.length
  | _, _, _, .last hkey hstring hcolon hvalue hclose =>
      (((length_of_skipSpace hclose).trans hvalue.length_lt).trans
        (length_of_skipSpace hcolon)).trans
          ((length_stringBody hstring).trans (length_of_skipSpace hkey))
  | _, _, _, .more hkey hstring hcolon hvalue hcomma hmembers =>
      (((hmembers.length_lt.trans (length_of_skipSpace hcomma)).trans hvalue.length_lt).trans
        (length_of_skipSpace hcolon)).trans
          ((length_stringBody hstring).trans (length_of_skipSpace hkey))

end

theorem parseWord_ne_cons {cs rest rest' : List Char} {v : Js} {c : Char}
    (hletter : c ∉ ['t', 'f', 'n']) (hnumber : isNumberChar c = false)
    (h : parseWord numbers cs = some (v, rest)) : cs ≠ c :: rest' := by
  rintro rfl
  rcases parseWord_eq_some h with ⟨w, hw, hcs⟩ | ⟨hliteral, -⟩
  · have hfirst := congrArg List.head? hcs
    simp only [List.mem_cons, List.not_mem_nil, or_false] at hw
    rcases hw with rfl | rfl | rfl <;>
    · obtain rfl : c = _ := by simpa using hfirst
      exact hletter (by simp)
  · rw [List.takeWhile_cons_of_neg (by rw [hnumber]; exact Bool.false_ne_true)] at hliteral
    exact absurd hliteral (by decide)

theorem Value.ne_close {cs rest rest' : List Char} {v : Js} {c : Char}
    (hc : c = ']' ∨ c = '}' ∨ c = ',') (h : Value numbers cs v rest) : skipSpace cs ≠ c :: rest' := by
  have hother : ∀ {d : Char} {body : List Char}, d = '"' ∨ d = '[' ∨ d = '{' →
      skipSpace cs = d :: body → skipSpace cs ≠ c :: rest' := by
    intro d body hd hbody hhead
    rw [hbody] at hhead
    obtain rfl := (List.cons.inj hhead).1
    rcases hc with rfl | rfl | rfl <;> simp at hd
  cases h with
  | string hbody _ => exact hother (.inl rfl) hbody
  | emptyArray hbody _ => exact hother (.inr (.inl rfl)) hbody
  | array hbody _ => exact hother (.inr (.inl rfl)) hbody
  | emptyObject hbody _ => exact hother (.inr (.inr rfl)) hbody
  | object hbody _ => exact hother (.inr (.inr rfl)) hbody
  | word hword =>
      rcases hc with rfl | rfl | rfl <;>
        exact parseWord_ne_cons (by decide) (by decide) hword

theorem Elements.ne_close {cs rest rest' : List Char} {elements : List Js}
    (h : Elements numbers cs elements rest) : skipSpace cs ≠ ']' :: rest' := by
  cases h with
  | last hvalue _ => exact hvalue.ne_close (.inl rfl)
  | more hvalue _ _ => exact hvalue.ne_close (.inl rfl)

theorem Members.ne_close {cs rest rest' : List Char} {members : List (String × Js)}
    (h : Members numbers cs members rest) : skipSpace cs ≠ '}' :: rest' := by
  intro hhead
  cases h with
  | last hkey _ _ _ _ =>
      rw [hkey] at hhead
      cases (List.cons.inj hhead).1
  | more hkey _ _ _ _ _ =>
      rw [hkey] at hhead
      cases (List.cons.inj hhead).1

theorem skipSpace_skipSpace (cs : List Char) : skipSpace (skipSpace cs) = skipSpace cs := by
  cases h : skipSpace cs with
  | nil => rfl
  | cons c rest =>
      have hhead := List.head?_dropWhile_not isSpace cs
      rw [show cs.dropWhile isSpace = c :: rest from h] at hhead
      have hc : isSpace c = false := by simpa using hhead
      rw [skipSpace, List.dropWhile_cons_of_neg (by rw [hc]; exact Bool.false_ne_true)]

theorem parseValue_array {fuel : Nat} {cs rest rest' : List Char} {elements : List Js}
    (hbody : skipSpace cs = '[' :: rest) (hopen : ∀ after, skipSpace rest ≠ ']' :: after)
    (h : parseElements numbers fuel (skipSpace rest) = some (elements, rest')) :
    parseValue numbers (fuel + 1) cs = some (.array elements, rest') := by
  simp only [parseValue, hbody, h]

theorem parseValue_object {fuel : Nat} {cs rest rest' : List Char} {members : List (String × Js)}
    (hbody : skipSpace cs = '{' :: rest) (hopen : ∀ after, skipSpace rest ≠ '}' :: after)
    (h : parseMembers numbers fuel (skipSpace rest) = some (members, rest')) :
    parseValue numbers (fuel + 1) cs = some (.object (fromEntries members), rest') := by
  simp only [parseValue, hbody, h]

theorem parseValue_word {fuel : Nat} {cs rest : List Char} {v : Js}
    (h : parseWord numbers (skipSpace cs) = some (v, rest)) :
    parseValue numbers (fuel + 1) cs = some (v, rest) := by
  rw [parseValue]
  split
  · rename_i body hbody
    exact absurd hbody (parseWord_ne_cons (by decide) (by decide) h)
  · rename_i body hbody
    exact absurd hbody (parseWord_ne_cons (by decide) (by decide) h)
  · rename_i body hbody
    exact absurd hbody (parseWord_ne_cons (by decide) (by decide) h)
  · exact h

mutual

theorem Value.parseValue : ∀ {cs v rest}, Value numbers cs v rest → ∀ {fuel},
    2 * cs.length < fuel → parseValue numbers fuel cs = some (v, rest)
  | cs, _, _, .string hbody hstring, fuel + 1, _ => by
      simp only [Json.parseValue, hbody, hstring]
  | cs, _, _, .emptyArray hbody hclose, fuel + 1, _ => by
      simp only [Json.parseValue, hbody, hclose]
  | cs, _, _, .array hbody helements, fuel + 1, hfuel => by
      have hshort := length_skipSpace_of hbody
      refine parseValue_array hbody (fun after => ?_) (helements.parseElements (by omega))
      rw [← skipSpace_skipSpace]
      exact helements.ne_close
  | cs, _, _, .emptyObject hbody hclose, fuel + 1, _ => by
      simp only [Json.parseValue, hbody, hclose]
  | cs, _, _, .object hbody hmembers, fuel + 1, hfuel => by
      have hshort := length_skipSpace_of hbody
      refine parseValue_object hbody (fun after => ?_) (hmembers.parseMembers (by omega))
      rw [← skipSpace_skipSpace]
      exact hmembers.ne_close
  | _, _, _, .word hword, fuel + 1, _ => parseValue_word hword

theorem Elements.parseElements : ∀ {cs elements rest}, Elements numbers cs elements rest →
    ∀ {fuel}, 2 * cs.length + 1 < fuel → parseElements numbers fuel cs = some (elements, rest)
  | _, _, _, .last hvalue hclose, fuel + 1, hfuel => by
      have helement := hvalue.parseValue (Nat.lt_of_succ_lt_succ hfuel)
      simp only [Json.parseElements, helement, hclose]
  | _, _, _, .more hvalue hcomma helements, fuel + 1, hfuel => by
      have hshort := hvalue.length_lt
      have hspace := length_of_skipSpace hcomma
      have helement := hvalue.parseValue (Nat.lt_of_succ_lt_succ hfuel)
      have hrest := @Elements.parseElements _ _ _ helements fuel (by omega)
      simp only [Json.parseElements, helement, hcomma, hrest]

theorem Members.parseMembers : ∀ {cs members rest}, Members numbers cs members rest →
    ∀ {fuel}, 2 * cs.length + 1 < fuel → parseMembers numbers fuel cs = some (members, rest)
  | _, _, _, .last hkey hstring hcolon hvalue hclose, fuel + 1, hfuel => by
      have hspace := length_of_skipSpace hkey
      have hshort := length_stringBody hstring
      have hspace' := length_of_skipSpace hcolon
      have hmember := @Value.parseValue _ _ _ hvalue fuel (by omega)
      simp only [Json.parseMembers, hkey, hstring, hcolon, hmember, hclose]
  | _, _, _, .more hkey hstring hcolon hvalue hcomma hmembers, fuel + 1, hfuel => by
      have hspace := length_of_skipSpace hkey
      have hshort := length_stringBody hstring
      have hspace' := length_of_skipSpace hcolon
      have hshort' := hvalue.length_lt
      have hspace'' := length_of_skipSpace hcomma
      have hmember := @Value.parseValue _ _ _ hvalue fuel (by omega)
      have hrest := @Members.parseMembers _ _ _ hmembers fuel (by omega)
      simp only [Json.parseMembers, hkey, hstring, hcolon, hmember, hcomma, hrest]

end

theorem parse_eq_some_iff {text : String} {v : Js} : parse numbers text = some v ↔
    ∃ rest, Value numbers text.toList v rest ∧ skipSpace rest = [] := by
  unfold parse
  constructor
  · intro h
    split at h
    · rename_i value rest hvalue
      split at h
      · rename_i hrest
        cases h
        exact ⟨rest, (grammar_of_parse _).1 hvalue, hrest⟩
      · cases h
    · cases h
  · rintro ⟨rest, hvalue, hrest⟩
    rw [hvalue.parseValue (Nat.lt_succ_self _)]
    exact if_pos hrest

end KubeNova.Foundation.Json
