import KubeNova.Foundation.JsonRoundTrip
import KubeNova.Foundation.Results
import KubeNova.Monitoring.AlertmanagerInput
import Mathlib.Data.List.Infix

/-!
# The text of a notification

`renderNotificationPayload`, which puts the title and the message of an alert into the texts of a
template.  Whatever the alert says, the structure of the template stays as it is; only a number that
is too large to be finite is lost.
-/

namespace KubeNova.Monitoring

open KubeNova.Common KubeNova.Foundation Results

structure NotificationValues where
  title : String
  message : String

def NotificationValues.get? (values : NotificationValues) (key : String) : Option String :=
  if key = "title" then some values.title
  else if key = "message" then some values.message
  else none

def invalidPayload : Exception :=
  .badRequest "通知正文必须是有效的 JSON 对象，变量仅支持 title 和 message"

def notBrace (c : Char) : Bool := c ≠ '{' && c ≠ '}'

/-- What stands between the braces with which the text begins, by the pattern
`\{\{\s*([^{}]+?)\s*\}\}`. -/
def placeholder? : List Char → Option (List Char)
  | '{' :: '{' :: cs =>
      if cs.takeWhile notBrace ≠ [] ∧ ['}', '}'].isPrefixOf (cs.dropWhile notBrace) then
        some (cs.takeWhile notBrace)
      else none
  | _ => none

inductive Segment where
  | plain (c : Char)
  | placeholder (name : List Char)
  deriving DecidableEq

/-- The text cut at its placeholders, where the next characters are of the last of them. -/
def scan : Nat → List Char → List Segment
  | _, [] => []
  | skip + 1, _ :: cs => scan skip cs
  | 0, c :: cs =>
      match placeholder? (c :: cs) with
      | some name => .placeholder name :: scan (name.length + 3) cs
      | none => .plain c :: scan 0 cs

def placeholderKey (name : List Char) : String := String.ofList (Text.trimChars name)

/-- `value.replace(…)` with the bytes of what was put in so far. -/
def replaceAll (values : NotificationValues) :
    List Segment → Nat → Except Exception (List Char × Nat)
  | [], expandedBytes => .ok ([], expandedBytes)
  | .plain c :: rest, expandedBytes => do
      let (text, expandedBytes) ← replaceAll values rest expandedBytes
      .ok (c :: text, expandedBytes)
  | .placeholder name :: rest, expandedBytes =>
      match values.get? (placeholderKey name) with
      | none => .error invalidPayload
      | some value =>
          let expandedBytes := expandedBytes + byteLength value.toList
          if 262144 < expandedBytes then .error invalidPayload
          else do
            let (text, expandedBytes) ← replaceAll values rest expandedBytes
            .ok (value.toList ++ text, expandedBytes)

mutual

def render (values : NotificationValues) (depth : Nat) (value : Js) (expandedBytes : Nat) :
    Except Exception (Js × Nat) :=
  if 32 < depth then .error invalidPayload
  else match value with
    | .string text => do
        let (text, expandedBytes) ← replaceAll values (scan 0 text.toList) expandedBytes
        .ok (.string (String.ofList text), expandedBytes)
    | .array elements => do
        let (elements, expandedBytes) ← renderElements values (depth + 1) elements expandedBytes
        .ok (.array elements, expandedBytes)
    | .object fields => do
        let (fields, expandedBytes) ← renderFields values (depth + 1) fields expandedBytes
        .ok (.object (fromEntries fields), expandedBytes)
    | value => .ok (value, expandedBytes)

def renderElements (values : NotificationValues) (depth : Nat) :
    List Js → Nat → Except Exception (List Js × Nat)
  | [], expandedBytes => .ok ([], expandedBytes)
  | item :: rest, expandedBytes => do
      let (item, expandedBytes) ← render values depth item expandedBytes
      let (rest, expandedBytes) ← renderElements values depth rest expandedBytes
      .ok (item :: rest, expandedBytes)

def renderFields (values : NotificationValues) (depth : Nat) :
    List (String × Js) → Nat → Except Exception (List (String × Js) × Nat)
  | [], expandedBytes => .ok ([], expandedBytes)
  | (key, item) :: rest, expandedBytes =>
      if Text.contains "\x7b\x7b" key then .error invalidPayload
      else do
        let (item, expandedBytes) ← render values depth item expandedBytes
        let (rest, expandedBytes) ← renderFields values depth rest expandedBytes
        .ok ((key, item) :: rest, expandedBytes)

end

def renderNotificationPayload (numbers : Json.Numbers) (template : String)
    (values : NotificationValues) : Except Exception String :=
  if 65536 < byteLength template.toList ∨ 65536 < byteLength values.title.toList ∨
      65536 < byteLength values.message.toList then .error invalidPayload
  else match Json.parse numbers template with
    | some (.object fields) => do
        let (rendered, _) ← render values 0 (.object fields) (byteLength template.toList)
        let output := Json.stringify rendered
        if 262144 < byteLength output then .error invalidPayload else .ok (String.ofList output)
    | _ => .error invalidPayload

/-! ## Where the placeholders are -/

def IsName (name : List Char) : Prop := name ≠ [] ∧ ∀ c ∈ name, notBrace c = true

def occurrence (name : List Char) : List Char := '{' :: '{' :: (name ++ ['}', '}'])

def NoPlaceholder (text : List Char) : Prop := ∀ name, IsName name → ¬occurrence name <:+: text

theorem placeholder?_occurrence {name : List Char} (hname : IsName name) (rest : List Char) :
    placeholder? (occurrence name ++ rest) = some name := by
  have htext : occurrence name ++ rest = '{' :: '{' :: (name ++ '}' :: '}' :: rest) := by
    simp [occurrence]
  have htake : (name ++ '}' :: '}' :: rest).takeWhile notBrace = name := by
    rw [List.takeWhile_append_of_pos hname.2, List.takeWhile_cons_of_neg (by decide),
      List.append_nil]
  have hdrop : (name ++ '}' :: '}' :: rest).dropWhile notBrace = '}' :: '}' :: rest := by
    rw [List.dropWhile_append_of_pos hname.2, List.dropWhile_cons_of_neg (by decide)]
  rw [htext, placeholder?, htake, hdrop, if_pos ⟨hname.1, rfl⟩]

theorem eq_of_placeholder? {cs name : List Char} (h : placeholder? cs = some name) :
    IsName name ∧ ∃ rest, cs = occurrence name ++ rest := by
  unfold placeholder? at h
  split at h
  · rename_i cs
    split at h
    · rename_i hbody
      have hsplit := (@List.takeWhile_append_dropWhile _ notBrace cs).symm
      obtain ⟨rest, hrest⟩ := List.isPrefixOf_iff_prefix.mp hbody.2
      cases h
      refine ⟨⟨hbody.1, fun c hc => List.mem_takeWhile_imp hc⟩, rest, ?_⟩
      rw [← hrest] at hsplit
      simpa [occurrence] using hsplit
    · cases h
  · cases h

theorem occurrence_prefix {name name' pre rest rest' : List Char} (hname : IsName name)
    (hpre : pre ≠ [])
    (h : occurrence name ++ rest = pre ++ (occurrence name' ++ rest')) :
    ∃ tail, pre = occurrence name ++ tail := by
  rcases List.append_eq_append_iff.mp h with ⟨tail, htail, -⟩ | ⟨overlap, hover, hrest⟩
  · exact ⟨tail, htail⟩
  · cases overlap with
    | nil =>
        rw [List.append_nil] at hover
        exact ⟨[], by rw [List.append_nil, hover]⟩
    | cons c overlap =>
        -- the other placeholder would begin inside this one, at a brace that opens none
        exfalso
        obtain ⟨d, pre, rfl⟩ := List.exists_cons_of_ne_nil hpre
        have hc : c = '{' := by
          have hhead := congrArg List.head? hrest
          simpa [occurrence] using hhead.symm
        subst hc
        cases pre with
        | nil =>
            obtain ⟨e, name, rfl⟩ := List.exists_cons_of_ne_nil hname.1
            simp only [occurrence, List.cons_append, List.nil_append, List.cons.injEq] at hover hrest
            have hbrace : e = '{' := by
              have hsecond := hrest.2
              rw [← hover.2.2] at hsecond
              have hhead := congrArg List.head? hsecond
              simpa using hhead.symm
            subst hbrace
            exact absurd (hname.2 _ List.mem_cons_self) (by decide)
        | cons e pre =>
            simp only [occurrence, List.cons_append, List.cons.injEq] at hover
            have hmem : '{' ∈ name ++ ['}', '}'] := by
              rw [hover.2.2]
              exact List.mem_append_right _ List.mem_cons_self
            rcases List.mem_append.mp hmem with hmem | hmem
            · exact absurd (hname.2 _ hmem) (by decide)
            · simp at hmem

theorem scan_skip (xs ys : List Char) : scan xs.length (xs ++ ys) = scan 0 ys := by
  induction xs with
  | nil => rfl
  | cons x xs ih => exact ih

theorem scan_occurrence {name : List Char} (hname : IsName name) (rest : List Char) :
    scan 0 (occurrence name ++ rest) = .placeholder name :: scan 0 rest := by
  have hplaceholder := placeholder?_occurrence hname rest
  have htail : occurrence name ++ rest = '{' :: (('{' :: (name ++ ['}', '}'])) ++ rest) := by
    simp [occurrence]
  have hlength : name.length + 3 = ('{' :: (name ++ ['}', '}'])).length := by simp
  rw [htail] at hplaceholder ⊢
  rw [scan, hplaceholder]
  show _ :: scan (name.length + 3) _ = _
  rw [hlength, scan_skip]

theorem scan_append_occurrence {name : List Char} (hname : IsName name) (rest : List Char) :
    ∀ (pre : List Char) (skip : Nat), skip ≤ pre.length →
      scan skip (pre ++ (occurrence name ++ rest)) =
        scan skip pre ++ .placeholder name :: scan 0 rest := by
  intro pre
  induction pre with
  | nil =>
      intro skip hskip
      obtain rfl : skip = 0 := Nat.le_zero.mp hskip
      exact scan_occurrence hname rest
  | cons c pre ih =>
      intro skip hskip
      cases skip with
      | succ skip => exact ih skip (Nat.le_of_succ_le_succ hskip)
      | zero =>
          have hsame : placeholder? (c :: (pre ++ (occurrence name ++ rest))) =
              placeholder? (c :: pre) := by
            cases hpre : placeholder? (c :: pre) with
            | some other =>
                obtain ⟨hother, tail, htail⟩ := eq_of_placeholder? hpre
                rw [← List.cons_append, htail, List.append_assoc]
                exact placeholder?_occurrence hother _
            | none =>
                cases hall : placeholder? (c :: (pre ++ (occurrence name ++ rest))) with
                | none => rfl
                | some other =>
                    obtain ⟨hother, tail, htail⟩ := eq_of_placeholder? hall
                    rw [← List.cons_append] at htail
                    obtain ⟨tail', htail'⟩ :=
                      occurrence_prefix hother (List.cons_ne_nil c pre) htail.symm
                    rw [htail', placeholder?_occurrence hother] at hpre
                    cases hpre
          rw [List.cons_append, scan, scan, hsame]
          cases hpre : placeholder? (c :: pre) with
          | none => exact congrArg _ (ih 0 (Nat.zero_le _))
          | some other =>
              obtain ⟨-, tail, htail⟩ := eq_of_placeholder? hpre
              have hlength := congrArg List.length htail
              simp only [occurrence, List.length_cons, List.length_append] at hlength
              exact congrArg _ (ih _ (by simp at hlength; omega))

theorem scan_plain {text : List Char} (h : NoPlaceholder text) :
    scan 0 text = text.map .plain := by
  induction text with
  | nil => rfl
  | cons c text ih =>
      have hnone : placeholder? (c :: text) = none := by
        rw [Option.eq_none_iff_forall_not_mem]
        intro name hname
        obtain ⟨hname, rest, hrest⟩ := eq_of_placeholder? hname
        exact h name hname (hrest ▸ List.infix_append [] _ _)
      rw [scan, hnone, List.map_cons, ← ih fun name hname hoccurs =>
        h name hname (hoccurs.trans (List.suffix_cons c text).isInfix)]

theorem noPlaceholder_or_first (text : List Char) : NoPlaceholder text ∨
    ∃ pre name rest, text = pre ++ (occurrence name ++ rest) ∧ NoPlaceholder pre ∧ IsName name := by
  induction text with
  | nil =>
      left
      intro name _ hoccurs
      simp [occurrence] at hoccurs
  | cons c text ih =>
      cases hhead : placeholder? (c :: text) with
      | some name =>
          obtain ⟨hname, rest, hrest⟩ := eq_of_placeholder? hhead
          refine .inr ⟨[], name, rest, hrest, ?_, hname⟩
          intro other _ hoccurs
          simp [occurrence] at hoccurs
      | none =>
          have hno : ∀ pre, pre <+: c :: text → NoPlaceholder (pre.drop 1) → NoPlaceholder pre := by
            intro pre hpre hdrop name hname hoccurs
            cases pre with
            | nil => simp [occurrence] at hoccurs
            | cons d pre =>
                rcases List.infix_cons_iff.mp hoccurs with hprefix | hlater
                · obtain ⟨rest, hrest⟩ := hprefix.trans hpre
                  rw [← hrest, placeholder?_occurrence hname] at hhead
                  cases hhead
                · exact hdrop name hname hlater
          rcases ih with hnone | ⟨pre, name, rest, htext, hpre, hname⟩
          · exact .inl (hno _ (List.prefix_refl _) hnone)
          · subst htext
            refine .inr ⟨c :: pre, name, rest, rfl, hno _ ?_ hpre, hname⟩
            exact List.prefix_append (c :: pre) _

variable {values : NotificationValues}

/-- The text with its placeholders replaced, from the first to the last: what was put in is not
looked at again. -/
inductive Filled (values : NotificationValues) : List Char → List Char → Prop
  | plain {text : List Char} : NoPlaceholder text → Filled values text text
  | placeholder {pre name rest filled : List Char} {value : String} : NoPlaceholder pre →
      IsName name → values.get? (placeholderKey name) = some value → Filled values rest filled →
        Filled values (pre ++ (occurrence name ++ rest)) (pre ++ (value.toList ++ filled))

def Segment.fill (values : NotificationValues) : Segment → List Char
  | plain c => [c]
  | placeholder name => (values.get? (placeholderKey name)).elim [] String.toList

def fillText (values : NotificationValues) (text : String) : String :=
  String.ofList ((scan 0 text.toList).flatMap (Segment.fill values))

theorem flatMap_fill_plain (text : List Char) :
    (text.map Segment.plain).flatMap (Segment.fill values) = text := by
  induction text with
  | nil => rfl
  | cons c text ih => rw [List.map_cons, List.flatMap_cons, ih]; rfl

def Known (values : NotificationValues) (text : List Char) : Prop :=
  ∀ name, .placeholder name ∈ scan 0 text → ∃ value, values.get? (placeholderKey name) = some value

theorem filled_fill : ∀ (n : Nat) (text : List Char), text.length < n → Known values text →
    Filled values text ((scan 0 text).flatMap (Segment.fill values)) := by
  intro n
  induction n with
  | zero => exact fun text hlength => absurd hlength (Nat.not_lt_zero _)
  | succ n ih =>
      intro text hlength hknown
      rcases noPlaceholder_or_first text with hnone | ⟨pre, name, rest, rfl, hpre, hname⟩
      · rw [scan_plain hnone, flatMap_fill_plain]
        exact .plain hnone
      · have hscan := scan_append_occurrence hname rest pre 0 (Nat.zero_le _)
        obtain ⟨value, hvalue⟩ := hknown name (by rw [hscan]; simp)
        have hrest : Known values rest := by
          intro other hother
          exact hknown other (by rw [hscan]; simp [hother])
        have hshort : rest.length < n := by
          simp only [occurrence, List.length_append, List.length_cons] at hlength
          omega
        rw [hscan, scan_plain hpre, List.flatMap_append, flatMap_fill_plain, List.flatMap_cons,
          Segment.fill, hvalue]
        exact .placeholder hpre hname hvalue (ih rest hshort hrest)

theorem filled_fillText {text : String} (h : Known values text.toList) :
    Filled values text.toList (fillText values text).toList := by
  rw [fillText, String.toList_ofList]
  exact filled_fill _ _ (Nat.lt_succ_self _) h

theorem replaceAll_eq_ok {segments : List Segment} {bytes bytes' : Nat} {text : List Char}
    (h : replaceAll values segments bytes = .ok (text, bytes')) :
    text = segments.flatMap (Segment.fill values) ∧
      ∀ name, .placeholder name ∈ segments →
        ∃ value, values.get? (placeholderKey name) = some value := by
  induction segments generalizing bytes bytes' text with
  | nil =>
      cases h
      exact ⟨rfl, fun name hname => absurd hname List.not_mem_nil⟩
  | cons segment segments ih =>
      cases segment with
      | plain c =>
          rw [replaceAll, bind_eq_ok] at h
          obtain ⟨r, hrest, h⟩ := h
          cases h
          obtain ⟨htext, hknown⟩ := ih hrest
          refine ⟨by rw [List.flatMap_cons, ← htext]; rfl, fun name hname => ?_⟩
          exact hknown name (List.mem_of_ne_of_mem (by simp) hname)
      | placeholder name =>
          rw [replaceAll] at h
          split at h
          · cases h
          · rename_i value hvalue
            dsimp only at h
            split at h
            · cases h
            · obtain ⟨r, hrest, h⟩ := bind_eq_ok.mp h
              cases h
              obtain ⟨htext, hknown⟩ := ih hrest
              refine ⟨by rw [List.flatMap_cons, ← htext, Segment.fill, hvalue]; rfl, ?_⟩
              intro other hother
              rcases List.mem_cons.mp hother with heq | hother
              · cases heq
                exact ⟨value, hvalue⟩
              · exact hknown other hother

def KnownTexts (values : NotificationValues) (v : Js) : Prop :=
  ∀ text ∈ v.texts, Known values text.toList

def Renders (values : NotificationValues) (v : Js) : Prop :=
  ∀ {depth bytes bytes' : Nat} {w : Js}, render values depth v bytes = .ok (w, bytes') →
    w = v.mapStrings (fillText values) ∧ KnownTexts values v

theorem renderElements_eq_ok {elements elements' : List Js} {depth bytes bytes' : Nat}
    (ih : ∀ e ∈ elements, Renders values e)
    (h : renderElements values depth elements bytes = .ok (elements', bytes')) :
    elements' = Js.mapElements (fillText values) elements ∧
      ∀ text ∈ Js.elementTexts elements, Known values text.toList := by
  induction elements generalizing elements' bytes bytes' with
  | nil =>
      cases h
      exact ⟨rfl, fun text htext => absurd htext List.not_mem_nil⟩
  | cons item rest ihrest =>
      rw [renderElements] at h
      obtain ⟨r, hitem, h⟩ := bind_eq_ok.mp h
      obtain ⟨r', hrest, h⟩ := bind_eq_ok.mp h
      cases h
      obtain ⟨hvalue, hknown⟩ := ih item List.mem_cons_self hitem
      obtain ⟨hvalues, hknown'⟩ :=
        ihrest (fun e he => ih e (List.mem_cons_of_mem _ he)) hrest
      refine ⟨by rw [Js.mapElements, hvalue, hvalues], fun text htext => ?_⟩
      rcases List.mem_append.mp htext with htext | htext
      · exact hknown text htext
      · exact hknown' text htext

theorem known_key {key : String} (h : Text.contains "\x7b\x7b" key = false) :
    Known values key.toList := by
  have hnone : NoPlaceholder key.toList := by
    intro name _ hoccurs
    obtain ⟨pre, rest, htext⟩ := hoccurs
    have htail : occurrence name ++ rest ∈ key.toList.tails := by
      rw [List.mem_tails, ← htext, List.append_assoc]
      exact List.suffix_append _ _
    have hfound : Text.contains "\x7b\x7b" key = true :=
      List.any_eq_true.mpr ⟨_, htail, rfl⟩
    rw [h] at hfound
    cases hfound
  intro name hname
  rw [scan_plain hnone] at hname
  simp at hname

theorem renderFields_eq_ok {fields fields' : List (String × Js)} {depth bytes bytes' : Nat}
    (ih : ∀ f ∈ fields, Renders values f.2)
    (h : renderFields values depth fields bytes = .ok (fields', bytes')) :
    fields' = Js.mapFields (fillText values) fields ∧
      ∀ text ∈ Js.fieldTexts fields, Known values text.toList := by
  induction fields generalizing fields' bytes bytes' with
  | nil =>
      cases h
      exact ⟨rfl, fun text htext => absurd htext List.not_mem_nil⟩
  | cons field rest ihrest =>
      obtain ⟨key, item⟩ := field
      rw [renderFields] at h
      split at h
      · cases h
      rename_i hkey
      obtain ⟨r, hitem, h⟩ := bind_eq_ok.mp h
      obtain ⟨r', hrest, h⟩ := bind_eq_ok.mp h
      cases h
      obtain ⟨hvalue, hknown⟩ := ih (key, item) List.mem_cons_self hitem
      obtain ⟨hvalues, hknown'⟩ :=
        ihrest (fun f hf => ih f (List.mem_cons_of_mem _ hf)) hrest
      refine ⟨by rw [Js.mapFields, hvalue, hvalues], fun text htext => ?_⟩
      rcases List.mem_cons.mp htext with rfl | htext
      · exact known_key (Bool.not_eq_true _ ▸ hkey)
      rcases List.mem_append.mp htext with htext | htext
      · exact hknown text htext
      · exact hknown' text htext

theorem renders_leaf {v : Js} (hrender : ∀ depth bytes, render values depth v bytes =
    if 32 < depth then .error invalidPayload else .ok (v, bytes))
    (hmap : v.mapStrings (fillText values) = v) (htexts : v.texts = []) : Renders values v := by
  intro depth bytes bytes' w h
  rw [hrender] at h
  split at h
  · cases h
  cases h
  refine ⟨hmap.symm, fun text htext => ?_⟩
  rw [htexts] at htext
  exact absurd htext List.not_mem_nil

variable {numbers : Json.Numbers}

theorem renders {v : Js} (hv : Json.Parsed numbers v) : Renders values v := by
  induction hv with
  | null => exact renders_leaf (fun _ _ => by simp only [render]) rfl rfl
  | nonFinite => exact renders_leaf (fun _ _ => by simp only [render]) rfl rfl
  | bool value => exact renders_leaf (fun _ _ => by simp only [render]) rfl rfl
  | number _ _ => exact renders_leaf (fun _ _ => by simp only [render]) rfl rfl
  | string text =>
      intro depth bytes bytes' w h
      rw [render] at h
      split at h
      · cases h
      obtain ⟨r, htext, h⟩ := bind_eq_ok.mp h
      cases h
      obtain ⟨hfilled, hknown⟩ := replaceAll_eq_ok htext
      refine ⟨by rw [hfilled]; rfl, fun other hother => ?_⟩
      obtain rfl := List.mem_singleton.mp hother
      exact hknown
  | array _ ih =>
      intro depth bytes bytes' w h
      rw [render] at h
      split at h
      · cases h
      obtain ⟨r, helements, h⟩ := bind_eq_ok.mp h
      cases h
      obtain ⟨hvalues, hknown⟩ := renderElements_eq_ok ih helements
      exact ⟨by rw [hvalues]; rfl, hknown⟩
  | object hnodup horder _ ih =>
      intro depth bytes bytes' w h
      rw [render] at h
      split at h
      · cases h
      obtain ⟨r, hfields, h⟩ := bind_eq_ok.mp h
      cases h
      obtain ⟨hvalues, hknown⟩ := renderFields_eq_ok ih hfields
      refine ⟨?_, hknown⟩
      have hkeys : (r.1.map Prod.fst).Nodup := by
        rw [hvalues, Js.mapFields_eq, List.map_map]
        exact hnodup
      rw [fromEntries_of_nodup hkeys, hvalues, Js.mapFields_eq, ownOrder_map, horder,
        Js.mapStrings, Js.mapFields_eq]

def Refuses {α : Type} (x : Except Exception α) : Prop := ∀ e, x = .error e → e = invalidPayload

theorem Refuses.ok {α : Type} (a : α) : Refuses (.ok a) := fun _ h => nomatch h

theorem Refuses.error {α : Type} : Refuses (.error invalidPayload : Except Exception α) := by
  intro e h
  cases h
  rfl

theorem Refuses.bind {α β : Type} {x : Except Exception α} {f : α → Except Exception β}
    (hx : Refuses x) (hf : ∀ a, Refuses (f a)) : Refuses (x >>= f) := by
  cases x with
  | error e =>
      intro e' h
      cases h
      exact hx e rfl
  | ok a => exact hf a

theorem refuses_replaceAll (segments : List Segment) (bytes : Nat) :
    Refuses (replaceAll values segments bytes) := by
  induction segments generalizing bytes with
  | nil => exact .ok _
  | cons segment segments ih =>
      cases segment with
      | plain c => exact (ih bytes).bind fun r => .ok _
      | placeholder name =>
          rw [replaceAll]
          split
          · exact .error
          · dsimp only
            split
            · exact .error
            · exact (ih _).bind fun r => .ok _

theorem refuses_renderElements {elements : List Js} {depth : Nat}
    (ih : ∀ e ∈ elements, ∀ depth bytes, Refuses (render values depth e bytes)) (bytes : Nat) :
    Refuses (renderElements values depth elements bytes) := by
  induction elements generalizing bytes with
  | nil => exact .ok _
  | cons item rest ihrest =>
      rw [renderElements]
      refine (ih item List.mem_cons_self depth bytes).bind fun r => ?_
      exact (ihrest (fun e he => ih e (List.mem_cons_of_mem _ he)) r.2).bind fun r => .ok _

theorem refuses_renderFields {fields : List (String × Js)} {depth : Nat}
    (ih : ∀ f ∈ fields, ∀ depth bytes, Refuses (render values depth f.2 bytes)) (bytes : Nat) :
    Refuses (renderFields values depth fields bytes) := by
  induction fields generalizing bytes with
  | nil => exact .ok _
  | cons field rest ihrest =>
      obtain ⟨key, item⟩ := field
      rw [renderFields]
      split
      · exact .error
      · refine (ih (key, item) List.mem_cons_self depth bytes).bind fun r => ?_
        exact (ihrest (fun f hf => ih f (List.mem_cons_of_mem _ hf)) r.2).bind fun r => .ok _

theorem refuses_render (v : Js) : ∀ depth bytes, Refuses (render values depth v bytes) := by
  apply Js.induction (v := v)
  · intro v hv depth bytes
    cases v with
    | array elements => cases hv
    | object fields => cases hv
    | string text =>
        rw [render]
        split
        · exact .error
        · exact (refuses_replaceAll _ _).bind fun r => .ok _
    | _ =>
        simp only [render]
        split
        · exact .error
        · exact .ok _
  · intro elements ih depth bytes
    rw [render]
    split
    · exact .error
    · exact (refuses_renderElements ih bytes).bind fun r => .ok _
  · intro fields ih depth bytes
    rw [render]
    split
    · exact .error
    · exact (refuses_renderFields ih bytes).bind fun r => .ok _

theorem refuses_renderNotificationPayload (numbers : Json.Numbers) (template : String)
    (values : NotificationValues) : Refuses (renderNotificationPayload numbers template values) := by
  unfold renderNotificationPayload
  split
  · exact .error
  split
  · refine (refuses_render _ _ _).bind fun r => ?_
    dsimp only
    split
    · exact .error
    · exact .ok _
  · exact .error

theorem renderNotificationPayload_eq_ok {template output : String}
    (h : renderNotificationPayload numbers template values = .ok output) :
    ∃ v, Json.parse numbers template = some v ∧ KnownTexts values v ∧
      output = String.ofList (Json.stringify (v.mapStrings (fillText values))) ∧
      byteLength output.toList ≤ 262144 := by
  unfold renderNotificationPayload at h
  split at h
  · cases h
  split at h
  · rename_i fields hparse
    obtain ⟨r, hrender, h⟩ := bind_eq_ok.mp h
    dsimp only at h
    split at h
    · cases h
    rename_i hsize
    cases h
    obtain ⟨hvalue, hknown⟩ := renders (Json.parsed_of_parse hparse) hrender
    refine ⟨_, hparse, hknown, by rw [hvalue], ?_⟩
    rw [String.toList_ofList]
    exact Nat.le_of_not_lt hsize
  · cases h

/-- The payload reads as the template does, but for its texts, in which the placeholders are
replaced. -/
def KeepsTemplate (numbers : Json.Numbers) (template : String) (values : NotificationValues)
    (output : String) : Prop :=
  ∃ v, Json.parse numbers template = some v ∧
    (∀ text ∈ v.texts, Filled values text.toList (fillText values text).toList) ∧
    Json.parse numbers output = some (v.mapStrings (fillText values))

def FiniteNumbers (numbers : Json.Numbers) (template : String) : Prop :=
  ∃ v, Json.parse numbers template = some v ∧ v.finite = true

/-- A template in whose JSON another name stands between two braces is refused.  What comes of the
others is of bounded size, and is the template with its placeholders replaced if and only if all
numbers of the template are finite. -/
theorem rendered_keeps_template_iff (numbers : Json.Numbers) (template : String)
    (values : NotificationValues) :
    (∀ output, renderNotificationPayload numbers template values = .ok output →
      byteLength output.toList ≤ 262144 ∧
      (KeepsTemplate numbers template values output ↔ FiniteNumbers numbers template)) ∧
    ∀ v, Json.parse numbers template = some v → ∀ text ∈ v.texts, ∀ name, IsName name →
      occurrence name <:+: text.toList → placeholderKey name ∉ ["title", "message"] →
        renderNotificationPayload numbers template values = .error invalidPayload := by
  refine ⟨fun output h => ?_, fun v hparse text htext name hname hoccurs hkey => ?_⟩
  · obtain ⟨v, hparse, hknown, houtput, hsize⟩ := renderNotificationPayload_eq_ok h
    have hparsed := Js.parsed_mapStrings (fillText values) (Json.parsed_of_parse hparse)
    have hback : Json.parse numbers output = some (v.mapStrings (fillText values)) ↔
        v.finite = true := by
      rw [houtput, hparsed.parse_stringify, Option.some.injEq, Js.clone_eq_self_iff hparsed,
        Js.finite_mapStrings]
    refine ⟨hsize, ?_, ?_⟩
    · rintro ⟨v', hparse', -, hsame⟩
      obtain rfl := Option.some.inj (hparse.symm.trans hparse')
      exact ⟨v, hparse, hback.mp hsame⟩
    · rintro ⟨v', hparse', hfinite⟩
      obtain rfl := Option.some.inj (hparse.symm.trans hparse')
      exact ⟨v, hparse, fun text htext => filled_fillText (hknown text htext), hback.mpr hfinite⟩
  · cases h : renderNotificationPayload numbers template values with
    | error e => rw [refuses_renderNotificationPayload numbers template values e h]
    | ok output =>
        obtain ⟨v', hparse', hknown, -, -⟩ := renderNotificationPayload_eq_ok h
        obtain rfl := Option.some.inj (hparse.symm.trans hparse')
        obtain ⟨pre, rest, hcut⟩ := hoccurs
        have hscan := scan_append_occurrence hname rest pre 0 (Nat.zero_le _)
        rw [List.append_assoc] at hcut
        rw [hcut] at hscan
        obtain ⟨value, hvalue⟩ := hknown text htext name (by rw [hscan]; simp)
        unfold NotificationValues.get? at hvalue
        split_ifs at hvalue with htitle hmessage
        · exact absurd (by rw [htitle]; simp) hkey
        · exact absurd (by rw [hmessage]; simp) hkey

def shortIntegers : Json.Numbers where
  read literal :=
    if h : isNumberText (String.ofList literal) = true then
      if literal.all Text.isDigit ∧ literal.length ≤ 15 ∧ Json.isNumberLiteral literal then
        some ⟨String.ofList literal, h⟩
      else none
    else none
  reads_text := by
    intro literal n h
    split_ifs at h with htext hliteral
    cases h
    rw [String.toList_ofList, dif_pos htext, if_pos hliteral]
    exact ⟨hliteral.2.2, rfl⟩

theorem alert_keeps_template :
    KeepsTemplate shortIntegers "\x7b\"a\":[\"\x7b\x7b title \x7d\x7d\",1]\x7d"
      ⟨"Pod \"a\"", "\x7b\x7btitle\x7d\x7d"⟩ "\x7b\"a\":[\"Pod \\\"a\\\"\",1]\x7d" := by
  have hfinite : FiniteNumbers shortIntegers "\x7b\"a\":[\"\x7b\x7b title \x7d\x7d\",1]\x7d" := by
    have hparse : ((Json.parse shortIntegers
        "\x7b\"a\":[\"\x7b\x7b title \x7d\x7d\",1]\x7d").map Js.finite) = some true := by
      decide +kernel
    obtain ⟨v, hv, hfinite⟩ := Option.map_eq_some_iff.mp hparse
    exact ⟨v, hv, hfinite⟩
  have hrender : renderNotificationPayload shortIntegers
      "\x7b\"a\":[\"\x7b\x7b title \x7d\x7d\",1]\x7d" ⟨"Pod \"a\"", "\x7b\x7btitle\x7d\x7d"⟩ =
        .ok "\x7b\"a\":[\"Pod \\\"a\\\"\",1]\x7d" := by
    decide +kernel
  exact (((rendered_keeps_template_iff _ _ _).1 _ hrender).2).mpr hfinite

theorem infinite_number_lost :
    ¬∀ (numbers : Json.Numbers) (template : String) (values : NotificationValues) (output : String),
      renderNotificationPayload numbers template values = .ok output →
        KeepsTemplate numbers template values output := by
  intro h
  obtain ⟨v, hparse, -, hsame⟩ := h shortIntegers "\x7b\"n\":1e400\x7d" ⟨"t", "m"⟩
    "\x7b\"n\":null\x7d" (by decide +kernel)
  have hinfinite : (Json.parse shortIntegers "\x7b\"n\":1e400\x7d").map Js.finite =
      some false := by
    decide +kernel
  have hfinite : (Json.parse shortIntegers "\x7b\"n\":null\x7d").map Js.finite = some true := by
    decide +kernel
  rw [hparse, Option.map_some] at hinfinite
  rw [hsame, Option.map_some, Js.finite_mapStrings, hinfinite] at hfinite
  cases hfinite

end KubeNova.Monitoring
