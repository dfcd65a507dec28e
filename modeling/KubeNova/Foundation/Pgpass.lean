import KubeNova.Foundation.Text

/-!
# Password files

The lines of a PostgreSQL password file: fields between colons, with a backslash before each colon
and backslash that belongs to a field.
-/

namespace KubeNova.Foundation.Pgpass

def isBreak (c : Char) : Bool := c == '\r' || c == '\n'

def replaceAll (c : Char) (text : List Char) (value : List Char) : List Char :=
  value.flatMap fun d => if d = c then text else [d]

/-- A field as it is written: backslashes and colons escaped, line ends taken out. -/
def escape (value : List Char) : List Char :=
  (replaceAll ':' ['\\', ':'] (replaceAll '\\' ['\\', '\\'] value)).filter fun c => !isBreak c

def line (host port database username password : String) : String :=
  String.ofList (escape host.toList ++ ':' :: (escape port.toList ++ ':' ::
    (escape database.toList ++ ':' :: (escape username.toList ++ ':' ::
      (escape password.toList ++ ['\n'])))))

def fields : List Char → List (List Char)
  | [] => [[]]
  | c :: rest =>
      if c = ':' then [] :: fields rest
      else if c = '\\' then
        match rest with
        | d :: more => (fields more).modifyHead (d :: ·)
        | [] => [['\\']]
      else (fields rest).modifyHead (c :: ·)

/-- What is left of a field that is written and read. -/
def strip (value : List Char) : List Char := value.filter fun c => !isBreak c

def password? (line : String) (host port database username : String) : Option String :=
  match fields (strip line.toList) with
  | [h, p, d, u, w] =>
      if h = host.toList ∧ p = port.toList ∧ d = database.toList ∧ u = username.toList then
        some (String.ofList w)
      else none
  | _ => none

def escapeChar (c : Char) : List Char :=
  if isBreak c then [] else if c = '\\' ∨ c = ':' then ['\\', c] else [c]

theorem escape_nil : escape [] = [] := rfl

theorem escape_cons (c : Char) (cs : List Char) : escape (c :: cs) = escapeChar c ++ escape cs := by
  have hback : isBreak '\\' = false := rfl
  have hcolon : isBreak ':' = false := rfl
  unfold escape replaceAll escapeChar
  rw [List.flatMap_cons, List.flatMap_append, List.filter_append]
  congr 1
  by_cases hslash : c = '\\'
  · subst hslash
    rfl
  · by_cases hc : c = ':'
    · subst hc
      rfl
    · have hplain : ¬(c = '\\' ∨ c = ':') := not_or.mpr ⟨hslash, hc⟩
      rw [if_neg hslash, List.flatMap_singleton, if_neg hc, if_neg hplain]
      cases hbreak : isBreak c with
      | false => simp only [List.filter_cons, hbreak, Bool.not_false, if_true, List.filter_nil,
          Bool.false_eq_true, if_false]
      | true => simp only [List.filter_cons, hbreak, Bool.not_true, if_true, List.filter_nil,
          Bool.false_eq_true, if_false]

theorem fields_escapeChar (c : Char) (rest : List Char) :
    fields (escapeChar c ++ rest) =
      if isBreak c then fields rest else (fields rest).modifyHead (c :: ·) := by
  unfold escapeChar
  by_cases hbreak : isBreak c = true
  · rw [if_pos hbreak, if_pos hbreak, List.nil_append]
  · rw [if_neg hbreak, if_neg hbreak]
    by_cases hspecial : c = '\\' ∨ c = ':'
    · rw [if_pos hspecial, List.cons_append, List.cons_append, List.nil_append]
      rw [fields.eq_def]
      rfl
    · rw [if_neg hspecial, List.cons_append, List.nil_append]
      rw [not_or] at hspecial
      rw [fields.eq_def]
      simp only [hspecial, if_false]

theorem strip_cons (c : Char) (cs : List Char) :
    strip (c :: cs) = if isBreak c then strip cs else c :: strip cs := by
  unfold strip
  rw [List.filter_cons]
  cases isBreak c with
  | false => rfl
  | true => rfl

theorem fields_escape_cons (value rest : List Char) :
    fields (escape value ++ ':' :: rest) = strip value :: fields rest := by
  induction value with
  | nil =>
      rw [escape_nil, List.nil_append, fields.eq_def]
      rfl
  | cons c cs ih =>
      rw [escape_cons, List.append_assoc, fields_escapeChar, ih, strip_cons]
      split
      · rfl
      · rfl

theorem fields_escape (value : List Char) : fields (escape value) = [strip value] := by
  induction value with
  | nil => rfl
  | cons c cs ih =>
      rw [escape_cons, fields_escapeChar, ih, strip_cons]
      split
      · rfl
      · rfl

theorem strip_eq_self {value : List Char} (h : ∀ c ∈ value, isBreak c = false) :
    strip value = value := by
  rw [strip, List.filter_eq_self]
  intro c hc
  rw [h c hc]
  rfl

theorem strip_escape (value : List Char) : strip (escape value) = escape value := by
  rw [strip, escape, List.filter_filter]
  simp only [Bool.and_self]

theorem strip_append (front back : List Char) :
    strip (front ++ back) = strip front ++ strip back := List.filter_append ..

/-- The line written for a connection has its password, without line ends. -/
theorem password?_line {host port database username : String} (password : String)
    (hhost : ∀ c ∈ host.toList, isBreak c = false) (hport : ∀ c ∈ port.toList, isBreak c = false)
    (hdatabase : ∀ c ∈ database.toList, isBreak c = false)
    (husername : ∀ c ∈ username.toList, isBreak c = false) :
    password? (line host port database username password) host port database username =
      some (String.ofList (strip password.toList)) := by
  have hcolon (rest : List Char) : strip (':' :: rest) = ':' :: strip rest := strip_cons ':' rest
  have hend : strip ['\n'] = [] := rfl
  unfold password? line
  simp only [String.toList_ofList, strip_append, hcolon, strip_escape, hend, List.append_nil,
    fields_escape_cons, fields_escape, strip_eq_self hhost, strip_eq_self hport,
    strip_eq_self hdatabase, strip_eq_self husername, and_self, if_true]

end KubeNova.Foundation.Pgpass
