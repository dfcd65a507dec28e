import KubeNova.Foundation.Utf8
import Mathlib.Data.List.Basic

/-!
# The path of a URL

The path state of the URL parser, for the schemes of the web: where segments end, which characters
are percent-encoded, and what becomes of the dot segments.  A path it has written is read back
unchanged, and so is one with more plain segments behind it.
-/

namespace KubeNova.Foundation.UrlPath

abbrev Segment := List Char

def upperHex (n : Nat) : Char := Char.ofNat (if n < 10 then 48 + n else 55 + n)

def percentByte (b : UInt8) : List Char := ['%', upperHex (b.toNat / 16), upperHex (b.toNat % 16)]

def percentEncode (set : Char → Bool) (c : Char) : List Char :=
  if set c then (String.utf8EncodeChar c).flatMap percentByte else [c]

def inControlSet (c : Char) : Bool := c.toNat < 0x20 || 0x7E < c.toNat

/-- The fragment set: a blank and the characters `" < >` and the grave accent. -/
def inFragmentSet (c : Char) : Bool :=
  inControlSet c || [0x20, 0x22, 0x3C, 0x3E, 0x60].contains c.toNat

/-- The query set of the web's schemes: a blank and the characters `" # < > '`. -/
def inQuerySet (c : Char) : Bool :=
  inControlSet c || [0x20, 0x22, 0x23, 0x3C, 0x3E, 0x27].contains c.toNat

/-- The path set: a blank and the characters `" # < > ? ^ { }` and the grave accent. -/
def inPathSet (c : Char) : Bool :=
  inControlSet c || [0x20, 0x22, 0x23, 0x3C, 0x3E, 0x3F, 0x5E, 0x60, 0x7B, 0x7D].contains c.toNat

def isSlash (c : Char) : Bool := c == '/' || c == '\\'

/-- A segment with `%2e` for each of its dots, in lower case. -/
def isSingleDot (segment : Segment) : Bool :=
  [".", "%2e"].contains (String.ofList (segment.map Char.toLower))

def isDoubleDot (segment : Segment) : Bool :=
  ["..", ".%2e", "%2e.", "%2e%2e"].contains (String.ofList (segment.map Char.toLower))

/-- A segment is complete, and a slash comes behind it. -/
def closeSegment (path : List Segment) (buffer : Segment) : List Segment :=
  if isDoubleDot buffer then path.dropLast
  else if isSingleDot buffer then path
  else path ++ [buffer]

def closePath (path : List Segment) (buffer : Segment) : List Segment :=
  if isDoubleDot buffer then path.dropLast ++ [[]]
  else if isSingleDot buffer then path ++ [[]]
  else path ++ [buffer]

def pathState (path : List Segment) (buffer : Segment) : List Char → List Segment
  | [] => closePath path buffer
  | c :: rest =>
      if isSlash c then pathState (closeSegment path buffer) [] rest
      else pathState path (buffer ++ percentEncode inPathSet c) rest

def pathStart : List Char → List Segment
  | [] => pathState [] [] []
  | c :: rest => if isSlash c then pathState [] [] rest else pathState [] [] (c :: rest)

/-- `url.pathname` -/
def serialize (path : List Segment) : List Char := path.flatMap ('/' :: ·)

def isPlain (c : Char) : Bool := !inPathSet c && !isSlash c

structure Normal (segment : Segment) : Prop where
  plain : ∀ c ∈ segment, isPlain c = true
  notSingle : isSingleDot segment = false
  notDouble : isDoubleDot segment = false

theorem percentEncode_of_plain {c : Char} (hc : isPlain c = true) :
    percentEncode inPathSet c = [c] := by
  simp only [isPlain, Bool.and_eq_true, Bool.not_eq_true'] at hc
  rw [percentEncode, hc.1, if_neg Bool.false_ne_true]

theorem Normal.nil : Normal [] where
  plain := by simp
  notSingle := by decide
  notDouble := by decide

section Segments

variable {path more : List Segment} {segment buffer : Segment}

theorem closeSegment_of_normal (h : Normal segment) :
    closeSegment path segment = path ++ [segment] := by
  rw [closeSegment, h.notDouble, h.notSingle]
  rfl

theorem closePath_of_normal (h : Normal segment) : closePath path segment = path ++ [segment] := by
  rw [closePath, h.notDouble, h.notSingle]
  rfl

theorem pathState_append {text rest : List Char} (h : ∀ c ∈ text, isPlain c = true) :
    pathState path buffer (text ++ rest) = pathState path (buffer ++ text) rest := by
  induction text generalizing buffer with
  | nil => rw [List.nil_append, List.append_nil]
  | cons c text ih =>
      have hc := h c List.mem_cons_self
      have hslash : isSlash c = false := by
        simp only [isPlain, Bool.and_eq_true, Bool.not_eq_true'] at hc
        exact hc.2
      rw [List.cons_append, pathState, hslash, if_neg Bool.false_ne_true, percentEncode_of_plain hc,
        ih fun x hx => h x (List.mem_cons_of_mem _ hx), List.append_assoc, List.singleton_append]

theorem pathState_serialize (hsegment : Normal segment) (h : ∀ s ∈ more, Normal s) :
    pathState path [] (segment ++ serialize more) = path ++ segment :: more := by
  induction more generalizing path segment with
  | nil =>
      rw [serialize, List.flatMap_nil, pathState_append hsegment.plain, List.nil_append, pathState,
        closePath_of_normal hsegment]
  | cons next more ih =>
      have hserialize : serialize (next :: more) = '/' :: (next ++ serialize more) := rfl
      rw [hserialize, pathState_append hsegment.plain, List.nil_append, pathState,
        if_pos (by decide), closeSegment_of_normal hsegment,
        ih (h next List.mem_cons_self) fun s hs => h s (List.mem_cons_of_mem _ hs),
        List.append_assoc, List.singleton_append]

theorem pathStart_serialize (hne : path ≠ []) (h : ∀ s ∈ path, Normal s) :
    pathStart (serialize path) = path := by
  cases path with
  | nil => exact absurd rfl hne
  | cons segment more =>
      have hserialize : serialize (segment :: more) = '/' :: (segment ++ serialize more) := rfl
      rw [hserialize, pathStart, if_pos (by decide),
        pathState_serialize (h segment List.mem_cons_self) fun s hs =>
          h s (List.mem_cons_of_mem _ hs), List.nil_append]

end Segments

theorem plain_upperHex : ∀ n < 16, isPlain (upperHex n) = true := by decide

theorem plain_percentEncode {c : Char} (hc : isSlash c = false) :
    ∀ x ∈ percentEncode inPathSet c, isPlain x = true := by
  intro x hx
  rw [percentEncode] at hx
  split at hx
  · obtain ⟨b, -, hx⟩ := List.mem_flatMap.mp hx
    have hb : b.toNat < 256 := b.toNat_lt
    simp only [percentByte, List.mem_cons, List.not_mem_nil, or_false] at hx
    rcases hx with rfl | rfl | rfl
    · decide
    · exact plain_upperHex _ (by omega)
    · exact plain_upperHex _ (by omega)
  · rename_i hset
    obtain rfl := List.mem_singleton.mp hx
    simp [isPlain, hc, hset]

theorem normal_closeSegment {path : List Segment} {buffer : Segment} (hpath : ∀ s ∈ path, Normal s)
    (hbuffer : ∀ c ∈ buffer, isPlain c = true) : ∀ s ∈ closeSegment path buffer, Normal s := by
  intro s hs
  rw [closeSegment] at hs
  split at hs
  · exact hpath s (List.dropLast_subset _ hs)
  · split at hs
    · exact hpath s hs
    · rename_i hdouble hsingle
      rcases List.mem_append.mp hs with hs | hs
      · exact hpath s hs
      · obtain rfl := List.mem_singleton.mp hs
        exact ⟨hbuffer, Bool.eq_false_iff.mpr hsingle, Bool.eq_false_iff.mpr hdouble⟩

theorem normal_closePath {path : List Segment} {buffer : Segment} (hpath : ∀ s ∈ path, Normal s)
    (hbuffer : ∀ c ∈ buffer, isPlain c = true) : ∀ s ∈ closePath path buffer, Normal s := by
  have hlast : ∀ {front : List Segment}, (∀ s ∈ front, Normal s) → ∀ s ∈ front ++ [[]], Normal s := by
    intro front hfront s hs
    rcases List.mem_append.mp hs with hs | hs
    · exact hfront s hs
    · obtain rfl := List.mem_singleton.mp hs
      exact .nil
  by_cases hdouble : isDoubleDot buffer = true
  · rw [closePath, if_pos hdouble]
    exact hlast fun s hs => hpath s (List.dropLast_subset _ hs)
  · by_cases hsingle : isSingleDot buffer = true
    · rw [closePath, if_neg hdouble, if_pos hsingle]
      exact hlast hpath
    · have hclose : closePath path buffer = closeSegment path buffer := by
        rw [closePath, closeSegment, if_neg hdouble, if_neg hdouble, if_neg hsingle, if_neg hsingle]
      rw [hclose]
      exact normal_closeSegment hpath hbuffer

theorem normal_pathState {text : List Char} {path : List Segment} {buffer : Segment}
    (hpath : ∀ s ∈ path, Normal s) (hbuffer : ∀ c ∈ buffer, isPlain c = true) :
    ∀ s ∈ pathState path buffer text, Normal s := by
  induction text generalizing path buffer with
  | nil => exact normal_closePath hpath hbuffer
  | cons c text ih =>
      rw [pathState]
      split
      · exact ih (normal_closeSegment hpath hbuffer) (by simp)
      · rename_i hslash
        apply ih hpath
        intro x hx
        rcases List.mem_append.mp hx with hx | hx
        · exact hbuffer x hx
        · exact plain_percentEncode (Bool.eq_false_iff.mpr hslash) x hx

theorem normal_pathStart (text : List Char) : ∀ s ∈ pathStart text, Normal s := by
  unfold pathStart
  split
  · exact normal_pathState (by simp) (by simp)
  · split <;> exact normal_pathState (by simp) (by simp)

/-- `pathname.replace(/\/$/, '')` -/
def dropTrailingSlash (pathname : List Char) : List Char :=
  if pathname.getLast? = some '/' then pathname.dropLast else pathname

theorem serialize_append (path more : List Segment) :
    serialize (path ++ more) = serialize path ++ serialize more := List.flatMap_append

/-- Without its trailing slash a path is still one of some of its segments. -/
theorem exists_dropTrailingSlash {path : List Segment} (h : ∀ s ∈ path, Normal s) :
    ∃ front : List Segment, (∀ s ∈ front, Normal s) ∧
      dropTrailingSlash (serialize path) = serialize front := by
  rcases List.eq_nil_or_concat path with rfl | ⟨front, last, rfl⟩
  · exact ⟨[], by simp, rfl⟩
  rw [List.concat_eq_append] at h ⊢
  have hserialize : serialize (front ++ [last]) = serialize front ++ '/' :: last := by
    rw [serialize_append]
    simp [serialize]
  rw [hserialize, dropTrailingSlash]
  rcases List.eq_nil_or_concat last with rfl | ⟨init, c, rfl⟩
  · refine ⟨front, fun s hs => h s (List.mem_append_left _ hs), ?_⟩
    rw [List.getLast?_concat, if_pos rfl, List.dropLast_concat]
  · rw [List.concat_eq_append] at h hserialize ⊢
    refine ⟨front ++ [init ++ [c]], h, ?_⟩
    have hnormal := h (init ++ [c]) (by simp)
    have hc : c ≠ '/' := by
      rintro rfl
      exact absurd (hnormal.plain '/' (by simp)) (by decide)
    have hassoc : serialize front ++ '/' :: (init ++ [c]) =
        (serialize front ++ '/' :: init) ++ [c] := by simp
    rw [hserialize, hassoc, List.getLast?_concat, if_neg (by simpa using hc)]

/-- **A plain path under another**: behind a path that was read, without its trailing slash, the
path of normal segments is read as it stands. -/
theorem serialize_pathStart_append {text : List Char} {more : List Segment} (hne : more ≠ [])
    (h : ∀ s ∈ more, Normal s) :
    serialize (pathStart (dropTrailingSlash (serialize (pathStart text)) ++ serialize more)) =
      dropTrailingSlash (serialize (pathStart text)) ++ serialize more := by
  obtain ⟨front, hfront, hdrop⟩ := exists_dropTrailingSlash (normal_pathStart text)
  have happ : ∀ s ∈ front ++ more, Normal s := by
    intro s hs
    rcases List.mem_append.mp hs with hs | hs
    · exact hfront s hs
    · exact h s hs
  rw [hdrop, ← serialize_append, pathStart_serialize (by simp [hne]) happ]

end KubeNova.Foundation.UrlPath
