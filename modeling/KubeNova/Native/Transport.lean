import KubeNova.Foundation.JsFields
import KubeNova.Foundation.Results
import KubeNova.Foundation.UrlPath
import KubeNova.Native.Agreement

/-!
# The transport of native reads

`forwardNativeRead` up to the request it sends: the target is classified again, the endpoint of the
cluster is parsed, and the target goes under the path of the endpoint.  A classified path is
canonical, so neither of the two parses changes it.
-/

namespace KubeNova.Native

open KubeNova.Foundation KubeNova.Common KubeNova.Access
open KubeNova.Foundation.UrlPath

/-! ## URLs -/

structure Authority where
  protocol : String
  username : String
  password : String
  origin : List Char
  deriving Repr, DecidableEq

def Authority.anonymous (authority : Authority) : Authority :=
  { authority with username := "", password := "" }

/-- The part of the URL parser in front of the path: what it reads, and the rest of the text.  An
origin it has written is read back as this origin. -/
structure AuthorityParser where
  read : List Char → Option (Authority × List Char)
  read_origin : ∀ {text rest tail : List Char} {authority : Authority},
    read text = some (authority, rest) → authority.protocol = "https:" → tail.head? = some '/' →
      read (authority.origin ++ tail) = some (authority.anonymous, tail)
  origin_printable : ∀ {text rest : List Char} {authority : Authority},
    read text = some (authority, rest) → authority.protocol = "https:" →
      authority.origin ≠ [] ∧ ∀ c ∈ authority.origin, 0x20 < c.toNat

structure ParsedUrl where
  authority : Authority
  path : List Segment
  query : Option (List Char)
  fragment : Option (List Char)
  deriving Repr, DecidableEq

namespace ParsedUrl

def pathname (url : ParsedUrl) : List Char := serialize url.path

def search (url : ParsedUrl) : List Char :=
  match url.query with
  | some (c :: query) => '?' :: c :: query
  | _ => []

def hash (url : ParsedUrl) : List Char :=
  match url.fragment with
  | some (c :: fragment) => '#' :: c :: fragment
  | _ => []

end ParsedUrl

/-- The parser drops control characters and blanks at the end of a text, and tabs and line ends
in it. -/
def stripEnd (text : List Char) : List Char :=
  (text.reverse.dropWhile fun c => decide (c.toNat ≤ 0x20)).reverse.filter fun c =>
    !([9, 10, 13].contains c.toNat)

/-- It drops control characters and blanks at the beginning, too. -/
def stripInput (text : List Char) : List Char :=
  stripEnd (text.dropWhile fun c => decide (c.toNat ≤ 0x20))

def parseRest (authority : Authority) (rest : List Char) : ParsedUrl :=
  let behindPath := rest.dropWhile fun c => !(c == '?' || c == '#')
  { authority
    path := pathStart (rest.takeWhile fun c => !(c == '?' || c == '#'))
    query := match behindPath with
      | '?' :: query => some ((query.takeWhile (· ≠ '#')).flatMap (percentEncode inQuerySet))
      | _ => none
    fragment := match rest.dropWhile (· ≠ '#') with
      | _ :: fragment => some (fragment.flatMap (percentEncode inFragmentSet))
      | [] => none }

/-- `new URL(text)` for the schemes of the web, nothing where it throws. -/
def newUrl (parser : AuthorityParser) (text : List Char) : Option ParsedUrl :=
  (parser.read (stripInput text)).map fun (authority, rest) => parseRest authority rest

structure KubeCluster where
  server : String
  skipTLSVerify : Bool
  deriving Repr, DecidableEq

/-- The headers in the options once `applyToHTTPSOptions` has filled them in. -/
inductive OptionHeaders where
  | list
  | fields (headers : List (String × Js))

structure KubeConfig where
  currentCluster : Option KubeCluster
  appliedHeaders : OptionHeaders

structure UpstreamRequest where
  url : ParsedUrl
  method : String
  headers : List (String × Js)
  rejectUnauthorized : Bool

/-- `^kubenova:native:[a-f0-9]{40}$` -/
def isNativeSubject (subject : String) : Bool :=
  let pre := "kubenova:native:".toList
  let digest := subject.toList.drop pre.length
  pre.isPrefixOf subject.toList && digest.length == 40 && digest.all Text.isLowerHex

/-- Impersonation always comes from the server's grant identity, never the stored user or
client. -/
def nativeHeaders (headers : List (String × Js)) (subject : String) : List (String × Js) :=
  let kept := headers.filter fun header =>
    !Text.startsWith "impersonate-" (Text.toLower header.1)
  setField (setField kept "Impersonate-User" (.string subject)) "Accept" (.string "application/json")

/-- `forwardNativeRead` up to `request(upstream, options, …)`. -/
def forwardNativeRead (parser : AuthorityParser) (config : KubeConfig) (target subject : String)
    (aborted : Bool) : Except Exception UpstreamRequest := do
  let resource ← classifyNativeRequest "GET" target
  if resource.subresource = some "exec" ∨ isNativeSubject subject = false then
    .error (.error "Unsupported native transport")
  else match config.currentCluster with
    | none => .error (.error "Native upstream requires verified TLS")
    | some cluster =>
        if cluster.skipTLSVerify = true then .error (.error "Native upstream requires verified TLS")
        else match newUrl parser cluster.server.toList with
          | none => .error (.error "Invalid URL")
          | some endpoint =>
              if endpoint.authority.protocol ≠ "https:" ∨ endpoint.authority.username ≠ "" ∨
                  endpoint.authority.password ≠ "" ∨ endpoint.search ≠ [] ∨ endpoint.hash ≠ [] then
                .error (.error "Invalid native upstream")
              else match newUrl parser (endpoint.authority.origin ++
                  dropTrailingSlash endpoint.pathname ++ target.toList) with
                | none => .error (.error "Invalid URL")
                | some upstream =>
                    if aborted = true then .error (.error "This operation was aborted")
                    else match config.appliedHeaders with
                      | .list => .error (.error "Invalid upstream headers")
                      | .fields headers =>
                          .ok ⟨upstream, "GET", nativeHeaders headers subject, true⟩

/-! ## Canonical paths -/

namespace NativePath

def behindApi (path : NativePath) : List Segment :=
  "namespaces".toList :: path.namespaceName.toList :: path.resource.toList ::
    ((path.name.map String.toList).toList ++ (path.subresource.map String.toList).toList)

def rebuilt (path : NativePath) : List Char := path.api.toList ++ serialize path.behindApi

def parts (path : NativePath) : List Segment :=
  (path.api.toList.splitOn '/').tail ++ path.namespaceName.toList :: path.resource.toList ::
    ((path.name.map String.toList).toList ++ (path.subresource.map String.toList).toList)

end NativePath

def NativeRequest.path (r : NativeRequest) : NativePath :=
  ⟨r.api, r.namespaceName, r.resource, r.name, r.subresource⟩

/-- A part no reader of the path can take for something else. -/
structure IsPart (part : Segment) : Prop where
  nonempty : part ≠ []
  notDot : part ≠ ".".toList
  notDotDot : part ≠ "..".toList
  noPercent : '%' ∉ part
  noSlash : '/' ∉ part

theorem intercalate_eq_serialize (segments : List Segment) :
    ['/'].intercalate ([] :: segments) = serialize segments := by
  induction segments with
  | nil => rfl
  | cons segment more ih =>
      cases more with
      | nil => simp [serialize, List.intercalate]
      | cons next more =>
          simp only [serialize, List.intercalate, List.intersperse_cons_cons, List.flatten_cons,
            List.flatMap_cons, List.nil_append, List.cons_append] at ih ⊢
          simpa using ih

theorem eq_serialize_of_splitOn {pathname : List Char} {segments : List Segment}
    (h : pathname.splitOn '/' = [] :: segments) : pathname = serialize segments := by
  rw [← intercalate_eq_serialize, ← h, List.intercalate_splitOn]

theorem matchApi_eq_some {segments rest : List Segment} {api : String}
    (h : matchApi segments = some (api, rest)) :
    ∃ named : List Segment, segments = [] :: (named ++ rest) ∧ api.toList = serialize named := by
  unfold matchApi at h
  split at h
  · simp only [Option.some.injEq, Prod.mk.injEq] at h
    obtain ⟨rfl, rfl⟩ := h
    exact ⟨["api".toList, "v1".toList], rfl, rfl⟩
  · rename_i group version rest'
    split at h
    · simp only [Option.some.injEq, Prod.mk.injEq] at h
      obtain ⟨rfl, rfl⟩ := h
      refine ⟨["apis".toList, group, version], rfl, ?_⟩
      rw [String.toList_ofList]
      simp [serialize]
    · cases h
  · cases h

theorem matchName_eq_some {segments : List Segment} {name subresource : Option String}
    (h : matchName segments = some (name, subresource)) :
    segments = (name.map String.toList).toList ++ (subresource.map String.toList).toList ∧
      (∀ x ∈ name, isName ['-', '.'] x.toList = true) ∧
      ∀ x ∈ subresource, isWord x.toList = true := by
  unfold matchName at h
  split at h
  · simp only [Option.some.injEq, Prod.mk.injEq] at h
    obtain ⟨rfl, rfl⟩ := h
    simp
  · split at h
    · rename_i hname
      simp only [Option.some.injEq, Prod.mk.injEq] at h
      obtain ⟨rfl, rfl⟩ := h
      simpa using hname
    · cases h
  · split at h
    · rename_i hboth
      simp only [Option.some.injEq, Prod.mk.injEq] at h
      obtain ⟨rfl, rfl⟩ := h
      simpa using hboth
    · cases h
  · cases h

def isNameText (part : Segment) : Bool := isName ['-', '.'] part

theorem isNameText_of_isWord {part : Segment} (h : isWord part = true) : isNameText part = true := by
  simp only [isWord, Bool.and_eq_true, List.all_eq_true, Bool.not_eq_true', List.isEmpty_eq_false_iff,
    decide_eq_true_eq] at h
  have halnum : ∀ c ∈ part, isLowerAlnum c = true := by
    intro c hc
    simp [isLowerAlnum, h.2 c hc]
  simp only [isNameText, isName, Bool.and_eq_true, List.all_eq_true, Option.any_eq_true]
  refine ⟨⟨⟨part.head h.1, List.head?_eq_some_head h.1, halnum _ (List.head_mem h.1)⟩,
    part.getLast h.1, List.getLast?_eq_some_getLast h.1, halnum _ (List.getLast_mem h.1)⟩, ?_⟩
  intro c hc
  rw [halnum c hc, Bool.true_or]

theorem isNameText_of_isName {part : Segment} (h : isName ['-'] part = true) :
    isNameText part = true := by
  simp only [isNameText, isName, Bool.and_eq_true, List.all_eq_true, Bool.or_eq_true] at h ⊢
  refine ⟨h.1, fun c hc => ?_⟩
  rcases h.2 c hc with halnum | hdash
  · exact .inl halnum
  · right
    rw [List.contains_iff_mem] at hdash ⊢
    exact List.mem_cons.mpr (.inl (List.mem_singleton.mp hdash))

theorem isPart_of_isNameText {part : Segment} (h : isNameText part = true) : IsPart part := by
  have hchars := pathChar_of_isName (by simp) h
  refine ⟨ne_nil_of_isName h, ?_, ?_, ?_, fun hslash => (hchars _ hslash).2 rfl⟩
  · rintro rfl
    exact absurd h (by decide)
  · rintro rfl
    exact absurd h (by decide)
  · intro hpercent
    exact absurd (hchars _ hpercent).1 (by decide)

theorem matchPath_spec {pathname : List Char} {path : NativePath}
    (h : matchPath pathname = some path) :
    pathname = path.rebuilt ∧ ∀ part ∈ path.behindApi, isNameText part = true := by
  simp only [matchPath, Option.bind_eq_bind, Option.bind_eq_some_iff] at h
  obtain ⟨⟨api, rest⟩, hapi, hrest⟩ := h
  obtain ⟨named, hsegments, hnamed⟩ := matchApi_eq_some hapi
  dsimp only at hrest
  split at hrest
  · split at hrest
    · rename_i literal ns resource tail hparts
      obtain ⟨⟨name, subresource⟩, hname, hpath⟩ := Option.bind_eq_some_iff.mp hrest
      obtain ⟨rfl, hns, hresource⟩ := hparts
      obtain ⟨rfl, hnames, hwords⟩ := matchName_eq_some hname
      obtain rfl := Option.some.inj hpath
      constructor
      · rw [eq_serialize_of_splitOn hsegments, NativePath.rebuilt, hnamed, serialize_append]
        simp only [NativePath.behindApi, String.toList_ofList]
      · intro part hpart
        simp only [NativePath.behindApi, String.toList_ofList, List.mem_cons, List.mem_append,
          Option.mem_toList, Option.map_eq_some_iff] at hpart
        rcases hpart with rfl | rfl | rfl | ⟨x, hx, rfl⟩ | ⟨x, hx, rfl⟩
        · decide
        · exact isNameText_of_isName hns
        · exact isNameText_of_isWord hresource
        · exact hnames x hx
        · exact isNameText_of_isWord (hwords x hx)
    · cases hrest
  · cases hrest

def targetPath (target : String) : List Char := target.toList.takeWhile (· ≠ '?')

/-- How many times the query of a target names `watch`. -/
def watchCount (target : String) : Nat :=
  (getAll (searchParams (urlQuery target.toList)) "watch").length

theorem matched_of_classified {method target : String} {r : NativeRequest}
    (h : classifyNativeRequest method target = .ok r) :
    matchPath (targetPath target) = some r.path ∧
      (∀ c ∈ target.toList, Text.isSpace c = false) ∧ watchCount target ≤ 1 := by
  unfold classifyNativeRequest at h
  dsimp only at h
  split at h
  · cases h
  rename_i htext
  push Not at htext
  split at h
  · cases h
  split at h
  · cases h
  rename_i path hpath
  split at h
  · cases h
  split at h
  · cases h
  rename_i hwatch
  push Not at hwatch
  obtain ⟨⟨verb, capability⟩, -, hr⟩ := Results.bind_eq_ok.mp h
  obtain rfl := Except.ok.inj hr
  refine ⟨hpath, fun c hc => ?_, hwatch.1⟩
  have hany := Bool.eq_false_iff.mpr htext.2.2
  rw [List.any_eq_false] at hany
  have hplain := hany c hc
  simp only [Bool.or_eq_true, not_or] at hplain
  exact Bool.eq_false_iff.mpr hplain.1.1

theorem table_segments : ∀ entry ∈ nativeReadResources,
    entry.1.toList = serialize (entry.1.toList.splitOn '/').tail ∧
      ∀ part ∈ (entry.1.toList.splitOn '/').tail, isNameText part = true := by decide

theorem canonical_of_classified {method target : String} {r : NativeRequest}
    (h : classifyNativeRequest method target = .ok r) :
    targetPath target = r.path.rebuilt ∧ ∀ part ∈ r.path.parts, isNameText part = true := by
  obtain ⟨hpath, -, -⟩ := matched_of_classified h
  obtain ⟨hrebuilt, hparts⟩ := matchPath_spec hpath
  obtain ⟨entry, hentry, hapi, -⟩ := mem_readResources (classifyNativeRequest_eq_ok h).2.1
  refine ⟨hrebuilt, fun part hpart => ?_⟩
  rcases List.mem_append.mp hpart with hpart | hpart
  · have htable := (table_segments entry hentry).2 part
    rw [hapi] at htable
    exact htable hpart
  · exact hparts part (List.mem_cons_of_mem _ hpart)

theorem exists_segments {method target : String} {r : NativeRequest}
    (h : classifyNativeRequest method target = .ok r) :
    ∃ segments : List Segment, segments ≠ [] ∧ r.path.rebuilt = serialize segments ∧
      ∀ part ∈ segments, isNameText part = true := by
  obtain ⟨hpath, -, -⟩ := matched_of_classified h
  obtain ⟨-, hparts⟩ := matchPath_spec hpath
  obtain ⟨entry, hentry, hapi, -⟩ := mem_readResources (classifyNativeRequest_eq_ok h).2.1
  obtain ⟨htext, hnames⟩ := table_segments entry hentry
  rw [hapi] at htext hnames
  refine ⟨(r.api.toList.splitOn '/').tail ++ r.path.behindApi, by simp [NativePath.behindApi], ?_, ?_⟩
  · rw [serialize_append, ← htext]
    rfl
  · intro part hpart
    rcases List.mem_append.mp hpart with hpart | hpart
    · exact hnames part hpart
    · exact hparts part hpart

/-! ## The URL of the request -/

theorem pathChar_plain {c : Char} (h : isPathChar c = true) (hslash : c ≠ '/') :
    isPlain c = true ∧ c.toLower = c ∧ 0x20 < c.toNat := by
  have hlt : c.toNat < 123 := by
    simp only [isPathChar, isLowerAlnum, Text.isDigit, Bool.or_eq_true, Bool.and_eq_true,
      decide_eq_true_eq, beq_iff_eq] at h
    rcases h with (((h | h) | rfl) | rfl) | rfl
    · exact Nat.lt_of_le_of_lt h.2 (by decide)
    · exact Nat.lt_of_le_of_lt h.2 (by decide)
    all_goals decide
  have hall : ∀ n < 123, isPathChar (Char.ofNat n) = true → Char.ofNat n ≠ '/' →
      isPlain (Char.ofNat n) = true ∧ (Char.ofNat n).toLower = Char.ofNat n ∧
        0x20 < (Char.ofNat n).toNat := by decide
  have hc := hall c.toNat hlt
  rw [Char.ofNat_toNat] at hc
  exact hc h hslash

theorem normal_of_isNameText {part : Segment} (h : isNameText part = true) : Normal part := by
  have hchars := pathChar_of_isName (by simp) h
  have hpart := isPart_of_isNameText h
  have hlower : part.map Char.toLower = part := by
    have hid : part.map Char.toLower = part.map id := by
      apply List.map_congr_left
      intro c hc
      exact (pathChar_plain (hchars c hc).1 (hchars c hc).2).2.1
    rw [hid, List.map_id]
  have hne : ∀ text : String, (text.toList = ".".toList ∨ text.toList = "..".toList ∨
      '%' ∈ text.toList) → String.ofList part ≠ text := by
    rintro text htext rfl
    rw [String.toList_ofList] at htext
    rcases htext with hdot | hdots | hpercent
    · exact hpart.notDot hdot
    · exact hpart.notDotDot hdots
    · exact hpart.noPercent hpercent
  refine ⟨fun c hc => (pathChar_plain (hchars c hc).1 (hchars c hc).2).1, ?_, ?_⟩
  · rw [isSingleDot, hlower, ← Bool.not_eq_true, List.contains_iff_mem]
    simp [hne]
  · rw [isDoubleDot, hlower, ← Bool.not_eq_true, List.contains_iff_mem]
    simp [hne]

theorem printable_of_plain {c : Char} (h : isPlain c = true) : 0x20 < c.toNat := by
  simp only [isPlain, inPathSet, inControlSet, Bool.and_eq_true, Bool.not_eq_true',
    Bool.or_eq_false_iff, decide_eq_false_iff_not, Nat.not_lt] at h
  have hblank : c.toNat ≠ 0x20 := by
    intro heq
    rw [heq] at h
    exact absurd h.1.2 (by decide)
  omega

theorem printable_serialize {path : List Segment} (h : ∀ s ∈ path, Normal s) :
    ∀ c ∈ serialize path, 0x20 < c.toNat ∧ c ≠ '?' ∧ c ≠ '#' := by
  intro c hc
  obtain ⟨segment, hsegment, hc⟩ := List.mem_flatMap.mp hc
  rcases List.mem_cons.mp hc with rfl | hc
  · decide
  · have hplain := (h segment hsegment).plain c hc
    refine ⟨printable_of_plain hplain, ?_, ?_⟩
    · rintro rfl
      exact absurd hplain (by decide)
    · rintro rfl
      exact absurd hplain (by decide)

theorem stripEnd_append {solid more : List Char} (h : ∀ c ∈ solid, 0x20 < c.toNat) :
    stripEnd (solid ++ more) = solid ++ stripEnd more := by
  have hback : solid.reverse.dropWhile (fun c => decide (c.toNat ≤ 0x20)) = solid.reverse := by
    cases hreverse : solid.reverse with
    | nil => rfl
    | cons c rest =>
        have hc := h c (List.mem_reverse.mp (hreverse ▸ List.mem_cons_self))
        exact List.dropWhile_cons_of_neg (by simpa using hc)
  have hkept : solid.filter (fun c => !([9, 10, 13].contains c.toNat)) = solid := by
    rw [List.filter_eq_self]
    intro c hc
    have hprintable := h c hc
    simp only [List.contains_cons, List.contains_nil, Bool.or_false, Bool.not_eq_true',
      Bool.or_eq_false_iff, beq_eq_false_iff_ne, ne_eq]
    omega
  simp only [stripEnd, List.reverse_append, List.dropWhile_append, hback]
  split
  · rename_i hempty
    rw [List.isEmpty_iff] at hempty
    rw [hempty, List.reverse_reverse, hkept, List.reverse_nil, List.filter_nil, List.append_nil]
  · rw [List.reverse_append, List.reverse_reverse, List.filter_append, hkept]

theorem stripInput_append {solid more : List Char} (hne : solid ≠ [])
    (h : ∀ c ∈ solid, 0x20 < c.toNat) : stripInput (solid ++ more) = solid ++ stripEnd more := by
  have hfront : (solid ++ more).dropWhile (fun c => decide (c.toNat ≤ 0x20)) = solid ++ more := by
    cases solid with
    | nil => exact absurd rfl hne
    | cons c solid =>
        have hc := h c List.mem_cons_self
        rw [List.cons_append, List.dropWhile_cons_of_neg (by simpa using hc)]
  rw [stripInput, hfront, stripEnd_append h]

theorem exists_query (target : String) : ∃ query : List Char,
    target.toList = targetPath target ++ query ∧ (query = [] ∨ query.head? = some '?') := by
  refine ⟨target.toList.dropWhile (· ≠ '?'), List.takeWhile_append_dropWhile.symm, ?_⟩
  cases hquery : target.toList.dropWhile (· ≠ '?') with
  | nil => exact .inl rfl
  | cons c query =>
      right
      have hhead := List.head?_dropWhile_not (fun c => decide (c ≠ '?')) target.toList
      rw [hquery] at hhead
      simpa using hhead

theorem head_stripEnd {query : List Char} (h : query = [] ∨ query.head? = some '?') :
    stripEnd query = [] ∨ (stripEnd query).head? = some '?' := by
  cases query with
  | nil => exact .inl rfl
  | cons c more =>
      right
      obtain rfl : c = '?' := by simpa using h
      have hstripped : stripEnd ('?' :: more) = '?' :: stripEnd more :=
        @stripEnd_append ['?'] _ (List.forall_mem_singleton.mpr (by decide))
      rw [hstripped]
      rfl

theorem pathname_parseRest {authority : Authority} {plain query : List Char}
    (hplain : ∀ c ∈ plain, c ≠ '?' ∧ c ≠ '#') (hquery : query = [] ∨ query.head? = some '?') :
    (parseRest authority (plain ++ query)).path = pathStart plain := by
  have htake : (plain ++ query).takeWhile (fun c => !(c == '?' || c == '#')) = plain := by
    rw [List.takeWhile_append_of_pos]
    · cases query with
      | nil => rw [List.takeWhile_nil, List.append_nil]
      | cons c more =>
          obtain rfl : c = '?' := by simpa using hquery
          rw [List.takeWhile_cons_of_neg (by decide), List.append_nil]
    · intro c hc
      simp [hplain c hc]
  simp only [parseRest, htake]

theorem plain_under {text : List Char} {segments : List Segment} (hne : segments ≠ [])
    (hnormal : ∀ s ∈ segments, Normal s) :
    (∀ c ∈ dropTrailingSlash (serialize (pathStart text)) ++ serialize segments,
      0x20 < c.toNat ∧ c ≠ '?' ∧ c ≠ '#') ∧
    ∀ more : List Char, ((dropTrailingSlash (serialize (pathStart text)) ++ serialize segments) ++
      more).head? = some '/' := by
  obtain ⟨front, hfront, hbase⟩ := exists_dropTrailingSlash (normal_pathStart text)
  rw [hbase]
  constructor
  · intro c hc
    rcases List.mem_append.mp hc with hc | hc
    · exact printable_serialize hfront c hc
    · exact printable_serialize hnormal c hc
  · intro more
    rw [← serialize_append]
    cases hall : front ++ segments with
    | nil => exact absurd (List.append_eq_nil_iff.mp hall).2 hne
    | cons segment others => rfl

theorem newUrl_forwarded {parser : AuthorityParser} {method target : String} {r : NativeRequest}
    {server rest text : List Char} {authority : Authority} {upstream : ParsedUrl}
    (hr : classifyNativeRequest method target = .ok r)
    (hread : parser.read server = some (authority, rest)) (hprotocol : authority.protocol = "https:")
    (hupstream : newUrl parser (authority.origin ++ dropTrailingSlash (serialize (pathStart text)) ++
      target.toList) = some upstream) :
    upstream.authority = authority.anonymous ∧
      upstream.pathname = dropTrailingSlash (serialize (pathStart text)) ++ r.path.rebuilt := by
  obtain ⟨hne, horigin⟩ := parser.origin_printable hread hprotocol
  obtain ⟨segments, hsegments, hserialize, hnames⟩ := exists_segments hr
  obtain ⟨query, htarget, hquery⟩ := exists_query target
  have hnormal : ∀ s ∈ segments, Normal s := fun s hs => normal_of_isNameText (hnames s hs)
  have hpathname := @serialize_pathStart_append text _ hsegments hnormal
  obtain ⟨hplain, hhead⟩ := @plain_under text _ hsegments hnormal
  rw [(canonical_of_classified hr).1, hserialize] at htarget
  rw [hserialize]
  rw [htarget, ← List.append_assoc, List.append_assoc authority.origin, newUrl,
    stripInput_append (by simp [hne]), List.append_assoc authority.origin,
    parser.read_origin hread hprotocol (hhead _), Option.map_some, Option.some.injEq] at hupstream
  · subst hupstream
    refine ⟨rfl, ?_⟩
    rw [ParsedUrl.pathname, pathname_parseRest (fun c hc => (hplain c hc).2) (head_stripEnd hquery),
      hpathname]
  · intro c hc
    rcases List.mem_append.mp hc with hc | hc
    · exact horigin c hc
    · exact (hplain c hc).1

/-- **The URL of a forwarded request**: the endpoint's authority, and the rebuilt path of the target
under the endpoint's path. -/
theorem forwardNativeRead_eq_ok {parser : AuthorityParser} {config : KubeConfig}
    {target subject : String} {aborted : Bool} {request : UpstreamRequest}
    (h : forwardNativeRead parser config target subject aborted = .ok request) :
    ∃ r cluster endpoint, classifyNativeRequest "GET" target = .ok r ∧
      r.subresource ≠ some "exec" ∧ config.currentCluster = some cluster ∧
      newUrl parser cluster.server.toList = some endpoint ∧
      request.url.authority = endpoint.authority ∧
      request.url.pathname = dropTrailingSlash endpoint.pathname ++ r.path.rebuilt := by
  obtain ⟨r, hr, h⟩ := Results.bind_eq_ok.mp h
  split at h
  · cases h
  rename_i hsupported
  push Not at hsupported
  split at h
  · cases h
  rename_i cluster hcluster
  split at h
  · cases h
  split at h
  · cases h
  rename_i endpoint hendpoint
  split at h
  · cases h
  rename_i hauthority
  push Not at hauthority
  split at h
  · cases h
  rename_i upstream hupstream
  split at h
  · cases h
  split at h
  · cases h
  obtain rfl := Except.ok.inj h
  refine ⟨r, cluster, endpoint, hr, hsupported.1, hcluster, hendpoint, ?_⟩
  obtain ⟨⟨authority, rest⟩, hread, rfl⟩ := Option.map_eq_some_iff.mp hendpoint
  obtain ⟨hprotocol, husername, hpassword, -⟩ := hauthority
  obtain ⟨hsame, hpathname⟩ := newUrl_forwarded hr hread hprotocol hupstream
  refine ⟨?_, hpathname⟩
  rw [hsame]
  obtain ⟨protocol, username, password, origin⟩ := authority
  obtain rfl : username = "" := husername
  obtain rfl : password = "" := hpassword
  rfl

theorem subresource_of_supported {r : NativeRequest} (h : r.Supported) :
    r.subresource ∈ [none, some "log", some "exec"] := by
  cases h with
  | read hsub => simp [hsub]
  | log hsub => simp [hsub]
  | exec hsub => simp [hsub]

/-- **One reading of a path**: what is classified is rebuilt from its parts, none of which another
reader could take differently, and what is forwarded is no exec and keeps its path. -/
theorem nativePath_unambiguous :
    (∀ (method target : String) (r : NativeRequest), classifyNativeRequest method target = .ok r →
      (targetPath target = r.path.rebuilt ∧ ∀ part ∈ r.path.parts, IsPart part) ∧
        watchCount target ≤ 1 ∧ r.subresource ∈ [none, some "log", some "exec"]) ∧
    ∀ (parser : AuthorityParser) (config : KubeConfig) (target subject : String) (aborted : Bool)
      (request : UpstreamRequest),
      forwardNativeRead parser config target subject aborted = .ok request →
      ∃ r cluster endpoint, classifyNativeRequest "GET" target = .ok r ∧
        r.subresource ∈ [none, some "log"] ∧ config.currentCluster = some cluster ∧
        newUrl parser cluster.server.toList = some endpoint ∧
        request.url.authority = endpoint.authority ∧
        request.url.pathname = dropTrailingSlash endpoint.pathname ++ targetPath target := by
  constructor
  · intro method target r hr
    obtain ⟨hrebuilt, hparts⟩ := canonical_of_classified hr
    exact ⟨⟨hrebuilt, fun part hpart => isPart_of_isNameText (hparts part hpart)⟩,
      (matched_of_classified hr).2.2, subresource_of_supported (classifyNativeRequest_eq_ok hr).2.2⟩
  · intro parser config target subject aborted request h
    obtain ⟨r, cluster, endpoint, hr, hexec, hcluster, hendpoint, hsame, hpathname⟩ :=
      forwardNativeRead_eq_ok h
    refine ⟨r, cluster, endpoint, hr, ?_, hcluster, hendpoint, hsame, ?_⟩
    · have hsub := subresource_of_supported (classifyNativeRequest_eq_ok hr).2.2
      simp only [List.mem_cons, List.not_mem_nil, or_false] at hsub ⊢
      rcases hsub with hnone | hlog | hother
      · exact .inl hnone
      · exact .inr hlog
      · exact absurd hother hexec
    · rw [hpathname, (canonical_of_classified hr).1]

def isHostChar (c : Char) : Bool := isLowerAlnum c || c == '.' || c == '-'

/-- `https://`, a host in lower case, and a path behind it. -/
def readPlainHost (text : List Char) : Option (Authority × List Char) :=
  let scheme := "https://".toList
  let host := (text.drop scheme.length).takeWhile isHostChar
  let rest := (text.drop scheme.length).dropWhile isHostChar
  if scheme.isPrefixOf text && !host.isEmpty && (rest.isEmpty || rest.head? == some '/') then
    some (⟨"https:", "", "", scheme ++ host⟩, rest)
  else none

theorem readPlainHost_eq_some {text rest : List Char} {authority : Authority}
    (h : readPlainHost text = some (authority, rest)) :
    ∃ host : List Char, host ≠ [] ∧ (∀ c ∈ host, isHostChar c = true) ∧
      authority = ⟨"https:", "", "", "https://".toList ++ host⟩ := by
  simp only [readPlainHost] at h
  split at h
  · rename_i hparts
    simp only [Option.some.injEq, Prod.mk.injEq] at h
    simp only [Bool.and_eq_true, Bool.not_eq_true', List.isEmpty_eq_false_iff] at hparts
    exact ⟨_, hparts.1.2, fun c hc => List.mem_takeWhile_imp hc, h.1.symm⟩
  · cases h

theorem readPlainHost_append {host tail : List Char} (hne : host ≠ [])
    (hhost : ∀ c ∈ host, isHostChar c = true) (htail : tail.head? = some '/') :
    readPlainHost (("https://".toList ++ host) ++ tail) =
      some (⟨"https:", "", "", "https://".toList ++ host⟩, tail) := by
  have hdrop : (("https://".toList ++ host) ++ tail).drop "https://".toList.length = host ++ tail := by
    rw [List.append_assoc, List.drop_left]
  have hstop : tail.takeWhile isHostChar = [] ∧ tail.dropWhile isHostChar = tail := by
    cases tail with
    | nil => cases htail
    | cons c tail =>
        obtain rfl : c = '/' := by simpa using htail
        exact ⟨List.takeWhile_cons_of_neg (by decide), List.dropWhile_cons_of_neg (by decide)⟩
  have hscheme : "https://".toList.isPrefixOf (("https://".toList ++ host) ++ tail) = true := by
    rw [List.isPrefixOf_iff_prefix, List.append_assoc]
    exact List.prefix_append _ _
  simp only [readPlainHost, hdrop, List.takeWhile_append_of_pos hhost,
    List.dropWhile_append_of_pos hhost, hstop, List.append_nil, hscheme, htail]
  simp [hne]

theorem printable_of_isHostChar {c : Char} (h : isHostChar c = true) : 0x20 < c.toNat := by
  by_cases hslash : c = '/'
  · rw [hslash]
    decide
  · have hpath : isPathChar c = true := by
      simp only [isHostChar, isPathChar, Bool.or_eq_true, beq_iff_eq] at h ⊢
      tauto
    exact (pathChar_plain hpath hslash).2.2

def plainHosts : AuthorityParser where
  read := readPlainHost
  read_origin := by
    intro text rest tail authority h hprotocol htail
    obtain ⟨host, hne, hhost, rfl⟩ := readPlainHost_eq_some h
    exact readPlainHost_append hne hhost htail
  origin_printable := by
    intro text rest authority h hprotocol
    obtain ⟨host, hne, hhost, rfl⟩ := readPlainHost_eq_some h
    refine ⟨by simp, fun c hc => ?_⟩
    rcases List.mem_append.mp hc with hc | hc
    · have hscheme : "https://".toList.all (fun c => decide (0x20 < c.toNat)) = true := by decide
      exact of_decide_eq_true (List.all_eq_true.mp hscheme c hc)
    · exact printable_of_isHostChar (hhost c hc)

def exampleConfig : KubeConfig where
  currentCluster := some ⟨"https://cluster.example/proxy/../a b/", false⟩
  appliedHeaders := .fields [("impersonate-user", .string "admin")]

def exampleTarget : String := "/api/v1/namespaces/ai/pods?watch=true"

def exampleSubject : String :=
  "kubenova:native:0123456789abcdef0123456789abcdef01234567"

def examplePods : NativeRequest := ⟨"/api/v1", "ai", "pods", none, none, .watch, none⟩

def exampleRequest : UpstreamRequest where
  url :=
    { authority := ⟨"https:", "", "", "https://cluster.example".toList⟩
      path := ["a%20b", "api", "v1", "namespaces", "ai", "pods"].map String.toList
      query := some "watch=true".toList
      fragment := none }
  method := "GET"
  headers := [("Impersonate-User", .string exampleSubject), ("Accept", .string "application/json")]
  rejectUnauthorized := true

/-- The watch is classified, and goes out under the endpoint's own path. -/
theorem nativePath_unambiguous_watch :
    ((targetPath exampleTarget = examplePods.path.rebuilt ∧
        ∀ part ∈ examplePods.path.parts, IsPart part) ∧
      watchCount exampleTarget ≤ 1 ∧
      examplePods.subresource ∈ [none, some "log", some "exec"]) ∧
    ∃ r cluster endpoint, classifyNativeRequest "GET" exampleTarget = .ok r ∧
      r.subresource ∈ [none, some "log"] ∧ exampleConfig.currentCluster = some cluster ∧
      newUrl plainHosts cluster.server.toList = some endpoint ∧
      exampleRequest.url.authority = endpoint.authority ∧
      exampleRequest.url.pathname =
        dropTrailingSlash endpoint.pathname ++ targetPath exampleTarget :=
  ⟨nativePath_unambiguous.1 "GET" exampleTarget examplePods rfl,
    nativePath_unambiguous.2 plainHosts exampleConfig exampleTarget exampleSubject false
      exampleRequest rfl⟩

end KubeNova.Native
