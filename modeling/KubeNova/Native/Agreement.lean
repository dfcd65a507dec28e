import KubeNova.Native.Gateway
import Mathlib.Data.List.TakeWhile

/-!
# The three views of native access

The gateway's decision on a request, the Role planned for the user, and the catalogue a
client discovers are computed by separate functions.  They agree.
-/

namespace KubeNova.Native

open KubeNova.Foundation KubeNova.Common KubeNova.Access

/-- The resource a rule names: the resource of the request, or `resource/subresource`. -/
def NativeRequest.ruleResource (r : NativeRequest) : String :=
  match r.subresource with
  | none => r.resource
  | some subresource => r.resource ++ "/" ++ subresource

theorem apiGroup_ne_star : ∀ entry ∈ nativeReadResources, apiGroup entry.1 ≠ "*" := by decide

theorem plain_readResources : ∀ entry ∈ nativeReadResources,
    "*" ∉ entry.2 ∧ "pods/log" ∉ entry.2 ∧ "pods/exec" ∉ entry.2 := by decide

theorem mem_readResources {api resource : String} (h : resource ∈ readResources api) :
    ∃ entry ∈ nativeReadResources, entry.1 = api ∧ resource ∈ entry.2 := by
  unfold readResources at h
  cases hlookup : nativeReadResources.lookup api with
  | none => simp [hlookup] at h
  | some resources =>
      exact ⟨(api, resources), mem_of_lookup hlookup, rfl, by simpa [hlookup] using h⟩

theorem apiGroup_of_pods {api : String} (h : "pods" ∈ readResources api) : apiGroup api = "" := by
  obtain ⟨entry, hentry, rfl, hmem⟩ := mem_readResources h
  revert entry
  decide

section Covered

variable {hasCapability : AuthorizationCapability → Bool}

/-- A read rule covers exactly the read verbs on the resources of its API that the
capabilities admit. -/
theorem readRule_covers_iff {entry : String × List String} (hentry : entry ∈ nativeReadResources)
    {group resource verb : String} :
    (rule (apiGroup entry.1)
        (entry.2.filter fun resource => resource != "secrets" || hasCapability .secrets)
        ["get", "list", "watch"]).covers group resource verb = true ↔
      apiGroup entry.1 = group ∧
        (resource ∈ entry.2 ∧ (resource = "secrets" → hasCapability .secrets = true)) ∧
        verb ∈ ["get", "list", "watch"] := by
  have hplain : "*" ∉ entry.2.filter fun resource => resource != "secrets" || hasCapability .secrets :=
    fun hstar => (plain_readResources entry hentry).1 (List.mem_of_mem_filter hstar)
  rw [rule_covers_iff (apiGroup_ne_star entry hentry) hplain (by simp)]
  simp only [List.mem_filter, Bool.or_eq_true, bne_iff_ne, ne_eq, ← imp_iff_not_or]

theorem exists_planRules_covers_iff {group resource verb : String} :
    (∃ x ∈ planRules hasCapability, x.covers group resource verb = true) ↔
      (∃ entry ∈ nativeReadResources, apiGroup entry.1 = group ∧
        (resource ∈ entry.2 ∧ (resource = "secrets" → hasCapability .secrets = true)) ∧
        verb ∈ ["get", "list", "watch"]) ∨
      (hasCapability .logs = true ∧ "" = group ∧ resource ∈ ["pods/log"] ∧ verb ∈ ["get"]) ∨
      (hasCapability .exec = true ∧ "" = group ∧ resource ∈ ["pods/exec"] ∧
        verb ∈ ["get", "create"]) := by
  have hlog : (rule "" ["pods/log"] ["get"]).covers group resource verb = true ↔
      "" = group ∧ resource ∈ ["pods/log"] ∧ verb ∈ ["get"] :=
    rule_covers_iff (by simp) (by simp) (by simp)
  have hexec : (rule "" ["pods/exec"] ["get", "create"]).covers group resource verb = true ↔
      "" = group ∧ resource ∈ ["pods/exec"] ∧ verb ∈ ["get", "create"] :=
    rule_covers_iff (by simp) (by simp) (by simp)
  constructor
  · rintro ⟨x, hx, hcovers⟩
    simp only [planRules, List.mem_append, List.mem_map] at hx
    rcases hx with (⟨entry, hentry, rfl⟩ | hx) | hx
    · exact .inl ⟨entry, hentry, (readRule_covers_iff hentry).mp hcovers⟩
    · split at hx
      · obtain rfl := List.mem_singleton.mp hx
        exact .inr (.inl ⟨‹_›, hlog.mp hcovers⟩)
      · simp at hx
    · split at hx
      · obtain rfl := List.mem_singleton.mp hx
        exact .inr (.inr ⟨‹_›, hexec.mp hcovers⟩)
      · simp at hx
  · rintro (⟨entry, hentry, hcovered⟩ | ⟨hgranted, hcovered⟩ | ⟨hgranted, hcovered⟩)
    · exact ⟨_, List.mem_append_left _ (List.mem_append_left _ (List.mem_map_of_mem hentry)),
        (readRule_covers_iff hentry).mpr hcovered⟩
    · exact ⟨_, by simp [planRules, hgranted], hlog.mpr hcovered⟩
    · exact ⟨_, by simp [planRules, hgranted], hexec.mpr hcovered⟩

theorem planRules_cover_iff {r : NativeRequest} (hresource : r.resource ∈ readResources r.api)
    (hsupported : r.Supported) :
    (∃ x ∈ planRules hasCapability, x.covers (apiGroup r.api) r.ruleResource r.verb.text = true) ↔
      r.capability.all hasCapability = true := by
  rw [exists_planRules_covers_iff]
  obtain ⟨served, hserved, hapi, hmem⟩ := mem_readResources hresource
  cases hsupported with
  | read hsub hverb hcapability =>
      have hname : r.ruleResource = r.resource := by simp [NativeRequest.ruleResource, hsub]
      have hplain := plain_readResources served hserved
      have hverbText : r.verb.text ∈ ["get", "list", "watch"] := by
        revert hverb
        cases r.verb <;> simp [NativeVerb.text]
      rw [hname, hcapability]
      constructor
      · rintro (⟨entry, hentry, -, ⟨-, hsecrets⟩, -⟩ | ⟨-, -, hlisted, -⟩ | ⟨-, -, hlisted, -⟩)
        · split
          · exact hsecrets ‹_›
          · rfl
        · exact absurd (List.mem_singleton.mp hlisted ▸ hmem) hplain.2.1
        · exact absurd (List.mem_singleton.mp hlisted ▸ hmem) hplain.2.2
      · intro hgranted
        refine .inl ⟨served, hserved, by rw [hapi], ⟨hmem, fun hsecrets => ?_⟩, hverbText⟩
        simpa [hsecrets] using hgranted
  | log hsub hpods hverb hcapability =>
      have hname : r.ruleResource = "pods/log" := by simp [NativeRequest.ruleResource, hsub, hpods]
      have hgroup : apiGroup r.api = "" := apiGroup_of_pods (hpods ▸ hresource)
      rw [hname, hgroup, hverb, hcapability]
      constructor
      · rintro (⟨entry, hentry, -, ⟨hlisted, -⟩, -⟩ | ⟨hgranted, -⟩ | ⟨-, -, hother, -⟩)
        · exact absurd hlisted (plain_readResources entry hentry).2.1
        · exact hgranted
        · simp at hother
      · intro hgranted
        exact .inr (.inl ⟨hgranted, rfl, by simp, by simp [NativeVerb.text]⟩)
  | exec hsub hpods hverb hcapability =>
      have hname : r.ruleResource = "pods/exec" := by simp [NativeRequest.ruleResource, hsub, hpods]
      have hgroup : apiGroup r.api = "" := apiGroup_of_pods (hpods ▸ hresource)
      have hverbText : r.verb.text ∈ ["get", "create"] := by
        revert hverb
        cases r.verb <;> simp [NativeVerb.text]
      rw [hname, hgroup, hcapability]
      constructor
      · rintro (⟨entry, hentry, -, ⟨hlisted, -⟩, -⟩ | ⟨-, -, hother, -⟩ | ⟨hgranted, -⟩)
        · exact absurd hlisted (plain_readResources entry hentry).2.2
        · simp at hother
        · exact hgranted
      · intro hgranted
        exact .inr (.inr ⟨hgranted, rfl, by simp, hverbText⟩)

end Covered

/-! ## Accepted requests -/

/-- Characters of the paths below: none that the classification refuses. -/
def isPathChar (c : Char) : Bool := isLowerAlnum c || c == '-' || c == '.' || c == '/'

theorem pathChar_of_isName {inner cs : List Char} (hinner : inner ⊆ ['-', '.'])
    (h : isName inner cs = true) : ∀ c ∈ cs, isPathChar c = true ∧ c ≠ '/' := by
  intro c hc
  simp only [isName, Bool.and_eq_true, List.all_eq_true, Bool.or_eq_true] at h
  rcases h.2 c hc with halnum | hextra
  · refine ⟨by simp [isPathChar, halnum], ?_⟩
    rintro rfl
    exact absurd halnum (by decide)
  · have hmem := hinner (by simpa using hextra)
    simp only [List.mem_cons, List.not_mem_nil, or_false] at hmem
    rcases hmem with rfl | rfl <;> decide

theorem ne_nil_of_isName {inner cs : List Char} (h : isName inner cs = true) : cs ≠ [] := by
  rintro rfl
  simp [isName] at h

/-- A character of a path or of the query `watch=true`. -/
def isTargetChar (c : Char) : Bool := isPathChar c || c == '?' || c == '='

theorem isTargetChar_plain {c : Char} (h : isTargetChar c = true) :
    Text.isSpace c = false ∧ c ≠ '#' ∧ c ≠ '\\' ∧ 0x20 < c.toNat := by
  have hlt : c.toNat < 123 := by
    simp only [isTargetChar, isPathChar, isLowerAlnum, Text.isDigit, Bool.or_eq_true,
      Bool.and_eq_true, decide_eq_true_eq, beq_iff_eq] at h
    rcases h with (((((h | h) | rfl) | rfl) | rfl) | rfl) | rfl
    · exact Nat.lt_of_le_of_lt h.2 (by decide)
    · exact Nat.lt_of_le_of_lt h.2 (by decide)
    all_goals decide
  have hall : ∀ n < 123, isTargetChar (Char.ofNat n) = true →
      Text.isSpace (Char.ofNat n) = false ∧ Char.ofNat n ≠ '#' ∧ Char.ofNat n ≠ '\\' ∧
        0x20 < (Char.ofNat n).toNat := by decide
  have hc := hall c.toNat hlt
  rw [Char.ofNat_toNat] at hc
  exact hc h

def segment (path name : List Char) : List Char := path ++ '/' :: name

theorem splitOn_segment {path name : List Char} (hname : '/' ∉ name) :
    (segment path name).splitOn '/' = path.splitOn '/' ++ [name] := by
  rw [segment, List.splitOn_append_cons_self, List.splitOn_eq_singleton hname]

theorem exists_doubleSlash {path : List Char} (h : hasDoubleSlash path = true) :
    ∃ before after, path = before ++ '/' :: '/' :: after := by
  induction path using hasDoubleSlash.induct with
  | case1 rest => exact ⟨[], rest, rfl⟩
  | case2 c rest hne ih =>
      rw [hasDoubleSlash] at h
      · obtain ⟨before, after, rfl⟩ := ih h
        exact ⟨c :: before, after, rfl⟩
      · exact hne
  | case3 => simp [hasDoubleSlash] at h

theorem hasDoubleSlash_eq_false {path : List Char} (h : [] ∉ (path.splitOn '/').tail) :
    hasDoubleSlash path = false := by
  by_contra hdouble
  obtain ⟨before, after, rfl⟩ := exists_doubleSlash (by simpa using hdouble)
  refine h ?_
  rw [List.splitOn_append_cons_self, List.tail_append_of_ne_nil (List.splitOn_ne_nil _ _)]
  have hempty := List.splitOn_append_cons_self (a := '/') ([] : List Char) after
  simp only [List.nil_append, List.splitOn_nil] at hempty
  rw [hempty]
  simp

def requestPath (api namespaceName resource : String) (name : Option String) : List Char :=
  let list := segment (segment (segment api.toList "namespaces".toList) namespaceName.toList)
    resource.toList
  match name with
  | none => list
  | some name => segment list name.toList

def readQuery : NativeVerb → List Char
  | .watch => "?watch=true".toList
  | _ => []

def requestTarget (api namespaceName resource name : String) (verb : NativeVerb) : String :=
  String.ofList (requestPath api namespaceName resource (if verb = .get then some name else none) ++
    readQuery verb)

def isObjectName (name : String) : Bool := isName ['-', '.'] name.toList && name.toList.length ≤ 253

theorem pathChar_of_isWord {cs : List Char} (h : isWord cs = true) :
    ∀ c ∈ cs, isPathChar c = true ∧ c ≠ '/' := by
  intro c hc
  simp only [isWord, Bool.and_eq_true, List.all_eq_true, decide_eq_true_eq] at h
  have hletter := h.2 c hc
  refine ⟨by simp [isPathChar, isLowerAlnum, hletter], ?_⟩
  rintro rfl
  exact absurd hletter (by decide)

theorem table_text : ∀ entry ∈ nativeReadResources,
    (entry.1.toList.length ≤ 30 ∧ entry.1.toList.head? = some '/' ∧
      ∀ c ∈ entry.1.toList, isPathChar c = true) ∧
    ∀ resource ∈ entry.2, isWord resource.toList = true ∧ resource.toList.length ≤ 30 := by
  have htable : ∀ entry ∈ nativeReadResources,
      (entry.1.toList.length ≤ 30 ∧ entry.1.toList.head? = some '/' ∧
        entry.1.toList.all isPathChar = true) ∧
      ∀ resource ∈ entry.2, isWord resource.toList = true ∧ resource.toList.length ≤ 30 := by
    decide
  intro entry hentry
  obtain ⟨⟨hlength, hhead, hchars⟩, hresources⟩ := htable entry hentry
  exact ⟨⟨hlength, hhead, List.all_eq_true.mp hchars⟩, hresources⟩

theorem matchApi_table {entry : String × List String} (hentry : entry ∈ nativeReadResources)
    (rest : List (List Char)) :
    matchApi (entry.1.toList.splitOn '/' ++ rest) = some (entry.1, rest) ∧
      [] ∉ (entry.1.toList.splitOn '/').tail := by
  simp only [nativeReadResources, List.mem_cons, List.not_mem_nil, or_false] at hentry
  rcases hentry with rfl | rfl | rfl | rfl | rfl | rfl | rfl <;> exact ⟨rfl, by decide⟩

theorem lookup_table : ∀ entry ∈ nativeReadResources, readResources entry.1 = entry.2 := by decide

section Accepted

variable {entry : String × List String} {namespaceName resource : String} {name : Option String}

theorem splitOn_requestPath (hns : isNamespaceName namespaceName = true)
    (hresource : isWord resource.toList = true) (hname : name.all isObjectName = true) :
    (requestPath entry.1 namespaceName resource name).splitOn '/' =
      entry.1.toList.splitOn '/' ++ ("namespaces".toList :: namespaceName.toList ::
        resource.toList :: (name.map String.toList).toList) := by
  simp only [isNamespaceName, Bool.and_eq_true] at hns
  have hns' : '/' ∉ namespaceName.toList := fun h =>
    (pathChar_of_isName (by simp) hns.1 _ h).2 rfl
  have hresource' : '/' ∉ resource.toList := fun h => (pathChar_of_isWord hresource _ h).2 rfl
  have hlist : (segment (segment (segment entry.1.toList "namespaces".toList) namespaceName.toList)
      resource.toList).splitOn '/' = entry.1.toList.splitOn '/' ++
        ["namespaces".toList, namespaceName.toList, resource.toList] := by
    rw [splitOn_segment hresource', splitOn_segment hns', splitOn_segment (by decide)]
    simp only [List.append_assoc, List.cons_append, List.nil_append]
  cases name with
  | none => exact hlist
  | some name =>
      simp only [Option.all_some, isObjectName, Bool.and_eq_true] at hname
      have hname' : '/' ∉ name.toList := fun h =>
        (pathChar_of_isName (by simp) hname.1 _ h).2 rfl
      rw [requestPath, splitOn_segment hname', hlist]
      simp

theorem matchPath_requestPath (hentry : entry ∈ nativeReadResources)
    (hns : isNamespaceName namespaceName = true) (hresource : isWord resource.toList = true)
    (hname : name.all isObjectName = true) :
    matchPath (requestPath entry.1 namespaceName resource name) =
      some ⟨entry.1, namespaceName, resource, name, none⟩ := by
  have hnsName : isName ['-'] namespaceName.toList = true := by
    simp only [isNamespaceName, Bool.and_eq_true] at hns
    exact hns.1
  simp only [matchPath, splitOn_requestPath hns hresource hname, (matchApi_table hentry _).1,
    Option.bind_eq_bind, Option.bind_some, hnsName, hresource, and_self, if_true]
  cases name with
  | none => simp [matchName]
  | some name =>
      simp only [Option.all_some, isObjectName, Bool.and_eq_true] at hname
      simp [matchName, hname.1]

theorem noDoubleSlash_requestPath (hentry : entry ∈ nativeReadResources)
    (hns : isNamespaceName namespaceName = true) (hresource : isWord resource.toList = true)
    (hname : name.all isObjectName = true) :
    hasDoubleSlash (requestPath entry.1 namespaceName resource name) = false := by
  refine hasDoubleSlash_eq_false ?_
  rw [splitOn_requestPath hns hresource hname, List.tail_append_of_ne_nil (List.splitOn_ne_nil _ _)]
  simp only [isNamespaceName, Bool.and_eq_true] at hns
  have hempty : resource.toList ≠ [] := by
    rintro h
    simp [h, isWord] at hresource
  intro hmem
  rcases List.mem_append.mp hmem with hmem | hmem
  · exact (matchApi_table hentry []).2 hmem
  · simp only [List.mem_cons] at hmem
    rcases hmem with h | h | h | h
    · exact absurd h (by decide)
    · exact ne_nil_of_isName hns.1 h.symm
    · exact hempty h.symm
    · cases name with
      | none => simp at h
      | some name =>
          simp only [Option.all_some, isObjectName, Bool.and_eq_true] at hname
          simp only [Option.map_some, Option.toList_some, List.mem_singleton] at h
          exact ne_nil_of_isName hname.1 h.symm

theorem pathChar_requestPath (hentry : entry ∈ nativeReadResources)
    (hns : isNamespaceName namespaceName = true) (hresource : isWord resource.toList = true)
    (hname : name.all isObjectName = true) :
    ∀ c ∈ requestPath entry.1 namespaceName resource name, isPathChar c = true := by
  simp only [isNamespaceName, Bool.and_eq_true] at hns
  have hsegment : ∀ path name : List Char, (∀ c ∈ path, isPathChar c = true) →
      (∀ c ∈ name, isPathChar c = true) → ∀ c ∈ segment path name, isPathChar c = true := by
    intro path name hpath hname c hc
    rcases List.mem_append.mp hc with hc | hc
    · exact hpath c hc
    · rcases List.mem_cons.mp hc with rfl | hc
      · decide
      · exact hname c hc
  have hlist := hsegment _ _ (hsegment _ _ (hsegment _ _ (table_text entry hentry).1.2.2
    (List.all_eq_true.mp (by decide) : ∀ c ∈ "namespaces".toList, isPathChar c = true))
    fun c hc => (pathChar_of_isName (by simp) hns.1 c hc).1)
    fun c hc => (pathChar_of_isWord hresource c hc).1
  cases name with
  | none => exact hlist
  | some name =>
      simp only [Option.all_some, isObjectName, Bool.and_eq_true] at hname
      exact hsegment _ _ hlist fun c hc => (pathChar_of_isName (by simp) hname.1 c hc).1

theorem length_requestPath (hentry : entry ∈ nativeReadResources) (hresource : resource ∈ entry.2)
    (hns : isNamespaceName namespaceName = true) (hname : name.all isObjectName = true) :
    (requestPath entry.1 namespaceName resource name).length ≤ 400 := by
  obtain ⟨⟨hapi, -⟩, hwords⟩ := table_text entry hentry
  have hword := (hwords resource hresource).2
  simp only [isNamespaceName, Bool.and_eq_true, decide_eq_true_eq] at hns
  have hlist : (segment (segment (segment entry.1.toList "namespaces".toList) namespaceName.toList)
      resource.toList).length ≤ 140 := by
    have hnamespaces : "namespaces".toList.length = 10 := by decide
    simp only [segment, List.length_append, List.length_cons, hnamespaces]
    omega
  cases name with
  | none => exact Nat.le_trans hlist (by omega)
  | some name =>
      simp only [Option.all_some, isObjectName, Bool.and_eq_true, decide_eq_true_eq] at hname
      rw [requestPath, segment, List.length_append, List.length_cons]
      omega

theorem readQuery_text : ∀ verb : NativeVerb, (readQuery verb).length ≤ 11 ∧
    (∀ c ∈ readQuery verb, isTargetChar c = true) ∧ (readQuery verb).takeWhile (· ≠ '?') = [] ∧
    getAll (searchParams (((readQuery verb).dropWhile (· ≠ '?')).drop 1)) "watch" =
      if verb = .watch then [utf8 "true"] else [] := by
  intro verb
  cases verb <;> exact ⟨by decide, List.all_eq_true.mp (by decide), by decide, by decide⟩

theorem urlQuery_append {path query : List Char} (hpath : ∀ c ∈ path, c ≠ '?')
    (hplain : ∀ c ∈ path ++ query, 0x20 < c.toNat) :
    urlQuery (path ++ query) = (query.dropWhile (· ≠ '?')).drop 1 := by
  have hstrip : (path ++ query).reverse.dropWhile (fun c => c.toNat ≤ 0x20) =
      (path ++ query).reverse := by
    rw [List.dropWhile_eq_self_iff]
    intro hlen
    have hmem := hplain _ (List.mem_reverse.mp (List.getElem_mem hlen))
    simpa using hmem
  rw [urlQuery, hstrip, List.reverse_reverse, List.dropWhile_append_of_pos]
  intro c hc
  simpa using hpath c hc

theorem textLength_le (s : String) : Text.length s ≤ 2 * s.toList.length := by
  unfold Text.length
  induction s.toList with
  | nil => simp
  | cons c cs ih =>
      simp only [List.map_cons, List.sum_cons, List.length_cons]
      split <;> omega

theorem classify_requestTarget (hentry : entry ∈ nativeReadResources)
    (hresource : resource ∈ entry.2) (hns : isNamespaceName namespaceName = true) {name : String}
    (hname : isObjectName name = true) {verb : NativeVerb} (hverb : verb ≠ .create) :
    classifyNativeRequest "GET" (requestTarget entry.1 namespaceName resource name verb) =
      .ok ⟨entry.1, namespaceName, resource, if verb = .get then some name else none, none, verb,
        if resource = "secrets" then some .secrets else none⟩ := by
  have hword := ((table_text entry hentry).2 resource hresource).1
  have hobject : (if verb = .get then some name else none).all isObjectName = true := by
    split
    · exact hname
    · rfl
  generalize hname' : (if verb = .get then some name else none) = object at hobject ⊢
  obtain ⟨hqueryLength, hqueryChars, hqueryPath, hwatch⟩ := readQuery_text verb
  have hpathChars := pathChar_requestPath hentry hns hword hobject
  have hpathPlain : ∀ c ∈ requestPath entry.1 namespaceName resource object, c ≠ '?' ∧ c ≠ '%' := by
    intro c hc
    have h := hpathChars c hc
    constructor <;> rintro rfl <;> exact absurd h (by decide)
  have hchars : (requestTarget entry.1 namespaceName resource name verb).toList =
      requestPath entry.1 namespaceName resource object ++ readQuery verb := by
    rw [requestTarget, String.toList_ofList, hname']
  have htarget : ∀ c ∈ requestPath entry.1 namespaceName resource object ++ readQuery verb,
      isTargetChar c = true := by
    intro c hc
    rcases List.mem_append.mp hc with hc | hc
    · simp [isTargetChar, hpathChars c hc]
    · exact hqueryChars c hc
  have hlength : Text.length (requestTarget entry.1 namespaceName resource name verb) ≤ 16384 := by
    have hpath := length_requestPath hentry hresource hns hobject
    have hall := textLength_le (requestTarget entry.1 namespaceName resource name verb)
    rw [hchars, List.length_append] at hall
    omega
  have hhead : (requestPath entry.1 namespaceName resource object ++ readQuery verb).head? =
      some '/' := by
    have hsegment : ∀ path name : List Char, path.head? = some '/' →
        (segment path name).head? = some '/' := by
      intro path name h
      rw [segment, List.head?_append, h, Option.some_or]
    have hlist := hsegment _ resource.toList (hsegment _ namespaceName.toList
      (hsegment _ "namespaces".toList (table_text entry hentry).1.2.1))
    rw [List.head?_append]
    cases object with
    | none => rw [requestPath, hlist, Option.some_or]
    | some name => rw [requestPath, hsegment _ _ hlist, Option.some_or]
  have hforbidden : (requestPath entry.1 namespaceName resource object ++ readQuery verb).any
      (fun c => Text.isSpace c || c == '#' || c == '\\') = false := by
    rw [List.any_eq_false]
    intro c hc
    obtain ⟨hspace, hhash, hslash, -⟩ := isTargetChar_plain (htarget c hc)
    simp [hspace, hhash, hslash]
  have hpathname : (requestPath entry.1 namespaceName resource object ++ readQuery verb).takeWhile
      (· ≠ '?') = requestPath entry.1 namespaceName resource object := by
    rw [List.takeWhile_append_of_pos, hqueryPath, List.append_nil]
    intro c hc
    simpa using (hpathPlain c hc).1
  have hquery : getAll (searchParams (urlQuery
      (requestPath entry.1 namespaceName resource object ++ readQuery verb))) "watch" =
        if verb = .watch then [utf8 "true"] else [] := by
    rw [urlQuery_append (fun c hc => (hpathPlain c hc).1)
      fun c hc => (isTargetChar_plain (htarget c hc)).2.2.2, hwatch]
  have hpercent : (requestPath entry.1 namespaceName resource object).contains '%' = false := by
    rw [List.contains_eq_mem, decide_eq_false_iff_not]
    exact fun hmem => (hpathPlain _ hmem).2 rfl
  have hlookup : (readResources entry.1).contains resource = true := by
    rw [lookup_table entry hentry]
    simpa using hresource
  have hnsLength : ¬63 < namespaceName.length := by
    simp only [isNamespaceName, Bool.and_eq_true, decide_eq_true_eq] at hns
    rw [← String.length_toList]
    omega
  have hnameLength : object.any (fun name => 253 < name.length) = false := by
    cases object with
    | none => rfl
    | some name =>
        simp only [Option.all_some, isObjectName, Bool.and_eq_true, decide_eq_true_eq] at hobject
        simpa [← String.length_toList] using hobject.2
  have hverb' : classifyVerb "GET" ⟨entry.1, namespaceName, resource, object, none⟩
      (if verb = .watch then [utf8 "true"] else []) =
        .ok (verb, if resource = "secrets" then some .secrets else none) := by
    subst hname'
    cases verb with
    | get => simp [classifyVerb]
    | list => simp [classifyVerb]
    | watch => simp [classifyVerb]
    | create => exact absurd rfl hverb
  have hwatchValues : ¬(1 < (if verb = .watch then [utf8 "true"] else []).length ∨
      ((if verb = .watch then [utf8 "true"] else []).any fun value =>
        !(["true", "false", "1", "0"].map utf8).contains value) = true) := by
    cases verb <;> decide
  simp only [classifyNativeRequest, hchars, hforbidden, hhead, hpathname, hpercent,
    noDoubleSlash_requestPath hentry hns hword hobject,
    matchPath_requestPath hentry hns hword hobject, hquery, hnsLength, hnameLength, hlookup]
  simp only [hlength.not_gt, hwatchValues, ne_eq, not_true_eq_false, Bool.false_eq_true,
    Bool.true_eq_false, or_self, if_false, hverb', bind, Except.bind, pure, Except.pure]

end Accepted

section Decision

variable {d : Directory} {readNamespace : String → String → Option String} {actor : NativeActor}
  {clusterId method target : String} {now later : Nat} {r : NativeRequest} {uid : String}

theorem lt_nativeExpiry (grants : List Grant) {actor : NativeActor} {later : Nat}
    (hactor : later < actor.expiresAt)
    (hgrants : ∀ g ∈ grants, unexpired g.expiresAt later = true) :
    later < nativeExpiry actor grants := by
  unfold nativeExpiry
  generalize actor.expiresAt = best at hactor
  induction grants generalizing best with
  | nil => exact hactor
  | cons g grants ih =>
      refine ih (fun g' hg' => hgrants g' (by simp [hg'])) _ ?_
      have hg := hgrants g (by simp)
      rw [Nat.lt_min]
      refine ⟨hactor, ?_⟩
      cases hexpiry : g.expiresAt with
      | none => simpa using hactor
      | some ends => simpa [unexpired, hexpiry] using hg

def Allows (clusterId uid : String) (r : NativeRequest) (g : Grant) : Prop :=
  g.clusterId = clusterId ∧ g.hasCapability .kubeconfig = true ∧
    r.capability.all g.hasCapability = true ∧ ∃ scope ∈ g.namespaces, scope.namespaceUid = uid

theorem authorizeNativeRequest_iff (hactor : actor.userId ≠ "") (hnow : now ≤ later)
    (hlater : later < actor.expiresAt)
    (hunexpired : ∀ g ∈ d.listEffectiveGrants actor.userId now (some clusterId),
      unexpired g.expiresAt later = true)
    (hrequest : classifyNativeRequest method target = .ok r)
    (hlive : resolveNamespace readNamespace clusterId r.namespaceName = .ok uid) :
    (∃ decision, authorizeNativeRequest d readNamespace actor clusterId method target now later =
      .ok decision) ↔
    ∃ g ∈ d.listEffectiveGrants actor.userId now (some clusterId), Allows clusterId uid r g := by
  obtain ⟨-, hcluster, huid⟩ := resolveNamespace_eq_ok hlive
  have hclusterId : clusterId ≠ "" := by
    rintro rfl
    exact hcluster (by decide)
  have huidEmpty : uid ≠ "" := by
    rintro rfl
    exact huid (by decide)
  have hguard : ¬(actor.userId = "" ∨ clusterId = "" ∨ actor.expiresAt ≤ now) := by
    push Not
    exact ⟨hactor, hclusterId, by omega⟩
  have hcandidate : ∀ g, g ∈ (d.listEffectiveGrants actor.userId now (some clusterId)).filter
      (fun grant => grant.clusterId == clusterId && grant.hasCapability .kubeconfig &&
        r.capability.all grant.hasCapability) ↔
      g ∈ d.listEffectiveGrants actor.userId now (some clusterId) ∧ g.clusterId = clusterId ∧
        g.hasCapability .kubeconfig = true ∧ r.capability.all g.hasCapability = true := by
    intro g
    simp only [List.mem_filter, Bool.and_eq_true, beq_iff_eq, and_assoc]
  simp only [authorizeNativeRequest, hrequest, bind, Except.bind, hguard, if_false]
  generalize (d.listEffectiveGrants actor.userId now (some clusterId)).filter
      (fun grant => grant.clusterId == clusterId && grant.hasCapability .kubeconfig &&
        r.capability.all grant.hasCapability) = candidates at hcandidate
  have hmatching : ∀ g, g ∈ candidates.filter (fun grant =>
      grant.namespaces.any fun scope => scope.namespaceUid == uid) ↔
      g ∈ d.listEffectiveGrants actor.userId now (some clusterId) ∧ Allows clusterId uid r g := by
    intro g
    rw [List.mem_filter, hcandidate]
    simp only [List.any_eq_true, beq_iff_eq, Allows, and_assoc]
  constructor
  · rintro ⟨decision, hdecision⟩
    split at hdecision
    · simp at hdecision
    simp only [hlive, huidEmpty, false_or] at hdecision
    split at hdecision
    · simp at hdecision
    rename_i hnonempty
    obtain ⟨g, hg⟩ := List.exists_mem_of_ne_nil _ hnonempty
    exact ⟨g, (hmatching g).mp hg⟩
  · rintro ⟨g, hg, hallows⟩
    have hg' := (hmatching g).mpr ⟨hg, hallows⟩
    have hcandidates : candidates ≠ [] := List.ne_nil_of_mem (List.mem_of_mem_filter hg')
    have hexpiry := lt_nativeExpiry (candidates.filter fun grant =>
      grant.namespaces.any fun scope => scope.namespaceUid == uid) hlater
      fun g' hg' => hunexpired g' ((hmatching g').mp hg').1
    simp only [hcandidates, if_false, hlive, huidEmpty, List.ne_nil_of_mem hg', or_self,
      hexpiry.not_ge]
    exact ⟨_, rfl⟩

/-- The grants that count in the plan of a live namespace are those with `kubeconfig` and a
scope there. -/
theorem mem_plannedGrants_iff {nameOf : String → String}
    (hrecorded : ∀ g ∈ d.grants, ∀ scope ∈ g.namespaces,
      nameOf scope.namespaceUid = scope.namespaceName)
    (hname : nameOf uid = r.namespaceName) {g : Grant} :
    g ∈ plannedGrants ⟨actor.userId, clusterId,
        d.listEffectiveGrants actor.userId now (some clusterId), [⟨r.namespaceName, uid⟩], now⟩
        ⟨r.namespaceName, uid⟩ ↔
      g ∈ d.listEffectiveGrants actor.userId now (some clusterId) ∧
        g.hasCapability .kubeconfig = true ∧ ∃ scope ∈ g.namespaces, scope.namespaceUid = uid := by
  simp only [plannedGrants, List.mem_filter, Bool.and_eq_true, List.any_eq_true, beq_iff_eq]
  constructor
  · rintro ⟨hg, ⟨-, scope, hscope, huid, -⟩, hkubeconfig⟩
    exact ⟨hg, hkubeconfig, scope, hscope, huid⟩
  · rintro ⟨hg, hkubeconfig, scope, hscope, huid⟩
    have heffective := Directory.effective_of_mem hg
    obtain ⟨stored, hstored, hnamespaces, -⟩ := Directory.exists_stored_of_mem hg
    have hscopeName : scope.namespaceName = r.namespaceName := by
      rw [← hrecorded stored hstored scope (hnamespaces ▸ hscope), huid, hname]
    have hprincipal : g.userId = some actor.userId ∨ g.userId.isNone = true ∧
        (g.groupId.any fun id => id != "") = true := by
      rcases heffective.principal with hself | ⟨hnone, id, hid, hne⟩
      · exact .inl hself
      · exact .inr ⟨by simp [hnone], by simp [hid, hne]⟩
    have hrole : ["viewer", "operator", "cluster-admin"].contains g.role = true := by
      have hlisted := heffective.role
      simp only [roles, List.contains_eq_mem, List.mem_cons, List.not_mem_nil, or_false,
        decide_eq_true_eq] at hlisted
      rcases hlisted with h | h | h <;> rw [h] <;> decide
    refine ⟨hg, ⟨⟨⟨⟨⟨⟨⟨heffective.clusterId, ?_⟩, heffective.state⟩, ?_⟩, ?_⟩,
      heffective.unexpired⟩, hrole⟩, scope, hscope, huid, hscopeName⟩, hkubeconfig⟩
    · simpa [Bool.or_eq_true] using hprincipal
    · simpa using heffective.revokedAt
    · simpa using heffective.validFrom

theorem planNativeRbac_single (crypto : Crypto) (input : PlanInput) (scope : PlanNamespace)
    (huser : Text.trim input.userId ≠ "") (hcluster : Text.trim input.clusterId ≠ "")
    (hname : isNamespaceName scope.name = true) (huid : Text.trim scope.uid ≠ "")
    (hnamespaces : input.namespaces = [scope]) :
    ∃ subject, planNativeRbac crypto input = .ok (planPair crypto input subject scope).toList := by
  refine ⟨"kubenova:native:" ++ digest crypto (Json.stringifyStrings [input.clusterId, input.userId]), ?_⟩
  simp [planNativeRbac, nativeRbacSubject, huser, hcluster, hnamespaces, planNamespaces, hname,
    huid, bind, Except.bind, pure, Except.pure]

theorem plan_covers_iff (crypto : Crypto) {nameOf : String → String}
    (hrecorded : ∀ g ∈ d.grants, ∀ scope ∈ g.namespaces,
      nameOf scope.namespaceUid = scope.namespaceName)
    (hname : nameOf uid = r.namespaceName) (hresource : r.resource ∈ readResources r.api)
    (hsupported : r.Supported) (subject : String) :
    (∃ plan ∈ planPair crypto ⟨actor.userId, clusterId,
        d.listEffectiveGrants actor.userId now (some clusterId), [⟨r.namespaceName, uid⟩], now⟩
        subject ⟨r.namespaceName, uid⟩,
      ∃ x ∈ plan.role.rules, x.covers (apiGroup r.api) r.ruleResource r.verb.text = true) ↔
    ∃ g ∈ d.listEffectiveGrants actor.userId now (some clusterId), Allows clusterId uid r g := by
  have hplanned : ∀ g, g ∈ plannedGrants ⟨actor.userId, clusterId,
        d.listEffectiveGrants actor.userId now (some clusterId), [⟨r.namespaceName, uid⟩], now⟩
        ⟨r.namespaceName, uid⟩ ↔
      g ∈ d.listEffectiveGrants actor.userId now (some clusterId) ∧
        g.hasCapability .kubeconfig = true ∧ ∃ scope ∈ g.namespaces, scope.namespaceUid = uid :=
    fun _ => mem_plannedGrants_iff hrecorded hname
  simp only [planPair]
  generalize plannedGrants ⟨actor.userId, clusterId,
    d.listEffectiveGrants actor.userId now (some clusterId), [⟨r.namespaceName, uid⟩], now⟩
    ⟨r.namespaceName, uid⟩ = grants at hplanned
  have hcover : (∃ x ∈ planRules fun capability => grants.any (·.hasCapability capability),
      x.covers (apiGroup r.api) r.ruleResource r.verb.text = true) ↔
        (r.capability.all fun capability => grants.any (·.hasCapability capability)) = true :=
    planRules_cover_iff hresource hsupported
  constructor
  · rintro ⟨plan, hplan, hcovers⟩
    split at hplan
    · simp at hplan
    rename_i hnonempty
    obtain rfl := Option.mem_some_iff.mp hplan
    have hcapability := hcover.mp hcovers
    obtain ⟨g, hg, hgranted⟩ : ∃ g ∈ grants, r.capability.all g.hasCapability = true := by
      cases hneeded : r.capability with
      | none =>
          obtain ⟨g, hg⟩ := List.exists_mem_of_ne_nil _ hnonempty
          exact ⟨g, hg, rfl⟩
      | some capability =>
          obtain ⟨g, hg, hhas⟩ := List.any_eq_true.mp (by simpa [hneeded] using hcapability)
          exact ⟨g, hg, hhas⟩
    obtain ⟨heffective, hkubeconfig, hscope⟩ := (hplanned g).mp hg
    exact ⟨g, heffective, (Directory.effective_of_mem heffective).clusterId, hkubeconfig, hgranted,
      hscope⟩
  · rintro ⟨g, heffective, -, hkubeconfig, hgranted, hscope⟩
    have hg : g ∈ grants := (hplanned g).mpr ⟨heffective, hkubeconfig, hscope⟩
    rw [if_neg (List.ne_nil_of_mem hg)]
    refine ⟨_, rfl, hcover.mpr ?_⟩
    cases hneeded : r.capability with
    | none => rfl
    | some capability =>
        refine List.any_eq_true.mpr ⟨g, hg, ?_⟩
        simpa [hneeded] using hgranted

end Decision

/-- The gateway, the planned Role and discovery give a user the same access.  Every scope of a
grant was recorded with the name its namespace had, and no other namespace ever gets that uid. -/
theorem native_views_agree (crypto : Crypto) (d : Directory)
    (readNamespace : String → String → Option String) (nameOf : String → String)
    (actor : NativeActor) (clusterId method target : String) (now later : Nat) (r : NativeRequest)
    (uid : String)
    (hrecorded : ∀ g ∈ d.grants, ∀ scope ∈ g.namespaces,
      nameOf scope.namespaceUid = scope.namespaceName)
    (hnames : ∀ name uid, readNamespace clusterId name = some uid → nameOf uid = name)
    (hactor : Text.trim actor.userId ≠ "") (hnow : now ≤ later) (hlater : later < actor.expiresAt)
    (hunexpired : ∀ g ∈ d.listEffectiveGrants actor.userId now (some clusterId),
      unexpired g.expiresAt later = true)
    (hrequest : classifyNativeRequest method target = .ok r)
    (hlive : resolveNamespace readNamespace clusterId r.namespaceName = .ok uid) :
    (∃ plans, planNativeRbac crypto ⟨actor.userId, clusterId,
        d.listEffectiveGrants actor.userId now (some clusterId), [⟨r.namespaceName, uid⟩], now⟩ =
          .ok plans ∧
      ((∃ decision, authorizeNativeRequest d readNamespace actor clusterId method target now later =
          .ok decision) ↔
        ∃ plan ∈ plans, ∃ x ∈ plan.role.rules,
          x.covers (apiGroup r.api) r.ruleResource r.verb.text = true)) ∧
    ∀ catalogue rows capabilities groupVersion resources,
      nativeDiscovery catalogue rows capabilities = .ok (.apiResourceList groupVersion resources) →
      ∃ api, groupVersion = (if Text.startsWith "/apis/" api then sliceFrom 6 api else sliceFrom 5 api) ∧
        ∀ resource ∈ resources, ∀ verbText ∈ resource.verbs, ∃ verb : NativeVerb,
          verb.text = verbText ∧ ∀ namespaceName name, isNamespaceName namespaceName = true →
            isObjectName name = true → ∃ accepted,
              classifyNativeRequest "GET"
                (requestTarget api namespaceName resource.name name verb) = .ok accepted ∧
              accepted.api = api ∧ accepted.namespaceName = namespaceName ∧
              accepted.resource = resource.name ∧ accepted.verb = verb := by
  obtain ⟨⟨hnsName, hnsLength⟩, hresource, hsupported⟩ := classifyNativeRequest_eq_ok hrequest
  obtain ⟨hread, hcluster, huid⟩ := resolveNamespace_eq_ok hlive
  have huser : actor.userId ≠ "" := by
    intro hempty
    rw [hempty] at hactor
    exact hactor (by decide)
  constructor
  · obtain ⟨subject, hplan⟩ := planNativeRbac_single crypto
      ⟨actor.userId, clusterId, d.listEffectiveGrants actor.userId now (some clusterId),
        [⟨r.namespaceName, uid⟩], now⟩ ⟨r.namespaceName, uid⟩ hactor hcluster
      (by simp [isNamespaceName, hnsName, hnsLength]) huid rfl
    refine ⟨_, hplan, ?_⟩
    rw [authorizeNativeRequest_iff huser hnow hlater hunexpired hrequest hlive,
      ← plan_covers_iff crypto hrecorded (hnames _ _ hread) hresource hsupported subject]
    simp only [Option.mem_toList, Option.mem_def]
  · intro catalogue rows capabilities groupVersion resources hdiscovery
    obtain ⟨api, hversion, hall⟩ := nativeDiscovery_eq_resourceList hdiscovery
    refine ⟨api, hversion, fun resource hmem verbText hverbText => ?_⟩
    obtain ⟨hserved, hverbs⟩ := hall resource hmem
    obtain ⟨entry, hentry, rfl, hlisted⟩ := mem_readResources hserved
    obtain ⟨verb, hverb, hread⟩ : ∃ verb : NativeVerb, verb.text = verbText ∧ verb ≠ .create := by
      have hthree := hverbs hverbText
      simp only [List.mem_cons, List.not_mem_nil, or_false] at hthree
      rcases hthree with rfl | rfl | rfl
      · exact ⟨.get, rfl, by decide⟩
      · exact ⟨.list, rfl, by decide⟩
      · exact ⟨.watch, rfl, by decide⟩
    refine ⟨verb, hverb, fun namespaceName name hns hname => ?_⟩
    have haccepted := classify_requestTarget hentry hlisted hns hname hread
    exact ⟨_, haccepted, rfl, rfl, rfl, rfl⟩

/-- A viewer with `kubeconfig` and `logs` in the namespace `apps`. -/
def sampleDirectory : Directory where
  users := [⟨"reader", true, "user", 1⟩]
  groupActive := fun _ => false
  memberships := []
  clusters := fun id => if id = "prod" then some ⟨none, "online"⟩ else none
  grants := [⟨"grant", some "reader", none, "prod", "viewer", "active", 0, none, none,
    [⟨"uid-1", "apps"⟩], ["kubeconfig", "logs"], Bool.false_ne_true, Option.not_mem_none ""⟩]

def sampleRead (clusterId namespaceName : String) : Option String :=
  if clusterId = "prod" ∧ namespaceName = "apps" then some "uid-1" else none

def sampleNativeCrypto : Crypto := Crypto.ofDigests
  [("[\"prod\",\"reader\"]", "582c07eb724999107623a0204a19750584b591191a0ed141716d40866214eace"),
    ("[\"prod\",\"reader\",\"uid-1\"]",
      "2a43f7862f8de6b523934060019ac2554907a556aa3f61fcb61b36a20b611da9")]

def sampleLogRequest : NativeRequest :=
  ⟨"/api/v1", "apps", "pods", some "web", some "log", .get, some .logs⟩

theorem classify_sampleLog :
    classifyNativeRequest "GET" "/api/v1/namespaces/apps/pods/web/log" = .ok sampleLogRequest := by
  decide +kernel

theorem native_views_agree_on_log :
    ∃ plans, planNativeRbac sampleNativeCrypto ⟨"reader", "prod",
        sampleDirectory.listEffectiveGrants "reader" 5 (some "prod"), [⟨"apps", "uid-1"⟩], 5⟩ =
          .ok plans ∧
      ((∃ decision, authorizeNativeRequest sampleDirectory sampleRead ⟨"reader", 1, 100⟩ "prod" "GET"
          "/api/v1/namespaces/apps/pods/web/log" 5 6 = .ok decision) ↔
        ∃ plan ∈ plans, ∃ x ∈ plan.role.rules, x.covers "" "pods/log" "get" = true) := by
  have hnames : ∀ name uid, sampleRead "prod" name = some uid →
      (fun uid => if uid = "uid-1" then "apps" else "") uid = name := by
    intro name uid h
    simp only [sampleRead, true_and] at h
    split at h
    · obtain rfl := Option.some.inj h
      simp [*]
    · simp at h
  exact (native_views_agree sampleNativeCrypto sampleDirectory sampleRead
    (fun uid => if uid = "uid-1" then "apps" else "") ⟨"reader", 1, 100⟩ "prod" "GET"
    "/api/v1/namespaces/apps/pods/web/log" 5 6 sampleLogRequest "uid-1" (by decide) hnames
    (by decide) (by decide) (by decide) (by decide) classify_sampleLog (by decide)).1

end KubeNova.Native
