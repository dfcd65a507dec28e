import KubeNova.Foundation.Results
import KubeNova.Runtime.RuntimeTokens

/-!
# What the gateway makes of an issued token

The issuer and the gateway agree on a session exactly when the log options are written so that
both read the same numbers and times in them.
-/

namespace KubeNova.Runtime

open KubeNova.Foundation KubeNova.Foundation.Results KubeNova.Common

/-- A text without surrounding blanks, neither those of `trim` nor those of `strings.TrimSpace`. -/
structure Unpadded (s : String) : Prop where
  trim : Text.trim s = s
  goTrimSpace : goTrimSpace s = s

/-- What `randomUUID` is written with. -/
structure IsUuid (s : String) : Prop where
  nonempty : s ≠ ""
  digits : ∀ c ∈ s.toList, Text.isLowerHex c = true ∨ c = '-'

theorem goTrimSpace_of_no_space {s : String} (hs : ∀ c ∈ s.toList, isGoSpace c = false) :
    goTrimSpace s = s := by
  have hdrop : ∀ cs : List Char, (∀ c ∈ cs, isGoSpace c = false) →
      cs.dropWhile isGoSpace = cs := by
    intro cs hcs
    cases cs with
    | nil => rfl
    | cons c cs =>
        rw [List.dropWhile_cons_of_neg]
        rw [hcs c List.mem_cons_self]
        exact Bool.false_ne_true
  have hreverse : ∀ c ∈ s.toList.reverse, isGoSpace c = false := by
    intro c hc
    exact hs c (List.mem_reverse.mp hc)
  rw [goTrimSpace, hdrop _ hs, hdrop _ hreverse, List.reverse_reverse, String.ofList_toList]

theorem isGoSpace_of_hex {c : Char} (hc : Text.isLowerHex c = true ∨ c = '-') :
    isGoSpace c = false := by
  have hbounds : 45 ≤ c.toNat ∧ c.toNat ≤ 102 := by
    rcases hc with hhex | rfl
    · simp only [Text.isLowerHex, Text.isDigit, Bool.or_eq_true, Bool.and_eq_true,
        decide_eq_true_eq, Char.le_def, UInt32.le_iff_toNat_le] at hhex
      have hnat : c.toNat = c.val.toNat := rfl
      rcases hhex with ⟨h1, h2⟩ | ⟨h1, h2⟩
      · have h3 : ('0' : Char).val.toNat = 48 := rfl
        have h4 : ('9' : Char).val.toNat = 57 := rfl
        omega
      · have h3 : ('a' : Char).val.toNat = 97 := rfl
        have h4 : ('f' : Char).val.toNat = 102 := rfl
        omega
    · decide
  simp only [isGoSpace, Text.isSpace, Bool.or_eq_false_iff, Bool.and_eq_false_iff,
    decide_eq_false_iff_not, beq_eq_false_iff_ne, bne_eq_false_iff_eq]
  omega

theorem IsUuid.goTrimSpace {s : String} (hs : IsUuid s) : goTrimSpace s = s := by
  apply goTrimSpace_of_no_space
  intro c hc
  exact isGoSpace_of_hex (hs.digits c hc)

namespace CreateRuntimeSessionRequest

structure Unpadded (input : CreateRuntimeSessionRequest) : Prop where
  clusterId : Runtime.Unpadded input.clusterId
  «namespace» : Runtime.Unpadded input.namespace
  pod : Runtime.Unpadded input.pod
  userId : ∀ userId, input.userId = some userId → Runtime.Unpadded userId
  container : ∀ container, input.container = some container → Runtime.Unpadded container
  keyword : ∀ keyword, input.keyword = some keyword → Runtime.Unpadded keyword
  sinceTime : ∀ time, input.sinceTime = some time → Runtime.Unpadded time
  untilTime : ∀ time, input.untilTime = some time → Runtime.Unpadded time

end CreateRuntimeSessionRequest

/-- A number of the issuer and what the gateway has for it, where absent is zero. -/
def SameNumber : Option RequestNumber → Int → Prop
  | none, value => value = 0
  | some number, value => number = .digits value

structure GatewayTokenPayload.SameAs (p : GatewayTokenPayload) (issued : RuntimeTokenPayload) :
    Prop where
  sessionId : p.sessionId = issued.sessionId
  userId : p.userId = issued.userId
  type : p.type = issued.type
  clusterId : p.clusterId = issued.clusterId
  «namespace» : p.namespace = issued.namespace
  pod : p.pod = issued.pod
  container : p.container = issued.container
  level : p.level = issued.level.getD ""
  keyword : p.keyword = issued.keyword.getD ""
  tailLines : SameNumber issued.tailLines p.tailLines
  sinceSeconds : SameNumber issued.sinceSeconds p.sinceSecs
  sinceTime : p.sinceTime = issued.sinceTime.getD ""
  untilTime : p.untilTime = issued.untilTime.getD ""
  refreshIntervalSeconds : SameNumber issued.refreshIntervalSeconds p.refreshIntervalSeconds
  follow : p.follow = issued.follow
  previous : p.previous = issued.previous
  timestamps : p.timestamp = issued.timestamps
  path : p.path = issued.path
  exp : p.exp = issued.exp

def boundKeys : List String := ["sessionId", "clusterId", "namespace", "pod", "container"]

def ChangesBound (query changed : List (String × String)) : Prop :=
  ∃ key ∈ boundKeys, goTrimSpace (firstQueryValue changed key) ≠ firstQueryValue query key

/-- The gateway accepts a session's token until it expires and reads in it what the issuer wrote,
and refuses it with any other bound parameter. -/
structure RuntimeSessionBootstrap.Agrees (mac : TokenMac) (secret : String) (issuedAt : Int)
    (session : RuntimeSessionBootstrap) : Prop where
  accepted : ∀ now, issuedAt ≤ now → now / 10 ^ 9 < session.payload.exp →
    ∃ p, validateRuntimeToken mac secret (some session.runtimeToken) session.path session.query
      now = .ok p ∧ p.SameAs session.payload
  bound : ∀ changed, ChangesBound session.query changed → ∀ path now,
    ∃ e, validateRuntimeToken mac secret (some session.runtimeToken) path changed now = .error e

def RequestNumber.Portable : RequestNumber → Prop
  | digits value => -2 ^ 63 ≤ value ∧ value < 2 ^ 63
  | exponent _ _ => False
  | fraction _ => False

/-- A time of the calendar that has passed at a given time, to the nanosecond. -/
def PortableTime (issuedAt : Int) (text : String) : Prop :=
  ∃ t, matchRfc3339 text = some t ∧ t.inRange = true ∧ t.instant ≤ issuedAt

/-- The log options are such that the gateway can read them. -/
structure CreateRuntimeSessionRequest.Portable (issuedAt : Int)
    (input : CreateRuntimeSessionRequest) : Prop where
  tailLines : ∀ n, input.tailLines = some n → n.Portable
  sinceSeconds : input.sinceTime = none → ∀ n, input.sinceSeconds = some n → n.Portable
  sinceTime : ∀ time, input.sinceTime = some time → PortableTime issuedAt time
  untilTime : ∀ time, input.untilTime = some time → PortableTime issuedAt time
  refreshIntervalSeconds : ∀ n, input.refreshIntervalSeconds = some n → n.Portable

structure CreateRuntimeSessionRequest.Valid (input : CreateRuntimeSessionRequest) : Prop where
  clusterId : Text.trim input.clusterId ≠ ""
  «namespace» : Text.trim input.namespace ≠ ""
  pod : Text.trim input.pod ≠ ""
  level : ∀ level, input.level = some level → level ∈ ["INFO", "WARN", "ERROR"]
  tailLines : ∀ n, input.tailLines = some n →
    n.isInteger = true ∧ (n.isNotPositive = false ∨ n = .digits (-1))
  sinceSeconds : ∀ n, input.sinceSeconds = some n → n.isInteger = true ∧ n.isNotPositive = false
  sinceTime : ∀ time, input.sinceTime = some time → (matchRfc3339 (Text.trim time)).isSome = true
  untilTime : ∀ time, input.untilTime = some time → (matchRfc3339 (Text.trim time)).isSome = true
  refreshIntervalSeconds : ∀ n, input.refreshIntervalSeconds = some n →
    n.isInteger = true ∧ (n = .digits 0 ∨ n.isBelowTwo = false)

theorem badRequest_eq {α : Type} {message : String} :
    (badRequest message : Except Exception α) = .error (.badRequest message) := rfl

theorem assertRequiredString_ok {value field : String}
    (h : assertRequiredString value field = .ok ()) : Text.trim value ≠ "" := by
  intro hblank
  rw [assertRequiredString, if_pos hblank] at h
  cases h

theorem parseOptionalRfc3339_ok {dateParse : String → Option Int} {nowMs : Int}
    {raw : Option String} {field : String} {parsed : Option Int}
    (h : parseOptionalRfc3339 dateParse nowMs raw field = .ok parsed) :
    ∀ time, raw = some time → (matchRfc3339 (Text.trim time)).isSome = true := by
  intro time htime
  subst htime
  by_contra hno
  have hnone : (matchRfc3339 (Text.trim time)).isNone = true := by
    rw [Option.isNone_iff_eq_none, ← Option.not_isSome_iff_eq_none]
    exact hno
  simp only [parseOptionalRfc3339] at h
  rw [if_pos hnone] at h
  cases h

theorem valid_of_validateInput {dateParse : String → Option Int} {nowMs : Int}
    {input : CreateRuntimeSessionRequest} (h : validateInput dateParse nowMs input = .ok ()) :
    input.Valid := by
  simp only [validateInput] at h
  rw [check_eq_ok, check_eq_ok, check_eq_ok] at h
  obtain ⟨hcluster, hnamespace, hpod, h⟩ := h
  rw [throwIf_eq_ok badRequest_eq, throwIf_eq_ok badRequest_eq, throwIf_eq_ok badRequest_eq,
    check_eq_ok, check_eq_ok, bind_eq_ok] at h
  obtain ⟨-, -, hlevel, htail, hsince, sinceTime, hsinceTime, h⟩ := h
  rw [bind_eq_ok] at h
  obtain ⟨untilTime, huntilTime, h⟩ := h
  rw [check_eq_ok] at h
  obtain ⟨-, hrefresh⟩ := h
  refine ⟨assertRequiredString_ok hcluster, assertRequiredString_ok hnamespace,
    assertRequiredString_ok hpod, ?_, ?_, ?_, parseOptionalRfc3339_ok hsinceTime,
    parseOptionalRfc3339_ok huntilTime, ?_⟩
  · intro level hlevel'
    rw [hlevel', Option.any_some, Bool.not_eq_true, Bool.not_eq_false'] at hlevel
    exact List.contains_iff_mem.mp hlevel
  · intro n hn
    simp only [assertTailLines, hn] at htail
    split at htail
    · rename_i hall
      simpa using hall
    · cases htail
  · intro n hn
    simp only [assertPositiveInt, hn] at hsince
    split at hsince
    · rename_i hall
      simpa using hall
    · cases hsince
  · intro n hn
    simp only [assertRefreshInterval, hn] at hrefresh
    split at hrefresh
    · rename_i hall
      simpa using hall
    · cases hrefresh

theorem validateTarget_ok {hasKubeconfig : Bool} {readPod : Except Exception PodView}
    {input : CreateRuntimeSessionRequest} {target : RuntimeSessionTargetContext}
    (h : validateTarget hasKubeconfig readPod input = .ok target) :
    ∃ pod, readPod = .ok pod ∧ target.container ∈ pod.availableContainers := by
  simp only [validateTarget] at h
  rw [throwIf_eq_ok badRequest_eq, bind_eq_ok] at h
  obtain ⟨-, pod, hread, h⟩ := h
  rw [throwIf_eq_ok badRequest_eq, throwIf_eq_ok badRequest_eq, throwIf_eq_ok badRequest_eq] at h
  obtain ⟨hsome, hrequested, -, h⟩ := h
  refine ⟨pod, hread, ?_⟩
  cases h
  dsimp only
  by_cases hblank : Text.trim (input.container.getD "") = ""
  · rw [orText, if_pos hblank]
    cases hlist : pod.availableContainers with
    | nil =>
        rw [hlist] at hsome
        exact absurd rfl hsome
    | cons name names => exact List.mem_cons_self
  · rw [orText, if_neg hblank]
    by_contra hno
    apply hrequested
    rw [Bool.and_eq_true, bne_iff_ne, Bool.not_eq_true', ← Bool.not_eq_true,
      List.contains_iff_mem]
    exact ⟨hblank, hno⟩

theorem availableContainers_ne_empty {pod : PodView} {name : String}
    (h : name ∈ pod.availableContainers) : name ≠ "" := by
  have hname := (List.mem_filter.mp h).2
  exact bne_iff_ne.mp hname

theorem availableContainers_unpadded {pod : PodView} {name : String}
    (hpod : ∀ name ∈ pod.containers, Unpadded name) (h : name ∈ pod.availableContainers) :
    Unpadded name := by
  have hmem := (List.mem_filter.mp h).1
  obtain ⟨raw, hraw, htrim⟩ := List.mem_map.mp hmem
  rw [← htrim, (hpod raw hraw).trim]
  exact hpod raw hraw

theorem lookup_eq_none_of_notMem {fields : List (String × Option ClaimValue)} {key : String}
    (hkey : key ∉ fields.map Prod.fst) : (definedFields fields).lookup key = none := by
  induction fields with
  | nil => rfl
  | cons field fields ih =>
      rw [List.map_cons, List.mem_cons, not_or] at hkey
      have hrest := ih hkey.2
      cases hfield : field.2 with
      | none =>
          have hstep : definedFields (field :: fields) = definedFields fields := by
            simp [definedFields, hfield]
          rw [hstep, hrest]
      | some value =>
          have hstep : definedFields (field :: fields) =
              (field.1, value) :: definedFields fields := by
            simp [definedFields, hfield]
          rw [hstep, List.lookup_cons, beq_false_of_ne hkey.1]
          exact hrest

theorem lookup_definedFields {fields : List (String × Option ClaimValue)} {key : String}
    (hkeys : (fields.map Prod.fst).Nodup) :
    (definedFields fields).lookup key = (fields.lookup key).join := by
  induction fields with
  | nil => rfl
  | cons field fields ih =>
      rw [List.map_cons, List.nodup_cons] at hkeys
      have hrest := ih hkeys.2
      rw [List.lookup_cons]
      cases hfield : field.2 with
      | none =>
          have hstep : definedFields (field :: fields) = definedFields fields := by
            simp [definedFields, hfield]
          rw [hstep]
          by_cases hsame : key = field.1
          · subst hsame
            rw [lookup_eq_none_of_notMem hkeys.1, beq_self_eq_true]
            rfl
          · rw [beq_false_of_ne hsame]
            exact hrest
      | some value =>
          have hstep : definedFields (field :: fields) =
              (field.1, value) :: definedFields fields := by
            simp [definedFields, hfield]
          rw [hstep, List.lookup_cons]
          by_cases hsame : key = field.1
          · subst hsame
            rw [beq_self_eq_true]
            rfl
          · rw [beq_false_of_ne hsame]
            exact hrest

@[simp] theorem unmarshalString_map (value : Option String) :
    unmarshalString (value.map .string) = some (value.getD "") := by
  cases value <;> rfl

@[simp] theorem unmarshalBool_map (value : Option Bool) :
    unmarshalBool (value.map .bool) = some value := by
  cases value <;> rfl

theorem unmarshalInt64_map {number : Option RequestNumber} {value : Int} :
    unmarshalInt64 (number.map .number) = some value ↔
      SameNumber number value ∧ ∀ n, number = some n → n.Portable := by
  cases number with
  | none =>
      show some 0 = some value ↔ value = 0 ∧ _
      simp [eq_comm]
  | some n =>
      cases n with
      | digits v =>
          show (if -2 ^ 63 ≤ v ∧ v < 2 ^ 63 then some v else none) = some value ↔ _
          constructor
          · intro h
            split at h
            · rename_i hfits
              injection h with h
              subst h
              refine ⟨rfl, ?_⟩
              intro n hn
              cases hn
              exact hfits
            · cases h
          · rintro ⟨hsame, hportable⟩
            have hvalue : v = value := RequestNumber.digits.inj hsame
            have hfits : -2 ^ 63 ≤ v ∧ v < 2 ^ 63 := hportable _ rfl
            rw [if_pos hfits, hvalue]
      | exponent negative text =>
          constructor
          · intro h
            cases h
          · intro h
            exact (h.2 _ rfl).elim
      | fraction text =>
          constructor
          · intro h
            cases h
          · intro h
            exact (h.2 _ rfl).elim

structure RuntimeTokenPayload.Readable (issued : RuntimeTokenPayload) : Prop where
  tailLines : ∀ n, issued.tailLines = some n → n.Portable
  sinceSeconds : ∀ n, issued.sinceSeconds = some n → n.Portable
  refreshIntervalSeconds : ∀ n, issued.refreshIntervalSeconds = some n → n.Portable
  exp : RequestNumber.Portable (.digits issued.exp)

theorem RuntimeTokenPayload.lookup_json {issued : RuntimeTokenPayload} {key : String} :
    issued.json.lookup key = (issued.fields.lookup key).join := by
  apply lookup_definedFields
  simp only [RuntimeTokenPayload.fields, List.map_cons, List.map_nil]
  decide

theorem unmarshalPayload_json {issued : RuntimeTokenPayload} {p : GatewayTokenPayload} :
    unmarshalPayload issued.json = some p ↔ p.SameAs issued ∧ issued.Readable := by
  have htext : ∀ value, unmarshalString (some (.string value)) = some value := fun _ => rfl
  have hexp : some (ClaimValue.number (.digits issued.exp)) =
      (some (RequestNumber.digits issued.exp)).map .number := rfl
  simp only [unmarshalPayload, RuntimeTokenPayload.lookup_json, RuntimeTokenPayload.fields,
    List.lookup_cons, String.reduceBEq, Option.join_some, htext, unmarshalString_map,
    unmarshalBool_map, hexp, Option.bind_eq_bind, Option.bind_some, Option.bind_eq_some_iff,
    unmarshalInt64_map]
  constructor
  · rintro ⟨tail, ⟨htail, htailFits⟩, since, ⟨hsince, hsinceFits⟩, refresh,
      ⟨hrefresh, hrefreshFits⟩, exp, ⟨hsame, hexpFits⟩, hp⟩
    injection hp with hp
    subst hp
    have hexpEq : exp = issued.exp := (RequestNumber.digits.inj hsame).symm
    exact ⟨⟨rfl, rfl, rfl, rfl, rfl, rfl, rfl, rfl, rfl, htail, hsince, rfl, rfl, hrefresh, rfl,
      rfl, rfl, rfl, hexpEq⟩, ⟨htailFits, hsinceFits, hrefreshFits, hexpFits _ rfl⟩⟩
  · rintro ⟨hsame, hreadable⟩
    refine ⟨p.tailLines, ⟨hsame.tailLines, hreadable.tailLines⟩, p.sinceSecs,
      ⟨hsame.sinceSeconds, hreadable.sinceSeconds⟩, p.refreshIntervalSeconds,
      ⟨hsame.refreshIntervalSeconds, hreadable.refreshIntervalSeconds⟩, issued.exp, ⟨rfl, ?_⟩, ?_⟩
    · intro n hn
      cases hn
      exact hreadable.exp
    · rw [← hsame.sessionId, ← hsame.userId, ← hsame.type, ← hsame.clusterId, ← hsame.namespace,
        ← hsame.pod, ← hsame.container, ← hsame.level, ← hsame.keyword, ← hsame.sinceTime,
        ← hsame.untilTime, ← hsame.follow, ← hsame.previous, ← hsame.timestamps, ← hsame.path,
        ← hsame.exp]
      rfl

theorem refuseIf_eq_ok {condition : Prop} [Decidable condition] {code message : String} :
    refuseIf condition code message = .ok () ↔ ¬ condition := by
  rw [refuseIf]
  constructor
  · intro h hcondition
    rw [if_pos hcondition] at h
    cases h
  · intro hcondition
    rw [if_neg hcondition]

theorem checkBound_eq_ok {query : List (String × String)}
    {parameters : List (String × String × RuntimeAuthError)} :
    checkBound query parameters = .ok () ↔
      ∀ bound ∈ parameters, goTrimSpace (firstQueryValue query bound.1) = bound.2.1 := by
  induction parameters with
  | nil =>
      constructor
      · intro _ bound hbound
        cases hbound
      · intro _
        rfl
  | cons bound rest ih =>
      rw [List.forall_mem_cons, ← ih]
      show (if bound.2.1 ≠ goTrimSpace (firstQueryValue query bound.1) then
        Except.error bound.2.2 else checkBound query rest) = .ok () ↔ _
      by_cases hvalue : bound.2.1 = goTrimSpace (firstQueryValue query bound.1)
      · rw [if_neg (not_not_intro hvalue)]
        exact ⟨fun h => ⟨hvalue.symm, h⟩, fun h => h.2⟩
      · rw [if_pos hvalue]
        constructor
        · intro h
          cases h
        · intro h
          exact absurd h.1.symm hvalue

theorem checkPast_eq_ok {now : Int} {value name code : String}
    (hvalue : goTrimSpace value = value) :
    checkPast now value name code = .ok () ↔ value = "" ∨ PortableTime now value := by
  simp only [checkPast]
  by_cases hempty : value = ""
  · rw [if_pos hempty]
    exact ⟨fun _ => Or.inl hempty, fun _ => rfl⟩
  rw [if_neg hempty, parseRFC3339Time, hvalue]
  cases hmatch : matchRfc3339 value with
  | none =>
      constructor
      · intro h
        cases h
      · rintro (h | ⟨t, ht, -⟩)
        · exact absurd h hempty
        · rw [hmatch] at ht
          cases ht
  | some t =>
      have hportable : PortableTime now value ↔ t.inRange = true ∧ t.instant ≤ now := by
        constructor
        · rintro ⟨t', ht', h⟩
          rw [hmatch] at ht'
          cases ht'
          exact h
        · intro h
          exact ⟨t, hmatch, h⟩
      rw [hportable]
      by_cases hrange : t.inRange = true
      · rw [Option.filter_some_pos hrange, Option.map_some]
        show (if now < t.instant then Except.error _ else .ok ()) = .ok () ↔ _
        by_cases hpast : now < t.instant
        · rw [if_pos hpast]
          constructor
          · intro h
            cases h
          · rintro (h | h)
            · exact absurd h hempty
            · omega
        · rw [if_neg hpast]
          exact ⟨fun _ => Or.inr ⟨hrange, by omega⟩, fun _ => rfl⟩
      · rw [Option.filter_some_neg (Bool.not_eq_true _ |>.mp hrange)]
        constructor
        · intro h
          cases h
        · rintro (h | h)
          · exact absurd h hempty
          · exact absurd h.1 hrange

structure GatewayTokenPayload.Acceptable (p : GatewayTokenPayload) (requestPath : String)
    (query : List (String × String)) (now : Int) : Prop where
  complete : isIncomplete p = false
  path : requestPath = p.path
  supported : requestPath = "/ws/terminal" ∨ requestPath = "/ws/logs"
  type : p.type = if requestPath = "/ws/terminal" then "terminal" else "logs"
  bound : ∀ bound ∈ boundParameters p, goTrimSpace (firstQueryValue query bound.1) = bound.2.1
  level : p.level ∈ ["", "INFO", "WARN", "ERROR"]
  tailLines : -1 ≤ p.tailLines
  sinceSeconds : 0 ≤ p.sinceSecs
  sinceTime : checkPast now p.sinceTime "sinceTime" "RUNTIME_TOKEN_SINCE_TIME_INVALID" = .ok ()
  untilTime : checkPast now p.untilTime "untilTime" "RUNTIME_TOKEN_UNTIL_TIME_INVALID" = .ok ()
  refreshIntervalSeconds : 0 ≤ p.refreshIntervalSeconds
  exp : now / 10 ^ 9 < p.exp

theorem checkPayload_eq_ok {requestPath : String} {query : List (String × String)} {now : Int}
    {p : GatewayTokenPayload} :
    checkPayload requestPath query now p = .ok () ↔ p.Acceptable requestPath query now := by
  simp only [checkPayload, check_eq_ok, refuseIf_eq_ok, checkBound_eq_ok, ne_eq, not_not, not_and,
    Int.not_lt, Int.not_le, Bool.not_eq_true]
  constructor
  · rintro ⟨h1, h2, h3, h4, h5, h6, h7, h8, h9, h10, h11, h12⟩
    refine ⟨h1, h2, ?_, h4, h5, ?_, h7, h8, h9, h10, h11, h12⟩
    · by_cases hterminal : requestPath = "/ws/terminal"
      · exact Or.inl hterminal
      · exact Or.inr (h3 hterminal)
    · simp only [List.mem_cons, List.not_mem_nil, or_false]
      by_contra hno
      rw [not_or, not_or, not_or] at hno
      exact hno.2.2.2 (h6 hno.1 hno.2.1 hno.2.2.1)
  · intro h
    refine ⟨h.complete, h.path, ?_, h.type, h.bound, ?_, h.tailLines, h.sinceSeconds, h.sinceTime,
      h.untilTime, h.refreshIntervalSeconds, h.exp⟩
    · intro hterminal
      exact h.supported.resolve_left hterminal
    · intro hempty hinfo hwarn
      have hlevel := h.level
      simp only [List.mem_cons, List.not_mem_nil, or_false] at hlevel
      exact ((hlevel.resolve_left hempty).resolve_left hinfo).resolve_left hwarn

theorem validateRuntimeToken_eq_ok {mac : TokenMac} {secret requestPath : String}
    {issued : RuntimeTokenPayload} {query : List (String × String)} {now : Int}
    {p : GatewayTokenPayload} :
    validateRuntimeToken mac secret (some (createRuntimeToken mac secret issued)) requestPath query
        now = .ok p ↔
      (p.SameAs issued ∧ issued.Readable) ∧ p.Acceptable requestPath query now := by
  have hpayload : (createRuntimeToken mac secret issued).payload = some issued.json := rfl
  simp only [validateRuntimeToken]
  rw [check_eq_ok, refuseIf_eq_ok, ← unmarshalPayload_json, ← checkPayload_eq_ok, hpayload]
  dsimp only
  cases hread : unmarshalPayload issued.json with
  | none =>
      constructor
      · rintro ⟨-, h⟩
        cases h
      · rintro ⟨h, -⟩
        cases h
  | some payload =>
      show _ ∧ (checkPayload requestPath query now payload >>= fun _ => .ok payload) = .ok p ↔ _
      rw [check_eq_ok]
      constructor
      · rintro ⟨-, hcheck, hp⟩
        injection hp with hp
        subst hp
        exact ⟨rfl, hcheck⟩
      · rintro ⟨hp, hcheck⟩
        injection hp with hp
        subst hp
        exact ⟨not_not_intro rfl, hcheck, rfl⟩

theorem lookup_setOptional_of_ne {query : List (String × String)} {key other : String}
    {value : Option String} (hne : key ≠ other) :
    (setOptional query other value).lookup key = query.lookup key := by
  cases value with
  | none => rfl
  | some value => exact lookup_setField_of_ne hne

def optionKeys : List String :=
  ["level", "keyword", "tailLines", "sinceSeconds", "sinceTime", "untilTime",
    "refreshIntervalSeconds", "previous", "follow", "timestamps"]

theorem lookup_gatewayQuery {input : CreateRuntimeSessionRequest} {container sessionId key : String}
    (hkey : key ∉ optionKeys) :
    (gatewayQuery input container sessionId).lookup key =
      List.lookup key [("sessionId", sessionId), ("clusterId", input.clusterId),
        ("namespace", input.namespace), ("pod", input.pod), ("container", container)] := by
  simp only [optionKeys, List.mem_cons, List.not_mem_nil, or_false, not_or] at hkey
  obtain ⟨hlevel, hkeyword, htail, hsince, hsinceTime, huntilTime, hrefresh, hprevious, hfollow,
    htimestamps⟩ := hkey
  simp only [gatewayQuery]
  cases input.type with
  | terminal => rfl
  | logs =>
      rw [lookup_setOptional_of_ne htimestamps, lookup_setOptional_of_ne hprevious,
        lookup_setOptional_of_ne hfollow]
      split
      all_goals
        try rw [lookup_setField_of_ne hprevious]
        rw [lookup_setOptional_of_ne hrefresh, lookup_setOptional_of_ne huntilTime]
        cases truthyText input.sinceTime
        all_goals
          try rw [lookup_setField_of_ne hsinceTime, lookup_removeField_of_ne hsince]
          rw [lookup_setOptional_of_ne hsince, lookup_setOptional_of_ne htail,
            lookup_setOptional_of_ne hkeyword, lookup_setOptional_of_ne hlevel]

/-! ## Sessions -/

theorem Unpadded.goTrimSpace_ne_empty {s : String} (hs : Unpadded s) (hne : s ≠ "") :
    Runtime.goTrimSpace s ≠ "" := by
  rw [hs.goTrimSpace]
  exact hne

theorem Unpadded.ne_empty {s : String} (hs : Unpadded s) (hne : Text.trim s ≠ "") : s ≠ "" := by
  rw [← hs.trim]
  exact hne

theorem userId_ne_empty {input : CreateRuntimeSessionRequest} (hinput : input.Unpadded) :
    goTrimSpace (orText (Text.trim (input.userId.getD "")) "unknown-user") ≠ "" := by
  by_cases hblank : Text.trim (input.userId.getD "") = ""
  · rw [orText, if_pos hblank]
    decide
  · rw [orText, if_neg hblank]
    cases huser : input.userId with
    | none =>
        rw [huser] at hblank
        exact absurd rfl hblank
    | some userId =>
        rw [huser] at hblank
        have huserId := hinput.userId userId huser
        show goTrimSpace (Text.trim userId) ≠ ""
        rw [huserId.trim]
        exact huserId.goTrimSpace_ne_empty (huserId.ne_empty hblank)

/-- The milliseconds a clock of the issuer can show, which end in the year 275760. -/
def InDateRange (now : Int) : Prop := 0 ≤ now ∧ now / 10 ^ 6 ≤ 8640000000000000

section Session

variable {input : CreateRuntimeSessionRequest} {target : RuntimeSessionTargetContext}
  {sessionId : String} {issuedAt : Int} {p : GatewayTokenPayload}

theorem exp_portable (hclock : InDateRange issuedAt) :
    0 < (sessionPayload input target sessionId issuedAt).exp ∧
      RequestNumber.Portable (.digits (sessionPayload input target sessionId issuedAt).exp) := by
  have hexp : (sessionPayload input target sessionId issuedAt).exp =
      issuedAt / 10 ^ 9 + 30 * 60 := rfl
  obtain ⟨hlow, hhigh⟩ := hclock
  show _ ∧ -2 ^ 63 ≤ (sessionPayload input target sessionId issuedAt).exp ∧
    (sessionPayload input target sessionId issuedAt).exp < 2 ^ 63
  rw [hexp]
  omega

theorem isIncomplete_of_sameAs (hvalid : input.Valid) (hinput : input.Unpadded)
    (hcontainer : Unpadded target.container) (hnamed : target.container ≠ "")
    (huuid : IsUuid sessionId) (hclock : InDateRange issuedAt)
    (hsame : p.SameAs (sessionPayload input target sessionId issuedAt)) :
    isIncomplete p = false := by
  have hsession : goTrimSpace p.sessionId ≠ "" := by
    rw [hsame.sessionId]
    show goTrimSpace sessionId ≠ ""
    rw [huuid.goTrimSpace]
    exact huuid.nonempty
  have huser : goTrimSpace p.userId ≠ "" := by
    rw [hsame.userId, sessionPayload]
    dsimp only
    exact userId_ne_empty hinput
  have htype : goTrimSpace p.type ≠ "" := by
    rw [hsame.type]
    show goTrimSpace input.type.text ≠ ""
    cases input.type <;> decide
  have hcluster : goTrimSpace p.clusterId ≠ "" := by
    rw [hsame.clusterId]
    exact hinput.clusterId.goTrimSpace_ne_empty (hinput.clusterId.ne_empty hvalid.clusterId)
  have hnamespace : goTrimSpace p.namespace ≠ "" := by
    rw [hsame.namespace]
    exact hinput.namespace.goTrimSpace_ne_empty (hinput.namespace.ne_empty hvalid.namespace)
  have hpod : goTrimSpace p.pod ≠ "" := by
    rw [hsame.pod]
    exact hinput.pod.goTrimSpace_ne_empty (hinput.pod.ne_empty hvalid.pod)
  have hcontainer' : goTrimSpace p.container ≠ "" := by
    rw [hsame.container]
    exact hcontainer.goTrimSpace_ne_empty hnamed
  have hpath : goTrimSpace p.path ≠ "" := by
    rw [hsame.path]
    show goTrimSpace (gatewayPath input.type) ≠ ""
    cases input.type <;> decide
  have hexp : 0 < p.exp := by
    rw [hsame.exp]
    exact (exp_portable hclock).1
  simp only [isIncomplete, List.any_cons, List.any_nil, Bool.or_false, Bool.or_eq_false_iff,
    beq_eq_false_iff_ne, decide_eq_false_iff_not]
  exact ⟨⟨hsession, huser, htype, hcluster, hnamespace, hpod, hcontainer', hpath⟩, by omega⟩

theorem firstQueryValue_of_sameAs
    (hsame : p.SameAs (sessionPayload input target sessionId issuedAt)) :
    ∀ bound ∈ boundParameters p,
      firstQueryValue (gatewayQuery input target.container sessionId) bound.1 = bound.2.1 := by
  intro bound hbound
  simp only [boundParameters, List.mem_cons, List.not_mem_nil, or_false] at hbound
  rcases hbound with rfl | rfl | rfl | rfl | rfl
  · show firstQueryValue _ "sessionId" = p.sessionId
    rw [firstQueryValue, lookup_gatewayQuery (by decide), hsame.sessionId]
    rfl
  · show firstQueryValue _ "clusterId" = p.clusterId
    rw [firstQueryValue, lookup_gatewayQuery (by decide), hsame.clusterId]
    rfl
  · show firstQueryValue _ "namespace" = p.namespace
    rw [firstQueryValue, lookup_gatewayQuery (by decide), hsame.namespace]
    rfl
  · show firstQueryValue _ "pod" = p.pod
    rw [firstQueryValue, lookup_gatewayQuery (by decide), hsame.pod]
    rfl
  · show firstQueryValue _ "container" = p.container
    rw [firstQueryValue, lookup_gatewayQuery (by decide), hsame.container]
    rfl

theorem bound_unpadded (hinput : input.Unpadded) (hcontainer : Unpadded target.container)
    (huuid : IsUuid sessionId)
    (hsame : p.SameAs (sessionPayload input target sessionId issuedAt)) :
    ∀ bound ∈ boundParameters p, goTrimSpace bound.2.1 = bound.2.1 := by
  intro bound hbound
  simp only [boundParameters, List.mem_cons, List.not_mem_nil, or_false] at hbound
  rcases hbound with rfl | rfl | rfl | rfl | rfl
  · show goTrimSpace p.sessionId = p.sessionId
    rw [hsame.sessionId]
    exact huuid.goTrimSpace
  · show goTrimSpace p.clusterId = p.clusterId
    rw [hsame.clusterId]
    exact hinput.clusterId.goTrimSpace
  · show goTrimSpace p.namespace = p.namespace
    rw [hsame.namespace]
    exact hinput.namespace.goTrimSpace
  · show goTrimSpace p.pod = p.pod
    rw [hsame.pod]
    exact hinput.pod.goTrimSpace
  · show goTrimSpace p.container = p.container
    rw [hsame.container]
    exact hcontainer.goTrimSpace

theorem sameNumber_digits {number : Option RequestNumber} {value : Int}
    (h : SameNumber number value) : value = 0 ∨ number = some (.digits value) := by
  cases number with
  | none => exact Or.inl h
  | some n => exact Or.inr (congrArg some h)

theorem logs_eq_some {α : Type} {c : Prop} [Decidable c] {value : Option α} {a : α}
    (h : (if c then value else none) = some a) : value = some a := by
  split at h
  · exact h
  · cases h

theorem numbers_of_sameAs (hvalid : input.Valid)
    (hsame : p.SameAs (sessionPayload input target sessionId issuedAt)) :
    -1 ≤ p.tailLines ∧ 0 ≤ p.sinceSecs ∧ 0 ≤ p.refreshIntervalSeconds := by
  refine ⟨?_, ?_, ?_⟩
  · rcases sameNumber_digits hsame.tailLines with hzero | hdigits
    · omega
    · rcases (hvalid.tailLines _ (logs_eq_some hdigits)).2 with hpositive | hall
      · have hnot : ¬ p.tailLines ≤ 0 := of_decide_eq_false hpositive
        omega
      · have hall' := RequestNumber.digits.inj hall
        omega
  · rcases sameNumber_digits hsame.sinceSeconds with hzero | hdigits
    · omega
    · have hpositive := (hvalid.sinceSeconds _ (logs_eq_some (logs_eq_some hdigits))).2
      have hnot : ¬ p.sinceSecs ≤ 0 := of_decide_eq_false hpositive
      omega
  · rcases sameNumber_digits hsame.refreshIntervalSeconds with hzero | hdigits
    · omega
    · rcases (hvalid.refreshIntervalSeconds _ (logs_eq_some hdigits)).2 with hall | htwo
      · have hall' := RequestNumber.digits.inj hall
        omega
      · have hnot : ¬ p.refreshIntervalSeconds < 2 := of_decide_eq_false htwo
        omega

theorem level_of_sameAs (hvalid : input.Valid)
    (hsame : p.SameAs (sessionPayload input target sessionId issuedAt)) :
    p.level ∈ ["", "INFO", "WARN", "ERROR"] := by
  rw [hsame.level]
  cases hlevel : (sessionPayload input target sessionId issuedAt).level with
  | none => exact List.mem_cons_self
  | some level => exact List.mem_cons_of_mem _ (hvalid.level _ (logs_eq_some hlevel))

theorem times_of_sameAs (hinput : input.Unpadded)
    (hsame : p.SameAs (sessionPayload input target sessionId issuedAt)) :
    goTrimSpace p.sinceTime = p.sinceTime ∧ goTrimSpace p.untilTime = p.untilTime := by
  have hnone : goTrimSpace "" = "" := by decide
  constructor
  · rw [hsame.sinceTime]
    cases hsince : (sessionPayload input target sessionId issuedAt).sinceTime with
    | none => exact hnone
    | some time => exact (hinput.sinceTime _ (logs_eq_some hsince)).goTrimSpace
  · rw [hsame.untilTime]
    cases huntil : (sessionPayload input target sessionId issuedAt).untilTime with
    | none => exact hnone
    | some time => exact (hinput.untilTime _ (logs_eq_some huntil)).goTrimSpace

theorem acceptable_iff {now : Int} (hvalid : input.Valid) (hinput : input.Unpadded)
    (hcontainer : Unpadded target.container) (hnamed : target.container ≠ "")
    (huuid : IsUuid sessionId) (hclock : InDateRange issuedAt)
    (hsame : p.SameAs (sessionPayload input target sessionId issuedAt))
    (hexp : now / 10 ^ 9 < (sessionPayload input target sessionId issuedAt).exp) :
    p.Acceptable (gatewayPath input.type) (gatewayQuery input target.container sessionId) now ↔
      (p.sinceTime = "" ∨ PortableTime now p.sinceTime) ∧
        (p.untilTime = "" ∨ PortableTime now p.untilTime) := by
  obtain ⟨hsinceTrim, huntilTrim⟩ := times_of_sameAs hinput hsame
  constructor
  · intro h
    exact ⟨(checkPast_eq_ok hsinceTrim).mp h.sinceTime, (checkPast_eq_ok huntilTrim).mp h.untilTime⟩
  · rintro ⟨hsince, huntil⟩
    obtain ⟨htail, hseconds, hrefresh⟩ := numbers_of_sameAs hvalid hsame
    refine ⟨isIncomplete_of_sameAs hvalid hinput hcontainer hnamed huuid hclock hsame, ?_, ?_, ?_,
      ?_, level_of_sameAs hvalid hsame, htail, hseconds, (checkPast_eq_ok hsinceTrim).mpr hsince,
      (checkPast_eq_ok huntilTrim).mpr huntil, hrefresh, ?_⟩
    · rw [hsame.path]
      rfl
    · cases input.type with
      | terminal => exact Or.inl rfl
      | logs => exact Or.inr rfl
    · rw [hsame.type]
      show input.type.text = _
      cases input.type <;> decide
    · intro bound hbound
      rw [firstQueryValue_of_sameAs hsame bound hbound]
      exact bound_unpadded hinput hcontainer huuid hsame bound hbound
    · rw [hsame.exp]
      exact hexp

theorem readable_iff (hvalid : input.Valid) (hclock : InDateRange issuedAt) :
    (sessionPayload input target sessionId issuedAt).Readable ↔ (input.type = .logs →
      (∀ n, input.tailLines = some n → n.Portable) ∧
      (input.sinceTime = none → ∀ n, input.sinceSeconds = some n → n.Portable) ∧
      ∀ n, input.refreshIntervalSeconds = some n → n.Portable) := by
  have htruthy : (truthyText input.sinceTime).isNone = true ↔ input.sinceTime = none := by
    cases hsince : input.sinceTime with
    | none => exact ⟨fun _ => rfl, fun _ => rfl⟩
    | some time =>
        have hmatch := hvalid.sinceTime time hsince
        have hne : time ≠ "" := by
          intro hempty
          subst hempty
          exact absurd hmatch (by decide)
        simp [truthyText, hne]
  constructor
  · intro hreadable hlogs
    refine ⟨?_, ?_, ?_⟩
    · intro n hn
      apply hreadable.tailLines
      show (if input.type = .logs then input.tailLines else none) = some n
      rw [if_pos hlogs, hn]
    · intro hnone n hn
      apply hreadable.sinceSeconds
      show (if (truthyText input.sinceTime).isNone = true then
        (if input.type = .logs then input.sinceSeconds else none) else none) = some n
      rw [if_pos (htruthy.mpr hnone), if_pos hlogs, hn]
    · intro n hn
      apply hreadable.refreshIntervalSeconds
      show (if input.type = .logs then input.refreshIntervalSeconds else none) = some n
      rw [if_pos hlogs, hn]
  · intro h
    have hlogs : ∀ {α : Type} {value : Option α} {a : α},
        (if input.type = .logs then value else none) = some a → input.type = .logs := by
      intro α value a hsome
      by_contra hno
      rw [if_neg hno] at hsome
      cases hsome
    refine ⟨?_, ?_, ?_, (exp_portable hclock).2⟩
    · intro n hn
      exact (h (hlogs hn)).1 n (logs_eq_some hn)
    · intro n hn
      have hboth : (if (truthyText input.sinceTime).isNone = true then
        (if input.type = .logs then input.sinceSeconds else none) else none) = some n := hn
      have hinner := logs_eq_some hboth
      have hnone : (truthyText input.sinceTime).isNone = true := by
        by_contra hno
        rw [if_neg hno] at hboth
        cases hboth
      exact (h (hlogs hinner)).2.1 (htruthy.mp hnone) n (logs_eq_some hinner)
    · intro n hn
      exact (h (hlogs hn)).2.2 n (logs_eq_some hn)

theorem times_iff {now : Int} (hvalid : input.Valid)
    (hsame : p.SameAs (sessionPayload input target sessionId issuedAt)) :
    ((p.sinceTime = "" ∨ PortableTime now p.sinceTime) ∧
        (p.untilTime = "" ∨ PortableTime now p.untilTime)) ↔
      (input.type = .logs → (∀ time, input.sinceTime = some time → PortableTime now time) ∧
        ∀ time, input.untilTime = some time → PortableTime now time) := by
  have hgiven : ∀ {value : Option String},
      (∀ time, value = some time → (matchRfc3339 (Text.trim time)).isSome = true) →
      (value.getD "" = "" ∨ PortableTime now (value.getD "") ↔
        ∀ time, value = some time → PortableTime now time) := by
    intro value hmatch
    cases value with
    | none =>
        constructor
        · intro _ time htime
          cases htime
        · intro _
          exact Or.inl rfl
    | some time =>
        have hne : time ≠ "" := by
          intro hempty
          subst hempty
          exact absurd (hmatch "" rfl) (by decide)
        constructor
        · intro h time' htime
          cases htime
          exact h.resolve_left hne
        · intro h
          exact Or.inr (h time rfl)
  rw [hsame.sinceTime, hsame.untilTime]
  show ((if input.type = .logs then input.sinceTime else none).getD "" = "" ∨ _) ∧
    ((if input.type = .logs then input.untilTime else none).getD "" = "" ∨ _) ↔ _
  by_cases hlogs : input.type = .logs
  · have hpayloadSince : (sessionPayload input target sessionId issuedAt).sinceTime =
        input.sinceTime := if_pos hlogs
    have hpayloadUntil : (sessionPayload input target sessionId issuedAt).untilTime =
        input.untilTime := if_pos hlogs
    rw [if_pos hlogs, if_pos hlogs, hpayloadSince, hpayloadUntil, hgiven hvalid.sinceTime,
      hgiven hvalid.untilTime]
    exact ⟨fun h _ => h, fun h => h hlogs⟩
  · rw [if_neg hlogs, if_neg hlogs]
    exact ⟨fun _ h => absurd h hlogs, fun _ => ⟨Or.inl rfl, Or.inl rfl⟩⟩

theorem exists_sameAs {issued : RuntimeTokenPayload} (hreadable : issued.Readable) :
    ∃ p : GatewayTokenPayload, p.SameAs issued := by
  have hnumber : ∀ {number : Option RequestNumber}, (∀ n, number = some n → n.Portable) →
      ∃ value, SameNumber number value := by
    intro number hportable
    cases number with
    | none => exact ⟨0, rfl⟩
    | some n =>
        cases n with
        | digits value => exact ⟨value, rfl⟩
        | exponent negative text => exact (hportable _ rfl).elim
        | fraction text => exact (hportable _ rfl).elim
  obtain ⟨tailLines, htail⟩ := hnumber hreadable.tailLines
  obtain ⟨sinceSecs, hsince⟩ := hnumber hreadable.sinceSeconds
  obtain ⟨refresh, hrefresh⟩ := hnumber hreadable.refreshIntervalSeconds
  exact ⟨⟨_, _, _, _, _, _, _, _, _, tailLines, sinceSecs, _, _, refresh, _, _, _, _, _⟩,
    ⟨rfl, rfl, rfl, rfl, rfl, rfl, rfl, rfl, rfl, htail, hsince, rfl, rfl, hrefresh, rfl, rfl, rfl,
      rfl, rfl⟩⟩

theorem PortableTime.later {earlier later : Int} {text : String} (h : PortableTime earlier text)
    (hle : earlier ≤ later) : PortableTime later text := by
  obtain ⟨t, ht, hrange, hpast⟩ := h
  exact ⟨t, ht, hrange, Int.le_trans hpast hle⟩

end Session

theorem createSession_ok {dateParse : String → Option Int} {mac : TokenMac} {secret : String}
    {hasKubeconfig : Bool} {readPod : Except Exception PodView} {sessionId : String}
    {checkedAt issuedAt : Int} {input : CreateRuntimeSessionRequest}
    {session : RuntimeSessionBootstrap}
    (h : createSession dateParse mac secret hasKubeconfig readPod sessionId checkedAt issuedAt input
      = .ok session) :
    input.Valid ∧ ∃ target, validateTarget hasKubeconfig readPod input = .ok target ∧
      session = ⟨sessionPayload input target sessionId issuedAt,
        createRuntimeToken mac secret (sessionPayload input target sessionId issuedAt),
        gatewayPath input.type, gatewayQuery input target.container sessionId⟩ := by
  simp only [createSession] at h
  rw [check_eq_ok, bind_eq_ok] at h
  obtain ⟨hinput, target, htarget, hsession⟩ := h
  cases hsession
  exact ⟨valid_of_validateInput hinput, target, htarget, rfl⟩

/-- A session for the log of the pod `web`, since noon of a leap day. -/
def leapDayLogs : CreateRuntimeSessionRequest where
  type := .logs
  userId := some "ada"
  clusterId := "c1"
  «namespace» := "team"
  pod := "web"
  container := none
  previous := none
  level := some "WARN"
  keyword := none
  command := none
  tailLines := some (.digits 200)
  sinceSeconds := some (.digits 60)
  sinceTime := some "2024-02-29T12:00:00.5+02:00"
  untilTime := none
  refreshIntervalSeconds := some (.digits 0)
  follow := some true
  timestamps := none

def webPod : PodView := ⟨["app", "proxy"], some "Running"⟩

def someSessionId : String := "0b6f6a52-8c1e-4f6e-9d7a-2f1f0f3f9a11"

def january : Int := 1736000000 * 10 ^ 9

/-- What `createSession` answers on a request for the pod `web`, with a signature that shows the
secret. -/
def webSession (dateParse : String → Option Int) (input : CreateRuntimeSessionRequest) :
    Except Exception RuntimeSessionBootstrap :=
  createSession dateParse (fun secret _ _ => secret) "secret" true (.ok webPod) someSessionId january
    january input

/-- What `webSession` is made of, where the container is the first of the pod. -/
def webSessionOf (input : CreateRuntimeSessionRequest) : RuntimeSessionBootstrap :=
  let payload := sessionPayload input ⟨"c1", "team", "web", "app", ["app", "proxy"], some "Running"⟩
    someSessionId january
  ⟨payload, createRuntimeToken (fun secret _ _ => secret) "secret" payload, gatewayPath input.type,
    gatewayQuery input "app" someSessionId⟩

theorem unpadded_of_decide {s : String} (h : Text.trim s = s ∧ goTrimSpace s = s) : Unpadded s :=
  ⟨h.1, h.2⟩

theorem webPod_unpadded : ∀ pod, (Except.ok webPod : Except Exception PodView) = .ok pod →
    ∀ name ∈ pod.containers, Unpadded name := by
  intro pod hpod name hname
  cases hpod
  have hboth : ∀ name ∈ webPod.containers, Text.trim name = name ∧ goTrimSpace name = name := by
    decide
  exact unpadded_of_decide (hboth name hname)

def endlessLogs : CreateRuntimeSessionRequest :=
  { leapDayLogs with tailLines := some (.digits (10 ^ 19)), sinceTime := none }

end KubeNova.Runtime
