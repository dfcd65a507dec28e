import KubeNova.Common.Exceptions
import KubeNova.Foundation.JsFields

/-!
# Runtime tokens

`RuntimeService.createSession` issues a token and the URL of a session; the gateway's
`validateRuntimeToken` checks both.  A token is given by its parts, read back from base64url and
JSON, and a URL by its query parameters.  Times are nanoseconds, those of the issuer's clock
milliseconds.
-/

namespace KubeNova.Runtime

open KubeNova.Foundation KubeNova.Common

inductive RuntimeSessionType where
  | terminal
  | logs
  deriving Repr, DecidableEq

def RuntimeSessionType.text : RuntimeSessionType → String
  | terminal => "terminal"
  | logs => "logs"

/-- A number, by what `JSON.stringify` prints for it: integers get an exponent from 10²¹ on. -/
inductive RequestNumber where
  | digits (value : Int)
  | exponent (negative : Bool) (text : String)
  | fraction (text : String)
  deriving Repr, DecidableEq

namespace RequestNumber

def isInteger : RequestNumber → Bool
  | digits _ => true
  | exponent _ _ => true
  | fraction _ => false

/-- `value <= 0`, of an integer. -/
def isNotPositive : RequestNumber → Bool
  | digits value => decide (value ≤ 0)
  | exponent negative _ => negative
  | fraction _ => false

/-- `value < 2`, of an integer. -/
def isBelowTwo : RequestNumber → Bool
  | digits value => decide (value < 2)
  | exponent negative _ => negative
  | fraction _ => false

end RequestNumber

structure CreateRuntimeSessionRequest where
  type : RuntimeSessionType
  userId : Option String
  clusterId : String
  «namespace» : String
  pod : String
  container : Option String
  previous : Option Bool
  level : Option String
  keyword : Option String
  command : Option String
  tailLines : Option RequestNumber
  sinceSeconds : Option RequestNumber
  sinceTime : Option String
  untilTime : Option String
  refreshIntervalSeconds : Option RequestNumber
  follow : Option Bool
  timestamps : Option Bool
  deriving Repr, DecidableEq

/-! ## Times in texts -/

/-- The parts of `YYYY-MM-DDTHH:MM:SS`, a fraction and an offset. -/
structure Rfc3339 where
  year : Nat
  month : Nat
  day : Nat
  hour : Nat
  minute : Nat
  second : Nat
  fraction : List Nat
  offsetNegative : Bool
  offsetHour : Nat
  offsetMinute : Nat
  deriving Repr, DecidableEq

def digitValue (c : Char) : Nat := c.toNat - 48

/-- The number of the first `n` characters, which have to be digits. -/
def takeNumber (n : Nat) (cs : List Char) : Option (Nat × List Char) :=
  if (cs.take n).length = n ∧ (cs.take n).all Text.isDigit = true then
    some ((cs.take n).foldl (fun value c => value * 10 + digitValue c) 0, cs.drop n)
  else none

def expectChar (c : Char) : List Char → Option (List Char)
  | d :: cs => if d = c then some cs else none
  | [] => none

def takeFraction (cs : List Char) : List Nat × List Char :=
  match cs with
  | '.' :: rest =>
      if (rest.takeWhile Text.isDigit).isEmpty then ([], cs)
      else ((rest.takeWhile Text.isDigit).map digitValue, rest.dropWhile Text.isDigit)
  | _ => ([], cs)

/-- `Z`, or a sign and an offset, up to the end. -/
def takeOffset (cs : List Char) : Option (Bool × Nat × Nat) :=
  match cs with
  | ['Z'] => some (false, 0, 0)
  | sign :: rest =>
      if sign = '+' ∨ sign = '-' then do
        let (hour, rest) ← takeNumber 2 rest
        let rest ← expectChar ':' rest
        let (minute, rest) ← takeNumber 2 rest
        if rest = [] then some (decide (sign = '-'), hour, minute) else none
      else none
  | [] => none

/-- The pattern of `parseOptionalRfc3339`. -/
def matchRfc3339 (text : String) : Option Rfc3339 := do
  let (year, cs) ← takeNumber 4 text.toList
  let cs ← expectChar '-' cs
  let (month, cs) ← takeNumber 2 cs
  let cs ← expectChar '-' cs
  let (day, cs) ← takeNumber 2 cs
  let cs ← expectChar 'T' cs
  let (hour, cs) ← takeNumber 2 cs
  let cs ← expectChar ':' cs
  let (minute, cs) ← takeNumber 2 cs
  let cs ← expectChar ':' cs
  let (second, cs) ← takeNumber 2 cs
  let (fraction, cs) := takeFraction cs
  let (offsetNegative, offsetHour, offsetMinute) ← takeOffset cs
  some ⟨year, month, day, hour, minute, second, fraction, offsetNegative, offsetHour, offsetMinute⟩

def isLeapYear (year : Nat) : Bool := year % 4 == 0 && (year % 100 != 0 || year % 400 == 0)

def daysIn (year month : Nat) : Nat :=
  if month = 2 then if isLeapYear year then 29 else 28
  else if month = 4 ∨ month = 6 ∨ month = 9 ∨ month = 11 then 30 else 31

namespace Rfc3339

/-- The ranges of Go's `time.Parse`: a day of its month, and no hour 24. -/
def inRange (t : Rfc3339) : Bool :=
  decide (1 ≤ t.month ∧ t.month ≤ 12 ∧ 1 ≤ t.day ∧ t.day ≤ daysIn t.year t.month ∧ t.hour < 24 ∧
    t.minute < 60 ∧ t.second < 60 ∧ t.offsetHour ≤ 24 ∧ t.offsetMinute ≤ 60)

def epochDays (t : Rfc3339) : Int :=
  let before : Int := (t.year : Int) - 1
  365 * before + before / 4 - before / 100 + before / 400 +
    ((List.range t.month).drop 1).foldl (fun days month => days + (daysIn t.year month : Int)) 0 +
    ((t.day : Int) - 1) - 719162

def nanoseconds (t : Rfc3339) : Nat :=
  (t.fraction ++ List.replicate 9 0).take 9 |>.foldl (fun value digit => value * 10 + digit) 0

def offsetSeconds (t : Rfc3339) : Int :=
  let seconds : Int := t.offsetHour * 3600 + t.offsetMinute * 60
  if t.offsetNegative then -seconds else seconds

def instant (t : Rfc3339) : Int :=
  (t.epochDays * 86400 + t.hour * 3600 + t.minute * 60 + t.second - t.offsetSeconds) * 10 ^ 9 +
    t.nanoseconds

end Rfc3339

/-! ## The issuer -/

section Issuer

-- `Date.parse`, which makes milliseconds of a text, or nothing.
variable (dateParse : String → Option Int)

def badRequest {α : Type} (message : String) : Except Exception α := .error (.badRequest message)

def assertRequiredString (value field : String) : Except Exception Unit :=
  if Text.trim value = "" then badRequest (field ++ " 是必填字段") else .ok ()

def assertTailLines (value : Option RequestNumber) (field : String) : Except Exception Unit :=
  if value.all fun n => n.isInteger && (!n.isNotPositive || n == .digits (-1)) then .ok ()
  else badRequest (field ++ " 必须为正整数或 -1")

def assertPositiveInt (value : Option RequestNumber) (field : String) : Except Exception Unit :=
  if value.all fun n => n.isInteger && !n.isNotPositive then .ok ()
  else badRequest (field ++ " 必须为正整数")

def assertRefreshInterval (value : Option RequestNumber) (field : String) :
    Except Exception Unit :=
  if value.all fun n => n.isInteger && (n == .digits 0 || !n.isBelowTwo) then .ok ()
  else badRequest (field ++ " 必须为 0 或不小于 2 的整数")

def parseOptionalRfc3339 (nowMs : Int) (raw : Option String) (field : String) :
    Except Exception (Option Int) :=
  match raw with
  | none => .ok none
  | some raw =>
      if (matchRfc3339 (Text.trim raw)).isNone then badRequest (field ++ " 必须为 ISO/RFC3339 时间")
      else match dateParse (Text.trim raw) with
        | none => badRequest (field ++ " 必须为有效时间")
        | some parsed =>
            if nowMs < parsed then badRequest (field ++ " 不能晚于当前时间") else .ok (some parsed)

def assertTimeRange : Option Int → Option Int → Except Exception Unit
  | some sinceTime, some untilTime =>
      if untilTime < sinceTime then badRequest "sinceTime 不能晚于 untilTime" else .ok ()
  | _, _ => .ok ()

def validateInput (nowMs : Int) (input : CreateRuntimeSessionRequest) : Except Exception Unit := do
  assertRequiredString input.clusterId "clusterId"
  assertRequiredString input.namespace "namespace"
  assertRequiredString input.pod "pod"
  if input.command.any fun command => Text.trim command == "" then
    badRequest "command 不能为空字符串"
  if input.keyword.any fun keyword => Text.trim keyword == "" then
    badRequest "keyword 不能为空字符串"
  if input.level.any fun level => !(["INFO", "WARN", "ERROR"].contains level) then
    badRequest "level 必须为 INFO、WARN 或 ERROR"
  assertTailLines input.tailLines "tailLines"
  assertPositiveInt input.sinceSeconds "sinceSeconds"
  let sinceTime ← parseOptionalRfc3339 dateParse nowMs input.sinceTime "sinceTime"
  let untilTime ← parseOptionalRfc3339 dateParse nowMs input.untilTime "untilTime"
  assertTimeRange sinceTime untilTime
  assertRefreshInterval input.refreshIntervalSeconds "refreshIntervalSeconds"

structure PodView where
  containers : List String
  phase : Option String
  deriving Repr, DecidableEq

structure RuntimeSessionTargetContext where
  clusterId : String
  «namespace» : String
  pod : String
  container : String
  availableContainers : List String
  podPhase : Option String
  deriving Repr, DecidableEq

def PodView.availableContainers (pod : PodView) : List String :=
  (pod.containers.map Text.trim).filter (· != "")

/-- `value || other`, for texts. -/
def orText (value other : String) : String := if value = "" then other else value

/-- `validateTarget`, from what the cluster answers. -/
def validateTarget (hasKubeconfig : Bool) (readPod : Except Exception PodView)
    (input : CreateRuntimeSessionRequest) : Except Exception RuntimeSessionTargetContext := do
  if !hasKubeconfig then badRequest "目标集群未配置 kubeconfig，无法创建运行时会话"
  let pod ← readPod
  let availableContainers := pod.availableContainers
  if availableContainers.isEmpty then
    badRequest ("Pod " ++ input.namespace ++ "/" ++ input.pod ++ " 不包含可执行容器")
  let requestedContainer := Text.trim (input.container.getD "")
  if requestedContainer != "" && !availableContainers.contains requestedContainer then
    badRequest ("容器 " ++ requestedContainer ++ " 不存在于 Pod " ++ input.namespace ++ "/" ++ input.pod)
  let podPhase := pod.phase.map Text.trim
  if input.type == .terminal && podPhase.any fun phase => phase != "" && phase != "Running" then
    badRequest ("Pod " ++ input.namespace ++ "/" ++ input.pod ++ " 当前状态为 " ++ podPhase.getD "" ++
      "，无法建立终端")
  return ⟨input.clusterId, input.namespace, input.pod,
    orText requestedContainer (availableContainers.headD ""), availableContainers, podPhase⟩

end Issuer

inductive ClaimValue where
  | string (value : String)
  | number (value : RequestNumber)
  | bool (value : Bool)
  | strings (values : List String)
  deriving Repr, DecidableEq

structure RuntimeTokenPayload where
  sessionId : String
  userId : String
  type : String
  clusterId : String
  «namespace» : String
  pod : String
  container : String
  availableContainers : List String
  podPhase : Option String
  level : Option String
  keyword : Option String
  tailLines : Option RequestNumber
  sinceSeconds : Option RequestNumber
  sinceTime : Option String
  untilTime : Option String
  refreshIntervalSeconds : Option RequestNumber
  follow : Option Bool
  previous : Option Bool
  timestamps : Option Bool
  path : String
  exp : Int
  deriving Repr, DecidableEq

/-- An object in JSON, without the fields that are undefined. -/
def definedFields (fields : List (String × Option ClaimValue)) : List (String × ClaimValue) :=
  fields.filterMap fun field => field.2.map (field.1, ·)

def RuntimeTokenPayload.fields (p : RuntimeTokenPayload) : List (String × Option ClaimValue) := [
  ("sessionId", some (.string p.sessionId)),
  ("userId", some (.string p.userId)),
  ("type", some (.string p.type)),
  ("clusterId", some (.string p.clusterId)),
  ("namespace", some (.string p.namespace)),
  ("pod", some (.string p.pod)),
  ("container", some (.string p.container)),
  ("availableContainers", some (.strings p.availableContainers)),
  ("podPhase", p.podPhase.map .string),
  ("level", p.level.map .string),
  ("keyword", p.keyword.map .string),
  ("tailLines", p.tailLines.map .number),
  ("sinceSeconds", p.sinceSeconds.map .number),
  ("sinceTime", p.sinceTime.map .string),
  ("untilTime", p.untilTime.map .string),
  ("refreshIntervalSeconds", p.refreshIntervalSeconds.map .number),
  ("follow", p.follow.map .bool),
  ("previous", p.previous.map .bool),
  ("timestamps", p.timestamps.map .bool),
  ("path", some (.string p.path)),
  ("exp", some (.number (.digits p.exp)))]

/-- `JSON.stringify(payload)`, read back. -/
def RuntimeTokenPayload.json (p : RuntimeTokenPayload) : List (String × ClaimValue) :=
  definedFields p.fields

/-- The parts between the points of a token, decoded: `none` for a part that is not base64url, or
not the JSON of an object. -/
structure RuntimeToken where
  header : Option (List (String × ClaimValue))
  payload : Option (List (String × ClaimValue))
  signature : Option String
  deriving Repr, DecidableEq

/-- The signature HS256 makes of the first two parts with a secret. -/
abbrev TokenMac := String → Option (List (String × ClaimValue)) →
  Option (List (String × ClaimValue)) → String

def createRuntimeToken (mac : TokenMac) (secret : String) (payload : RuntimeTokenPayload) :
    RuntimeToken :=
  let header := some [("alg", ClaimValue.string "HS256"), ("typ", .string "JWT")]
  ⟨header, some payload.json, some (mac secret header (some payload.json))⟩

def gatewayPath : RuntimeSessionType → String
  | .terminal => "/ws/terminal"
  | .logs => "/ws/logs"

/-- `query.set`, for a value that is there. -/
def setOptional (query : List (String × String)) (key : String) (value : Option String) :
    List (String × String) :=
  match value with
  | some value => setField query key value
  | none => query

def RequestNumber.printed : RequestNumber → String
  | digits value => toString value
  | exponent _ text => text
  | fraction text => text

def boolText (value : Bool) : String := if value then "true" else "false"

def truthyText (value : Option String) : Option String := value.filter (· != "")

/-- The query of `buildGatewayUrl`, but for the token. -/
def gatewayQuery (input : CreateRuntimeSessionRequest) (container sessionId : String) :
    List (String × String) :=
  let query := [("sessionId", sessionId), ("clusterId", input.clusterId),
    ("namespace", input.namespace), ("pod", input.pod), ("container", container)]
  match input.type with
  | .terminal => query
  | .logs =>
      let query := setOptional query "level" (truthyText input.level)
      let query := setOptional query "keyword" ((truthyText input.keyword).map Text.trim)
      let query := setOptional query "tailLines" (input.tailLines.map (·.printed))
      let query := setOptional query "sinceSeconds"
        ((input.sinceSeconds.filter (· != .digits 0)).map (·.printed))
      let query := match truthyText input.sinceTime with
        | some sinceTime => setField (removeField query "sinceSeconds") "sinceTime" sinceTime
        | none => query
      let query := setOptional query "untilTime" (truthyText input.untilTime)
      let query := setOptional query "refreshIntervalSeconds"
        (input.refreshIntervalSeconds.map (·.printed))
      let query := if input.previous = some true then setField query "previous" "true" else query
      let query := setOptional query "follow" (input.follow.map boolText)
      let query := setOptional query "previous" (input.previous.map boolText)
      setOptional query "timestamps" (input.timestamps.map boolText)

def sessionTtlSeconds : Int := 30 * 60

def sessionPayload (input : CreateRuntimeSessionRequest) (target : RuntimeSessionTargetContext)
    (sessionId : String) (issuedAt : Int) : RuntimeTokenPayload :=
  let logs {α : Type} (value : Option α) : Option α := if input.type = .logs then value else none
  { sessionId := sessionId
    userId := orText (Text.trim (input.userId.getD "")) "unknown-user"
    type := input.type.text
    clusterId := input.clusterId
    «namespace» := input.namespace
    pod := input.pod
    container := target.container
    availableContainers := target.availableContainers
    podPhase := target.podPhase
    level := logs input.level
    keyword := logs (input.keyword.map Text.trim)
    tailLines := logs input.tailLines
    sinceSeconds := if (truthyText input.sinceTime).isNone then logs input.sinceSeconds else none
    sinceTime := logs input.sinceTime
    untilTime := logs input.untilTime
    refreshIntervalSeconds := logs input.refreshIntervalSeconds
    follow := logs input.follow
    previous := logs input.previous
    timestamps := logs input.timestamps
    path := gatewayPath input.type
    exp := issuedAt / 10 ^ 9 + sessionTtlSeconds }

structure RuntimeSessionBootstrap where
  payload : RuntimeTokenPayload
  runtimeToken : RuntimeToken
  path : String
  query : List (String × String)
  deriving Repr, DecidableEq

/-- `createSession`, which checks the input at one time and issues the token at another. -/
def createSession (dateParse : String → Option Int) (mac : TokenMac) (secret : String)
    (hasKubeconfig : Bool) (readPod : Except Exception PodView) (sessionId : String)
    (checkedAt issuedAt : Int) (input : CreateRuntimeSessionRequest) :
    Except Exception RuntimeSessionBootstrap := do
  validateInput dateParse (checkedAt / 10 ^ 6) input
  let target ← validateTarget hasKubeconfig readPod input
  let payload := sessionPayload input target sessionId issuedAt
  return ⟨payload, createRuntimeToken mac secret payload, gatewayPath input.type,
    gatewayQuery input target.container sessionId⟩

/-! ## The gateway -/

/-- `strings.TrimSpace` strips other characters than `trim`. -/
def isGoSpace (c : Char) : Bool :=
  (Text.isSpace c && c.toNat != 0xFEFF) || c.toNat == 0x85

def goTrimSpace (s : String) : String :=
  String.ofList ((s.toList.dropWhile isGoSpace).reverse.dropWhile isGoSpace).reverse

/-- The fields of the payload the gateway reads; what is absent is empty. -/
structure GatewayTokenPayload where
  sessionId : String
  userId : String
  type : String
  clusterId : String
  «namespace» : String
  pod : String
  container : String
  level : String
  keyword : String
  tailLines : Int
  sinceSecs : Int
  sinceTime : String
  untilTime : String
  refreshIntervalSeconds : Int
  follow : Option Bool
  previous : Option Bool
  timestamp : Option Bool
  path : String
  exp : Int
  deriving Repr, DecidableEq

/-- `json.Unmarshal` into a string. -/
def unmarshalString : Option ClaimValue → Option String
  | none => some ""
  | some (.string value) => some value
  | some _ => none

/-- `json.Unmarshal` into an `int64`, which takes no exponent. -/
def unmarshalInt64 : Option ClaimValue → Option Int
  | none => some 0
  | some (.number (.digits value)) =>
      if -2 ^ 63 ≤ value ∧ value < 2 ^ 63 then some value else none
  | some _ => none

def unmarshalBool : Option ClaimValue → Option (Option Bool)
  | none => some none
  | some (.bool value) => some (some value)
  | some _ => none

def unmarshalPayload (fields : List (String × ClaimValue)) : Option GatewayTokenPayload := do
  return {
    sessionId := ← unmarshalString (fields.lookup "sessionId")
    userId := ← unmarshalString (fields.lookup "userId")
    type := ← unmarshalString (fields.lookup "type")
    clusterId := ← unmarshalString (fields.lookup "clusterId")
    «namespace» := ← unmarshalString (fields.lookup "namespace")
    pod := ← unmarshalString (fields.lookup "pod")
    container := ← unmarshalString (fields.lookup "container")
    level := ← unmarshalString (fields.lookup "level")
    keyword := ← unmarshalString (fields.lookup "keyword")
    tailLines := ← unmarshalInt64 (fields.lookup "tailLines")
    sinceSecs := ← unmarshalInt64 (fields.lookup "sinceSeconds")
    sinceTime := ← unmarshalString (fields.lookup "sinceTime")
    untilTime := ← unmarshalString (fields.lookup "untilTime")
    refreshIntervalSeconds := ← unmarshalInt64 (fields.lookup "refreshIntervalSeconds")
    follow := ← unmarshalBool (fields.lookup "follow")
    previous := ← unmarshalBool (fields.lookup "previous")
    timestamp := ← unmarshalBool (fields.lookup "timestamps")
    path := ← unmarshalString (fields.lookup "path")
    exp := ← unmarshalInt64 (fields.lookup "exp") }

/-- `parseRFC3339Time`, on the texts the issuer lets through. -/
def parseRFC3339Time (value : String) : Option Int :=
  ((matchRfc3339 (goTrimSpace value)).filter (·.inRange)).map (·.instant)

def firstQueryValue (query : List (String × String)) (key : String) : String :=
  (query.lookup key).getD ""

structure RuntimeAuthError where
  code : String
  message : String
  deriving Repr, DecidableEq

def boundParameters (p : GatewayTokenPayload) : List (String × String × RuntimeAuthError) := [
  ("sessionId", p.sessionId,
    ⟨"RUNTIME_TOKEN_SESSION_MISMATCH", "runtimeToken sessionId claim mismatch"⟩),
  ("clusterId", p.clusterId,
    ⟨"RUNTIME_TOKEN_CLUSTER_MISMATCH", "runtimeToken clusterId claim mismatch"⟩),
  ("namespace", p.namespace,
    ⟨"RUNTIME_TOKEN_NAMESPACE_MISMATCH", "runtimeToken namespace claim mismatch"⟩),
  ("pod", p.pod, ⟨"RUNTIME_TOKEN_POD_MISMATCH", "runtimeToken pod claim mismatch"⟩),
  ("container", p.container,
    ⟨"RUNTIME_TOKEN_CONTAINER_MISMATCH", "runtimeToken container claim mismatch"⟩)]

def checkBound (query : List (String × String)) :
    List (String × String × RuntimeAuthError) → Except RuntimeAuthError Unit
  | [] => .ok ()
  | (key, value, error) :: rest =>
      if value ≠ goTrimSpace (firstQueryValue query key) then .error error
      else checkBound query rest

/-- The check of `sinceTime` and of `untilTime`. -/
def checkPast (now : Int) (value name code : String) : Except RuntimeAuthError Unit :=
  if value = "" then .ok ()
  else match parseRFC3339Time value with
    | none => .error ⟨code, "runtimeToken " ++ name ++ " claim is invalid"⟩
    | some parsed =>
        if now < parsed then .error ⟨code, "runtimeToken " ++ name ++ " cannot be in the future"⟩
        else .ok ()

def refuseIf (condition : Prop) [Decidable condition] (code message : String) :
    Except RuntimeAuthError Unit :=
  if condition then .error ⟨code, message⟩ else .ok ()

def isIncomplete (p : GatewayTokenPayload) : Bool :=
  [p.sessionId, p.userId, p.type, p.clusterId, p.namespace, p.pod, p.container, p.path].any
    (fun claim => goTrimSpace claim == "") || decide (p.exp ≤ 0)

def checkPayload (requestPath : String) (query : List (String × String)) (now : Int)
    (p : GatewayTokenPayload) : Except RuntimeAuthError Unit := do
  refuseIf (isIncomplete p) "RUNTIME_TOKEN_CLAIMS_INCOMPLETE" "runtimeToken claims are incomplete"
  refuseIf (requestPath ≠ p.path) "RUNTIME_TOKEN_PATH_MISMATCH" "runtimeToken path claim mismatch"
  refuseIf (requestPath ≠ "/ws/terminal" ∧ requestPath ≠ "/ws/logs") "RUNTIME_PATH_UNSUPPORTED"
    "websocket path is unsupported"
  refuseIf (p.type ≠ if requestPath = "/ws/terminal" then "terminal" else "logs")
    "RUNTIME_TOKEN_TYPE_MISMATCH" "runtimeToken type claim mismatch"
  checkBound query (boundParameters p)
  refuseIf (p.level ≠ "" ∧ p.level ≠ "INFO" ∧ p.level ≠ "WARN" ∧ p.level ≠ "ERROR")
    "RUNTIME_TOKEN_LOG_LEVEL_INVALID" "runtimeToken log level claim is invalid"
  refuseIf (p.tailLines < -1) "RUNTIME_TOKEN_TAIL_LINES_INVALID"
    "runtimeToken tailLines claim is invalid"
  refuseIf (p.sinceSecs < 0) "RUNTIME_TOKEN_SINCE_SECONDS_INVALID"
    "runtimeToken sinceSeconds claim is invalid"
  checkPast now p.sinceTime "sinceTime" "RUNTIME_TOKEN_SINCE_TIME_INVALID"
  checkPast now p.untilTime "untilTime" "RUNTIME_TOKEN_UNTIL_TIME_INVALID"
  refuseIf (p.refreshIntervalSeconds < 0) "RUNTIME_TOKEN_REFRESH_INTERVAL_SECONDS_INVALID"
    "runtimeToken refreshIntervalSeconds claim is invalid"
  refuseIf (p.exp ≤ now / 10 ^ 9) "RUNTIME_TOKEN_EXPIRED" "runtimeToken is expired"

/-- `validateRuntimeToken`; a token that has not three parts is `none`. -/
def validateRuntimeToken (mac : TokenMac) (secret : String) (token : Option RuntimeToken)
    (requestPath : String) (query : List (String × String)) (now : Int) :
    Except RuntimeAuthError GatewayTokenPayload := do
  match token with
  | none => .error ⟨"RUNTIME_TOKEN_FORMAT_INVALID", "runtimeToken format is invalid"⟩
  | some token =>
      refuseIf (token.signature ≠ some (mac secret token.header token.payload))
        "RUNTIME_TOKEN_SIGNATURE_INVALID" "runtimeToken signature is invalid"
      match token.payload with
      | none => .error ⟨"RUNTIME_TOKEN_PAYLOAD_INVALID", "runtimeToken payload cannot be decoded"⟩
      | some fields =>
          match unmarshalPayload fields with
          | none => .error ⟨"RUNTIME_TOKEN_PAYLOAD_INVALID", "runtimeToken payload is invalid"⟩
          | some payload =>
              checkPayload requestPath query now payload
              return payload

end KubeNova.Runtime
