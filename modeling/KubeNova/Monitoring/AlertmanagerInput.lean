import KubeNova.Common.Date
import KubeNova.Foundation.Json
import KubeNova.Foundation.JsValue
import KubeNova.Monitoring.State

/-!
# What Alertmanager sends

`parseAlertmanagerInput` accepts a batch as a whole or refuses it as a whole.
-/

namespace KubeNova.Monitoring

open KubeNova.Common KubeNova.Foundation KubeNova.Foundation.Json

structure AlertmanagerEvent where
  fingerprint : String
  status : AlertStatus
  startsAt : Int
  endsAt : Option Int
  «namespace» : Option String
  severity : String
  title : String
  message : String
  labels : List (String × String)
  annotations : List (String × String)
  deriving DecidableEq

def invalid : Exception := .badRequest "告警请求格式无效或超出大小限制"

mutual

/-- `JSON.stringify(value)`. -/
def jsonText : Js → List Char
  | .undefined => "null".toList
  | .null => "null".toList
  | .nonFinite => "null".toList
  | .bool true => "true".toList
  | .bool false => "false".toList
  | .number value => value.text.toList
  | .string value => quote value
  | .array elements => '[' :: (join (jsonElements elements) ++ [']'])
  | .object fields => '\x7b' :: (join (jsonFields fields) ++ ['\x7d'])

def jsonElements : List Js → List (List Char)
  | [] => []
  | value :: rest => jsonText value :: jsonElements rest

def jsonFields : List (String × Js) → List (List Char)
  | [] => []
  | (name, value) :: rest =>
      if value.isUndefined then jsonFields rest
      else (quote name ++ ':' :: jsonText value) :: jsonFields rest

end

def byteLength (text : List Char) : Nat := (text.map Char.utf8Size).sum

/-- `object(value)`: the fields of an object. -/
def objectFields : Js → Except Exception (List (String × Js))
  | .object fields => .ok fields
  | _ => .error invalid

def strings (value : Js) : Except Exception (List (String × String)) := do
  let entries ← objectFields (value.orElse (.object []))
  if 64 < entries.length then throw invalid
  entries.mapM fun (key, item) => match item with
    | .string text =>
        if key = "" ∨ 256 < Text.length key ∨ 8192 < byteLength text.toList then throw invalid
        else pure (key, text)
    | _ => throw invalid

/-- The milliseconds in `(?:\.\d{1,9})?`, of which `Date` keeps three digits, and what
follows them. -/
def readFraction : List Char → Option (Nat × List Char)
  | '.' :: rest =>
      let digits := rest.takeWhile Text.isDigit
      if 1 ≤ digits.length ∧ digits.length ≤ 9 then
        (Common.digitsValue ((digits ++ ['0', '0']).take 3)).map fun millis =>
          (millis, rest.drop digits.length)
      else none
  | rest => some (0, rest)

/-- The minutes that `(Z|[+-]\d{2}:\d{2})$` is ahead of UTC. -/
def readZone : List Char → Option Int
  | ['Z'] => some 0
  | [sign, h1, h2, ':', m1, m2] => do
      let hours ← Common.digitsValue [h1, h2]
      let minutes ← Common.digitsValue [m1, m2]
      if hours ≤ 23 ∧ minutes ≤ 59 then
        if sign = '+' then some (hours * 60 + minutes)
        else if sign = '-' then some (-(hours * 60 + minutes : Int))
        else none
      else none
  | _ => none

def readTimestamp (text : String) : Option Int := do
  match text.toList with
  | y1 :: y2 :: y3 :: y4 :: '-' :: m1 :: m2 :: '-' :: d1 :: d2 :: 'T' ::
      h1 :: h2 :: ':' :: i1 :: i2 :: ':' :: s1 :: s2 :: rest =>
      let year ← Common.digitsValue [y1, y2, y3, y4]
      let month ← Common.digitsValue [m1, m2]
      let day ← Common.digitsValue [d1, d2]
      let hour ← Common.digitsValue [h1, h2]
      let minute ← Common.digitsValue [i1, i2]
      let second ← Common.digitsValue [s1, s2]
      let (millis, zoneText) ← readFraction rest
      let zone ← readZone zoneText
      if 1970 ≤ year ∧ 1 ≤ month ∧ month ≤ 12 ∧ 1 ≤ day ∧ day ≤ daysInMonth year month ∧
          hour ≤ 23 ∧ minute ≤ 59 ∧ second ≤ 59 then
        some (((((daysFromCivil year month day * 24 + hour) * 60 + minute) - zone) * 60 + second) *
          1000 + millis)
      else none
  | _ => none

def timestamp : Js → Except Exception Int
  | .string text =>
      if 64 < Text.length text then throw invalid
      else match readTimestamp text with
        | some date => pure date
        | none => throw invalid
  | _ => throw invalid

example : readTimestamp "2026-01-31T09:00:00.25+01:00" = some 1769846400250 := by decide

/-- `/^[a-zA-Z0-9_-]{1,128}$/`. -/
def isFingerprint (text : String) : Bool :=
  1 ≤ text.toList.length && text.toList.length ≤ 128 &&
    text.toList.all fun c => c.isAlphanum || c == '_' || c == '-'

def firstText (candidates : List (Option String)) : Option String :=
  candidates.findSome? fun candidate => candidate.filter (· ≠ "")

def parseStatus : Js → Except Exception AlertStatus
  | .string text =>
      if text = "firing" then pure .firing
      else if text = "resolved" then pure .resolved
      else throw invalid
  | _ => throw invalid

def parseAlert (raw : Js) : Except Exception AlertmanagerEvent := do
  let value := Js.object (← objectFields raw)
  match value.field "fingerprint" with
  | .string fingerprint => do
      if !isFingerprint fingerprint then throw invalid
      let status ← parseStatus (value.field "status")
      let startsAt ← timestamp (value.field "startsAt")
      let endsAt ← match status with
        | .resolved => (timestamp (value.field "endsAt")).map some
        | .firing => pure none
      if endsAt.any (· < startsAt) then throw invalid
      let labels ← strings (value.field "labels")
      let annotations ← strings (value.field "annotations")
      let severity := labels.lookup "severity"
      pure {
        fingerprint := fingerprint
        status := status
        startsAt := startsAt
        endsAt := endsAt
        «namespace» := firstText [labels.lookup "namespace"]
        severity :=
          if severity = some "critical" ∨ severity = some "info" then severity.getD "warning"
          else "warning"
        title := (firstText [annotations.lookup "summary", labels.lookup "alertname"]).getD
          fingerprint
        message := (firstText [annotations.lookup "description", annotations.lookup "summary",
          labels.lookup "alertname"]).getD fingerprint
        labels := labels
        annotations := annotations }
  | _ => throw invalid

def parseAlertmanagerInput (input : Js) : Except Exception (List AlertmanagerEvent) := do
  if 1048576 < byteLength (jsonText input) then throw invalid
  let fields ← objectFields input
  match (Js.object fields).field "alerts" with
  | .array alerts => do
      if alerts.length < 1 ∨ 100 < alerts.length then throw invalid
      alerts.mapM parseAlert
  | _ => throw invalid

end KubeNova.Monitoring
