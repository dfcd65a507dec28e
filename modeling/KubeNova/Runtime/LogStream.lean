import KubeNova.Runtime.RuntimeTokens

/-!
# The log stream of a pod

`streamPodLogs` of the gateway, from the lines of the container's log to the frames it writes: the
lines whose time and message the options ask for, and a last frame that sums them up.
-/

namespace KubeNova.Runtime

open KubeNova.Foundation

structure LogStreamOptions where
  level : String
  keyword : String
  tailLines : Int
  sinceSeconds : Int
  sinceTime : String
  untilTime : String
  follow : Option Bool
  previous : Option Bool
  timestamps : Option Bool
  deriving Repr, DecidableEq

/-! ## Times of lines -/

/-- `time.Parse(time.RFC3339Nano, strings.TrimSpace(value))` -/
def parseTime (value : String) : Option Rfc3339 :=
  (matchRfc3339 (goTrimSpace value)).filter (·.inRange)

/-- What of Go's `strings` and `time` the stream uses: the two cases of a text, and a time in
RFC 3339 with nanoseconds. -/
structure GoPackages where
  toLower : String → String
  toUpper : String → String
  format : Rfc3339 → String

/-- `Z`, or a sign and an offset. -/
def takeZone : List Char → Option (List Char × List Char)
  | 'Z' :: rest => some (['Z'], rest)
  | sign :: rest =>
      if sign = '+' ∨ sign = '-' then do
        let (_, cs) ← takeNumber 2 rest
        let cs ← expectChar ':' cs
        let (_, cs) ← takeNumber 2 cs
        some (sign :: rest.take 5, cs)
      else none
  | [] => none

def takeDateTime (cs : List Char) : Option (List Char) := do
  let (_, cs) ← takeNumber 4 cs
  let cs ← expectChar '-' cs
  let (_, cs) ← takeNumber 2 cs
  let cs ← expectChar '-' cs
  let (_, cs) ← takeNumber 2 cs
  let cs ← expectChar 'T' cs
  let (_, cs) ← takeNumber 2 cs
  let cs ← expectChar ':' cs
  let (_, cs) ← takeNumber 2 cs
  let cs ← expectChar ':' cs
  let (_, cs) ← takeNumber 2 cs
  some cs

/-- `\s` of a Go pattern. -/
def isPatternSpace (c : Char) : Bool := ['\t', '\n', '\x0C', '\r', ' '].contains c

/-- `rfc3339LogPrefixPattern`: the time a line begins with, and what follows the match. -/
def rfc3339LogPrefix (line : List Char) : Option (List Char × List Char) := do
  let cs ← takeDateTime line
  let (_, cs) := takeFraction cs
  let (_, cs) ← takeZone cs
  match cs with
  | [] => some (line, [])
  | c :: rest => if isPatternSpace c then some (line.take (line.length - cs.length), rest) else none

/-- The groups of `nginxCommonLogTimePattern`. -/
structure NginxTime where
  day : Nat
  month : String
  year : String
  hour : String
  minute : String
  second : String
  offset : String
  deriving Repr, DecidableEq

def takeDay (cs : List Char) : Option (Nat × List Char) :=
  ([2, 1].map fun n => do
    let (day, rest) ← takeNumber n cs
    let rest ← expectChar '/' rest
    some (day, rest)).findSome? id

def isLetter (c : Char) : Bool := ('A' ≤ c && c ≤ 'Z') || ('a' ≤ c && c ≤ 'z')

/-- `nginxCommonLogTimePattern` at the beginning of a text. -/
def nginxTimeHere (cs : List Char) : Option NginxTime := do
  let cs ← expectChar '[' cs
  let (day, month) ← takeDay cs
  if (month.take 3).length = 3 && (month.take 3).all isLetter then
    let year ← expectChar '/' (month.drop 3)
    let (_, cs) ← takeNumber 4 year
    let hour ← expectChar ':' cs
    let (_, cs) ← takeNumber 2 hour
    let minute ← expectChar ':' cs
    let (_, cs) ← takeNumber 2 minute
    let second ← expectChar ':' cs
    let (_, cs) ← takeNumber 2 second
    let offset ← expectChar ' ' cs
    match offset with
    | sign :: digits =>
        if sign = '+' || sign = '-' then
          let (_, cs) ← takeNumber 4 digits
          let _ ← expectChar ']' cs
          some {
            day := day
            month := String.ofList (month.take 3)
            year := String.ofList (year.take 4)
            hour := String.ofList (hour.take 2)
            minute := String.ofList (minute.take 2)
            second := String.ofList (second.take 2)
            offset := String.ofList (offset.take 5) }
        else none
    | [] => none
  else none

def nginxCommonLogTime (line : List Char) : Option NginxTime := line.tails.findSome? nginxTimeHere

def nginxMonths : List (String × Nat) :=
  [("jan", 1), ("feb", 2), ("mar", 3), ("apr", 4), ("may", 5), ("jun", 6), ("jul", 7), ("aug", 8),
    ("sep", 9), ("oct", 10), ("nov", 11), ("dec", 12)]

def nginxMonthNumber (month : String) : Option Nat := nginxMonths.lookup (Text.toLower month)

/-- `%02d` -/
def twoDigits (n : Nat) : String := if n < 10 then "0" ++ toString n else toString n

def parseNginxCommonLogTime (time : NginxTime) : Option Rfc3339 := do
  let month ← nginxMonthNumber time.month
  let offset := time.offset.toList
  parseTime (time.year ++ "-" ++ twoDigits month ++ "-" ++ twoDigits time.day ++ "T" ++ time.hour ++
    ":" ++ time.minute ++ ":" ++ time.second ++ String.ofList (offset.take 3) ++ ":" ++
    String.ofList (offset.drop 3))

def parseLogLineTimestamp (line : String) : Option Rfc3339 :=
  let fromPrefix := do
    let (time, _) ← rfc3339LogPrefix line.toList
    parseTime (String.ofList time)
  let fromNginx := do
    let time ← nginxCommonLogTime line.toList
    parseNginxCommonLogTime time
  fromPrefix <|> fromNginx

variable (go : GoPackages)

def inferLogLevel (message : String) : String :=
  let upper := go.toUpper message
  if Text.contains "ERROR" upper || Text.contains "FATAL" upper || Text.contains "ERR " upper then
    "ERROR"
  else if Text.contains "WARN" upper || Text.contains "WRN " upper then "WARN"
  else "INFO"

def matchesMessage (options : LogStreamOptions) (message : String) : Bool :=
  if options.keyword ≠ "" && !Text.contains (go.toLower options.keyword) (go.toLower message) then
    false
  else if options.level = "" then true
  else inferLogLevel go message == options.level

def afterFirstBlank (line : String) : String :=
  match line.toList with
  | [] => line
  | first :: rest =>
      if first = ' ' then line
      else
        match rest.dropWhile (· != ' ') with
        | [] => line
        | _ :: message => String.ofList message

def matchesLogFilters (line : String) (options : Option LogStreamOptions) : Bool :=
  match options with
  | none => true
  | some options => matchesMessage go options (afterFirstBlank line)

/-! ## The stream -/

structure PodLogOptions where
  container : String
  follow : Bool
  timestamps : Bool
  previous : Bool
  tailLines : Option Int
  sinceTime : Option Int
  sinceSeconds : Option Int
  deriving Repr, DecidableEq

/-- The options of the request and the time after which no line is wanted. -/
def podLogOptions (container : String) (previous : Bool) :
    Option LogStreamOptions → Except String (PodLogOptions × Option Int)
  | none => .ok (⟨container, true, true, previous, none, none, none⟩, none)
  | some options => do
      let follow := options.follow.getD true
      let sinceTime ←
        if options.sinceTime = "" then pure none
        else match parseRFC3339Time options.sinceTime with
          | some time => pure (some time)
          | none => throw "log stream sinceTime is invalid"
      let untilTime ←
        if options.untilTime = "" then pure none
        else match parseRFC3339Time options.untilTime with
          | some time => pure (some time)
          | none => throw "log stream untilTime is invalid"
      return ({
        container := container
        follow := if untilTime.isSome && options.follow.isNone then false else follow
        timestamps := options.timestamps.getD true
        previous := options.previous.getD previous
        tailLines := if 0 < options.tailLines then some options.tailLines else none
        sinceTime := sinceTime
        sinceSeconds :=
          if options.sinceTime = "" && 0 < options.sinceSeconds then some options.sinceSeconds
          else none }, untilTime)

structure LogFilter where
  sinceTime : Option Int
  untilTime : Option Int
  options : Option LogStreamOptions

namespace LogFilter

def isAbsolute (filter : LogFilter) : Bool := filter.sinceTime.isSome || filter.untilTime.isSome

/-- The time is before `sinceTime`. -/
def isEarly (filter : LogFilter) (time : Option Rfc3339) : Bool :=
  filter.sinceTime.any fun since => time.any fun t => t.instant < since

/-- The time is after `untilTime`. -/
def isLate (filter : LogFilter) (time : Option Rfc3339) : Bool :=
  filter.untilTime.any fun last => time.any fun t => last < t.instant

end LogFilter

structure LogLoop where
  rawLineCount : Nat
  total : Nat
  parseableCount : Nat
  rangeMatchedCount : Nat
  filterMatchedCount : Nat
  lastLogTimestamp : String
  frames : List String
  deriving Repr, DecidableEq

def LogLoop.start : LogLoop := ⟨0, 0, 0, 0, 0, "", []⟩

/-- `strings.TrimRight(text, "\r")` -/
def trimRight (text : String) : String :=
  String.ofList (text.toList.reverse.dropWhile (· == '\r')).reverse

/-- `lineTime.After(mustParseFrameTime(last))`; what cannot be parsed is the beginning of year 1. -/
def isAfterFrame (time : Rfc3339) (last : String) : Bool :=
  (parseRFC3339Time last).getD (-62135596800 * 10 ^ 9) < time.instant

def noteTimestamp (time : Option Rfc3339) (last : String) : String :=
  match time with
  | none => last
  | some time => if last = "" || isAfterFrame time last then go.format time else last

def readLine (filter : LogFilter) (s : LogLoop) (line : String) : LogLoop × Bool :=
  if line = "" then (s, true)
  else
    let time := parseLogLineTimestamp line
    let s := { s with
      rawLineCount := s.rawLineCount + 1
      parseableCount := s.parseableCount + if time.isSome then 1 else 0 }
    if filter.isAbsolute && time.isNone then (s, true)
    else if filter.isEarly time then (s, true)
    else if filter.isLate time then (s, false)
    else
      let s := { s with rangeMatchedCount := s.rangeMatchedCount + 1 }
      if !matchesLogFilters go line filter.options then (s, true)
      else
        ({ s with
          filterMatchedCount := s.filterMatchedCount + 1
          frames := s.frames ++ [line]
          total := s.total + 1
          lastLogTimestamp := noteTimestamp go time s.lastLogTimestamp }, true)

def readLines (filter : LogFilter) : LogLoop → List String → LogLoop
  | s, [] => s
  | s, text :: rest =>
      match readLine go filter s (trimRight text) with
      | (s, true) => readLines filter s rest
      | (s, false) => s

def resolveLogStreamEmptyReason (rawLineCount total parseableCount rangeMatchedCount
    filterMatchedCount : Nat) (hasAbsoluteTimeFilter : Bool) : String :=
  if 0 < total then ""
  else if rawLineCount = 0 then "NO_LOG_LINES"
  else if hasAbsoluteTimeFilter && parseableCount = 0 then "NO_PARSEABLE_TIMESTAMPS"
  else if hasAbsoluteTimeFilter && rangeMatchedCount = 0 then "TIME_RANGE_NO_MATCH"
  else if filterMatchedCount = 0 then "FILTER_NO_MATCH"
  else "NO_LOG_LINES"

structure LogStreamResult where
  frames : List String
  total : Nat
  lastLogTimestamp : String
  emptyReason : String
  deriving Repr, DecidableEq

def finish (filter : LogFilter) (s : LogLoop) : LogStreamResult where
  frames := s.frames
  total := s.total
  lastLogTimestamp := s.lastLogTimestamp
  emptyReason := resolveLogStreamEmptyReason s.rawLineCount s.total s.parseableCount
    s.rangeMatchedCount s.filterMatchedCount filter.isAbsolute

/-- `streamPodLogs`, on the lines of the stream it opens. -/
def streamPodLogs (container : String) (previous : Bool) (options : Option LogStreamOptions)
    (lines : List String) : Except String LogStreamResult := do
  let (request, untilTime) ← podLogOptions container previous options
  let filter : LogFilter := ⟨request.sinceTime, untilTime, options⟩
  return finish filter (readLines go filter .start lines)

end KubeNova.Runtime
