import KubeNova.Foundation.Text

/-!
# Dates

`Date.parse` on the format `toISOString` writes, `2026-01-31T08:00:00.000Z`, with
or without the milliseconds.  Other spellings are not dates.  `toISOString` writes
that format.
-/

namespace KubeNova.Common

open KubeNova.Foundation

/-- The number of days from 1970-01-01 to a date of the Gregorian calendar. -/
def daysFromCivil (year month day : Nat) : Int :=
  let y : Int := if month ≤ 2 then (year : Int) - 1 else year
  let era := y.fdiv 400
  let yearOfEra := y - era * 400
  let shifted : Int := if month ≤ 2 then month + 9 else (month : Int) - 3
  let dayOfYear := (153 * shifted + 2) / 5 + day - 1
  let dayOfEra := yearOfEra * 365 + yearOfEra / 4 - yearOfEra / 100 + dayOfYear
  era * 146097 + dayOfEra - 719468

def digitsValue (cs : List Char) : Option Nat :=
  if cs ≠ [] ∧ cs.all Text.isDigit then
    some (cs.foldl (fun acc c => acc * 10 + (c.toNat - 48)) 0)
  else none

def daysInMonth (year month : Nat) : Nat :=
  if month = 2 then (if year % 4 = 0 ∧ (year % 100 ≠ 0 ∨ year % 400 = 0) then 29 else 28)
  else if [4, 6, 9, 11].contains month then 30 else 31

/-- The milliseconds after the seconds: nothing, or a dot and three digits. -/
def parseMillis : List Char → Option Nat
  | ['Z'] => some 0
  | '.' :: a :: b :: c :: ['Z'] => digitsValue [a, b, c]
  | _ => none

/-- `Date.parse(value)`, `none` for `NaN`. -/
def parseDate (value : String) : Option Int := do
  match value.toList with
  | y1 :: y2 :: y3 :: y4 :: '-' :: m1 :: m2 :: '-' :: d1 :: d2 :: 'T' ::
      h1 :: h2 :: ':' :: i1 :: i2 :: ':' :: s1 :: s2 :: rest =>
      let year ← digitsValue [y1, y2, y3, y4]
      let month ← digitsValue [m1, m2]
      let day ← digitsValue [d1, d2]
      let hour ← digitsValue [h1, h2]
      let minute ← digitsValue [i1, i2]
      let second ← digitsValue [s1, s2]
      let millis ← parseMillis rest
      if 1 ≤ month ∧ month ≤ 12 ∧ 1 ≤ day ∧ day ≤ daysInMonth year month ∧ hour ≤ 23 ∧
          minute ≤ 59 ∧ second ≤ 59 then
        some ((((daysFromCivil year month day * 24 + hour) * 60 + minute) * 60 + second) * 1000 +
          millis)
      else none
  | _ => none

example : parseDate "2026-01-31T08:00:00.250Z" = some 1769846400250 := by decide

def civilFromDays (days : Int) : Int × Nat × Nat :=
  let shifted := days + 719468
  let era := shifted.fdiv 146097
  let dayOfEra := (shifted - era * 146097).toNat
  let yearOfEra := (dayOfEra - dayOfEra / 1460 + dayOfEra / 36524 - dayOfEra / 146096) / 365
  let dayOfYear := dayOfEra - (365 * yearOfEra + yearOfEra / 4 - yearOfEra / 100)
  let month := (5 * dayOfYear + 2) / 153
  let year := (yearOfEra : Int) + era * 400
  (if month < 10 then year else year + 1, if month < 10 then month + 3 else month - 9,
    dayOfYear - (153 * month + 2) / 5 + 1)

/-- A number in decimal, with zeros in front of it up to the width. -/
def padded (width n : Nat) : String :=
  let digits := String.ofList (Nat.toDigits 10 n)
  String.ofList (List.replicate (width - digits.length) '0') ++ digits

/-- `date.toISOString()`, for the milliseconds since 1970. -/
def toISOString (date : Int) : String :=
  let (year, month, day) := civilFromDays (date.fdiv 86400000)
  let rest := (date.fmod 86400000).toNat
  let yearText :=
    if 0 ≤ year ∧ year ≤ 9999 then padded 4 year.toNat
    else (if year < 0 then "-" else "+") ++ padded 6 year.natAbs
  yearText ++ "-" ++ padded 2 month ++ "-" ++ padded 2 day ++ "T" ++ padded 2 (rest / 3600000) ++
    ":" ++ padded 2 (rest / 60000 % 60) ++ ":" ++ padded 2 (rest / 1000 % 60) ++ "." ++
    padded 3 (rest % 1000) ++ "Z"

end KubeNova.Common
