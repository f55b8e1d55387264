import ReferencePages.Text
/-!
The time as log files show it: the date of the Gregorian calendar and the time of day, in universal
time.
-/

namespace ReferencePages.Clock

/-- A date of the calendar. -/
structure Date where
  year : Nat
  month : Nat
  day : Nat
  deriving DecidableEq, Repr

/-- The date of a day, counted from the first day of 1970. Years are counted from March, so that the
day that only some years have comes last in them. -/
def dateOf (days : Nat) : Date :=
  let n := days + 719468
  let dayOfEra := n % 146097
  let yearOfEra :=
    (dayOfEra - dayOfEra / 1460 + dayOfEra / 36524 - dayOfEra / 146096) / 365
  let dayOfYear := dayOfEra - (365 * yearOfEra + yearOfEra / 4 - yearOfEra / 100)
  let monthFromMarch := (5 * dayOfYear + 2) / 153
  let month := if monthFromMarch < 10 then monthFromMarch + 3 else monthFromMarch - 9
  let year := yearOfEra + n / 146097 * 400
  { year := if month ≤ 2 then year + 1 else year, month
    day := dayOfYear - (153 * monthFromMarch + 2) / 5 + 1 }

/-- A number with at least `width` digits. -/
def padded (width n : Nat) : Text :=
  let digits := Text.ofNat n
  List.replicate (width - digits.length) '0' ++ digits

/-- The text of a time in milliseconds since the beginning of 1970. -/
def text (milliseconds : Nat) : Text :=
  let seconds := milliseconds / 1000
  let date := dateOf (seconds / 86400)
  let time := seconds % 86400
  padded 4 date.year ++ "-" ++ padded 2 date.month ++ "-" ++ padded 2 date.day ++ " " ++
    padded 2 (time / 3600) ++ ":" ++ padded 2 (time / 60 % 60) ++ ":" ++ padded 2 (time % 60) ++
    "," ++ padded 3 (milliseconds % 1000)

end ReferencePages.Clock
