import ReferencePages.Text.Digit
import ReferencePages.Text.Quoted
/-!
Dates and times as they stand in YAML, their forms and the two texts that show them.
-/

namespace ReferencePages.Yaml

/-- A time of day on a date, with its distance from universal time in minutes if it has one. -/
structure TimeOfDay where
  hour : Nat
  minute : Nat
  second : Nat
  microsecond : Nat
  offset : Option Int
  deriving DecidableEq, Repr

/-- A date with an optional time. -/
structure Timestamp where
  year : Nat
  month : Nat
  day : Nat
  time : Option TimeOfDay
  deriving DecidableEq, Repr

namespace Timestamp

/-- Why a text is no timestamp: it has another form, or there is no such date. -/
inductive Fault
  | noForm
  | noDate (reason : Text)
  deriving DecidableEq, Repr

/-- The number of exactly so many digits. -/
def fixed? (count : Nat) (s : Text) : Option (Nat × Text) :=
  let digits := s.take count
  if digits.length = count then (Text.toNat? digits).map fun n => (n, s.drop count) else none

/-- The number of one digit or two. -/
def short? (s : Text) : Option (Nat × Text) := (fixed? 2 s).or (fixed? 1 s)

/-- The blanks of one line. -/
def skipBlanks (s : Text) : Text := s.dropWhile fun c => c == ' ' || c == '\t'

/-- The text after the mark between a date and a time. -/
def afterTimeMark? (s : Text) : Option Text :=
  match s with
  | c :: rest =>
    if c = 'T' || c = 't' then some rest
    else if c = ' ' || c = '\t' then some (skipBlanks rest)
    else none
  | [] => none

/-- The distance from universal time in minutes at the end of a time. -/
def offset? (s : Text) : Option (Option Int) :=
  match skipBlanks s with
  | [] => if s.isEmpty then some none else none
  | ['Z'] => some (some 0)
  | sign :: rest => do
    if sign ≠ '+' && sign ≠ '-' then none
    else
      let (hours, rest) ← short? rest
      let minutes ← match rest with
        | [] => some 0
        | ':' :: rest => (fixed? 2 rest).bind fun (n, rest) => if rest.isEmpty then some n else none
        | _ => none
      let total : Int := hours * 60 + minutes
      some (some (if sign = '-' then -total else total))

/-- The number of microseconds of a fraction of a second. -/
def microseconds (fraction : Text) : Nat :=
  let digits := fraction.take 6
  (Text.toNat? (digits ++ List.replicate (6 - digits.length) '0')).getD 0

/-- A time and its distance from universal time. -/
def time? (s : Text) : Option TimeOfDay := do
  let (hour, s) ← short? (← afterTimeMark? s)
  let (minute, s) ← fixed? 2 (← Text.after? ":" s)
  let (second, s) ← fixed? 2 (← Text.after? ":" s)
  let (fraction, s) := match s with
    | '.' :: rest => (rest.takeWhile Char.isDigit, rest.dropWhile Char.isDigit)
    | s => ([], s)
  let offset ← offset? s
  some { hour, minute, second, microsecond := microseconds fraction, offset }

/-- A date with month and day of one digit or two, and a time behind it unless the date is written in
full. -/
def parts? (s : Text) : Option Timestamp := do
  let (year, s) ← fixed? 4 s
  let (month, s) ← short? (← Text.after? "-" s)
  let (day, s) ← short? (← Text.after? "-" s)
  if s.isEmpty then some { year, month, day, time := none }
  else some { year, month, day, time := some (← time? s) }

/-- Whether a plain text is a timestamp: a date alone has two digits for month and day. -/
def isForm (s : Text) : Bool :=
  match parts? s with
  | some t => t.time.isSome || s.length = 10
  | none => false

/-- The number of days of a month. -/
def monthLength (year month : Nat) : Nat :=
  if month = 2 then
    if year % 4 = 0 && (year % 100 ≠ 0 || year % 400 = 0) then 29 else 28
  else if month = 4 || month = 6 || month = 9 || month = 11 then 30
  else 31

/-- Minutes as days and seconds, the seconds not negative. -/
def daysAndSeconds (minutes : Int) : Int × Int :=
  (Int.fdiv minutes 1440, Int.fmod minutes 1440 * 60)

/-- A length of time as it is shown. -/
def displayLength (minutes : Int) : Text :=
  let (days, seconds) := daysAndSeconds minutes
  let parts : List Text := (if days = 0 then [] else [("days=" ++ Text.ofInt days : Text)]) ++
    (if seconds = 0 then [] else [("seconds=" ++ Text.ofInt seconds : Text)])
  "datetime.timedelta(" ++ (if parts.isEmpty then ['0'] else Text.joinWith ", " parts) ++ ")"

/-- The reason why there is no such time, if there is one. -/
def timeFault? (t : TimeOfDay) : Option Text :=
  match t.offset with
  | some minutes =>
    if 1440 ≤ minutes.natAbs then
      some ("offset must be a timedelta strictly between -timedelta(hours=24) and " ++
        "timedelta(hours=24), not " ++ displayLength minutes ++ ".")
    else clockFault? t
  | none => clockFault? t
where
  /-- The reason why the clock shows no such time. -/
  clockFault? (t : TimeOfDay) : Option Text :=
    if 24 ≤ t.hour then some "hour must be in 0..23"
    else if 60 ≤ t.minute then some "minute must be in 0..59"
    else if 60 ≤ t.second then some "second must be in 0..59"
    else none

/-- The reason why there is no such date, if there is one. -/
def dateFault? (t : Timestamp) : Option Text :=
  if t.year = 0 then some "year 0 is out of range"
  else if t.month = 0 || 12 < t.month then some "month must be in 1..12"
  else if t.day = 0 || monthLength t.year t.month < t.day then some "day is out of range for month"
  else none

/-- Whether the distance from universal time is too great, which is found before the date is looked at. -/
def farOffset? (t : Timestamp) : Option Text :=
  match t.time with
  | some time => if time.offset.any fun m => 1440 ≤ m.natAbs then timeFault? time else none
  | none => none

/-- The timestamp that a text denotes. -/
def read (s : Text) : Except Fault Timestamp :=
  match parts? s with
  | none => .error .noForm
  | some t =>
    match (farOffset? t).or ((dateFault? t).or (t.time.bind timeFault?)) with
    | some reason => .error (.noDate reason)
    | none => .ok t

/-- The number of days from the first day of the first year. -/
def dayNumber (t : Timestamp) : Int :=
  let years : Int := t.year - 1
  let months := (List.range (t.month - 1)).map fun m => (monthLength t.year (m + 1) : Int)
  365 * years + Int.fdiv years 4 - Int.fdiv years 100 + Int.fdiv years 400 +
    months.foldl (· + ·) 0 + t.day

/-- The microseconds of universal time at a time of a day. -/
def moment (t : Timestamp) (clock : TimeOfDay) (offset : Int) : Int :=
  ((t.dayNumber * 1440 + clock.hour * 60 + clock.minute - offset) * 60 + clock.second) * 1000000 +
    clock.microsecond

/-- Whether two timestamps are equal: two times with a distance from universal time are, if they are one
moment, and others only if they are the same in all parts. -/
def sameMoment (t u : Timestamp) : Bool :=
  match t.time, u.time with
  | some a, some b =>
    match a.offset, b.offset with
    | some m, some n => t.moment a m = u.moment b n
    | _, _ => t = u
  | _, _ => t = u

/-- Two digits at least. -/
def two (n : Nat) : Text := if n < 10 then '0' :: Text.ofNat n else Text.ofNat n

/-- So many digits, zeros in front. -/
def padded (width n : Nat) : Text :=
  let digits := Text.ofNat n
  List.replicate (width - digits.length) '0' ++ digits

/-- A distance from universal time behind a clock time. -/
def offsetText : Option Int → Text
  | none => []
  | some m => (if m < 0 then '-' else '+') :: (two (m.natAbs / 60) ++ ":" ++ two (m.natAbs % 60))

/-- A fraction of a second behind a clock time. -/
def fractionText (microsecond : Nat) : Text :=
  if microsecond = 0 then [] else "." ++ padded 6 microsecond

/-- The clock time behind a date. -/
def clockText : Option TimeOfDay → Text
  | none => []
  | some c =>
    " " ++ two c.hour ++ ":" ++ two c.minute ++ ":" ++ two c.second ++ fractionText c.microsecond ++
      offsetText c.offset

/-- The timestamp as a text of its own. -/
def toText (t : Timestamp) : Text :=
  padded 4 t.year ++ "-" ++ two t.month ++ "-" ++ two t.day ++ clockText t.time

/-- A distance from universal time as it is shown behind the numbers of a time. -/
def displayOffset : Option Int → Text
  | none => []
  | some 0 => ", tzinfo=datetime.timezone.utc"
  | some m => ", tzinfo=datetime.timezone(" ++ displayLength m ++ ")"

/-- Seconds and microseconds as far as they are shown. -/
def shownSeconds (c : TimeOfDay) : List Nat :=
  if c.microsecond ≠ 0 then [c.second, c.microsecond]
  else if c.second ≠ 0 then [c.second] else []

/-- The timestamp as it is shown among other values. -/
def display (t : Timestamp) : Text :=
  let numbers (ns : List Nat) : Text := Text.joinWith ", " (ns.map Text.ofNat)
  match t.time with
  | none => "datetime.date(" ++ numbers [t.year, t.month, t.day] ++ ")"
  | some c =>
    "datetime.datetime(" ++ numbers ([t.year, t.month, t.day, c.hour, c.minute] ++ shownSeconds c) ++
      displayOffset c.offset ++ ")"

end Timestamp
end ReferencePages.Yaml
