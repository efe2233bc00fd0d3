import TenantSchema.Decimal.Shortest

/-!
# Days and moments

A day has a year, a month and a day of the month; a moment adds the time of day and perhaps its
distance from universal time.  Both are checked against the calendar and the clock, and the
distance before everything else.
-/

namespace TenantSchema.Yaml

/-- A day of the calendar. -/
structure Day where
  year : Nat
  month : Nat
  day : Nat
  deriving Repr, DecidableEq

/-- A moment of a day, perhaps with its distance from universal time in minutes. -/
structure Moment where
  day : Day
  hour : Nat
  minute : Nat
  second : Nat
  microsecond : Nat
  offset : Option Int
  deriving Repr, DecidableEq

/-- Why a day or a moment does not exist. -/
inductive CalendarFault where
  | year (year : Nat)
  | month
  | day
  | hour
  | minute
  | second
  /-- A distance of a whole day or more, in minutes. -/
  | offset (minutes : Int)
  deriving Repr, DecidableEq

/-- The minutes of a day. -/
def minutesOfDay : Nat :=
  1440

/-- The written form of a span of time that is not empty. -/
def spanWritten (minutes : Int) : String :=
  let days := minutes.fdiv minutesOfDay
  let seconds := minutes.fmod minutesOfDay * 60
  let parts :=
    (if days = 0 then [] else [s!"days={days}"]) ++
      (if seconds = 0 then [] else [s!"seconds={seconds}"])
  "datetime.timedelta(" ++ String.intercalate ", " parts ++ ")"

/-- The wording of a fault. -/
def CalendarFault.message : CalendarFault → String
  | .year number =>
      s!"year {number} is out of range"
  | .month =>
      "month must be in 1..12"
  | .day =>
      "day is out of range for month"
  | .hour =>
      "hour must be in 0..23"
  | .minute =>
      "minute must be in 0..59"
  | .second =>
      "second must be in 0..59"
  | .offset minutes =>
      "offset must be a timedelta strictly between -timedelta(hours=24) and " ++
        "timedelta(hours=24), not " ++ spanWritten minutes ++ "."

/-- The days of a month. -/
def daysInMonth (year month : Nat) : Nat :=
  if month = 2 then
    if year % 4 = 0 ∧ (year % 100 ≠ 0 ∨ year % 400 = 0) then 29 else 28
  else if month ∈ [4, 6, 9, 11] then
    30
  else
    31

/-- What is wrong with a day, if anything is. -/
def Day.fault? (day : Day) : Option CalendarFault :=
  if day.year = 0 then
    some (.year day.year)
  else if day.month < 1 ∨ 12 < day.month then
    some .month
  else if day.day < 1 ∨ daysInMonth day.year day.month < day.day then
    some .day
  else
    none

/-- What is wrong with the time of a day, if anything is. -/
def Moment.clockFault? (moment : Moment) : Option CalendarFault :=
  if 23 < moment.hour then
    some .hour
  else if 59 < moment.minute then
    some .minute
  else if 59 < moment.second then
    some .second
  else
    none

/-- What is wrong with a distance from universal time, if anything is. -/
def offsetFault? (minutes : Int) : Option CalendarFault :=
  if minutesOfDay ≤ minutes.natAbs then some (.offset minutes) else none

/-- What is wrong with a moment, if anything is. -/
def Moment.fault? (moment : Moment) : Option CalendarFault :=
  moment.offset.bind offsetFault? <|> moment.day.fault? <|> moment.clockFault?

/-- The days from the beginning of the calendar to a day, up to a constant. -/
def Day.number (day : Day) : Int :=
  let before := day.year - 1
  let leaps : Int := before / 4 - before / 100 + before / 400
  let months :=
    (List.range (day.month - 1)).foldl
      (fun days month => days + daysInMonth day.year (month + 1))
      0
  before * 365 + leaps + months + day.day

/-- The millionths of a second from the beginning of the calendar, as a clock shows them. -/
def Moment.clockNumber (moment : Moment) : Int :=
  let seconds := ((moment.day.number * 24 + moment.hour) * 60 + moment.minute) * 60
  (seconds + moment.second) * 1000000 + moment.microsecond

/--
Whether two moments are one.  With a distance from universal time that counts; a moment with
such a distance is never one without.
-/
def Moment.same (left right : Moment) : Bool :=
  match left.offset, right.offset with
  | none, none =>
      left.clockNumber == right.clockNumber
  | some before, some after =>
      left.clockNumber - before * 60000000 == right.clockNumber - after * 60000000
  | _, _ =>
      false

/-- A number with zeros in front up to a width. -/
def padded (width number : Nat) : String :=
  Text.toOutput (Decimal.paddedDigits width number)

/-- The text of a day. -/
def Day.text (day : Day) : String :=
  padded 4 day.year ++ "-" ++ padded 2 day.month ++ "-" ++ padded 2 day.day

/-- The text of a distance from universal time. -/
def offsetText (minutes : Int) : String :=
  let sign := if minutes < 0 then "-" else "+"
  sign ++ padded 2 (minutes.natAbs / 60) ++ ":" ++ padded 2 (minutes.natAbs % 60)

/-- The text of a moment. -/
def Moment.text (moment : Moment) : String :=
  let fraction :=
    if moment.microsecond = 0 then "" else "." ++ padded 6 moment.microsecond
  moment.day.text ++ " " ++ padded 2 moment.hour ++ ":" ++ padded 2 moment.minute ++ ":" ++
    padded 2 moment.second ++ fraction ++ moment.offset.elim "" offsetText

/-- The written form of a day inside a collection. -/
def Day.written (day : Day) : String :=
  s!"datetime.date({day.year}, {day.month}, {day.day})"

/-- The written form of a distance from universal time. -/
def offsetWritten (minutes : Int) : String :=
  if minutes = 0 then
    "datetime.timezone.utc"
  else
    "datetime.timezone(" ++ spanWritten minutes ++ ")"

/-- The written form of a moment inside a collection. -/
def Moment.written (moment : Moment) : String :=
  let day := moment.day
  let seconds :=
    if moment.microsecond ≠ 0 then
      s!", {moment.second}, {moment.microsecond}"
    else if moment.second ≠ 0 then
      s!", {moment.second}"
    else
      ""
  let offset := moment.offset.elim "" fun minutes => ", tzinfo=" ++ offsetWritten minutes
  s!"datetime.datetime({day.year}, {day.month}, {day.day}, {moment.hour}, {moment.minute}" ++
    seconds ++ offset ++ ")"

end TenantSchema.Yaml
