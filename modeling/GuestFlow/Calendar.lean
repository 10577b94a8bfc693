/-!
# Dates and moments

A document may hold a calendar date or a moment: a date with a time of day and, if it
says so, a distance from universal time.  This module checks that the parts belong to
a real date and time, writes them in the international notation and compares them.

`Date.make?` and `Moment.make?` report the first part that does not fit.  Two moments
with an offset are the same when they are the same instant; a moment without an offset
is never the same as one that has an offset.
-/

set_option autoImplicit false

namespace GuestFlow.Calendar

/-- A number in decimal digits, with zeros in front up to `width`. -/
def padded (width number : Nat) : String :=
  let digits := Nat.toDigits 10 number
  String.ofList (List.replicate (width - digits.length) '0' ++ digits)

structure Date where
  year : Nat
  month : Nat
  day : Nat
  deriving DecidableEq, Repr

/-- A date and a time of day; `offset` counts the minutes ahead of universal time. -/
structure Moment where
  date : Date
  hour : Nat
  minute : Nat
  second : Nat
  microsecond : Nat
  offset : Option Int
  deriving DecidableEq, Repr

/-- The parts that can fail to belong to a date or a moment. -/
inductive Misfit where
  | year (given : Nat)
  | month
  | day
  | hour
  | minute
  | second
  | offset (minutes : Int)
  deriving DecidableEq, Repr

/-! ## The calendar -/

def isLeapYear (year : Nat) : Bool :=
  year % 4 == 0 && (year % 100 != 0 || year % 400 == 0)

def daysInMonth (year month : Nat) : Nat :=
  if month = 2 then (if isLeapYear year then 29 else 28)
  else if month = 4 || month = 6 || month = 9 || month = 11 then 30
  else 31

/-- The days before the first day of a year. -/
def daysBeforeYear (year : Nat) : Nat :=
  let earlier := year - 1
  earlier * 365 + earlier / 4 - earlier / 100 + earlier / 400

/-- The days before the first day of a month, within its year. -/
def daysBeforeMonth (year month : Nat) : Nat :=
  (List.range (month - 1)).foldl (fun days index => days + daysInMonth year (index + 1)) 0

/-- The number of a day, counted from the first day of the first year. -/
def Date.ordinal (date : Date) : Nat :=
  daysBeforeYear date.year + daysBeforeMonth date.year date.month + date.day

def Date.make? (year month day : Nat) : Except Misfit Date :=
  if year < 1 || 9999 < year then .error (.year year)
  else if month < 1 || 12 < month then .error .month
  else if day < 1 || daysInMonth year month < day then .error .day
  else .ok ⟨year, month, day⟩

/-- An offset has to be smaller than a day. -/
def checkedOffset? : Option Int → Except Misfit (Option Int)
  | none => .ok none
  | some minutes =>
    if minutes.natAbs < 1440 then .ok (some minutes) else .error (.offset minutes)

/-- The offset is looked at first, then the date, then the time of day. -/
def Moment.make? (year month day hour minute second microsecond : Nat) (offset : Option Int) :
    Except Misfit Moment := do
  let offset ← checkedOffset? offset
  let date ← Date.make? year month day
  if 23 < hour then .error .hour
  else if 59 < minute then .error .minute
  else if 59 < second then .error .second
  else .ok ⟨date, hour, minute, second, microsecond, offset⟩

/-! ## Order and sameness -/

def Date.isBefore (left right : Date) : Bool := decide (left.ordinal < right.ordinal)

/-- The microseconds since the first day of the first year, on the clock of the moment. -/
def Moment.clockReading (moment : Moment) : Int :=
  (((moment.date.ordinal * 24 + moment.hour) * 60 + moment.minute) * 60 + moment.second : Nat)
    * 1000000 + (moment.microsecond : Nat)

/-- The same count for universal time. -/
def Moment.instant (moment : Moment) : Int :=
  moment.clockReading - moment.offset.getD 0 * 60000000

def Moment.same (left right : Moment) : Bool :=
  left.offset.isSome == right.offset.isSome && left.instant == right.instant

/-- Only moments that both have an offset, or both have none, can be ordered. -/
def Moment.isBefore? (left right : Moment) : Option Bool :=
  if left.offset.isSome == right.offset.isSome then some (decide (left.instant < right.instant))
  else none

/-! ## Texts -/

def Date.text (date : Date) : String :=
  padded 4 date.year ++ "-" ++ padded 2 date.month ++ "-" ++ padded 2 date.day

/-- A distance from universal time, as in `+05:30`. -/
def offsetText (minutes : Int) : String :=
  (if minutes < 0 then "-" else "+") ++ padded 2 (minutes.natAbs / 60) ++ ":" ++
    padded 2 (minutes.natAbs % 60)

/-- The notation of a moment, with a chosen mark between date and time. -/
def Moment.textWith (mark : String) (moment : Moment) : String :=
  moment.date.text ++ mark ++ padded 2 moment.hour ++ ":" ++ padded 2 moment.minute ++ ":" ++
    padded 2 moment.second ++
    (if moment.microsecond = 0 then "" else "." ++ padded 6 moment.microsecond) ++
    (match moment.offset with | none => "" | some minutes => offsetText minutes)

def Moment.text (moment : Moment) : String := moment.textWith " "

/-- The call that would build a span of time, as messages show it. -/
def spanLiteral (minutes : Int) : String :=
  let days := minutes.fdiv 1440
  let seconds := (minutes.fmod 1440) * 60
  let parts := (if days = 0 then [] else ["days=" ++ toString days]) ++
    (if seconds = 0 then [] else ["seconds=" ++ toString seconds])
  "datetime.timedelta(" ++ (if parts.isEmpty then "0" else String.intercalate ", " parts) ++ ")"

def Date.literal (date : Date) : String :=
  "datetime.date(" ++ String.intercalate ", "
    [toString date.year, toString date.month, toString date.day] ++ ")"

/-- The call that would build the moment; trailing zero parts of the time are left out. -/
def Moment.literal (moment : Moment) : String :=
  let clock := [moment.date.year, moment.date.month, moment.date.day, moment.hour, moment.minute]
  let finer :=
    if moment.microsecond ≠ 0 then [moment.second, moment.microsecond]
    else if moment.second ≠ 0 then [moment.second] else []
  let zone := match moment.offset with
    | none => []
    | some minutes =>
      if minutes = 0 then ["tzinfo=datetime.timezone.utc"]
      else ["tzinfo=datetime.timezone(" ++ spanLiteral minutes ++ ")"]
  "datetime.datetime(" ++ String.intercalate ", " ((clock ++ finer).map toString ++ zone) ++ ")"

/-- The message for a part that does not fit. -/
def Misfit.message : Misfit → String
  | .year given => "year " ++ toString given ++ " is out of range"
  | .month => "month must be in 1..12"
  | .day => "day is out of range for month"
  | .hour => "hour must be in 0..23"
  | .minute => "minute must be in 0..59"
  | .second => "second must be in 0..59"
  | .offset minutes =>
    "offset must be a timedelta strictly between -timedelta(hours=24) and timedelta(hours=24), not "
      ++ spanLiteral minutes ++ "."

end GuestFlow.Calendar
