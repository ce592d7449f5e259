import VirtualShell.Fault
/-
  The calendar: a date and a time of day for an instant.

  An instant is a number of seconds since the start of 1970, and days are counted by the
  Gregorian calendar in both directions. The number is rounded to whole microseconds,
  a half to the even one, before the seconds are counted off. There are the years 1 to
  9999 and no others.
-/

namespace VirtualShell

/-- A date and a time of day. -/
structure CalendarTime where
  year : Int
  month : Nat
  day : Nat
  /-- The day of the week, Monday being zero. -/
  weekday : Nat
  hour : Nat
  minute : Nat
  second : Nat
  deriving DecidableEq, Repr

/-- The whole number that a floating-point number comes to when its fraction is dropped;
none of those that are not finite has one. -/
def wholePart (x : Float) : Except Fault Int :=
  match Binary64.truncate? x with
  | some n => .ok n
  | none =>
    if x.isNaN then .error (.unsuitable "cannot convert float NaN to integer")
    else .error (.tooLarge "cannot convert float infinity to integer")

/-- A whole number and a fraction between minus one and one, rounded to a whole number;
a half goes to the even one. -/
def roundEven (n : Int) (fraction : Float) : Int :=
  if 0.5 < fraction then n + 1
  else if fraction < -0.5 then n - 1
  else if n % 2 = 0 then n
  else if fraction == 0.5 then n + 1
  else if fraction == -0.5 then n - 1
  else n

/-- An instant in whole microseconds. -/
def microseconds (x : Float) : Except Fault Int := do
  let seconds ← wholePart x
  let fraction := x - (Binary64.ofInt? seconds).getD 0.0
  let scaled := fraction * 1000000.0
  let whole := (Binary64.truncate? scaled).getD 0
  let rest := scaled - (Binary64.ofInt? whole).getD 0.0
  return roundEven (seconds * 1000000 + whole) rest

namespace CalendarTime

/-- The year, month and day of a day counted from the start of 1970. Years are taken to
begin in March, so that a leap day is the last day of its year, and put in groups of
four hundred, which are all of one length. -/
def dateOfDay (day : Int) : Int × Nat × Nat :=
  let z := day + 719468
  let era := z.fdiv 146097
  let inEra := (z.fmod 146097).toNat
  let yearOfEra := (inEra - inEra / 1460 + inEra / 36524 - inEra / 146096) / 365
  let inYear := inEra - (365 * yearOfEra + yearOfEra / 4 - yearOfEra / 100)
  let monthFromMarch := (5 * inYear + 2) / 153
  let day := inYear - (153 * monthFromMarch + 2) / 5 + 1
  let month := if monthFromMarch < 10 then monthFromMarch + 3 else monthFromMarch - 9
  (era * 400 + yearOfEra + (if month ≤ 2 then 1 else 0), month, day)

/-- The date and time of an instant. -/
def ofInstant (x : Float) : Except Fault CalendarTime := do
  let seconds := (← microseconds x).fdiv 1000000
  let days := seconds.fdiv 86400
  let inDay := (seconds.fmod 86400).toNat
  let (year, month, day) := dateOfDay days
  if year < 1 || 9999 < year then throw (.tooLarge "date value out of range")
  return {
    year := year, month := month, day := day
    weekday := ((days + 3).fmod 7).toNat
    hour := inDay / 3600, minute := inDay / 60 % 60, second := inDay % 60 }

/-- The names of the days of the week. -/
def weekdayNames : List Text := ["Mon", "Tue", "Wed", "Thu", "Fri", "Sat", "Sun"]

/-- The names of the months. -/
def monthNames : List Text :=
  ["Jan", "Feb", "Mar", "Apr", "May", "Jun", "Jul", "Aug", "Sep", "Oct", "Nov", "Dec"]

/-- A number in two digits. -/
def twoDigits (n : Nat) : Text := Text.ofNat (n / 10) ++ Text.ofNat (n % 10)

/-- The day of the week, the date, and the time of day. -/
def text (t : CalendarTime) : Text :=
  Text.join " " [weekdayNames.getD t.weekday [], monthNames.getD (t.month - 1) [],
    twoDigits t.day, Text.ofInt t.year,
    Text.join ":" [twoDigits t.hour, twoDigits t.minute, twoDigits t.second]]

end CalendarTime

end VirtualShell
