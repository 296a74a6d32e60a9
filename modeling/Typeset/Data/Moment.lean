/-!
# Moments

Dates and times in the calendar that has leap years for all time. A time may tell its zone: how far
it is ahead of the common time.

## Main definitions

* `Data.daysIn`: the number of days of a month
* `Data.Moment`: a date, perhaps with a time and a zone
* `Data.Moment.instant?`: where a moment with a zone lies in the common time
* `Data.Moment.isSame`: whether two moments are the same
* `Data.Moment.shown`: a moment as it is shown between quotes
-/

namespace Typeset.Data

/-- Whether a year has a leap day. -/
def isLeap (year : Nat) : Bool := year % 4 = 0 && (year % 100 ≠ 0 || year % 400 = 0)

/-- The number of days of a month; there are twelve months. -/
def daysIn (year month : Nat) : Nat :=
  if month = 2 then if isLeap year then 29 else 28
  else if month = 4 || month = 6 || month = 9 || month = 11 then 30
  else if 1 ≤ month && month ≤ 12 then 31
  else 0

/-- The number of days before a year, from the first day of the year one on. -/
def daysBefore (year : Nat) : Nat :=
  let past := year - 1
  365 * past + past / 4 - past / 100 + past / 400

/-- A time of day. The zone is the distance in minutes to the common time. -/
structure TimeOfDay where
  hour : Nat
  minute : Nat
  second : Nat
  micro : Nat
  zone : Option Int
  deriving DecidableEq, Repr

/-- A date, perhaps with a time. -/
structure Moment where
  year : Nat
  month : Nat
  day : Nat
  time : Option TimeOfDay := none
  deriving DecidableEq, Repr

namespace Moment

/-- The number of the day, from the first day of the year one on. -/
def dayNumber (m : Moment) : Nat :=
  (List.range m.month).tail.foldl (fun n month => n + daysIn m.year month) (daysBefore m.year)
    + m.day

/-- Where a moment with a zone lies in the common time, in millionths of a second. -/
def instant? (m : Moment) : Option Int :=
  match m.time with
  | none => none
  | some t =>
    t.zone.map fun zone =>
      let minutes : Int := (m.dayNumber * 24 + t.hour) * 60 + t.minute - zone
      (minutes * 60 + t.second) * 1000000 + t.micro

/-- Whether two moments are the same: two with a zone if they are the same instant, others if they
agree in all parts. -/
def isSame (m n : Moment) : Bool :=
  match m.instant?, n.instant? with
  | some a, some b => a == b
  | _, _ => m == n

/-- Numbers with commas between them. -/
def listed (ns : List Nat) : String := ", ".intercalate (ns.map toString)

/-- A zone as it is shown. -/
def shownZone (minutes : Int) : String :=
  let zone :=
    if minutes = 0 then "timezone.utc"
    else if 0 < minutes then
      "timezone(datetime.timedelta(seconds=" ++ toString (60 * minutes) ++ "))"
    else
      "timezone(datetime.timedelta(days=-1, seconds=" ++ toString (86400 + 60 * minutes) ++ "))"
  ", tzinfo=datetime." ++ zone

/-- A moment as it is shown. Seconds are left out if they and their fraction are zero. -/
def shown (m : Moment) : String :=
  match m.time with
  | none => "datetime.date(" ++ listed [m.year, m.month, m.day] ++ ")"
  | some t =>
    let tail :=
      if t.micro ≠ 0 then [t.second, t.micro] else if t.second ≠ 0 then [t.second] else []
    "datetime.datetime(" ++ listed ([m.year, m.month, m.day, t.hour, t.minute] ++ tail)
      ++ (t.zone.map shownZone).getD "" ++ ")"

end Moment

end Typeset.Data
