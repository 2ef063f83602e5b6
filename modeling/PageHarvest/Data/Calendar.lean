/-!
Calendar dates, and moments with microseconds that may carry an offset from universal time.
-/
namespace PageHarvest

structure Date where
  year : Nat
  month : Nat
  day : Nat
  deriving Repr, DecidableEq, Inhabited

/-- A date and a time of day; `offset` is in seconds east of universal time. -/
structure Moment where
  date : Date
  hour : Nat
  minute : Nat
  second : Nat
  micro : Nat
  offset : Option Int
  deriving Repr, DecidableEq, Inhabited

namespace Calendar

/-- Years that four divides, except the centuries that four hundred does not divide. -/
def isLeap (year : Nat) : Bool :=
  year % 4 == 0 && (year % 100 != 0 || year % 400 == 0)

/-- Days of a month. -/
def monthLength (year month : Nat) : Nat :=
  if month == 2 then (if isLeap year then 29 else 28)
  else if [4, 6, 9, 11].contains month then 30 else 31

/-- Digits padded with zeros on the left. -/
def padded (width n : Nat) : String :=
  let ds := Nat.toDigits 10 n
  String.ofList (List.replicate (width - ds.length) '0' ++ ds)

/-- Days before a date, counted from the first day of year one. -/
def dayNumber (d : Date) : Int :=
  let before := (d.year : Int) - 1
  let months := (List.range (d.month - 1)).foldl (fun n m => n + monthLength d.year (m + 1)) 0
  before * 365 + before / 4 - before / 100 + before / 400 + months + d.day

end Calendar

open Calendar

/-- The first fault of a year, month and day, if any. -/
def Date.fault? (d : Date) : Option String :=
  if d.year < 1 || 9999 < d.year then some ("year " ++ toString d.year ++ " is out of range")
  else if d.month < 1 || 12 < d.month then some "month must be in 1..12"
  else if d.day < 1 || monthLength d.year d.month < d.day then some "day is out of range for month"
  else none

def Date.text (d : Date) : String :=
  padded 4 d.year ++ "-" ++ padded 2 d.month ++ "-" ++ padded 2 d.day

/-- The first fault of a moment, if any. -/
def Moment.fault? (t : Moment) : Option String :=
  match t.date.fault? with
  | some m => some m
  | none =>
    if 23 < t.hour then some "hour must be in 0..23"
    else if 59 < t.minute then some "minute must be in 0..59"
    else if 59 < t.second then some "second must be in 0..59"
    else none

/-- An offset as sign, hours and minutes, with seconds when there are any. -/
def offsetText (seconds : Int) : String :=
  let n := seconds.natAbs
  (if seconds < 0 then "-" else "+") ++ padded 2 (n / 3600) ++ ":" ++ padded 2 (n / 60 % 60) ++
    (if n % 60 == 0 then "" else ":" ++ padded 2 (n % 60))

/-- The text with a space between date and time. -/
def Moment.text (t : Moment) : String :=
  t.date.text ++ " " ++ padded 2 t.hour ++ ":" ++ padded 2 t.minute ++ ":" ++ padded 2 t.second ++
    (if t.micro == 0 then "" else "." ++ padded 6 t.micro) ++
    (match t.offset with
     | none => ""
     | some o => offsetText o)

/-- Microseconds since the first day of year one, at the given offset taken off. -/
def Moment.instant (t : Moment) : Int :=
  (((dayNumber t.date * 24 + t.hour) * 60 + t.minute) * 60 + t.second - t.offset.getD 0) * 1000000 +
    t.micro

end PageHarvest
