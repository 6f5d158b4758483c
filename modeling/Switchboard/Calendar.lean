/-! # Dates

Times are milliseconds since the beginning of 1970; days, months and years are
those of the Gregorian calendar carried back without a break.

* `Instant` — a time;
* `Calendar.dayNumber` — the days from the beginning of 1970 to that of a year;
* `Calendar.Date.ofDay` — the date of a day;
* `Calendar.render` — a time as a date, the time of day, and `Z`;
* `Calendar.firstSecond`, `Calendar.endSecond` — the limits between which dates are counted. -/

namespace Switchboard

/-- A time, in milliseconds since the beginning of 1970. -/
abbrev Instant := Nat

def Instant.seconds (t : Instant) : Nat := t / 1000

namespace Calendar

def isLeap (year : Int) : Bool :=
  year % 4 = 0 ∧ (year % 100 ≠ 0 ∨ year % 400 = 0)

/-- The days from the beginning of 1970 to the beginning of a year. -/
def dayNumber (year : Int) : Int :=
  let y := year - 1
  365 * (year - 1970) + (y / 4 - y / 100 + y / 400) - (1969 / 4 - 1969 / 100 + 1969 / 400)

def yearOf (day : Int) : Int :=
  let guess := 1970 + day * 400 / 146097
  if day < dayNumber guess then guess - 1
  else if dayNumber (guess + 1) ≤ day then guess + 1
  else guess

def monthLengths (year : Int) : List Nat :=
  [31, if isLeap year then 29 else 28, 31, 30, 31, 30, 31, 31, 30, 31, 30, 31]

/-- The month and the day in it of a day counted from the beginning of a year; months
and days count from one. -/
def monthAndDay (month day : Nat) : List Nat → Nat × Nat
  | [] => (month, day + 1)
  | length :: rest =>
    if day < length then (month, day + 1) else monthAndDay (month + 1) (day - length) rest

structure Date where
  year : Int
  month : Nat
  day : Nat
deriving DecidableEq, Repr

/-- The date of a day, counted from the beginning of 1970. -/
def Date.ofDay (day : Int) : Date :=
  let year := yearOf day
  let (month, d) := monthAndDay 1 (day - dayNumber year).toNat (monthLengths year)
  ⟨year, month, d⟩

def padded (width n : Nat) : String :=
  let ds := Nat.toDigits 10 n
  String.ofList (List.replicate (width - ds.length) '0' ++ ds)

/-- A year: four digits, or a sign and more of them. -/
def yearText (year : Int) : String :=
  if 0 ≤ year ∧ year ≤ 9999 then padded 4 year.toNat
  else (if year < 0 then "-" else "+") ++ padded 4 year.natAbs

/-- A time as a date, the time of day and `Z`; milliseconds are left out if there are none. -/
def render (t : Instant) : String :=
  let seconds := t / 1000
  let date := Date.ofDay (seconds / 86400 : Nat)
  let ofDay := seconds % 86400
  let fraction := if t % 1000 = 0 then "" else "." ++ padded 3 (t % 1000)
  yearText date.year ++ "-" ++ padded 2 date.month ++ "-" ++ padded 2 date.day ++ "T"
    ++ padded 2 (ofDay / 3600) ++ ":" ++ padded 2 (ofDay / 60 % 60) ++ ":" ++ padded 2 (ofDay % 60)
    ++ fraction ++ "Z"

/-- The first second of the dates that are counted. -/
def firstSecond : Int := dayNumber (-262143) * 86400

/-- The second after the last of the dates that are counted. -/
def endSecond : Int := dayNumber 262143 * 86400

end Calendar

end Switchboard
