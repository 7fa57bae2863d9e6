/-! # Dates and points in time

`Date` and `Timestamp` are the calendar values that a document can hold. A timestamp may say how far
its clock is ahead of universal time; two timestamps that say so are **the same instant** when their
universal times agree, whatever clocks they use (`Timestamp.sameInstant`). -/

namespace ServiceBindings

/-- A number in at least `width` decimal digits. -/
def paddedDigits (width n : Nat) : String :=
  let digits := Nat.toDigits 10 n
  .ofList (List.replicate (width - digits.length) '0' ++ digits)

/-- A day of the calendar. -/
structure Date where
  /-- The year. -/
  year : Nat
  /-- The month, from one. -/
  month : Nat
  /-- The day of the month, from one. -/
  day : Nat
  deriving DecidableEq, Repr

namespace Date

/-- Whether a year has a twenty-ninth of February. -/
def isLeap (year : Nat) : Bool :=
  year % 4 == 0 && (year % 100 != 0 || year % 400 == 0)

/-- The number of days of a month. -/
def daysIn (year month : Nat) : Nat :=
  if month = 2 then if isLeap year then 29 else 28
  else if month ∈ [4, 6, 9, 11] then 30 else 31

/-- The day with the given numbers, if the calendar has it. -/
def ofNumbers? (year month day : Nat) : Option Date :=
  if 1 ≤ year ∧ 1 ≤ month ∧ month ≤ 12 ∧ 1 ≤ day ∧ day ≤ daysIn year month then
    some ⟨year, month, day⟩
  else none

/-- Year, month and day in two or four digits, joined by hyphens. -/
def text (d : Date) : String :=
  paddedDigits 4 d.year ++ "-" ++ paddedDigits 2 d.month ++ "-" ++ paddedDigits 2 d.day

/-- The number of days from a fixed day long past, counted in years that begin with March. -/
def dayNumber (d : Date) : Int :=
  let year : Int := if d.month ≤ 2 then (d.year : Int) - 1 else d.year
  let month : Int := if d.month ≤ 2 then (d.month : Int) + 9 else (d.month : Int) - 3
  365 * year + year / 4 - year / 100 + year / 400 + (153 * month + 2) / 5 + d.day

end Date

/-- A point in time, on a clock that may be unspecified. -/
structure Timestamp where
  /-- The day. -/
  date : Date
  /-- The hour, from zero. -/
  hour : Nat
  /-- The minute. -/
  minute : Nat
  /-- The second. -/
  second : Nat
  /-- Millionths of a second. -/
  micro : Nat
  /-- Minutes that the clock is ahead of universal time, if it says so. -/
  zone : Option Int
  deriving DecidableEq, Repr

namespace Timestamp

/-- The point in time with the given numbers, if calendar and clock have it; a clock is less than a
day away from universal time. -/
def ofNumbers? (date : Date) (hour minute second micro : Nat) (zone : Option Int) :
    Option Timestamp :=
  if hour < 24 ∧ minute < 60 ∧ second < 60 ∧ zone.all (fun z => z.natAbs < 24 * 60) then
    some ⟨date, hour, minute, second, micro, zone⟩
  else none

/-- How far a clock is ahead of universal time: sign, hours and minutes. -/
def zoneText (minutes : Int) : String :=
  (if minutes < 0 then "-" else "+") ++ paddedDigits 2 (minutes.natAbs / 60) ++ ":" ++
    paddedDigits 2 (minutes.natAbs % 60)

/-- Day and time of day with a separator between them, then the clock if it is known. -/
def text (separator : String) (t : Timestamp) : String :=
  t.date.text ++ separator ++ paddedDigits 2 t.hour ++ ":" ++ paddedDigits 2 t.minute ++ ":" ++
    paddedDigits 2 t.second ++ (if t.micro = 0 then "" else "." ++ paddedDigits 6 t.micro) ++
    (t.zone.map zoneText).getD ""

/-- Millionths of a second on the clock's own scale, from a fixed day long past. -/
def clockTime (t : Timestamp) : Int :=
  (((t.date.dayNumber * 24 + t.hour) * 60 + t.minute) * 60 + t.second) * 1000000 + t.micro

/-- Whether two timestamps are the same point in time. A clock that does not say where it stands is
only comparable with its like. -/
def sameInstant (a b : Timestamp) : Bool :=
  match a.zone, b.zone with
  | none, none => a.clockTime == b.clockTime
  | some za, some zb =>
      a.clockTime - za * 60 * 1000000 == b.clockTime - zb * 60 * 1000000
  | _, _ => false

end Timestamp

end ServiceBindings
