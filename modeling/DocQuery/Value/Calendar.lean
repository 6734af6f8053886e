/-!
# Calendar dates

Milliseconds since the beginning of 1970, as a date of the Gregorian calendar
and a time of day. Years are counted from a first of March, so that the leap
day is the last day of its year; 146097 days make a cycle of 400 years.
-/


namespace DocQuery

namespace Calendar

/-- A date and a time of day, to the millisecond. -/
structure Moment where
  year : Int
  month : Nat
  day : Nat
  hour : Nat
  minute : Nat
  second : Nat
  millisecond : Nat
  deriving DecidableEq

/-- The date of a day, given as days since the first of March of the year
zero: year, month and day of the month. -/
def dateOfDay (days : Int) : Int × Nat × Nat :=
  let cycle := days / 146097
  let dayOfCycle := (days % 146097).toNat
  let yearOfCycle :=
    (dayOfCycle - dayOfCycle / 1460 + dayOfCycle / 36524 - dayOfCycle / 146096) / 365
  let dayOfYear := dayOfCycle - (365 * yearOfCycle + yearOfCycle / 4 - yearOfCycle / 100)
  let monthFromMarch := (5 * dayOfYear + 2) / 153
  let day := dayOfYear - (153 * monthFromMarch + 2) / 5 + 1
  let month := if monthFromMarch < 10 then monthFromMarch + 3 else monthFromMarch - 9
  let year := cycle * 400 + yearOfCycle
  (if month ≤ 2 then year + 1 else year, month, day)

/-- The moment that lies some milliseconds after the beginning of 1970. -/
def ofMillis (millis : Int) : Moment :=
  let days := millis / 86400000
  let inDay := (millis % 86400000).toNat
  let (year, month, day) := dateOfDay (days + 719468)
  { year, month, day
    hour := inDay / 3600000
    minute := inDay / 60000 % 60
    second := inDay / 1000 % 60
    millisecond := inDay % 1000 }

/-- A number with zeros in front, to a least count of digits. -/
def padded (width n : Nat) : List Char :=
  let digits := Nat.toDigits 10 n
  List.replicate (width - digits.length) '0' ++ digits

/-- The digits behind the point of a second: three places without the zeros
at their end, and at least one digit. -/
def fractionText (millisecond : Nat) : List Char :=
  match (padded 3 millisecond).reverse.dropWhile (· == '0') with
  | [] => ['0']
  | digits => digits.reverse

/-- Years of more than four digits, and those before the year zero, carry a
sign. -/
def yearText (year : Int) : List Char :=
  let digits := padded 4 year.natAbs
  if year < 0 then '-' :: digits
  else if 9999 < year then '+' :: digits
  else digits

/-- The text of a moment, in universal time. -/
def Moment.text (m : Moment) : String :=
  String.ofList <|
    yearText m.year ++ '-' :: padded 2 m.month ++ '-' :: padded 2 m.day ++ ' ' ::
      Nat.toDigits 10 m.hour ++ ':' :: padded 2 m.minute ++ ':' :: padded 2 m.second ++ '.' ::
        fractionText m.millisecond ++ " +00:00:00".toList

/-- The text of a date: years of at most six digits are written out, and a
date beyond them as its milliseconds. -/
def dateText (millis : Int) : String :=
  let moment := ofMillis millis
  if moment.year.natAbs ≤ 999999 then moment.text else toString millis

end Calendar

end DocQuery
