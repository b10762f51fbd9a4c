/-!
# Dates

Days of the Gregorian calendar, carried on into the past and the future, and how they are written.
-/

namespace WidgetBindings

def isLeapYear (year : Int) : Bool := year % 4 = 0 && (year % 100 ≠ 0 || year % 400 = 0)

/-- The number of days in a month, zero if there is no such month. -/
def daysInMonth (year : Int) : Nat → Nat
  | 2 => if isLeapYear year then 29 else 28
  | 4 | 6 | 9 | 11 => 30
  | 1 | 3 | 5 | 7 | 8 | 10 | 12 => 31
  | _ => 0

def firstYear : Int := -262143

def lastYear : Int := 262142

structure Date where
  year : Int
  month : Nat
  day : Nat
  exists_year : firstYear ≤ year ∧ year ≤ lastYear
  exists_day : 1 ≤ day ∧ day ≤ daysInMonth year month
  deriving DecidableEq

namespace Date

/-- The day with the given numbers, if there is one. -/
def of? (year : Int) (month day : Nat) : Option Date :=
  if h : (firstYear ≤ year ∧ year ≤ lastYear) ∧ 1 ≤ day ∧ day ≤ daysInMonth year month then
    some ⟨year, month, day, h.1, h.2⟩
  else none

/-- A number with zeros in front to make it at least `width` digits long. -/
def padded (width n : Nat) : String :=
  let digits := Nat.toDigits 10 n
  String.ofList (List.replicate (width - digits.length) '0' ++ digits)

/-- Year, month and day with hyphens between them. A year of more than four digits has a sign. -/
def text (date : Date) : String :=
  let sign := if date.year < 0 then "-" else if 9999 < date.year then "+" else ""
  s!"{sign}{padded 4 date.year.natAbs}-{padded 2 date.month}-{padded 2 date.day}"

end Date

end WidgetBindings
