/-! # Days of the Gregorian calendar

Days are counted from 1 January of year 0 in the calendar extended to all years.  A date is a year
and a day of that year; months enter only when a date is written.
-/

namespace BearerTokens.Calendar

def isLeap (y : Int) : Bool := y % 4 == 0 && (y % 100 != 0 || y % 400 == 0)

def daysIn (y : Int) : Int := if isLeap y then 366 else 365

/-- Days between 1 January of year 0 and 1 January of year `y`. -/
def daysBefore (y : Int) : Int :=
  365 * y + (y + 3).fdiv 4 - (y + 99).fdiv 100 + (y + 399).fdiv 400

/-- Days between 1 January of year 0 and 1 January 1970. -/
abbrev epoch : Int := 719528

/-- The year of a day.  Within a cycle of 400 years a quotient by 365 is at most one year late. -/
def yearOf (day : Int) : Int :=
  let era := day.fdiv 146097
  let rest := day.fmod 146097
  let guess := rest / 365
  400 * era + (if daysBefore guess ≤ rest then guess else guess - 1)

def ordinalDate (day : Int) : Int × Int :=
  let y := yearOf day
  (y, day - daysBefore y + 1)

def monthLengths (y : Int) : List Int :=
  [31, if isLeap y then 29 else 28, 31, 30, 31, 30, 31, 31, 30, 31, 30, 31]

/-- Month and day of the month, both from 1, of the `n`-th day after the first of month `m`. -/
def monthAndDay (m n : Int) : List Int → Int × Int
  | [] => (m, n + 1)
  | len :: rest => if n < len then (m, n + 1) else monthAndDay (m + 1) (n - len) rest

def civilDate (day : Int) : Int × Int × Int :=
  let (y, ordinal) := ordinalDate day
  (y, monthAndDay 1 (ordinal - 1) (monthLengths y))

end BearerTokens.Calendar
