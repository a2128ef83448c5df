import TaskSieve.Decimal

/-!
# Points in time as calendar dates

Time is counted in whole seconds from the start of 1970 in coordinated
universal time.  A date comes from the count of days in eras of 400 years,
each year taken to start on the first of March.
-/

namespace TaskSieve.Calendar

/-- A day of the calendar. -/
structure Day where
  year : Nat
  month : Nat
  day : Nat
  deriving DecidableEq, Repr

/-- How many days an era of 400 years has. -/
def daysPerEra : Nat := 146097

/-- The day that lies so many days after the first of January 1970. -/
def Day.ofCount (days : Nat) : Day :=
  -- Counted from the first of March of year 0.
  let shifted := days + 719468
  let era := shifted / daysPerEra
  let dayOfEra := shifted % daysPerEra
  let yearOfEra :=
    (dayOfEra - dayOfEra / 1460 + dayOfEra / 36524 - dayOfEra / 146096) / 365
  let dayOfYear :=
    dayOfEra - (365 * yearOfEra + yearOfEra / 4 - yearOfEra / 100)
  let shiftedMonth := (5 * dayOfYear + 2) / 153
  let month := if shiftedMonth < 10 then shiftedMonth + 3 else shiftedMonth - 9
  { year := yearOfEra + 400 * era + if month ≤ 2 then 1 else 0
    month := month
    day := dayOfYear - (153 * shiftedMonth + 2) / 5 + 1 }

/-- The last second that has a date: the end of the year 262142. -/
def lastSecond : Nat := 8210266876799

/-- A point in time as date and time of day.  A year of more than four digits
has a sign. -/
def text (seconds : Nat) : String :=
  let day := Day.ofCount (seconds / 86400)
  let rest := seconds % 86400
  let sign := if 9999 < day.year then "+" else ""
  sign ++ Decimal.padded 4 day.year ++ "-" ++ Decimal.padded 2 day.month ++ "-"
    ++ Decimal.padded 2 day.day ++ "T" ++ Decimal.padded 2 (rest / 3600) ++ ":"
    ++ Decimal.padded 2 (rest / 60 % 60) ++ ":" ++
    Decimal.padded 2 (rest % 60) ++ "+00:00"

end TaskSieve.Calendar
