/-!
# Calendar dates and times

Instants are whole seconds since the beginning of 1970 in universal time, in the Gregorian calendar
extended in both directions. Days are counted from 1 March of the year 0, so that the leap day is
the last day of its year; a cycle of 400 years has 146097 days, and consists of four centuries of
36524 days, the last one longer by a day; centuries consist of spans of four years, and spans of
years, in the same way.
-/

namespace DocTables.Calendar

/-! ### Dates -/

/-- A date: the year, the month from 1 to 12 and the day of the month from 1. -/
structure Date where
  /-- The year; the year before 1 is 0. -/
  year : Int
  /-- The month, from 1 to 12. -/
  month : Nat
  /-- The day of the month, from 1. -/
  day : Nat
deriving DecidableEq, Repr

/-- The days from 1 March of the year 0 to the beginning of 1970. -/
def epochDay : Int := 719468

/-- The days in a cycle of 400 years. -/
def cycleDays : Int := 146097

/-- A day of a cycle as the year of the cycle, counted from March, and the day of that year. -/
def splitCycle (day : Nat) : Nat × Nat :=
  let century := min (day / 36524) 3
  let day := day - century * 36524
  let span := day / 1461
  let day := day - span * 1461
  let year := min (day / 365) 3
  (century * 100 + span * 4 + year, day - year * 365)

/-- A day of a year that begins in March, as the month counted from March and the day of that month
counted from zero. Five months have 153 days, and the pattern repeats. -/
def splitYear (day : Nat) : Nat × Nat :=
  let month := (5 * day + 2) / 153
  (month, day - (153 * month + 2) / 5)

/-- The date of a day counted from the beginning of 1970. -/
def dateOfDay (day : Int) : Date :=
  let shifted := day + epochDay
  let cycle := shifted / cycleDays
  let (year, dayOfYear) := splitCycle (shifted % cycleDays).toNat
  let (month, dayOfMonth) := splitYear dayOfYear
  let civilYear := cycle * 400 + year
  if month < 10 then ⟨civilYear, month + 3, dayOfMonth + 1⟩
  else ⟨civilYear + 1, month - 9, dayOfMonth + 1⟩

/-- The day of the week of a day counted from the beginning of 1970, with Sunday as zero. -/
def weekday (day : Int) : Nat := ((day + 4) % 7).toNat

/-! ### Text -/

/-- The short names of the days of the week, from Sunday. -/
def weekdayNames : List String := ["Sun", "Mon", "Tue", "Wed", "Thu", "Fri", "Sat"]

/-- The short names of the months. -/
def monthNames : List String :=
  ["Jan", "Feb", "Mar", "Apr", "May", "Jun", "Jul", "Aug", "Sep", "Oct", "Nov", "Dec"]

/-- The decimal digits of a number, with zeros in front up to a width. -/
def padded (width n : Nat) : String :=
  let ds := Nat.toDigits 10 n
  String.ofList (List.replicate (width - ds.length) '0' ++ ds)

/-- The text of a year: four digits from 0 to 9999, and a sign and at least four digits outside. -/
def yearText (year : Int) : String :=
  if year < 0 then "-" ++ padded 4 year.natAbs
  else if year < 10000 then padded 4 year.natAbs
  else "+" ++ padded 4 year.natAbs

/-- The text of an instant, such as `Sun, 18 Oct 2026 10:00:00 GMT`. -/
def instantText (seconds : Int) : String :=
  let day := seconds / 86400
  let time := (seconds % 86400).toNat
  let date := dateOfDay day
  weekdayNames.getD (weekday day) "" ++ ", " ++ padded 2 date.day ++ " " ++
    monthNames.getD (date.month - 1) "" ++ " " ++ yearText date.year ++ " " ++
    padded 2 (time / 3600) ++ ":" ++ padded 2 (time / 60 % 60) ++ ":" ++ padded 2 (time % 60) ++
    " GMT"

/-- The first instant of the years that dates are kept for, the beginning of the year -262143. -/
def firstInstant : Int := -8334601228800

/-- The last instant of the years that dates are kept for, the end of the year 262142. -/
def lastInstant : Int := 8210266876799

/-- Whether dates are kept for an instant. -/
def inRange (seconds : Int) : Bool := firstInstant ≤ seconds && seconds ≤ lastInstant

end DocTables.Calendar
