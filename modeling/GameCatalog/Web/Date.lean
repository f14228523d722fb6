import GameCatalog.Text.Ascii

/-!
Dates as HTTP writes them: the day of the week, the date and the time of day in
Greenwich, for instance `Thu, 01 Jan 1970 00:00:00 GMT`.
-/

namespace GameCatalog.Date

structure Day where
  year : Int
  month : Nat
  day : Nat
  deriving DecidableEq, Repr

/--
The day so many days after the first one of 1970.  Years are counted from March on, so
that the day added in a leap year is the last one; 400 such years make an era.
-/
def Day.ofNumber (number : Int) : Day :=
  let shifted := number + 719468
  let era := shifted / 146097
  let dayOfEra := (shifted % 146097).toNat
  let yearOfEra :=
    (dayOfEra - dayOfEra / 1460 + dayOfEra / 36524 - dayOfEra / 146096) / 365
  let dayOfYear := dayOfEra - (365 * yearOfEra + yearOfEra / 4 - yearOfEra / 100)
  let monthFromMarch := (5 * dayOfYear + 2) / 153
  let month := if monthFromMarch < 10 then monthFromMarch + 3 else monthFromMarch - 9
  { year := yearOfEra + era * 400 + (if month ≤ 2 then 1 else 0)
    month := month
    day := dayOfYear - (153 * monthFromMarch + 2) / 5 + 1 }

/-- The days of the week, beginning with the one that 1970 began on. -/
def dayNames : List String := ["Thu", "Fri", "Sat", "Sun", "Mon", "Tue", "Wed"]

def monthNames : List String :=
  ["Jan", "Feb", "Mar", "Apr", "May", "Jun", "Jul", "Aug", "Sep", "Oct", "Nov", "Dec"]

def padded (width number : Nat) : String :=
  let digits := Ascii.decimal number
  String.ofList (List.replicate (width - digits.length) '0' ++ digits)

/-- The last second that has a text, at the end of the year 9999. -/
def lastSecond : Int := 253402300799

/-- The text of an instant, given in seconds since the beginning of 1970. -/
def text (seconds : Int) : String :=
  let seconds := min seconds lastSecond
  let number := seconds / 86400
  let time := (seconds % 86400).toNat
  let day := Day.ofNumber number
  dayNames.getD (number % 7).toNat "" ++ ", " ++ padded 2 day.day ++ " " ++
    monthNames.getD (day.month - 1) "" ++ " " ++ padded 4 day.year.toNat ++ " " ++
    padded 2 (time / 3600) ++ ":" ++ padded 2 (time / 60 % 60) ++ ":" ++ padded 2 (time % 60) ++
    " GMT"

end GameCatalog.Date
