namespace ButtonGateway.Calendar

structure Date where
  year : Int
  month : Nat
  day : Nat
  deriving DecidableEq, Repr

/-- The date that lies so many days after the first of January 1970. A year is counted from March,
so that the leap day comes last, and years go round in cycles of four hundred. -/
def Date.ofDays (days : Int) : Date :=
  let shifted := days + 719468
  let cycle := shifted.fdiv 146097
  let dayOfCycle := (shifted - cycle * 146097).toNat
  let yearOfCycle :=
    (dayOfCycle - dayOfCycle / 1460 + dayOfCycle / 36524 - dayOfCycle / 146096) / 365
  let dayOfYear := dayOfCycle - (365 * yearOfCycle + yearOfCycle / 4 - yearOfCycle / 100)
  let monthFromMarch := (5 * dayOfYear + 2) / 153
  let day := dayOfYear - (153 * monthFromMarch + 2) / 5 + 1
  let month := if monthFromMarch < 10 then monthFromMarch + 3 else monthFromMarch - 9
  ⟨cycle * 400 + yearOfCycle + (if month ≤ 2 then 1 else 0), month, day⟩

/-- The names of the days, beginning with the one of the first of January 1970. -/
def dayNames : List String := ["Thu", "Fri", "Sat", "Sun", "Mon", "Tue", "Wed"]

def monthNames : List String :=
  ["Jan", "Feb", "Mar", "Apr", "May", "Jun", "Jul", "Aug", "Sep", "Oct", "Nov", "Dec"]

/-- A number with at least `width` characters, filled up on the left. -/
def padded (width : Nat) (fill : Char) (number : Nat) : String :=
  let digits := Nat.toDigits 10 number
  String.ofList (List.replicate (width - digits.length) fill ++ digits)

/-- A year with at least four digits; outside 0 to 9999 it carries a sign. -/
def yearText (year : Int) : String :=
  if year < 0 then "-" ++ padded 4 '0' year.natAbs
  else if year > 9999 then "+" ++ padded 4 '0' year.natAbs
  else padded 4 '0' year.natAbs

/-- The first and the last year in which instants are written as dates. -/
def yearRange : Int × Int := (-262143, 262142)

/-- The date and time so many seconds after the start of 1970: day, month, day of the month, time
of day and year. -/
def instantText? (seconds : Int) : Option String :=
  let days := seconds.fdiv 86400
  let date := Date.ofDays days
  if yearRange.1 ≤ date.year ∧ date.year ≤ yearRange.2 then
    let second := (seconds - days * 86400).toNat
    let dayName := dayNames.getD (days.fmod 7).toNat ""
    let monthName := monthNames.getD (date.month - 1) ""
    let time := String.intercalate ":"
      [padded 2 '0' (second / 3600), padded 2 '0' (second / 60 % 60), padded 2 '0' (second % 60)]
    some (String.intercalate " "
      [dayName, monthName, padded 2 ' ' date.day, time, yearText date.year])
  else none

/-- The date and time, or the plain number of seconds where no date can be written. -/
def instantText (seconds : Int) : String :=
  (instantText? seconds).getD (toString seconds)

end ButtonGateway.Calendar
