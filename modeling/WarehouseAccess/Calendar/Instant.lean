import WarehouseAccess.Calendar
/-!
# Instants

Counting days and seconds.  Days are counted from 1970-01-01, seconds from its midnight in universal
time, leap seconds not among them.  A year is counted from March here, so that the leap day is its
last day and the months before it have a fixed pattern of lengths.
-/

namespace WarehouseAccess

/-- Days in four full centuries. -/
def daysPerEra : Int := 146097

/-- The day number of a date. -/
def dayNumber (year : Int) (month day : Nat) : Int :=
  let y := if month ≤ 2 then year - 1 else year
  let era := y / 400
  let yearOfEra := y % 400
  let monthFromMarch : Int := (month + 9) % 12
  let dayOfYear := (153 * monthFromMarch + 2) / 5 + day - 1
  let dayOfEra := yearOfEra * 365 + yearOfEra / 4 - yearOfEra / 100 + dayOfYear
  era * daysPerEra + dayOfEra - 719468

/-- The year, month and day of a day number. -/
def dateOfDay (n : Int) : Int × Nat × Nat :=
  let z := n + 719468
  let era := z / daysPerEra
  let dayOfEra := z % daysPerEra
  let yearOfEra := (dayOfEra - dayOfEra / 1460 + dayOfEra / 36524 - dayOfEra / 146096) / 365
  let dayOfYear := dayOfEra - (365 * yearOfEra + yearOfEra / 4 - yearOfEra / 100)
  let monthFromMarch := (5 * dayOfYear + 2) / 153
  let day := dayOfYear - (153 * monthFromMarch + 2) / 5 + 1
  let month := if monthFromMarch < 10 then monthFromMarch + 3 else monthFromMarch - 9
  let year := yearOfEra + era * 400 + (if month ≤ 2 then 1 else 0)
  (year, month.toNat, day.toNat)

/-- The day of the week of a day number, Sunday being zero. -/
def weekday (n : Int) : Nat := ((n + 4) % 7).toNat

namespace DateTime

/-- The second of a date and time, read as universal time; a leap second counts as the second before
it. -/
def seconds (t : DateTime) : Int :=
  dayNumber t.year t.month t.day * 86400 + (t.hour * 3600 + t.minute * 60 + t.second : Nat)

/-- The date and time of a second in universal time. -/
def ofSeconds (n : Int) : DateTime :=
  let (year, month, day) := dateOfDay (n / 86400)
  let s := (n % 86400).toNat
  { year, month, day, hour := s / 3600, minute := s / 60 % 60, second := s % 60, nanosecond := 0 }

end DateTime

/-- A second in universal time as the control plane writes it. -/
def utcStamp (n : Int) : String :=
  String.ofList ((DateTime.ofSeconds n).isoText ++ ['Z'])

end WarehouseAccess
