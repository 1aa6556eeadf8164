import WarehouseAccess.Number.Digits
/-!
# Dates and times

Dates of the Gregorian calendar, carried on into years before its introduction and beyond four
digits, and times of day that may fall into a leap second.  The written form is that of ISO 8601:
years of other than four digits have a sign, a fraction is cut down to microseconds, and an offset
shows its seconds only when there are any.
-/

namespace WarehouseAccess

/-- Every fourth year is a leap year, of the full centuries every fourth. -/
def isLeapYear (year : Int) : Bool :=
  year % 4 == 0 && (year % 100 != 0 || year % 400 == 0)

/-- How many days a month has. -/
def daysInMonth (year : Int) (month : Nat) : Nat :=
  if month == 2 then if isLeapYear year then 29 else 28
  else if month == 4 || month == 6 || month == 9 || month == 11 then 30
  else 31

/-- A date and a time of day, without reference to a place. -/
structure DateTime where
  year : Int
  month : Nat
  day : Nat
  hour : Nat
  minute : Nat
  second : Nat
  /-- From `10 ^ 9` on the time lies in the leap second that follows the given second. -/
  nanosecond : Nat
deriving DecidableEq, Repr, Inhabited

/-- A date and time at an offset from universal time. -/
structure OffsetDateTime where
  /-- The date and time where it was taken. -/
  wall : DateTime
  /-- Seconds east of universal time. -/
  offset : Int
deriving DecidableEq, Repr, Inhabited

namespace DateTime

/-- The date exists. -/
def HasDate (t : DateTime) : Prop :=
  1 ≤ t.month ∧ t.month ≤ 12 ∧ 1 ≤ t.day ∧ t.day ≤ daysInMonth t.year t.month

/-- The time of day exists; only the last second of a minute can be followed by a leap second. -/
def HasTime (t : DateTime) : Prop :=
  t.hour < 24 ∧ t.minute < 60 ∧ t.second < 60 ∧
    (t.nanosecond < 1000000000 ∨ t.second = 59 ∧ t.nanosecond < 2000000000)

instance (t : DateTime) : Decidable t.HasDate := inferInstanceAs (Decidable (_ ∧ _))

instance (t : DateTime) : Decidable t.HasTime := inferInstanceAs (Decidable (_ ∧ _))

/-- The date and the time of day exist. -/
def Exists (t : DateTime) : Prop := t.HasDate ∧ t.HasTime

instance (t : DateTime) : Decidable t.Exists := inferInstanceAs (Decidable (_ ∧ _))

/-- The second as clocks show it, sixty in a leap second. -/
def shownSecond (t : DateTime) : Nat := t.second + t.nanosecond / 1000000000

/-- The whole microseconds of the shown second. -/
def microsecond (t : DateTime) : Nat := t.nanosecond % 1000000000 / 1000

end DateTime

namespace OffsetDateTime

/-- The date and the time of day exist, and the offset is less than a day. -/
def Exists (t : OffsetDateTime) : Prop :=
  t.wall.Exists ∧ -86400 < t.offset ∧ t.offset < 86400

instance (t : OffsetDateTime) : Decidable t.Exists := inferInstanceAs (Decidable (_ ∧ _))

end OffsetDateTime

/-- A year in at least four digits, with a sign when four digits cannot hold it. -/
def yearText (year : Int) : List Char :=
  if 0 ≤ year && year ≤ 9999 then zeroPadded 4 year.toNat
  else if year < 0 then '-' :: zeroPadded 4 year.natAbs
  else '+' :: zeroPadded 4 year.natAbs

namespace DateTime

/-- The written form; the fraction is shown unless it is zero to the nanosecond. -/
def isoText (t : DateTime) : List Char :=
  yearText t.year ++ '-' :: zeroPadded 2 t.month ++ '-' :: zeroPadded 2 t.day ++
    'T' :: zeroPadded 2 t.hour ++ ':' :: zeroPadded 2 t.minute ++
    ':' :: zeroPadded 2 t.shownSecond ++
    (if t.nanosecond = 0 then [] else '.' :: zeroPadded 6 t.microsecond)

end DateTime

/-- An offset from universal time. -/
def offsetText (offset : Int) : List Char :=
  let n := offset.natAbs
  (if offset < 0 then '-' else '+') :: zeroPadded 2 (n / 3600) ++
    ':' :: zeroPadded 2 (n / 60 % 60) ++
    (if n % 60 = 0 then [] else ':' :: zeroPadded 2 (n % 60))

/-- The written form: the date and time of the place, and the offset. -/
def OffsetDateTime.isoText (t : OffsetDateTime) : List Char :=
  t.wall.isoText ++ offsetText t.offset

end WarehouseAccess
