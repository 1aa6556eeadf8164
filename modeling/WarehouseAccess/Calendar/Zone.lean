import WarehouseAccess.Calendar.Instant
import WarehouseAccess.Calendar.Reading
/-!
# Time zones

A zone is at a fixed offset from universal time, or it changes between standard and summer time on
two days of each year.  Zones are spelled by the rules of POSIX, such as `EST5EDT,M3.2.0,M11.1.0`,
where offsets count westwards.

Of a local time that occurs twice the instant in standard time counts, and of the times that a
change of clocks skips none has an instant, but for the very first one of a zone whose summer time
lies within the year.
-/

namespace WarehouseAccess

/-- A day of every year. -/
inductive YearDay where
  /-- The day of a year of 365 days, beginning with one; the leap day is not counted. -/
  | common (n : Nat)
  /-- The day of the year, beginning with zero. -/
  | counted (n : Nat)
  /-- The `week`-th of the given weekday in a month, the last one if there are only four and `week`
  is five; Sunday is zero. -/
  | weekday (month week weekday : Nat)
deriving DecidableEq, Repr

/-- A change of clocks: a day, and the seconds that the clocks show since its midnight. -/
structure ClockChange where
  day : YearDay
  time : Nat
deriving DecidableEq, Repr

/-- A time zone, with offsets in seconds east of universal time. -/
inductive Zone where
  | fixed (offset : Int)
  | alternating (standard summer : Int) (toSummer toStandard : ClockChange)
deriving DecidableEq, Repr

/-- What a local time stands for. -/
inductive LocalReading where
  | once (offset : Int)
  /-- The offset that counts comes first. -/
  | twice (offset other : Int)
  | never
deriving DecidableEq, Repr

namespace YearDay

/-- The month of the day of the year, beginning with zero, and the days before that month. -/
def monthAt (year : Int) (n : Nat) : (month : Nat) → (before left : Nat) → Nat × Nat
  | month, before, 0 => (month, before)
  | month, before, left + 1 =>
    let next := before + daysInMonth year month
    if n < next then (month, before) else monthAt year n (month + 1) next left

/-- The month and day of the month in a year. -/
def inYear (year : Int) : YearDay → Nat × Nat
  | common n =>
    let (month, before) := monthAt 2001 (n - 1) 1 0 11
    (month, n - before)
  | counted n =>
    let (month, before) := monthAt year n 1 0 11
    (month, n - before + 1)
  | .weekday month week day =>
    let first := WarehouseAccess.weekday (dayNumber year month 1)
    let date := 1 + (day + 7 - first) % 7 + (week - 1) * 7
    (month, if daysInMonth year month < date then date - 7 else date)

end YearDay

/-- What the clocks show at a change, in seconds, were they at universal time. -/
def ClockChange.shown (c : ClockChange) (year : Int) : Int :=
  let (month, day) := c.day.inYear year
  dayNumber year month day * 86400 + c.time

namespace Zone

/-- Universal time. -/
def utc : Zone := .fixed 0

/-- The reading of a local time in a zone whose summer time is ahead of standard time. -/
def readForward (standard summer : Int) (toSummer toStandard : ClockChange) (year : Int)
    (shown : Int) : LocalReading :=
  let step := summer - standard
  let skip := toSummer.shown year
  let turn := toStandard.shown year
  if (toSummer.day.inYear year).1 < (toStandard.day.inYear year).1 then
    if shown ≤ skip then .once standard
    else if shown < skip + step then .never
    else if shown < turn - step then .once summer
    else if shown ≤ turn then .twice standard summer
    else .once standard
  else
    if shown < turn - step then .once summer
    else if shown ≤ turn then .twice standard summer
    else if shown < skip then .once standard
    else if shown < skip + step then .never
    else .once summer

/-- The reading of a local time in a zone whose summer time is behind standard time. -/
def readBackward (standard summer : Int) (toSummer toStandard : ClockChange) (year : Int)
    (shown : Int) : LocalReading :=
  let step := standard - summer
  let turn := toSummer.shown year
  let skip := toStandard.shown year
  if (toSummer.day.inYear year).1 < (toStandard.day.inYear year).1 then
    if shown < turn - step then .once standard
    else if shown ≤ turn then .twice summer standard
    else if shown < skip then .once summer
    else if shown < skip + step then .never
    else .once standard
  else
    if shown ≤ skip then .once summer
    else if shown < skip + step then .never
    else if shown < turn - step then .once standard
    else if shown ≤ turn then .twice summer standard
    else .once summer

/-- The reading of a local time. -/
def read (z : Zone) (t : DateTime) : LocalReading :=
  match z with
  | .fixed offset => .once offset
  | .alternating standard summer toSummer toStandard =>
    if standard = summer then .once standard
    else if standard < summer then
      readForward standard summer toSummer toStandard t.year t.seconds
    else readBackward standard summer toSummer toStandard t.year t.seconds

/-- Clocks are never a whole day away from universal time. -/
def IsOffset (offset : Int) : Prop := -86400 < offset ∧ offset < 86400

instance (offset : Int) : Decidable (IsOffset offset) := inferInstanceAs (Decidable (_ ∧ _))

/-- The second of a local time at an offset, if it lies in a year that dates are kept for. -/
def instantAt (t : DateTime) (offset : Int) : Option Int :=
  let n := t.seconds - offset
  let year := (DateTime.ofSeconds n).year
  if DateTime.firstYear ≤ year ∧ year ≤ DateTime.lastYear then some n else none

/-- The second of a local time in universal time. -/
def instant? (z : Zone) (t : DateTime) : Option Int :=
  match z.read t with
  | .never => none
  | .once offset => if IsOffset offset then instantAt t offset else none
  | .twice offset other =>
    if IsOffset offset ∧ IsOffset other then
      match instantAt t offset, instantAt t other with
      | some n, some _ => some n
      | _, _ => none
    else none

/-! ### Rules -/

/-- A blank that may stand around a rule: the space, the tab, the form feed and the two ends of
line. -/
def isBlankAround (c : Char) : Bool :=
  c == ' ' || c == '\t' || c == '\n' || c == '\x0c' || c == '\r'

/-- A letter of the basic alphabet. -/
def isLetter (c : Char) : Bool := ('a' ≤ c && c ≤ 'z') || ('A' ≤ c && c ≤ 'Z')

/-- A name of three to seven characters: letters, or letters, digits and signs in angle brackets. -/
def takeName : List Char → Option (List Char)
  | '<' :: l =>
    let name := l.takeWhile (· != '>')
    match l.dropWhile (· != '>') with
    | '>' :: rest =>
      if 3 ≤ name.length ∧ name.length ≤ 7 ∧
          (name.all fun c => isLetter c || DateTime.isDigit c || c == '+' || c == '-') then
        some rest
      else none
    | _ => none
  | l =>
    let name := l.takeWhile isLetter
    if 3 ≤ name.length ∧ name.length ≤ 7 then some (l.dropWhile isLetter) else none

/-- A number and the rest. -/
def takeInteger (l : List Char) : Option (Nat × List Char) :=
  (DateTime.takeDigits l.length l).map fun (digits, rest) => (DateTime.numberOf digits, rest)

/-- The number behind a character, zero when the character does not stand there. -/
def takePart (c : Char) : List Char → Option (Nat × List Char)
  | d :: rest => if d = c then takeInteger rest else some (0, d :: rest)
  | [] => some (0, [])

/-- A time of hours up to a bound, minutes and seconds, in seconds. -/
def takeTime (maxHours : Nat) (l : List Char) : Option (Nat × List Char) := do
  let (hours, l) ← takeInteger l
  let hasMinutes := l.head? == some ':'
  let (minutes, l) ← takePart ':' l
  let (seconds, l) ← if hasMinutes then takePart ':' l else some (0, l)
  if hours ≤ maxHours ∧ minutes ≤ 59 ∧ seconds ≤ 59 then
    return (hours * 3600 + minutes * 60 + seconds, l)
  else none

/-- An offset of less than a day, counted eastwards. -/
def takeOffset : List Char → Option (Int × List Char)
  | '-' :: l => (takeTime 23 l).map fun (n, rest) => ((n : Int), rest)
  | '+' :: l => (takeTime 23 l).map fun (n, rest) => (-(n : Int), rest)
  | l => (takeTime 23 l).map fun (n, rest) => (-(n : Int), rest)

/-- A day of the year. -/
def takeDay : List Char → Option (YearDay × List Char)
  | 'M' :: l => do
    let (month, l) ← takeInteger l
    let (week, l) ← takeInteger (← DateTime.takeChar '.' l)
    let (day, l) ← takeInteger (← DateTime.takeChar '.' l)
    if 1 ≤ month ∧ month ≤ 12 ∧ 1 ≤ week ∧ week ≤ 5 ∧ day ≤ 6 then
      return (.weekday month week day, l)
    else none
  | 'J' :: l => do
    let (n, l) ← takeInteger l
    if 1 ≤ n ∧ n ≤ 365 then return (.common n, l) else none
  | l => do
    let (n, l) ← takeInteger l
    if n ≤ 365 then return (.counted n, l) else none

/-- A change of clocks, at two o'clock unless a time up to the end of the day is given. -/
def takeChange (l : List Char) : Option (ClockChange × List Char) := do
  let (day, l) ← takeDay l
  match l with
  | '/' :: l => return (← takeTime 24 l).map (⟨day, ·⟩) id
  | l => return (⟨day, 7200⟩, l)

/-- The zone that a rule spells. -/
def ofRule? (s : String) : Option Zone := do
  let l ← takeName (dropAround isBlankAround s.toList)
  let (standard, l) ← takeOffset l
  if l.isEmpty then return .fixed standard
  let l ← takeName l
  let (summer, l) ← if l.head? == some ',' then some (standard + 3600, l) else takeOffset l
  let (toSummer, l) ← takeChange (← DateTime.takeChar ',' l)
  let (toStandard, l) ← takeChange (← DateTime.takeChar ',' l)
  if l.isEmpty then return .alternating standard summer toSummer toStandard else none

end Zone

end WarehouseAccess
