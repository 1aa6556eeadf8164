import WarehouseAccess.Calendar
import WarehouseAccess.Text.Editing
/-!
# Reading dates and times

A date and a time of day as `2030-01-31 23:59:59.5`.  Blanks may stand before each number and
between date and time, and numbers may have fewer digits than usual.  A year has up to four digits,
or a sign and any number of them.  The sixtieth second is the leap second behind the fifty-ninth.
Digits of the fraction behind the ninth are passed over.
-/

namespace WarehouseAccess

namespace DateTime

/-- The first year that dates are kept for. -/
def firstYear : Int := -262143

/-- The last year that dates are kept for. -/
def lastYear : Int := 262142

/-- A decimal digit. -/
def isDigit (c : Char) : Bool := (digitValue c).isSome

/-- The number that decimal digits spell, without regard to other characters. -/
def numberOf (digits : List Char) : Nat :=
  digits.foldl (fun n c => 10 * n + (digitValue c).getD 0) 0

/-- The digits in front, at most `width` of them, and the rest; at least one is needed. -/
def takeDigits (width : Nat) (l : List Char) : Option (List Char × List Char) :=
  let digits := (l.take width).takeWhile isDigit
  if digits.isEmpty then none else some (digits, l.drop digits.length)

/-- A number of at most `width` digits, with blanks in front, and the rest. -/
def takeNumber (width : Nat) (l : List Char) : Option (Nat × List Char) :=
  (takeDigits width (l.dropWhile isBlank)).map fun (digits, rest) => (numberOf digits, rest)

/-- A year and the rest. -/
def takeYear (l : List Char) : Option (Int × List Char) :=
  match l.dropWhile isBlank with
  | '-' :: rest =>
    (takeDigits rest.length rest).map fun (digits, rest) => (-(numberOf digits : Int), rest)
  | '+' :: rest =>
    (takeDigits rest.length rest).map fun (digits, rest) => ((numberOf digits : Int), rest)
  | l => (takeDigits 4 l).map fun (digits, rest) => ((numberOf digits : Int), rest)

/-- The text behind a character that has to stand there. -/
def takeChar (c : Char) : List Char → Option (List Char)
  | d :: rest => if d = c then some rest else none
  | [] => none

/-- The nanoseconds of a fraction, none when there is no point, and the rest. -/
def takeFraction : List Char → Option (Nat × List Char)
  | '.' :: l =>
    (takeDigits 9 l).map fun (digits, rest) =>
      (numberOf digits * Nat.pow 10 (9 - digits.length), rest.dropWhile isDigit)
  | l => some (0, l)

/-- The text behind any blanks. -/
def takeBlanks (l : List Char) : Option (List Char) := some (l.dropWhile isBlank)

/-- The fields of a date and time, with what separates the two.  The second may be the sixtieth. -/
def takeFields (separator : List Char → Option (List Char)) (l : List Char) :
    Option (DateTime × List Char) := do
  let (year, l) ← takeYear l
  let (month, l) ← takeNumber 2 (← takeChar '-' l)
  let (day, l) ← takeNumber 2 (← takeChar '-' l)
  let (hour, l) ← takeNumber 2 (← separator l)
  let (minute, l) ← takeNumber 2 (← takeChar ':' l)
  let (second, l) ← takeNumber 2 (← takeChar ':' l)
  let (nanosecond, l) ← takeFraction l
  return ({ year, month, day, hour, minute, second, nanosecond }, l)

/-- The sixtieth second as the leap second behind the fifty-ninth. -/
def settleLeapSecond (t : DateTime) : DateTime :=
  if t.second = 60 then { t with second := 59, nanosecond := t.nanosecond + 1000000000 } else t

/-- The date and time that a text spells. -/
def ofText? (s : String) : Option DateTime :=
  match takeFields takeBlanks s.toList with
  | some (t, []) =>
    let t := t.settleLeapSecond
    if firstYear ≤ t.year ∧ t.year ≤ lastYear ∧ t.HasDate ∧ t.HasTime then some t else none
  | _ => none

end DateTime

end WarehouseAccess
