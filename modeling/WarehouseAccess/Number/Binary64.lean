/-!
# Binary floating-point numbers

A number of the 64-bit binary format, kept as its bits, and the decimal that stands for it: the
one with the fewest digits that reads back as the number, and among those the nearest.  Which of two
equally near ones it is belongs to the layout.

A finite number is `m · 2 ^ q`, and the decimals that read back as it form an interval around it.
Scaling everything by a power of two and, where the decimal has places after the point, by a power
of ten makes every comparison one of natural numbers.
-/

namespace WarehouseAccess

/-- A number of the 64-bit binary floating-point format. -/
structure Binary64 where
  /-- Sign, eleven bits of exponent, fifty-two bits of fraction. -/
  bits : UInt64
deriving DecidableEq, Repr, Inhabited

namespace Binary64

/-- The sign bit is set; it may be on a zero too. -/
def isNegative (x : Binary64) : Bool :=
  x.bits >>> 63 == 1

/-- The biased exponent. -/
def exponentField (x : Binary64) : Nat :=
  ((x.bits >>> 52) &&& 0x7FF).toNat

/-- The fraction. -/
def fractionField (x : Binary64) : Nat :=
  (x.bits &&& 0xFFFFFFFFFFFFF).toNat

/-- Neither an infinity nor no number at all. -/
def isFinite (x : Binary64) : Bool :=
  x.exponentField != 0x7FF

/-- Not a number. -/
def isNaN (x : Binary64) : Bool :=
  x.exponentField == 0x7FF && x.fractionField != 0

/-- Positive infinity. -/
def infinity : Binary64 := ⟨0x7FF0000000000000⟩

/-- The number of the machine's floating-point type. -/
def ofFloat (x : Float) : Binary64 := ⟨x.toBits⟩

/-- Reading as the machine's floating-point type. -/
def toFloat (x : Binary64) : Float := Float.ofBits x.bits

/-- The significand `m` of a finite number `± m · 2 ^ q`. -/
def significand (x : Binary64) : Nat :=
  if x.exponentField = 0 then x.fractionField else 0x10000000000000 + x.fractionField

/-- The exponent `q` of a finite number `± m · 2 ^ q`. -/
def exponent (x : Binary64) : Int :=
  if x.exponentField = 0 then -1074 else (x.exponentField : Int) - 1075

/-- A positive number `num / den` between `num - below` and `num + above`, all over `den`: the
decimals in that interval read back as the number. -/
structure Interval where
  num : Nat
  den : Nat
  below : Nat
  above : Nat
  /-- The ends belong to the interval. -/
  closed : Bool

/-- The decimals that read back as the absolute value of a finite number.  Below a power of two
the next number is half as far away. -/
def interval (x : Binary64) : Interval :=
  let m := x.significand
  let scale := Nat.pow 2 x.exponent.toNat
  let narrow := x.fractionField == 0 && 1 < x.exponentField
  { num := 4 * m * scale
    den := 4 * Nat.pow 2 (-x.exponent).toNat
    below := if narrow then scale else 2 * scale
    above := 2 * scale
    closed := m % 2 == 0 }

/-- `d · 10 ^ k` lies in the interval. -/
def Interval.holds (i : Interval) (d : Nat) (k : Int) : Bool :=
  let point := d * Nat.pow 10 k.toNat * i.den
  let unit := Nat.pow 10 (-k).toNat
  let low := (i.num - i.below) * unit
  let high := (i.num + i.above) * unit
  if i.closed then low ≤ point && point ≤ high else low < point && point < high

/-- The least `j` with `den ≤ num · 10 ^ j`, searched up from `j`. -/
def leadingPlace (num den : Nat) : Nat → Nat → Nat
  | 0, j => j
  | fuel + 1, j => if den ≤ num * Nat.pow 10 j then j else leadingPlace num den fuel (j + 1)

/-- The exponent of the leading decimal digit of a positive number. -/
def Interval.leading (i : Interval) : Int :=
  if i.den ≤ i.num then ((Nat.toDigits 10 (i.num / i.den)).length : Int) - 1
  else -(leadingPlace i.num i.den 400 0 : Int)

/-- Which of two equally near decimals of one length stands for a number. -/
inductive Tie where
  /-- The one whose last digit is even. -/
  | toEven
  /-- The one further away from zero. -/
  | away
deriving DecidableEq, Repr

/-- The nearer of `low` and `low + 1` to a number that is `toLow` above the first and `toHigh` below
the second. -/
def Tie.nearer (tie : Tie) (low toLow toHigh : Nat) : Nat :=
  if toLow < toHigh then low
  else if toHigh < toLow then low + 1
  else
    match tie with
    | .toEven => if low % 2 = 0 then low else low + 1
    | .away => low + 1

/-- The point of the grid `10 ^ k` in the interval that is nearest to the number. -/
def Interval.onGrid (i : Interval) (tie : Tie) (k : Int) : Option Nat :=
  let num := i.num * Nat.pow 10 (-k).toNat
  let den := i.den * Nat.pow 10 k.toNat
  let low := num / den
  let high := low + 1
  match i.holds low k, i.holds high k with
  | true, true => some (tie.nearer low (num - low * den) (high * den - num))
  | true, false => some low
  | false, true => some high
  | false, false => none

/-- The first grid, from coarse to fine, with a point in the interval. -/
def Interval.shortest (i : Interval) (tie : Tie) : Nat → Int → Nat × Int
  | 0, k => ((i.onGrid tie k).getD 0, k)
  | fuel + 1, k =>
    match i.onGrid tie k with
    | some d => (d, k)
    | none => shortest i tie fuel (k - 1)

/-- Moves the zeros at the end of `d` into the exponent. -/
def dropZeros : Nat → Nat → Int → Nat × Int
  | 0, d, k => (d, k)
  | fuel + 1, d, k => if d != 0 && d % 10 == 0 then dropZeros fuel (d / 10) (k + 1) else (d, k)

/-- The decimal `d · 10 ^ k` with the fewest digits that reads back as the absolute value of a
finite number; zero is `0 · 10 ^ 0`. -/
def shortest (tie : Tie) (x : Binary64) : Nat × Int :=
  if x.significand = 0 then (0, 0)
  else
    let i := x.interval
    let (d, k) := i.shortest tie 17 i.leading
    dropZeros 20 d k

/-- How decimals are laid out. -/
structure Layout where
  /-- The point stands inside or behind the digits up to this many digits before it; none when
  there is no bound. -/
  maxBefore : Option Int
  /-- So many zeros may stand between the point and the digits; none when there is no bound. -/
  maxZeros : Option Int
  tie : Tie
  /-- An exponent that is not negative has a plus sign. -/
  plusSign : Bool
  nanText : String
  infinityText : String

/-- Without an exponent, however many zeros that takes; a tie goes away from zero. -/
def Layout.positional : Layout := ⟨none, none, .away, false, "NaN", "inf"⟩

/-- As in data interchange: positional from `1e-5` up to sixteen digits before the point, and with
a signed exponent elsewhere; a tie goes to the even digit. -/
def Layout.interchange : Layout := ⟨some 16, some 4, .toEven, true, "null", "null"⟩

/-- A number in a layout.  A number without a fraction keeps one zero after the point, unless it
is written with an exponent. -/
def render (layout : Layout) (x : Binary64) : String :=
  let sign := if x.isNegative then "-" else ""
  if x.isNaN then layout.nanText
  else if !x.isFinite then sign ++ layout.infinityText
  else
    let (d, k) := x.shortest layout.tie
    let digits := Nat.toDigits 10 d
    let count : Int := digits.length
    let before := count + k
    let fits := match layout.maxBefore with
      | some bound => before ≤ bound
      | none => true
    let near := match layout.maxZeros with
      | some bound => -bound ≤ before
      | none => true
    let body :=
      if d = 0 then ['0', '.', '0']
      else if 0 ≤ k && fits then digits ++ List.replicate k.toNat '0' ++ ['.', '0']
      else if 0 < before && fits then
        digits.take before.toNat ++ '.' :: digits.drop before.toNat
      else if before ≤ 0 && near then
        '0' :: '.' :: (List.replicate (-before).toNat '0' ++ digits)
      else
        let plus := if layout.plusSign && 1 ≤ before then ['+'] else []
        let power := plus ++ (toString (before - 1)).toList
        match digits with
        | [digit] => digit :: 'e' :: power
        | digit :: more => digit :: '.' :: (more ++ 'e' :: power)
        | [] => []
    sign ++ String.ofList body

/-- The number nearest to `± d · 10 ^ k`.  Exponents far outside the format's range are settled
without computing the power. -/
def ofDecimal (negative : Bool) (d : Nat) (k : Int) : Binary64 :=
  let size : Int := (Nat.toDigits 10 d).length
  let x :=
    if d = 0 || size + k < -400 then 0.0
    else if 400 < size + k then toFloat infinity
    else if 0 ≤ k then Float.ofScientific d false k.toNat
    else Float.ofScientific d true (-k).toNat
  ofFloat (if negative then -x else x)

end Binary64

end WarehouseAccess
