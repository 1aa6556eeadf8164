/-!
# Digits and words

Numbers as text and as bytes: decimal integers as settings and headers spell them, numbers padded
with zeros, numbers of base sixteen, which are written in lower case and read in either, and words
of a few bytes, least significant byte first.
-/

namespace WarehouseAccess

/-! ### Decimal numbers -/

/-- The value of a decimal digit. -/
def digitValue (c : Char) : Option Nat :=
  if '0' ≤ c && c ≤ '9' then some (c.toNat - 48) else none

/-- The number that decimal digits continue from `n`; none when another character occurs. -/
def readDigits (n : Nat) : List Char → Option Nat
  | [] => some n
  | c :: rest =>
    match digitValue c with
    | some d => readDigits (10 * n + d) rest
    | none => none

/-- An integer below `bound`, with at least one digit and an optional plus sign. -/
def readUnsigned (bound : Nat) (s : String) : Option Nat :=
  let digits := match s.toList with
    | '+' :: rest => rest
    | l => l
  if digits.isEmpty then none
  else
    match readDigits 0 digits with
    | some n => if n < bound then some n else none
    | none => none

/-- The decimal digits of a number. -/
def decimalDigits (n : Nat) : List Char :=
  Nat.toDigits 10 n

/-- A number in decimal with zeros in front up to the given width. -/
def zeroPadded (width n : Nat) : List Char :=
  let digits := decimalDigits n
  List.replicate (width - digits.length) '0' ++ digits

/-! ### Base sixteen -/

/-- A digit of base sixteen. -/
def hexDigit (n : Nat) : Char :=
  if n < 10 then Char.ofNat (48 + n) else Char.ofNat (87 + n)

/-- The digits of a number, without leading zeros. -/
def hexDigits (n : Nat) : List Char :=
  Nat.toDigits 16 n

/-- The value of a digit. -/
def hexValue (c : Char) : Option Nat :=
  if '0' ≤ c && c ≤ '9' then some (c.toNat - 48)
  else if 'a' ≤ c && c ≤ 'f' then some (c.toNat - 87)
  else if 'A' ≤ c && c ≤ 'F' then some (c.toNat - 55)
  else none

/-- The number that digits spell. -/
def hexNumber (l : List Char) : Option Nat :=
  l.foldlM (fun n c => (hexValue c).map (16 * n + ·)) 0

/-- The digits of bytes, two for each. -/
def hexOfBytes (bytes : List UInt8) : String :=
  String.ofList (bytes.flatMap fun b => [hexDigit (b.toNat / 16), hexDigit (b.toNat % 16)])

/-- The bytes that pairs of digits spell; a lone digit at the end counts for nothing. -/
def bytesOfHex (s : String) : List UInt8 :=
  pairs s.toList
where
  /-- The bytes of a list of digits. -/
  pairs : List Char → List UInt8
    | a :: b :: rest => (((hexValue a).getD 0) * 16 + (hexValue b).getD 0).toUInt8 :: pairs rest
    | _ => []

/-! ### Words -/

/-- The low 32 bits of a number as four bytes, least significant first. -/
def littleEndian32 (n : Nat) : List UInt8 :=
  [n.toUInt8, (n / 0x100).toUInt8, (n / 0x10000).toUInt8, (n / 0x1000000).toUInt8]

/-- Two bytes, least significant first, as an unsigned number. -/
def word16 (a b : UInt8) : Nat := a.toNat + 0x100 * b.toNat

/-- Four bytes, least significant first, as an unsigned number. -/
def word32 (a b c d : UInt8) : Nat :=
  a.toNat + 0x100 * b.toNat + 0x10000 * c.toNat + 0x1000000 * d.toNat

/-- An unsigned number of so many bits as the signed number of the same bits. -/
def signed (bits n : Nat) : Int :=
  if n < Nat.pow 2 (bits - 1) then n else (n : Int) - Nat.pow 2 bits

/-- A signed number as the unsigned number of the same bits, so many of them. -/
def unsigned (bits : Nat) (n : Int) : Nat := (n % (Nat.pow 2 bits : Nat)).toNat

end WarehouseAccess
