import WarehouseAccess.Json.Basic
/-!
# JSON texts

What a JSON text spells, before its meaning is taken: numbers by their digits, entries in the order
of the text and repeated keys side by side.  A reader that looks for a few fields works on this
form, since what it passes over need be well-formed only.  `JsonSyntax.toJson?` takes the meaning of
a whole text and refuses what has none: nesting above 127 levels, numbers out of range, and
escapes that spell half a character.
-/

namespace WarehouseAccess

/-- A number as it is spelled.  The digits of the integer part start with a zero only when that is
all of them. -/
structure JsonNumber where
  negative : Bool
  whole : List Char
  /-- The digits behind the point. -/
  fraction : Option (List Char)
  /-- The exponent: whether it is negative, and its digits. -/
  exponent : Option (Bool × List Char)
deriving Repr

/-- What a JSON text spells. -/
inductive JsonSyntax where
  | null
  | bool (b : Bool)
  | number (n : JsonNumber)
  /-- None for a string with an escape that spells half of a surrogate pair. -/
  | text (s : Option String)
  | array (items : List JsonSyntax)
  | object (entries : List (Option String × JsonSyntax))
deriving Repr

namespace JsonSyntax

/-- White space between the parts of a text. -/
def isSpace (c : Char) : Bool :=
  c == ' ' || c == '\n' || c == '\r' || c == '\t'

/-- The text behind white space. -/
def skipSpace (l : List Char) : List Char :=
  l.dropWhile isSpace

/-- One unit of a string: a character, or a number below `2 ^ 16` from an escape. -/
inductive TextUnit where
  | char (c : Char)
  | code (n : Nat)

/-- The units of a string up to the closing quote, and what follows it. -/
def readUnits : List Char → Option (List TextUnit × List Char)
  | [] => none
  | '"' :: rest => some ([], rest)
  | '\\' :: 'u' :: a :: b :: c :: d :: rest => do
    let n ← hexNumber [a, b, c, d]
    let (units, rest) ← readUnits rest
    return (.code n :: units, rest)
  | '\\' :: e :: rest => do
    let c ← match e with
      | '"' => some '"'
      | '\\' => some '\\'
      | '/' => some '/'
      | 'b' => some (Char.ofNat 8)
      | 'f' => some (Char.ofNat 12)
      | 'n' => some '\n'
      | 'r' => some '\r'
      | 't' => some '\t'
      | _ => none
    let (units, rest) ← readUnits rest
    return (.char c :: units, rest)
  | c :: rest => do
    if c.toNat < 0x20 then none
    else
      let (units, rest) ← readUnits rest
      return (.char c :: units, rest)

/-- The characters that units spell: a high surrogate joins with the low one behind it, and
neither occurs alone. -/
def joinUnits : List TextUnit → Option (List Char)
  | [] => some []
  | .char c :: rest => (joinUnits rest).map (c :: ·)
  | .code n :: rest =>
    if 0xD800 ≤ n && n < 0xDC00 then
      match rest with
      | .code low :: rest =>
        if 0xDC00 ≤ low && low < 0xE000 then
          (joinUnits rest).map (Char.ofNat (0x10000 + (n - 0xD800) * 0x400 + (low - 0xDC00)) :: ·)
        else none
      | _ => none
    else if 0xDC00 ≤ n && n < 0xE000 then none
    else (joinUnits rest).map (Char.ofNat n :: ·)

/-- A string behind its opening quote. -/
def readText (l : List Char) : Option (Option String × List Char) :=
  (readUnits l).map fun (units, rest) => ((joinUnits units).map String.ofList, rest)

/-- The digits at the start of a text, at least one. -/
def readSomeDigits (l : List Char) : Option (List Char × List Char) :=
  match l.takeWhile Char.isDigit with
  | [] => none
  | digits => some (digits, l.dropWhile Char.isDigit)

/-- A number behind its sign. -/
def readNumber (negative : Bool) (l : List Char) : Option (JsonNumber × List Char) := do
  let (whole, rest) ← match l with
    | '0' :: rest => if rest.head?.any Char.isDigit then none else some (['0'], rest)
    | l => readSomeDigits l
  let (fraction, rest) ← match rest with
    | '.' :: rest => (readSomeDigits rest).map fun (digits, rest) => (some digits, rest)
    | rest => some (none, rest)
  let power (negative : Bool) (l : List Char) :=
    (readSomeDigits l).map fun (digits, rest) => (some (negative, digits), rest)
  let (exponent, rest) ← match rest with
    | e :: rest =>
      if e == 'e' || e == 'E' then
        match rest with
        | '+' :: rest => power false rest
        | '-' :: rest => power true rest
        | rest => power false rest
      else some (none, e :: rest)
    | [] => some (none, [])
  return (⟨negative, whole, fraction, exponent⟩, rest)

/-- The rest of a text behind a word. -/
def expect (word : List Char) (l : List Char) : Option (List Char) :=
  if word.isPrefixOf l then some (l.drop word.length) else none

mutual

/-- A value at the start of a text, white space before it allowed, and what follows.  Every nested
value is shorter than the text, so the length of the text is fuel enough. -/
def readValue : Nat → List Char → Option (JsonSyntax × List Char)
  | 0, _ => none
  | fuel + 1, l =>
    match skipSpace l with
    | [] => none
    | c :: rest =>
      if c == 'n' then (expect "ull".toList rest).map (.null, ·)
      else if c == 't' then (expect "rue".toList rest).map (.bool true, ·)
      else if c == 'f' then (expect "alse".toList rest).map (.bool false, ·)
      else if c == '"' then (readText rest).map fun (s, rest) => (.text s, rest)
      else if c == '-' then (readNumber true rest).map fun (n, rest) => (.number n, rest)
      else if c.isDigit then
        (readNumber false (c :: rest)).map fun (n, rest) => (.number n, rest)
      else if c == '[' then
        match skipSpace rest with
        | ']' :: rest => some (.array [], rest)
        | rest => (readItems fuel rest).map fun (items, rest) => (.array items, rest)
      else if c.toNat == 0x7B then
        match skipSpace rest with
        | [] => none
        | d :: rest =>
          if d.toNat == 0x7D then some (.object [], rest)
          else (readEntries fuel (d :: rest)).map fun (entries, rest) => (.object entries, rest)
      else none

/-- The items of an array up to its closing bracket. -/
def readItems : Nat → List Char → Option (List JsonSyntax × List Char)
  | 0, _ => none
  | fuel + 1, l => do
    let (item, rest) ← readValue fuel l
    match skipSpace rest with
    | ',' :: rest =>
      let (items, rest) ← readItems fuel rest
      return (item :: items, rest)
    | ']' :: rest => return ([item], rest)
    | _ => none

/-- The entries of an object up to its closing brace. -/
def readEntries : Nat → List Char → Option (List (Option String × JsonSyntax) × List Char)
  | 0, _ => none
  | fuel + 1, l => do
    let (key, rest) ← match skipSpace l with
      | '"' :: rest => readText rest
      | _ => none
    let rest ← match skipSpace rest with
      | ':' :: rest => some rest
      | _ => none
    let (value, rest) ← readValue fuel rest
    match skipSpace rest with
    | [] => none
    | c :: rest =>
      if c == ',' then
        let (entries, rest) ← readEntries fuel rest
        return ((key, value) :: entries, rest)
      else if c.toNat == 0x7D then return ([(key, value)], rest)
      else none

end

/-- What a text spells; none for a text that is not JSON. -/
def read (s : String) : Option JsonSyntax :=
  let l := s.toList
  match readValue (2 * l.length + 2) l with
  | some (v, rest) => if (skipSpace rest).isEmpty then some v else none
  | none => none

end JsonSyntax

namespace JsonNumber

/-- Significant digits taken into a 64-bit number as far as they fit: the number, and how many
digits were left over. -/
def gather (significand : Nat) : List Char → Nat × Nat
  | [] => (significand, 0)
  | c :: rest =>
    let next := significand * 10 + (c.toNat - 48)
    if next < 0x10000000000000000 then gather next rest else (significand, rest.length + 1)

/-- Scales a significand by a power of ten in floating-point arithmetic, with powers up to the
greatest in the format; none for a number out of range. -/
def scale : Nat → Float → Int → Option Float
  | 0, x, _ => some x
  | fuel + 1, x, k =>
    if k.natAbs ≤ 308 then
      let power := Float.ofScientific 1 false k.natAbs
      if 0 ≤ k then
        let y := x * power
        if y.isInf then none else some y
      else some (x / power)
    else if x == 0.0 then some x
    else if 0 ≤ k then none
    else scale fuel (x / 1e308) (k + 308)

/-- The magnitude of a number with point or exponent, or of an integer too long for 64 bits. -/
def magnitude (n : JsonNumber) : Option Float :=
  let (significand, left) := gather 0 n.whole
  let (significand, places) :=
    match n.fraction with
    | none => (significand, 0)
    | some digits =>
      let (s, unread) := gather significand digits
      (s, digits.length - unread)
  let start : Int := (left : Int) - places
  match n.exponent with
  | none => scale 8 significand.toUInt64.toFloat start
  | some (negative, digits) =>
    match readDigits 0 digits with
    | none => none
    | some e =>
      if e < 0x80000000 then
        let k := if negative then start - e else start + e
        if k < -5000 then some 0.0 else scale 20 significand.toUInt64.toFloat k
      else if significand != 0 && !negative then none
      else some 0.0

/-- The value of a number.  Without point and exponent it is an integer if 64 bits can hold it,
except that minus zero is a floating-point number. -/
def toJson? (n : JsonNumber) : Option Json :=
  let asFloat := n.magnitude.map fun x =>
    Json.float (.ofFloat (if n.negative then -x else x))
  match n.fraction, n.exponent, readDigits 0 n.whole with
  | none, none, some m =>
    if n.negative then
      if 0 < m && m ≤ 0x8000000000000000 then some (.int (-(m : Int))) else asFloat
    else if m < 0x10000000000000000 then some (.int m) else asFloat
  | _, _, _ => asFloat

end JsonNumber

namespace JsonSyntax

mutual

/-- The value that a text spells, with at most `depth` levels of nesting. -/
def toJsonWithin (depth : Nat) : JsonSyntax → Option Json
  | .null => some .null
  | .bool b => some (.bool b)
  | .number n => n.toJson?
  | .text s => s.map .text
  | .array items =>
    match depth with
    | 0 => none
    | depth + 1 => (itemsWithin depth items).map .array
  | .object entries =>
    match depth with
    | 0 => none
    | depth + 1 => (entriesWithin depth entries).map .ofEntries

/-- The values of the items of an array. -/
def itemsWithin (depth : Nat) : List JsonSyntax → Option (List Json)
  | [] => some []
  | v :: rest => do return (← toJsonWithin depth v) :: (← itemsWithin depth rest)

/-- The values of the entries of an object. -/
def entriesWithin (depth : Nat) :
    List (Option String × JsonSyntax) → Option (List (String × Json))
  | [] => some []
  | (key, v) :: rest => do
    return (← key, ← toJsonWithin depth v) :: (← entriesWithin depth rest)

end

/-- The deepest nesting that is read. -/
def maxDepth : Nat := 127

/-- The value that a text spells. -/
def toJson? (v : JsonSyntax) : Option Json :=
  v.toJsonWithin maxDepth

end JsonSyntax

/-- Reads a JSON text. -/
def Json.parse (s : String) : Option Json :=
  (JsonSyntax.read s).bind JsonSyntax.toJson?

end WarehouseAccess
