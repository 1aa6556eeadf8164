import WarehouseAccess.Json.Syntax
import WarehouseAccess.Number.Digits
import WarehouseAccess.Toml.Document
/-!
# Reading TOML

The grammar of the configuration format, version 1.0.  A document that breaks a rule has no value;
nothing is said about where it does.  Arrays and inline tables nest less than eighty levels deep,
and a dotted key has fewer than eighty parts.
-/

namespace WarehouseAccess

namespace TomlReader

/-- A reader of a text gives what it read and the rest of the text. -/
abbrev Reader (α : Type) := List Char → Option (α × List Char)

/-- The bound that nesting and dotted keys stay below. -/
def maxLevels : Nat := 80

/-- Space and tab. -/
def isGap (c : Char) : Bool := c == ' ' || c == '\t'

/-- The text behind spaces and tabs. -/
def skipGap (l : List Char) : List Char := l.dropWhile isGap

/-- A character that comments and literal strings may hold: no control except the tab. -/
def isPlain (c : Char) : Bool :=
  c == '\t' || (0x20 ≤ c.toNat && c.toNat != 0x7F)

/-- The text behind a line feed, before which a carriage return may stand. -/
def skipNewline : List Char → Option (List Char)
  | '\n' :: rest => some rest
  | '\r' :: '\n' :: rest => some rest
  | _ => none

/-- The text behind a comment, if one starts here. -/
def skipComment : List Char → List Char
  | '#' :: rest => rest.dropWhile isPlain
  | l => l

/-- The text behind what may close a line: blanks, a comment, and the end of line or text. -/
def skipLineEnd (l : List Char) : Option (List Char) :=
  match skipComment (skipGap l) with
  | [] => some []
  | rest => skipNewline rest

/-- The text behind blanks, line ends and comments that close their line. -/
def skipLines : Nat → List Char → Option (List Char)
  | 0, l => some l
  | fuel + 1, l =>
    match skipGap l with
    | '#' :: rest => (skipNewline (rest.dropWhile isPlain)).bind (skipLines fuel)
    | '\n' :: rest => skipLines fuel rest
    | '\r' :: rest => (skipNewline ('\r' :: rest)).bind (skipLines fuel)
    | rest => some rest

/-! ### Strings -/

/-- The character that an escape of a given number of hexadecimal digits spells. -/
def readCodePoint (width : Nat) : Reader Char := fun l => do
  let digits := l.take width
  if digits.length < width then none
  else
    let n ← hexNumber digits
    if h : n.isValidChar then some (Char.ofNatAux n h, l.drop width) else none

/-- An escape behind its backslash. -/
def readEscape : Reader Char
  | 'b' :: rest => some (Char.ofNat 8, rest)
  | 't' :: rest => some ('\t', rest)
  | 'n' :: rest => some ('\n', rest)
  | 'f' :: rest => some (Char.ofNat 12, rest)
  | 'r' :: rest => some ('\r', rest)
  | '"' :: rest => some ('"', rest)
  | '\\' :: rest => some ('\\', rest)
  | 'u' :: rest => readCodePoint 4 rest
  | 'U' :: rest => readCodePoint 8 rest
  | _ => none

/-- A basic string behind its opening quote. -/
def readBasic : Nat → Reader (List Char)
  | 0, _ => none
  | fuel + 1, l =>
    match l with
    | '"' :: rest => some ([], rest)
    | '\\' :: rest => do
      let (c, rest) ← readEscape rest
      let (s, rest) ← readBasic fuel rest
      return (c :: s, rest)
    | c :: rest =>
      if isPlain c then (readBasic fuel rest).map fun (s, rest) => (c :: s, rest) else none
    | [] => none

/-- A literal string behind its opening quote. -/
def readLiteral : Reader (List Char)
  | '\'' :: rest => some ([], rest)
  | c :: rest =>
    if isPlain c then (readLiteral rest).map fun (s, rest) => (c :: s, rest) else none
  | [] => none

/-- The text behind blanks and line ends, at least one line end among them. -/
def skipBlankLines (l : List Char) : Option (List Char) :=
  (skipNewline l).map (go l.length)
where
  /-- Skips blanks and line ends. -/
  go : Nat → List Char → List Char
    | 0, l => l
    | fuel + 1, l =>
      match l with
      | c :: rest =>
        if isGap c then go fuel rest
        else
          match skipNewline (c :: rest) with
          | some rest => go fuel rest
          | none => l
      | [] => []

/-- The quotes that end a string of several lines: three, before which up to two more belong to
the string.  Gives how many belong to it. -/
def readClosing (quote : Char) (l : List Char) : Option (Nat × List Char) :=
  let n := min 5 (l.takeWhile (· == quote)).length
  if 3 ≤ n then some (n - 3, l.drop n) else none

/-- A basic string of several lines behind its opening quotes. -/
def readBasicLines : Nat → Reader (List Char)
  | 0, _ => none
  | fuel + 1, l =>
    let step (c : List Char) (rest : List Char) :=
      (readBasicLines fuel rest).map fun (s, rest) => (c ++ s, rest)
    match l with
    | [] => none
    | '"' :: rest =>
      match readClosing '"' l with
      | some (n, rest) => some (List.replicate n '"', rest)
      | none => step ['"'] rest
    | '\\' :: rest =>
      match skipBlankLines (skipGap rest) with
      | some rest => step [] rest
      | none => (readEscape rest).bind fun (c, rest) => step [c] rest
    | c :: rest =>
      match skipNewline l with
      | some rest => step ['\n'] rest
      | none => if isPlain c then step [c] rest else none

/-- A literal string of several lines behind its opening quotes. -/
def readLiteralLines : Nat → Reader (List Char)
  | 0, _ => none
  | fuel + 1, l =>
    let step (c : Char) (rest : List Char) :=
      (readLiteralLines fuel rest).map fun (s, rest) => (c :: s, rest)
    match l with
    | [] => none
    | '\'' :: rest =>
      match readClosing '\'' l with
      | some (n, rest) => some (List.replicate n '\'', rest)
      | none => step '\'' rest
    | c :: rest =>
      match skipNewline l with
      | some rest => step '\n' rest
      | none => if isPlain c then step c rest else none

/-- A line end directly behind the opening quotes is no part of the string. -/
def skipFirstNewline (l : List Char) : List Char :=
  (skipNewline l).getD l

/-- A string of any of the four kinds. -/
def readString : Reader String
  | '"' :: '"' :: '"' :: rest =>
    (readBasicLines (rest.length + 1) (skipFirstNewline rest)).map fun (s, rest) =>
      (String.ofList s, rest)
  | '\'' :: '\'' :: '\'' :: rest =>
    (readLiteralLines (rest.length + 1) (skipFirstNewline rest)).map fun (s, rest) =>
      (String.ofList s, rest)
  | '"' :: rest =>
    (readBasic (rest.length + 1) rest).map fun (s, rest) => (String.ofList s, rest)
  | '\'' :: rest => (readLiteral rest).map fun (s, rest) => (String.ofList s, rest)
  | _ => none

/-! ### Keys -/

/-- A character of a key without quotes. -/
def isBare (c : Char) : Bool := c.isAlphanum || c == '_' || c == '-'

/-- One part of a dotted key. -/
def readKeyPart : Reader String
  | '"' :: rest =>
    (readBasic (rest.length + 1) rest).map fun (s, rest) => (String.ofList s, rest)
  | '\'' :: rest => (readLiteral rest).map fun (s, rest) => (String.ofList s, rest)
  | l =>
    match l.takeWhile isBare with
    | [] => none
    | word => some (String.ofList word, l.dropWhile isBare)

/-- The parts of a dotted key, with the blanks around them. -/
def readKeyParts : Nat → Reader (List String)
  | 0, _ => none
  | fuel + 1, l => do
    let (part, rest) ← readKeyPart (skipGap l)
    match skipGap rest with
    | '.' :: rest =>
      let (parts, rest) ← readKeyParts fuel rest
      return (part :: parts, rest)
    | rest => return ([part], rest)

/-- A dotted key. -/
def readKey (l : List Char) : Option (List String × List Char) := do
  let (parts, rest) ← readKeyParts (l.length + 1) l
  if parts.length < maxLevels then some (parts, rest) else none

/-! ### Numbers, dates and times -/

/-- Digits in which single underscores may separate groups; at least one digit. -/
def readGrouped (isDigit : Char → Bool) : Reader (List Char)
  | c :: rest => if isDigit c then (go rest).map fun (s, rest) => (c :: s, rest) else none
  | [] => none
where
  /-- The digits behind the first one. -/
  go : Reader (List Char)
    | '_' :: c :: rest =>
      if isDigit c then (go rest).map fun (s, rest) => (c :: s, rest) else none
    | c :: rest =>
      if isDigit c then (go rest).map fun (s, rest) => (c :: s, rest)
      else if c == '_' then none
      else some ([], c :: rest)
    | [] => some ([], [])

/-- An optional sign; true for a minus. -/
def readSign : List Char → Bool × List Char
  | '-' :: rest => (true, rest)
  | '+' :: rest => (false, rest)
  | l => (false, l)

/-- The digits of a decimal integer, which start with a zero only when that is all. -/
def readWhole : Reader (List Char)
  | '0' :: rest => some (['0'], rest)
  | l => readGrouped Char.isDigit l

/-- An integer that 64 bits can hold. -/
def integer? (n : Int) : Option Toml :=
  if -0x8000000000000000 ≤ n && n < 0x8000000000000000 then some (.integer n) else none

/-- The value of digits in a base up to sixteen. -/
def inBase (base : Nat) (digits : List Char) : Nat :=
  digits.foldl (fun n c => base * n + (hexValue c).getD 0) 0

/-- An integer in another base behind its mark. -/
def readInBase (base : Nat) : Reader Toml := fun l => do
  let isDigit (c : Char) := (hexValue c).any (· < base)
  let (digits, rest) ← readGrouped isDigit l
  return (← integer? (inBase base digits), rest)

/-- The exponent of a floating-point number, if one stands here. -/
def readPower (l : List Char) : Option (Int × List Char) :=
  match l with
  | c :: rest =>
    if c == 'e' || c == 'E' then
      let (negative, rest) := readSign rest
      (readGrouped Char.isDigit rest).map fun (digits, rest) =>
        let n : Int := inBase 10 digits
        (if negative then -n else n, rest)
    else some (0, l)
  | [] => some (0, [])

/-- A floating-point number; positive infinity is no value of digits. -/
def float? (negative : Bool) (digits : List Char) (k : Int) : Option Toml :=
  let x := Binary64.ofDecimal negative (inBase 10 digits) k
  if x == Binary64.infinity then none else some (.float x)

/-- A number in decimal behind its sign: an integer, or with point or exponent a floating-point
number. -/
def readDecimal (negative : Bool) : Reader Toml := fun l => do
  let (whole, rest) ← readWhole l
  match rest with
  | '.' :: rest =>
    let (places, rest) ← readGrouped Char.isDigit rest
    let (k, rest) ← readPower rest
    return (← float? negative (whole ++ places) (k - places.length), rest)
  | c :: _ =>
    if c == 'e' || c == 'E' then
      let (k, rest) ← readPower rest
      return (← float? negative whole k, rest)
    else
      let n : Int := inBase 10 whole
      return (← integer? (if negative then -n else n), rest)
  | [] =>
    let n : Int := inBase 10 whole
    return (← integer? (if negative then -n else n), rest)

/-- A number of a given count of digits, in a range. -/
def readField (width lo hi : Nat) : Reader Nat := fun l => do
  let digits := l.take width
  if digits.length < width then none
  else
    let n ← readDigits 0 digits
    if lo ≤ n && n ≤ hi then some (n, l.drop width) else none

/-- The text behind a given character. -/
def skipChar (c : Char) : List Char → Option (List Char)
  | d :: rest => if d == c then some rest else none
  | [] => none

/-- How many days a month has. -/
def daysOfMonth (year month : Nat) : Nat :=
  if month == 2 then
    if year % 4 == 0 && (year % 100 != 0 || year % 400 == 0) then 29 else 28
  else if month == 4 || month == 6 || month == 9 || month == 11 then 30
  else 31

/-- The text behind a date. -/
def skipDate (l : List Char) : Option (List Char) := do
  let (year, rest) ← readField 4 0 9999 l
  let rest ← skipChar '-' rest
  let (month, rest) ← readField 2 1 12 rest
  let rest ← skipChar '-' rest
  let (_, rest) ← readField 2 1 (daysOfMonth year month) rest
  return rest

/-- The text behind the places of a second, if there are any. -/
def skipPlaces : List Char → List Char
  | '.' :: c :: rest => if c.isDigit then rest.dropWhile Char.isDigit else '.' :: c :: rest
  | l => l

/-- The text behind a time of day. -/
def skipTime (l : List Char) : Option (List Char) := do
  let (_, rest) ← readField 2 0 23 l
  let rest ← skipChar ':' rest
  let (_, rest) ← readField 2 0 59 rest
  let rest ← skipChar ':' rest
  let (_, rest) ← readField 2 0 60 rest
  return skipPlaces rest

/-- The text behind an offset from universal time, if one stands here. -/
def skipOffset (l : List Char) : Option (List Char) :=
  match l with
  | c :: rest =>
    if c == 'Z' || c == 'z' then some rest
    else if c == '+' || c == '-' then do
      let (_, rest) ← readField 2 0 23 rest
      let rest ← skipChar ':' rest
      let (_, rest) ← readField 2 0 59 rest
      return rest
    else some l
  | [] => some []

/-- A date, a time or both. -/
def readMoment (l : List Char) : Option (Toml × List Char) := do
  let rest ←
    match skipDate l with
    | some rest =>
      match rest with
      | c :: more =>
        if c == 'T' || c == 't' || c == ' ' then
          match skipTime more with
          | some rest => skipOffset rest
          | none => some rest
        else some rest
      | [] => some []
    | none => skipTime l
  return (.moment (String.ofList (l.take (l.length - rest.length))), rest)

/-- A number, a date or a time. -/
def readNumber (l : List Char) : Option (Toml × List Char) :=
  match readMoment l with
  | some r => some r
  | none =>
    match l with
    | '0' :: 'x' :: rest => readInBase 16 rest
    | '0' :: 'o' :: rest => readInBase 8 rest
    | '0' :: 'b' :: rest => readInBase 2 rest
    | l =>
      let (negative, rest) := readSign l
      match JsonSyntax.expect "inf".toList rest, JsonSyntax.expect "nan".toList rest with
      | some rest, _ =>
        some (.float ⟨if negative then 0xFFF0000000000000 else 0x7FF0000000000000⟩, rest)
      | _, some rest =>
        some (.float ⟨if negative then 0xFFF8000000000000 else 0x7FF8000000000000⟩, rest)
      | none, none => readDecimal negative rest

/-! ### Values -/

mutual

/-- A value with at most `levels` further levels of nesting. -/
def readValue : (fuel levels : Nat) → Reader Toml
  | 0, _, _ => none
  | fuel + 1, levels, l =>
    match l with
    | [] => none
    | c :: rest =>
      if c == '"' || c == '\'' then (readString l).map fun (s, rest) => (.text s, rest)
      else if c == '[' then
        match levels with
        | 0 => none
        | levels + 1 => (readItems fuel levels rest).map fun (items, rest) => (.array items, rest)
      else if c.toNat == 0x7B then
        match levels with
        | 0 => none
        | levels + 1 =>
          (readPairs fuel levels rest).map fun (entries, rest) =>
            (.table (TomlNode.entriesToToml entries), rest)
      else if c == 't' then (JsonSyntax.expect "true".toList l).map (.boolean true, ·)
      else if c == 'f' then (JsonSyntax.expect "false".toList l).map (.boolean false, ·)
      else readNumber l

/-- The items of an array up to its closing bracket; a comma may follow the last one. -/
def readItems : (fuel levels : Nat) → Reader (List Toml)
  | 0, _, _ => none
  | fuel + 1, levels, l => do
    match ← skipLines l.length l with
    | ']' :: rest => return ([], rest)
    | rest =>
      let (item, rest) ← readValue fuel levels rest
      match ← skipLines rest.length rest with
      | ',' :: rest =>
        let (items, rest) ← readItems fuel levels rest
        return (item :: items, rest)
      | ']' :: rest => return ([item], rest)
      | _ => none

/-- The entries of an inline table up to its closing brace. -/
def readPairs (fuel levels : Nat) (l : List Char) :
    Option (TomlNode.Entries × List Char) :=
  match fuel with
  | 0 => none
  | fuel + 1 =>
    match skipGap l with
    | c :: rest =>
      if c.toNat == 0x7D then some ([], rest) else readMorePairs fuel levels [] (c :: rest)
    | [] => none

/-- At least one more entry of an inline table. -/
def readMorePairs (fuel levels : Nat) (entries : TomlNode.Entries) (l : List Char) :
    Option (TomlNode.Entries × List Char) :=
  match fuel with
  | 0 => none
  | fuel + 1 => do
    let (key, rest) ← readKey l
    let rest ← skipChar '=' rest
    let (value, rest) ← readValue fuel levels (skipGap rest)
    let entries ← TomlNode.put value false false key entries
    match skipGap rest with
    | c :: rest =>
      if c == ',' then readMorePairs fuel levels entries rest
      else if c.toNat == 0x7D then some (entries, rest)
      else none
    | [] => none

end

/-! ### Documents -/

/-- A document in the making and the path of the table that is open. -/
structure Progress where
  root : TomlNode.Entries
  current : List String

/-- One line that opens a table. -/
def readHeader (p : Progress) (l : List Char) : Option (Progress × List Char) := do
  let (listed, inside) := match l with
    | '[' :: rest => (true, rest)
    | rest => (false, rest)
  let (path, rest) ← readKey inside
  let rest ← skipChar ']' rest
  let rest ← if listed then skipChar ']' rest else some rest
  let rest ← skipLineEnd rest
  let key ← path.getLast?
  let root ← if listed then TomlNode.openListed path.dropLast key p.root
    else TomlNode.openTable path.dropLast key p.root
  return (⟨root, path⟩, rest)

/-- One line that puts a value under a key. -/
def readPair (p : Progress) (l : List Char) : Option (Progress × List Char) := do
  let (key, rest) ← readKey l
  let rest ← skipChar '=' rest
  let rest := skipGap rest
  let (value, rest) ← readValue (2 * rest.length + 2) (maxLevels - 1) rest
  let rest ← skipLineEnd rest
  let root ← TomlNode.atPath (TomlNode.put value false false key) p.current p.root
  return (⟨root, p.current⟩, rest)

/-- The lines of a document. -/
def readLines : Nat → Progress → List Char → Option Progress
  | 0, _, _ => none
  | fuel + 1, p, l =>
    match skipGap l with
    | [] => some p
    | '#' :: rest => (skipLineEnd ('#' :: rest)).bind (readLines fuel p)
    | '[' :: rest => (readHeader p rest).bind fun (p, rest) => readLines fuel p rest
    | rest =>
      match skipNewline rest with
      | some rest => readLines fuel p rest
      | none => (readPair p rest).bind fun (p, rest) => readLines fuel p rest

end TomlReader

/-- The entries of the top table of a document; none for a text that is no document.  A byte order
mark may stand in front. -/
def Toml.parse (s : String) : Option (List (String × Toml)) :=
  let l := match s.toList with
    | c :: rest => if c.toNat == 0xFEFF then rest else c :: rest
    | [] => []
  (TomlReader.readLines (l.length + 1) ⟨[], []⟩ l).map fun p => TomlNode.entriesToToml p.root

end WarehouseAccess
