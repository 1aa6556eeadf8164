import WarehouseAccess.Number.Digits
import WarehouseAccess.Text.Quoted
/-!
# Writing TOML

One line `key = value` for each setting.  A text is written in the plainest of five forms that can
hold it: a basic string without escapes, a literal string, a basic or a literal string of several
lines without escapes, and else a basic string with escapes.
-/

namespace WarehouseAccess

namespace TomlPrinter

/-- The length of the longest run of a character. -/
def longestRun (c : Char) (l : List Char) : Nat :=
  (l.foldl (fun (best, run) d =>
    if d == c then (max best (run + 1), run + 1) else (best, 0)) (0, 0)).1

/-- The text has a control character that only an escape can write. -/
def needsEscape (l : List Char) : Bool :=
  l.any fun c => (c.toNat < 0x20 && c != '\t' && c != '\n') || c.toNat == 0x7F

/-- A number as four hexadecimal digits in upper case. -/
def upperHex4 (n : Nat) : List Char :=
  let digits := (Nat.toDigits 16 n).map Char.toUpper
  List.replicate (4 - digits.length) '0' ++ digits

/-- The characters of a basic string.  At most `allowed` quotes in a row stay as they are, of which
`run` went before; line ends stay only in a string of several lines. -/
def escapeBasic (lines : Bool) (allowed run : Nat) : List Char → List Char
  | [] => []
  | c :: rest =>
    if c == '"' then
      if allowed < run + 1 then '\\' :: '"' :: escapeBasic lines allowed 0 rest
      else '"' :: escapeBasic lines allowed (run + 1) rest
    else
      let written :=
        if c.toNat == 8 then ['\\', 'b']
        else if c == '\t' then ['\\', 't']
        else if c == '\n' then if lines then ['\n'] else ['\\', 'n']
        else if c.toNat == 12 then ['\\', 'f']
        else if c == '\r' then ['\\', 'r']
        else if c == '\\' then ['\\', '\\']
        else if c.toNat < 0x20 || c.toNat == 0x7F then '\\' :: 'u' :: upperHex4 c.toNat
        else [c]
      written ++ escapeBasic lines allowed 0 rest

/-- A text between quotes of one line. -/
def basic (l : List Char) : List Char :=
  '"' :: (escapeBasic false 0 0 l ++ ['"'])

/-- A line end after the opening quotes, when the text has several lines. -/
def firstNewline (l : List Char) : List Char :=
  if l.contains '\n' then ['\n'] else []

/-- A text between quotes of several lines. -/
def basicLines (l : List Char) : List Char :=
  ['"', '"', '"'] ++ firstNewline l ++ escapeBasic true 2 0 l ++ ['"', '"', '"']

/-- A text between single quotes. -/
def literal (l : List Char) : List Char :=
  '\'' :: (l ++ ['\''])

/-- A text between single quotes of several lines. -/
def literalLines (l : List Char) : List Char :=
  ['\'', '\'', '\''] ++ firstNewline l ++ l ++ ['\'', '\'', '\'']

/-- A text in the plainest form that can hold it. -/
def renderText (s : String) : List Char :=
  let l := s.toList
  let escapes := needsEscape l
  let backslash := l.contains '\\'
  let newline := l.contains '\n'
  let single := longestRun '\'' l
  let double := longestRun '"' l
  if !escapes && !backslash && double == 0 && !newline then basic l
  else if !escapes && single == 0 && !newline then literal l
  else if !escapes && !backslash && double ≤ 2 then basicLines l
  else if !escapes && single ≤ 2 then literalLines l
  else if newline then basicLines l
  else basic l

/-- One setting on a line of its own. -/
def line (key : String) (value : List Char) : List Char :=
  key.toList ++ [' ', '=', ' '] ++ value ++ ['\n']

end TomlPrinter

end WarehouseAccess
