import WarehouseAccess.Number.Binary64
import WarehouseAccess.Number.Digits
import WarehouseAccess.Text.Quoted
/-!
# JSON values

Values of the data-interchange format and their text.  The entries of an object are kept sorted by
key and each key occurs once, so equal objects are equal values and have one text.

Text is compact or indented.  Indented text has one item or entry to a line, each level two blanks
deeper than the one around it; an empty array or object stays on its line.
-/

namespace WarehouseAccess

/-- A JSON value.  Numbers without point and exponent are integers of 64 bits, signed or unsigned;
all others are binary floating-point numbers. -/
inductive Json where
  | null
  | bool (b : Bool)
  | int (n : Int)
  | float (x : Binary64)
  | text (s : String)
  | array (items : List Json)
  | object (entries : List (String × Json))
deriving Inhabited, Repr

namespace Json

mutual

/-- Whether two values are equal. -/
def decEq : (j k : Json) → Decidable (j = k)
  | .null, k => match k with
    | .null => isTrue rfl
    | .bool _ | .int _ | .float _ | .text _ | .array _ | .object _ => isFalse nofun
  | .bool b, k => match k with
    | .bool c => decidable_of_iff (b = c) (by simp)
    | .null | .int _ | .float _ | .text _ | .array _ | .object _ => isFalse nofun
  | .int n, k => match k with
    | .int m => decidable_of_iff (n = m) (by simp)
    | .null | .bool _ | .float _ | .text _ | .array _ | .object _ => isFalse nofun
  | .float x, k => match k with
    | .float y => decidable_of_iff (x = y) (by simp)
    | .null | .bool _ | .int _ | .text _ | .array _ | .object _ => isFalse nofun
  | .text s, k => match k with
    | .text t => decidable_of_iff (s = t) (by simp)
    | .null | .bool _ | .int _ | .float _ | .array _ | .object _ => isFalse nofun
  | .array l, k => match k with
    | .array m => @decidable_of_iff _ (l = m) (by simp) (decEqItems l m)
    | .null | .bool _ | .int _ | .float _ | .text _ | .object _ => isFalse nofun
  | .object l, k => match k with
    | .object m => @decidable_of_iff _ (l = m) (by simp) (decEqEntries l m)
    | .null | .bool _ | .int _ | .float _ | .text _ | .array _ => isFalse nofun

/-- Whether two lists of items are equal. -/
def decEqItems : (l m : List Json) → Decidable (l = m)
  | [], [] => isTrue rfl
  | [], _ :: _ | _ :: _, [] => isFalse nofun
  | j :: l, k :: m =>
    have := decEq j k
    have := decEqItems l m
    decidable_of_iff (j = k ∧ l = m) (by simp)

/-- Whether two lists of entries are equal. -/
def decEqEntries : (l m : List (String × Json)) → Decidable (l = m)
  | [], [] => isTrue rfl
  | [], _ :: _ | _ :: _, [] => isFalse nofun
  | (s, j) :: l, (t, k) :: m =>
    have := decEq j k
    have := decEqEntries l m
    decidable_of_iff ((s = t ∧ j = k) ∧ l = m) (by simp)

end

instance : DecidableEq Json := decEq

/-- Puts an entry into a list sorted by key; an entry of the same key is replaced. -/
def insertEntry {α : Type} (key : String) (value : α) : List (String × α) → List (String × α)
  | [] => [(key, value)]
  | (k, v) :: rest =>
    if key == k then (key, value) :: rest
    else if key < k then (key, value) :: (k, v) :: rest
    else (k, v) :: insertEntry key value rest

/-- The entries sorted by key; of entries with one key the last stays. -/
def sortEntries {α : Type} (entries : List (String × α)) : List (String × α) :=
  entries.foldl (fun sorted e => insertEntry e.1 e.2 sorted) []

/-- An object with the given entries. -/
def ofEntries (entries : List (String × Json)) : Json :=
  .object (sortEntries entries)

/-- The value under a key of an object; none for a missing key and for what is no object. -/
def get? (key : String) : Json → Option Json
  | .object entries => entries.lookup key
  | _ => none

/-- The text of a text value. -/
def asText : Json → Option String
  | .text s => some s
  | _ => none

/-- The text under a key of an object. -/
def textAt (key : String) (j : Json) : Option String :=
  (j.get? key).bind asText

/-- The items of an array. -/
def asArray : Json → Option (List Json)
  | .array items => some items
  | _ => none

/-- A character of a JSON text value: only quotes, backslashes and controls are escaped. -/
def escapeChar (c : Char) : List Char :=
  if c == '"' then ['\\', '"']
  else if c == '\\' then ['\\', '\\']
  else if c == '\n' then ['\\', 'n']
  else if c == '\r' then ['\\', 'r']
  else if c == '\t' then ['\\', 't']
  else if c.toNat == 8 then ['\\', 'b']
  else if c.toNat == 12 then ['\\', 'f']
  else if c.toNat < 0x20 then
    ['\\', 'u', '0', '0', hexDigit (c.toNat / 16), hexDigit (c.toNat % 16)]
  else [c]

/-- A text as a JSON string. -/
def renderText (s : String) : List Char :=
  '"' :: (s.toList.flatMap escapeChar ++ ['"'])

mutual

/-- The compact text of a value. -/
def renderChars : Json → List Char
  | .null => "null".toList
  | .bool b => (if b then "true" else "false").toList
  | .int n => (toString n).toList
  | .float x => (x.render .interchange).toList
  | .text s => renderText s
  | .array items => '[' :: renderItems items
  | .object entries => Char.ofNat 0x7B :: renderEntries entries

/-- The items of an array, separated by commas, up to the closing bracket. -/
def renderItems : List Json → List Char
  | [] => [']']
  | [j] => renderChars j ++ [']']
  | j :: rest => renderChars j ++ ',' :: renderItems rest

/-- The entries of an object, separated by commas, up to the closing brace. -/
def renderEntries : List (String × Json) → List Char
  | [] => [Char.ofNat 0x7D]
  | [(k, j)] => renderText k ++ ':' :: (renderChars j ++ [Char.ofNat 0x7D])
  | (k, j) :: rest => renderText k ++ ':' :: (renderChars j ++ ',' :: renderEntries rest)

end

/-- The compact text of a value, with sorted keys. -/
def render (j : Json) : String :=
  String.ofList j.renderChars

end Json

/-! ### Indented text -/

namespace Json

/-- A new line at a level. -/
def newLine (level : Nat) : List Char := '\n' :: List.replicate (2 * level) ' '

mutual

/-- The text of a value at a level. -/
def indented (level : Nat) : Json → List Char
  | .array [] => ['[', ']']
  | .array items => '[' :: (indentedItems (level + 1) items ++ newLine level ++ [']'])
  | .object [] => [Char.ofNat 0x7B, Char.ofNat 0x7D]
  | .object entries =>
    Char.ofNat 0x7B ::
      (indentedEntries (level + 1) entries ++ newLine level ++ [Char.ofNat 0x7D])
  | j => j.renderChars

/-- Items at a level, each on a line of its own. -/
def indentedItems (level : Nat) : List Json → List Char
  | [] => []
  | [j] => newLine level ++ indented level j
  | j :: rest => newLine level ++ indented level j ++ ',' :: indentedItems level rest

/-- Entries at a level, each on a line of its own. -/
def indentedEntries (level : Nat) : List (String × Json) → List Char
  | [] => []
  | [(k, j)] => newLine level ++ renderText k ++ ':' :: ' ' :: indented level j
  | (k, j) :: rest =>
    newLine level ++ renderText k ++ ':' :: ' ' :: indented level j ++
      ',' :: indentedEntries level rest

end

end Json

end WarehouseAccess
