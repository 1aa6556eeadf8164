/-!
# Trimming and masking

What is taken off a text and what is put in its place.  The white space that settings may be padded
with is every character with the `White_Space` property, of which there are twenty-five; `trim`
takes it off both ends of a text.  `maskSecret` replaces every occurrence of a secret.  Occurrences
are taken from the left and do not overlap: after one is found the search goes on behind it.
-/

namespace WarehouseAccess

/-! ### Blanks -/

/-- A character is blank when it has the `White_Space` property. -/
def isBlank (c : Char) : Bool :=
  let n := c.toNat
  (9 ≤ n && n ≤ 13) || n == 0x20 || n == 0x85 || n == 0xA0 || n == 0x1680 ||
    (0x2000 ≤ n && n ≤ 0x200A) || n == 0x2028 || n == 0x2029 || n == 0x202F || n == 0x205F ||
    n == 0x3000

/-- Drops the longest final part of a list whose members all satisfy `p`. -/
def dropTrailing {α : Type} (p : α → Bool) (l : List α) : List α :=
  (l.reverse.dropWhile p).reverse

/-- Drops the longest initial and the longest final part whose members all satisfy `p`. -/
def dropAround {α : Type} (p : α → Bool) (l : List α) : List α :=
  dropTrailing p (l.dropWhile p)

/-- A text without the blanks at its ends. -/
def trim (s : String) : String :=
  String.ofList (dropAround isBlank s.toList)

/-- A text without the given character at its end, however often it stands there. -/
def dropFinal (c : Char) (s : String) : String :=
  String.ofList (dropTrailing (· == c) s.toList)

/-- A text of blanks only, the empty text included. -/
def isBlankText (s : String) : Bool :=
  s.toList.all isBlank

/-! ### Masks -/

/-- Replaces the leftmost, non-overlapping occurrences of `word`; `skip` characters belong to the
occurrence that was replaced last. -/
def substituteFrom (word new : List Char) (skip : Nat) : List Char → List Char
  | [] => []
  | c :: rest =>
    match skip with
    | skip + 1 => substituteFrom word new skip rest
    | 0 =>
      if word.isPrefixOf (c :: rest) then new ++ substituteFrom word new (word.length - 1) rest
      else c :: substituteFrom word new 0 rest

/-- The text that stands for a secret. -/
def mask : List Char := ['*', '*', '*']

/-- A text with the occurrences of a secret masked; without a secret, or with an empty one, the
text is unchanged. -/
def maskSecret (text : String) (secret : Option String) : String :=
  match secret with
  | none => text
  | some word =>
    if word.toList.isEmpty then text
    else String.ofList (substituteFrom word.toList mask 0 text.toList)

end WarehouseAccess
