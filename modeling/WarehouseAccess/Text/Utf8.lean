/-!
# UTF-8

Texts as bytes and bytes as texts.  `encodeUtf8` writes a text; `decodeUtf8` reads one or reports
where the first fault lies, and `decodeUtf8Lossy` puts a replacement character for each fault.

A fault is measured the way the Unicode standard recommends: it is the longest sequence of bytes
that some character starts with, cut off by the byte that rules this character out, or a single
byte with which no character starts.
-/

namespace WarehouseAccess

/-- The bytes of a text. -/
def encodeUtf8 (s : String) : List UInt8 :=
  s.toList.flatMap String.utf8EncodeChar

/-- What stands at the start of a sequence of bytes. -/
inductive Utf8Head where
  /-- A character of so many bytes. -/
  | char (size : Nat)
  /-- So many bytes that no character starts with, whatever follows. -/
  | broken (size : Nat)
  /-- So many bytes that a character starts with, and then the end. -/
  | cutOff (size : Nat)
deriving DecidableEq, Repr

/-- How many bytes follow a first byte, and the range that the next byte has to lie in. -/
def utf8Lead (b : UInt8) : Option (Nat × UInt8 × UInt8) :=
  if b < 0x80 then some (0, 0x80, 0xBF)
  else if 0xC2 ≤ b && b ≤ 0xDF then some (1, 0x80, 0xBF)
  else if b == 0xE0 then some (2, 0xA0, 0xBF)
  else if b == 0xED then some (2, 0x80, 0x9F)
  else if 0xE1 ≤ b && b ≤ 0xEF then some (2, 0x80, 0xBF)
  else if b == 0xF0 then some (3, 0x90, 0xBF)
  else if 0xF1 ≤ b && b ≤ 0xF3 then some (3, 0x80, 0xBF)
  else if b == 0xF4 then some (3, 0x80, 0x8F)
  else none

/-- Reads `owed` more bytes of a character of which `seen` were read; the next lies in `lo..hi`. -/
def utf8Tail (owed seen : Nat) (lo hi : UInt8) : List UInt8 → Utf8Head
  | [] => if owed = 0 then .char seen else .cutOff seen
  | b :: rest =>
    match owed with
    | 0 => .char seen
    | owed + 1 =>
      if lo ≤ b && b ≤ hi then utf8Tail owed (seen + 1) 0x80 0xBF rest else .broken seen

/-- Reads what stands at the start of a nonempty sequence of bytes. -/
def utf8Head (b : UInt8) (rest : List UInt8) : Utf8Head :=
  match utf8Lead b with
  | some (owed, lo, hi) => utf8Tail owed 1 lo hi rest
  | none => .broken 1

/-- The first place where bytes are not UTF-8. -/
structure Utf8Fault where
  /-- How many bytes before it are UTF-8. -/
  index : Nat
  /-- How many bytes are wrong; none when the text ends inside a character. -/
  size : Option Nat
deriving DecidableEq, Repr

/-- The wording of a fault. -/
def Utf8Fault.message (f : Utf8Fault) : String :=
  match f.size with
  | some n => s!"invalid utf-8 sequence of {n} bytes from index {f.index}"
  | none => s!"incomplete utf-8 byte sequence from index {f.index}"

/-- The first fault of bytes of which `index` went before; `skip` of them belong to a character
that was read already. -/
def firstUtf8Fault (index skip : Nat) : List UInt8 → Option Utf8Fault
  | [] => none
  | b :: rest =>
    match skip with
    | skip + 1 => firstUtf8Fault (index + 1) skip rest
    | 0 =>
      match utf8Head b rest with
      | .char n => firstUtf8Fault (index + 1) (n - 1) rest
      | .broken n => some ⟨index, some n⟩
      | .cutOff _ => some ⟨index, none⟩

/-- The text that the bytes encode, or the first place where they encode none. -/
def decodeUtf8 (bytes : List UInt8) : Except Utf8Fault String :=
  match String.fromUTF8? ⟨bytes.toArray⟩ with
  | some s => .ok s
  | none => .error ((firstUtf8Fault 0 0 bytes).getD ⟨0, none⟩)

/-- The bytes with each fault replaced by the bytes of U+FFFD; of the first `copy` bytes the
outcome is known already, as it is of the `drop` bytes before those. -/
def repairUtf8 (copy drop : Nat) : List UInt8 → List UInt8
  | [] => []
  | b :: rest =>
    match drop, copy with
    | drop + 1, _ => repairUtf8 copy drop rest
    | 0, copy + 1 => b :: repairUtf8 copy 0 rest
    | 0, 0 =>
      match utf8Head b rest with
      | .char n => b :: repairUtf8 (n - 1) 0 rest
      | .broken n => 0xEF :: 0xBF :: 0xBD :: repairUtf8 0 (n - 1) rest
      | .cutOff n => 0xEF :: 0xBF :: 0xBD :: repairUtf8 0 (n - 1) rest

/-- The text that the bytes encode, with U+FFFD for each fault. -/
def decodeUtf8Lossy (bytes : List UInt8) : String :=
  (String.fromUTF8? ⟨(repairUtf8 0 0 bytes).toArray⟩).getD ""

end WarehouseAccess
