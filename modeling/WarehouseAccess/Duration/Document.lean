import WarehouseAccess.Json.Fields
import WarehouseAccess.Number.Digits
import WarehouseAccess.Text.Editing
/-!
# Durations

Lengths of time, as timeouts and pauses use them.  In JSON a duration is a whole number of seconds,
or else a text: the milliseconds with `ms` behind them.
-/

namespace WarehouseAccess

/-- A length of time. -/
structure Duration where
  millis : Nat
deriving DecidableEq, Repr, Inhabited

namespace Duration

/-- So many seconds. -/
def ofSecs (n : Nat) : Duration := ⟨n * 1000⟩

/-- The description of a duration: in seconds if there is a whole one, with as many places as are
needed, and else in the largest unit that leaves no fraction. -/
def describe (d : Duration) : String :=
  if 1000 ≤ d.millis then
    let places := dropTrailing (· == '0') (zeroPadded 3 (d.millis % 1000))
    toString (d.millis / 1000) ++
      (if places.isEmpty then "" else "." ++ String.ofList places) ++ "s"
  else if d.millis = 0 then "0ns"
  else toString d.millis ++ "ms"

end Duration

namespace Duration

/-- Writes a duration. -/
def toJson (d : Duration) : Json :=
  if d.millis % 1000 = 0 then .ofNat (d.millis / 1000) else .text (toString d.millis ++ "ms")

/-- Reads a duration. -/
def ofJson? : Json → Option Duration
  | .int n => some (.ofSecs n.toNat)
  | .text s => (readDigits 0 (s.toList.takeWhile fun c => (digitValue c).isSome)).map Duration.mk
  | _ => none

end Duration

end WarehouseAccess
