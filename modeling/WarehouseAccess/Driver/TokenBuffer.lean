import WarehouseAccess.Driver.Basic
import WarehouseAccess.Number.Digits
import WarehouseAccess.Text.Utf8
/-!
# Access tokens as bytes

The driver manager takes an access token as a buffer: the length of the payload in four bytes, least
significant first, as a signed number, and then each byte of the token followed by a zero byte.
-/

namespace WarehouseAccess

/-- Each byte followed by a zero byte. -/
def widen : List UInt8 → List UInt8
  | [] => []
  | b :: rest => b :: 0 :: widen rest

/-- Every other byte, beginning with the first. -/
def narrow : List UInt8 → List UInt8
  | b :: _ :: rest => b :: narrow rest
  | _ => []

/-- Nothing is lost between the zero bytes. -/
theorem narrow_widen (l : List UInt8) : narrow (widen l) = l := by
  induction l with
  | nil => rfl
  | cons b rest ih => simp [widen, narrow, ih]

/-- Twice as many bytes. -/
theorem length_widen (l : List UInt8) : (widen l).length = 2 * l.length := by
  induction l with
  | nil => rfl
  | cons b rest ih =>
    simp only [widen, List.length_cons, ih]
    omega

/-- Why a buffer holds no token. -/
inductive TokenBufferFault where
  | noLength
  | wrongLength (length : Int) (payload : Nat)
  | notText (fault : Utf8Fault)
deriving DecidableEq, Repr

/-- The wording of a fault. -/
def TokenBufferFault.message : TokenBufferFault → String
  | noLength => "access token buffer shorter than its prefix"
  | wrongLength length payload =>
    "access token length prefix " ++ toString length ++ " does not match " ++ toString payload ++
      " payload bytes"
  | notText fault => fault.message

/-- The buffer of a token. -/
def encodeToken (token : String) : List UInt8 :=
  let payload := widen (encodeUtf8 token)
  littleEndian32 payload.length ++ payload

/-- The token in a buffer. -/
def decodeToken (buffer : List UInt8) : Except TokenBufferFault String :=
  match buffer with
  | a :: b :: c :: d :: payload =>
    let length := signed 32 (word32 a b c d)
    if length = payload.length ∧ payload.length % 2 = 0 then
      match decodeUtf8 (narrow payload) with
      | .ok token => .ok token
      | .error fault => .error (.notText fault)
    else .error (.wrongLength length payload.length)
  | _ => .error .noLength

/-- A fault of a buffer as a driver error. -/
def TokenBufferFault.toDriverError (f : TokenBufferFault) : DriverError :=
  ⟨.interface, f.message⟩

end WarehouseAccess
