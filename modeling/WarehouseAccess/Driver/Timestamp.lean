import WarehouseAccess.Driver.Basic
import WarehouseAccess.Number.Digits
/-!
# Timestamps as bytes

Columns of dates and times with an offset come as buffers of twenty bytes: year, month, day, hour,
minute and second as signed numbers of two bytes, the nanoseconds as an unsigned number of four, and
the hours and minutes of the offset as signed numbers of two, all least significant byte first.
-/

namespace WarehouseAccess

/-- The fields of a timestamp as its buffer holds them. -/
structure TimestampFields where
  year : Int
  month : Int
  day : Int
  hour : Int
  minute : Int
  second : Int
  nanosecond : Nat
  offsetHours : Int
  offsetMinutes : Int
deriving DecidableEq, Repr

/-- Why a buffer holds no timestamp. -/
inductive TimestampFault where
  | wrongSize (size : Nat)
  | noSuchTime (fields : TimestampFields)
deriving DecidableEq, Repr

/-- The size of the buffer of a timestamp. -/
def timestampSize : Nat := 20

/-- A number with its sign. -/
def withSign (n : Int) : String := (if n < 0 then "" else "+") ++ toString n

/-- The wording of a fault. -/
def TimestampFault.message : TimestampFault → String
  | wrongSize size => "DATETIMEOFFSET buffer must be 20 bytes, got " ++ toString size
  | noSuchTime f =>
    "invalid DATETIMEOFFSET " ++ toString f.year ++ "-" ++ toString f.month ++ "-" ++
      toString f.day ++ " " ++ toString f.hour ++ ":" ++ toString f.minute ++ ":" ++
      toString f.second ++ " " ++ withSign f.offsetHours ++ ":" ++ toString f.offsetMinutes

namespace TimestampFields

/-- The fields of a buffer of the right size. -/
def ofBytes : List UInt8 → Option TimestampFields
  | [y0, y1, mo0, mo1, d0, d1, h0, h1, mi0, mi1, s0, s1, n0, n1, n2, n3, oh0, oh1, om0, om1] =>
    let field (lo hi : UInt8) : Int := signed 16 (word16 lo hi)
    some {
      year := field y0 y1
      month := field mo0 mo1
      day := field d0 d1
      hour := field h0 h1
      minute := field mi0 mi1
      second := field s0 s1
      nanosecond := word32 n0 n1 n2 n3
      offsetHours := field oh0 oh1
      offsetMinutes := field om0 om1 }
  | _ => none

/-- The offset in minutes; the minutes carry the sign of the hours. -/
def totalMinutes (f : TimestampFields) : Int := 60 * f.offsetHours + f.offsetMinutes

/-- The date and time of the fields, to the microsecond.  The fields that cannot be negative are
taken as unsigned numbers of 32 bits, so a negative one is larger than any that exists. -/
def dateTime (f : TimestampFields) : DateTime where
  year := f.year
  month := unsigned 32 f.month
  day := unsigned 32 f.day
  hour := unsigned 32 f.hour
  minute := unsigned 32 f.minute
  second := unsigned 32 f.second
  nanosecond := f.nanosecond / 1000 * 1000

/-- The date and time of the fields at their offset. -/
def offsetDateTime (f : TimestampFields) : OffsetDateTime := ⟨f.dateTime, 60 * f.totalMinutes⟩

end TimestampFields

/-- The timestamp in a buffer. -/
def decodeTimestamp (buffer : List UInt8) : Except TimestampFault OffsetDateTime :=
  match TimestampFields.ofBytes buffer with
  | none => .error (.wrongSize buffer.length)
  | some f => if f.offsetDateTime.Exists then .ok f.offsetDateTime else .error (.noSuchTime f)

/-- A fault of a buffer as a driver error. -/
def TimestampFault.toDriverError (f : TimestampFault) : DriverError :=
  ⟨.data, f.message⟩

/-- The value of a timestamp column. -/
def convertTimestamp (buffer : List UInt8) : Except DriverError SqlValue :=
  match decodeTimestamp buffer with
  | .ok t => .ok (.dateTimeOffset t)
  | .error f => .error f.toDriverError

end WarehouseAccess
