import WarehouseAccess.Text.Quoted
import WarehouseAccess.Number.Binary64
/-!
# What can be wrong with a profile

Causes, and for each the one wording it has.  A `ReadFault` is a fault of a document that holds a
profile: a field of the wrong type, given twice, or missing.
-/

namespace WarehouseAccess

/-- Why a setting is refused. -/
inductive InvalidSetting where
  | unsupportedAuthentication (spelling : String)
  | unknownBackend (spelling : String)
  /-- Of the workspace and the name of the snapshot only one is given. -/
  | unpairedSnapshot
  /-- A reason that a caller gives. -/
  | other (reason : String)
deriving DecidableEq, Repr

/-- The wording of a reason. -/
def InvalidSetting.message : InvalidSetting → String
  | unsupportedAuthentication spelling => "Unsupported authentication '" ++ spelling ++ "'"
  | unknownBackend spelling =>
    "Invalid driver_backend='" ++ spelling ++ "'. Valid values: auto, native, odbc"
  | unpairedSnapshot =>
    "Both workspace_id and warehouse_snapshot_name must be provided together, " ++
      "or both must be omitted"
  | other reason => reason

/-- What stands where a value of another type belongs. -/
inductive FoundValue where
  | null
  | boolean (b : Bool)
  | integer (n : Int)
  | float (x : Binary64)
  | text (s : String)
  | sequence
  | map
deriving DecidableEq, Repr

/-- The description of a value. -/
def FoundValue.describe : FoundValue → String
  | null => "null"
  | boolean b => "boolean `" ++ (if b then "true" else "false") ++ "`"
  | integer n => "integer `" ++ toString n ++ "`"
  | float x => "floating point `" ++ x.render .positional ++ "`"
  | text s => "string " ++ quoted s
  | sequence => "sequence"
  | map => "map"

/-- A fault of a document that holds a profile. -/
inductive ReadFault where
  /-- The text does not follow the grammar of the format. -/
  | grammar
  | missingField (name : String)
  | duplicateField (name : String)
  | wrongType (found : FoundValue) (expected : String)
  | outOfRange (n : Int) (expected : String)
  | unknownVariant (name : String) (variants : List String)
  /-- A choice that is spelled neither as a text nor as a table of one entry without content. -/
  | malformedChoice
  | refused (why : InvalidSetting)
deriving DecidableEq, Repr

/-- The wording of a fault, if it has one of its own. -/
def ReadFault.message? : ReadFault → Option String
  | grammar => none
  | missingField name => some ("missing field `" ++ name ++ "`")
  | duplicateField name => some ("duplicate field `" ++ name ++ "`")
  | wrongType found expected =>
    some ("invalid type: " ++ found.describe ++ ", expected " ++ expected)
  | outOfRange n expected =>
    some ("invalid value: integer `" ++ toString n ++ "`, expected " ++ expected)
  | unknownVariant name variants =>
    some ("unknown variant `" ++ name ++ "`, expected one of " ++
      String.intercalate ", " (variants.map fun v => "`" ++ v ++ "`"))
  | malformedChoice => none
  | refused why => some ("Invalid configuration: " ++ why.message)

/-- Why there is no profile. -/
inductive ProfileError where
  /-- The file cannot be read. -/
  | file (reason : String)
  | unreadable (fault : ReadFault)
  /-- A number is too large for the format of the file. -/
  | unwritable
  | missingField (name : String)
  | invalid (why : InvalidSetting)
deriving DecidableEq, Repr

/-- The name of an error's kind. -/
def ProfileError.kind : ProfileError → String
  | file _ => "IoError"
  | unreadable _ => "ParseError"
  | unwritable => "SerializeError"
  | missingField _ => "MissingField"
  | invalid _ => "Invalid"

/-- The wording of an error. -/
def ProfileError.message : ProfileError → String
  | file reason => "IO error: " ++ reason
  | unreadable fault => "Parse error: " ++ fault.message?.getD ""
  | unwritable => "Serialize error: out-of-range value for u64 type"
  | missingField name => "Missing required field: " ++ name
  | invalid why => "Invalid configuration: " ++ why.message

end WarehouseAccess
