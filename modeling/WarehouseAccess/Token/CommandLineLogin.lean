import WarehouseAccess.Calendar.Zone
import WarehouseAccess.Json.Record
import WarehouseAccess.Profile.Basic
import WarehouseAccess.Text.Utf8
import WarehouseAccess.Token.Provider
/-!
# Tokens of the command-line tool

Whoever is signed in to the cloud's command-line tool can ask it for a token.  It prints a record
with the token and its expiry: as a second in universal time, which counts where it is given, or
else as a local time.
-/

namespace WarehouseAccess

namespace CommandLineLogin

/-- The name of the provider. -/
def providerName : String := "cli"

/-- The name of the tool. -/
def defaultProgram : String := "az"

/-- The record that the tool prints. -/
structure Output where
  accessToken : String
  /-- The expiry in local time. -/
  localExpiry : Option String
  /-- The expiry as a second. -/
  expiry : Option Int
deriving DecidableEq, Repr

/-- Reads the record. -/
def Output.ofText? (output : String) : Option Output := do
  match ← (← JsonSyntax.read output).record ["accessToken", "expiresOn", "expires_on"] with
  | [some accessToken, localExpiry, expiry] =>
    return {
      accessToken := ← accessToken.asText
      localExpiry := ← JsonSyntax.fieldOr none JsonSyntax.asTextOrNull localExpiry
      expiry := ← JsonSyntax.fieldOr none
        (JsonSyntax.asIntegerOrNull (-0x8000000000000000) 0x7FFFFFFFFFFFFFFF) expiry }
  | _ => none

/-- The second of an expiry in local time. -/
def readExpiry (zone : Zone) (spelling : String) : Except TokenFault Int :=
  match DateTime.ofText? spelling with
  | none => .error (.invalidExpiry spelling)
  | some t =>
    match zone.instant? t with
    | none => .error (.ambiguousExpiry spelling)
    | some n => .ok n

/-- The token in the tool's output. -/
def readOutput (zone : Zone) (output : String) : Except TokenFault AccessToken :=
  match Output.ofText? output with
  | none => .error .unexpectedOutput
  | some o =>
    match o.expiry, o.localExpiry with
    | some n, _ => .ok ⟨o.accessToken, .ofInt n⟩
    | none, some spelling => (readExpiry zone spelling).map fun n => ⟨o.accessToken, .ofInt n⟩
    | none, none => .error .noExpiry

/-- The arguments that ask for a token. -/
def arguments (p : Profile) (scope : String) : List String :=
  ["account", "get-access-token", "--output", "json", "--scope", scope] ++
    match p.tenantId with
    | some tenant => ["--tenant", tenant]
    | none => []

/-- The token that a run of the tool leads to. -/
def readRun (zone : Zone) (program : String) : ProgramRun → Except TokenFault AccessToken
  | .notStarted reason => .error (.programNotRun program reason)
  | .ended success output complaint =>
    if success then readOutput zone (decodeUtf8Lossy output)
    else .error (.programFailed (trim (decodeUtf8Lossy complaint)))

/-- Tokens of the command-line tool, which is run under the given name. -/
def provider {σ : Type} (system : TokenSystem σ) (program : String) : TokenProvider σ where
  name := providerName
  request p scope w :=
    let (run, w) := system.run program (arguments p scope) w
    ((readRun system.zone program run).mapError (.provider providerName), w)

end CommandLineLogin

end WarehouseAccess
