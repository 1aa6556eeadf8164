import WarehouseAccess.CommandLine.Options
import WarehouseAccess.Driver.Backend
/-!
# Invocations

What a command line asks for.  Two options go with every command and may stand before or behind its
name; the one behind counts.  Asking for help, or for the version, ends the reading.
-/

namespace WarehouseAccess

/-- The commands. -/
inductive Command where
  /-- Shows the settings and the connection string, for the given backend or the preferred one. -/
  | debug (backend : Option Backend)
  /-- Makes a snapshot current: by default that of the profile. -/
  | snapshot (warehouse name : Option String)
  /-- Tells how a run ended. -/
  | runStatus (file : String)
deriving DecidableEq, Repr

/-- A command with the options of every command. -/
structure Invocation where
  profile : Option String
  verbose : Bool
  command : Command
deriving DecidableEq, Repr

/-- What a command line asks for. -/
inductive Demand where
  | run (i : Invocation)
  | help
  | version
deriving DecidableEq, Repr

namespace Invocation

/-- The profile of every command. -/
def profileRule : OptionRule := ⟨"profile", 'p', true, true⟩

/-- Telling more. -/
def verboseRule : OptionRule := ⟨"verbose", 'v', false, false⟩

/-- Asking for help. -/
def helpRule : OptionRule := ⟨"help", 'h', false, false⟩

/-- The options that go with every command. -/
def commonRules : List OptionRule := [profileRule, verboseRule, helpRule]

/-- The options in front of the command. -/
def frontRules : List OptionRule := commonRules ++ [⟨"version", 'V', false, false⟩]

/-- Where results of a run are looked for. -/
def defaultResultsFile : String := "target/run_results.json"

/-- The options of a command. -/
def rules : (command : String) → Option (List OptionRule)
  | "debug" => some [⟨"backend", 'b', true, false⟩]
  | "snapshot" => some [⟨"warehouse", 'w', true, false⟩, ⟨"name", 'n', true, false⟩]
  | "run-status" => some [⟨"run-results", 'f', true, true⟩]
  | _ => none

/-- The backend that an option names. -/
def backendOf (given : GivenOptions) : Except UsageError (Option Backend) :=
  match given.lookup "backend" with
  | none => .ok none
  | some name =>
    match [Backend.native, Backend.odbc].find? (·.text == name) with
    | some b => .ok (some b)
    | none => .error (.invalidValue "backend" name)

/-- The command of a name with its options. -/
def commandOf (name : String) (given : GivenOptions) : Except UsageError Command :=
  match name with
  | "debug" => (backendOf given).map .debug
  | "snapshot" => .ok (.snapshot (given.lookup "warehouse") (given.lookup "name"))
  | _ => .ok (.runStatus ((given.lookup "run-results").getD defaultResultsFile))

/-- What the words behind a command's name ask for, given the options before it. -/
def ofCommand (front : GivenOptions) (name : String) (words : List String) :
    Except UsageError Demand :=
  match rules name with
  | none => .error (.unknownCommand name)
  | some own =>
    match readOptions (commonRules ++ own) [] words with
    | .error e => .error e
    | .ok (given, rest) =>
      if given.has helpRule.name then .ok .help
      else
        match rest, commandOf name given with
        | word :: _, _ => .error (.unexpectedWord word)
        | [], .error e => .error e
        | [], .ok c =>
          .ok (.run {
            profile := (given.lookup profileRule.name).or (front.lookup profileRule.name)
            verbose := given.has verboseRule.name || front.has verboseRule.name
            command := c })

/-- What a command line asks for. -/
def ofArguments (arguments : List String) : Except UsageError Demand :=
  match readOptions frontRules [] arguments with
  | .error e => .error e
  | .ok (given, rest) =>
    if given.has helpRule.name then .ok .help
    else if given.has "version" then .ok .version
    else
      match rest with
      | [] => .error .missingCommand
      | "help" :: _ => .ok .help
      | name :: words => ofCommand given name words

end Invocation

end WarehouseAccess
