import WarehouseAccess.CommandLine.Program
import WarehouseAccess.Token.Authority
/-!
# The program

Reads the command line, the file that it asks for and the environment, and prints what the command
says.  The program itself neither runs other programs nor opens network connections: a command that
needs a token or the control plane reports that as the failure of the request.
-/

namespace WarehouseAccess

namespace Program

/-- The system as this program sees it, with the given clock and variables. -/
def offlineSystem (now : Int64) (environment : String → Option String) : TokenSystem Unit where
  now w := (now, w)
  zone := .utc
  environment := environment
  run _ _ w := (.notStarted "programs are not run", w)
  send _ w := (.failure "no network", w)

/-- A control plane that is out of reach. -/
def offlinePeer (now : Int) : Exchange.Peer Unit where
  answer _ s := (.failure "no network", s)
  now s := (now, s)

/-- The content of a file. -/
def readContent (path : String) : IO Profile.FileContent := do
  try
    let bytes ← IO.FS.readBinFile path
    return .bytes bytes.toList
  catch _ => return .missing

/-- The variables of the environment that are looked at. -/
def readEnvironment : List String → IO (List (String × String))
  | [] => return []
  | name :: rest => do
    let others ← readEnvironment rest
    match ← IO.getEnv name with
    | some value => return (name, value) :: others
    | none => return others

/-- What a demand leads to. -/
def perform (demand : Demand) : IO ProgramEnd :=
  match demand with
  | .help => return { exitCode := 0, output := usage }
  | .version => return { exitCode := 0, output := [defaultApplicationName.replace "/" " "] }
  | .run i => do
    let environment ← readEnvironment
      ["FABRIC_DRIVER_BACKEND", "AZURE_TENANT_ID", "AZURE_CLIENT_ID", "AZURE_CLIENT_SECRET",
        "AZURE_AUTHORITY_HOST"]
    let lookUp (name : String) : Option String := environment.lookup name
    let content ← readContent i.file
    let host : Host Unit Unit :=
      { override := lookUp "FABRIC_DRIVER_BACKEND"
        authority := .standard (offlineSystem 0 lookUp)
        peer := offlinePeer 0 }
    return i.perform host content () ()

/-- Prints how the program ends. -/
def report (ended : ProgramEnd) : IO UInt32 := do
  for line in ended.notes do IO.eprintln line
  for line in ended.output do IO.println line
  return ended.exitCode.toUInt32

/-- Reads the command line and does what it asks for. -/
def run (arguments : List String) : IO UInt32 := do
  match Invocation.ofArguments arguments with
  | .error e => report e.programEnd
  | .ok demand => report (← perform demand)

end Program

end WarehouseAccess

/-- The program. -/
def main (arguments : List String) : IO UInt32 := WarehouseAccess.Program.run arguments
