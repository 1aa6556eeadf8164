import WarehouseAccess.Json.Fields
import WarehouseAccess.Token.Authority
import WarehouseAccess.Token.Provider
/-!
# Scripted token providers

Providers that play back a script each and record what they were asked, at a clock that stands
still.  Programs cannot be run and no service can be reached in their world unless something else is
said.
-/

namespace WarehouseAccess

/-- What a provider does when it is asked. -/
inductive TokenAnswer where
  /-- Gives a token that lasts so many seconds. -/
  | lasting (token : String) (seconds : Int64)
  /-- Gives a token that expires at a second. -/
  | expiring (token : String) (expiresOn : Int64)
  | failure (reason : String)
deriving DecidableEq, Repr

/-- Reads an answer. -/
def TokenAnswer.ofJson (j : Json) : TokenAnswer :=
  match j.text? "fail", j.int? "expires_on" with
  | some reason, _ => .failure reason
  | none, some n => .expiring (j.str "token") (.ofInt n)
  | none, none => .lasting (j.str "token") (.ofInt ((j.int? "lifetime").getD 0))

/-- A request to a provider. -/
structure TokenRequest where
  /-- The key of the provider's script. -/
  key : String
  scope : String
  granted : Bool
deriving DecidableEq, Repr

/-- The world of scripted providers. -/
structure ScriptedTokens where
  clock : Int64
  /-- What is left of each script, by its key. -/
  scripts : List (String × List TokenAnswer) := []
  /-- The requests so far. -/
  requests : List TokenRequest := []
  /-- What hosts were asked for. -/
  resources : List String := []
  /-- The arguments of the programs that were run. -/
  programs : List (List String) := []
deriving DecidableEq, Repr

namespace ScriptedTokens

/-- The next answer of a script. -/
def next (w : ScriptedTokens) (key : String) : TokenAnswer × ScriptedTokens :=
  match (w.scripts.lookup key).getD [] with
  | [] => (.failure "script exhausted", w)
  | a :: rest =>
    (a, { w with scripts := w.scripts.map fun e => if e.1 == key then (key, rest) else e })

/-- The provider with the script of a key. -/
def provider (key name : String) : TokenProvider ScriptedTokens where
  name := name
  request _ scope w :=
    let (a, w) := w.next key
    let outcome : Except AuthError AccessToken := match a with
      | .lasting token seconds => .ok (.lasting token seconds w.clock)
      | .expiring token expiresOn => .ok ⟨token, expiresOn⟩
      | .failure reason => .error (.provider name (.other reason))
    (outcome, { w with requests := w.requests ++ [⟨key, scope, outcome.toBool⟩] })

/-- How a program goes that is not there. -/
def noSuchProgram : ProgramRun := .notStarted "No such file or directory (os error 2)"

/-- A system with the given variables on which each program goes the same way. -/
def system (environment : String → Option String) (run : ProgramRun) :
    TokenSystem ScriptedTokens where
  now w := (w.clock, w)
  zone := .utc
  environment := environment
  run _ arguments w := (run, { w with programs := w.programs ++ [arguments] })
  send _ w := (.failure "no network", w)

/-- A system on which nothing is set and nothing is installed. -/
def bareSystem : TokenSystem ScriptedTokens := system (fun _ => none) noSuchProgram

/-- A host that always replies the same. -/
def host (h : HostRuntime) (reply : Except String String) : TokenProvider ScriptedTokens :=
  h.provider (fun resource w => (reply, { w with resources := w.resources ++ [resource] }))
    bareSystem.now

/-- Reads a host and its one reply. -/
def hostOfJson (j : Json) : TokenProvider ScriptedTokens :=
  host (if j.str "host" == HostRuntime.synapseSpark.name then .synapseSpark else .fabricNotebook)
    (match j.text? "fail" with
      | some reason => .error reason
      | none => .ok (j.str "reply"))

/-- Reads providers of several kinds, and the scripts of those that have one.  The key of a script
is the place of its provider, counted from `index`. -/
def membersOfJson (index : Nat) :
    List Json → List (TokenProvider ScriptedTokens) × List (String × List TokenAnswer)
  | [] => ([], [])
  | j :: rest =>
    let (providers, scripts) := membersOfJson (index + 1) rest
    if (j.text? "host").isSome then (hostOfJson j :: providers, scripts)
    else if j.flag "environment" then
      (ClientSecret.environmentProvider bareSystem :: providers, scripts)
    else if j.flag "service_principal" then
      (ClientSecret.profileProvider bareSystem :: providers, scripts)
    else
      match j.text? "program" with
      | some program => (CommandLineLogin.provider bareSystem program :: providers, scripts)
      | none =>
        let key := toString index
        (provider key ((j.text? "name").getD "scripted") :: providers,
          (key, [TokenAnswer.ofJson j]) :: scripts)

/-- The key of the script for service principals. -/
def principalKey : String := "service_principal"

/-- The keys of the scripts in a document. -/
def keysOf (j : Json) : List String := j.keys.filter (· != "defaults")

/-- The world at a clock with the scripts of a document. -/
def ofJson (clock : Int64) (j : Json) : ScriptedTokens where
  clock := clock
  scripts := (keysOf j).map fun key => (key, (j.items key).map TokenAnswer.ofJson)

/-- The authority whose providers play back the scripts of a document, by strategy.  It knows the
standard providers as well if the document says so. -/
def authority (j : Json) : TokenAuthority ScriptedTokens :=
  (keysOf j).foldl
    (fun a key =>
      if key = principalKey then a.withPrincipal (provider key key)
      else
        match TokenStrategy.ofText? key with
        | some s => a.withProvider s (provider key key)
        | none => a)
    (if j.flag "defaults" then .standard bareSystem else .empty bareSystem)

/-- The scopes that the provider of a key was asked for. -/
def scopes (w : ScriptedTokens) (key : String) : List String :=
  (w.requests.filter fun r => r.key == key).map TokenRequest.scope

/-- How many tokens for the database were given. -/
def grants (w : ScriptedTokens) : Nat :=
  w.requests.countP fun r => r.granted && r.scope == databaseScope

end ScriptedTokens

end WarehouseAccess
