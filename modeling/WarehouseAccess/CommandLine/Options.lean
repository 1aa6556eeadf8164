/-!
# Options of a command line

A command line is a list of words.  A word may be an option: `--name`, `--name=value`, or a dash and
letters, each a short option.  The value of an option stands behind `=`, directly behind its letter,
or in the next word, which then must not look like an option.  Reading stops at the first word that
is no option, since that word names a command.
-/

namespace WarehouseAccess

/-- An option that a command knows. -/
structure OptionRule where
  name : String
  letter : Char
  takesValue : Bool
  /-- An empty value is refused. -/
  needsText : Bool := false
deriving DecidableEq, Repr

/-- Why a command line is refused. -/
inductive UsageError where
  | unknownOption (word : String)
  | repeatedOption (name : String)
  | missingValue (name : String)
  | unwantedValue (name : String)
  | invalidValue (name value : String)
  | unknownCommand (word : String)
  | unexpectedWord (word : String)
  | missingCommand
deriving DecidableEq, Repr

/-- The wording of an error. -/
def UsageError.message : UsageError → String
  | unknownOption word => "unexpected argument '" ++ word ++ "' found"
  | repeatedOption name => "the argument '--" ++ name ++ "' cannot be used multiple times"
  | missingValue name => "a value is required for '--" ++ name ++ "' but none was supplied"
  | unwantedValue name => "no value is taken by '--" ++ name ++ "'"
  | invalidValue name value => "invalid value '" ++ value ++ "' for '--" ++ name ++ "'"
  | unknownCommand word => "unrecognized subcommand '" ++ word ++ "'"
  | unexpectedWord word => "unexpected argument '" ++ word ++ "' found"
  | missingCommand => "a subcommand is required"

/-- The options that were given, by name; one without value has an empty one. -/
abbrev GivenOptions := List (String × String)

namespace GivenOptions

/-- Takes up an option, which may be given once. -/
def add (given : GivenOptions) (rule : OptionRule) (value : String) :
    Except UsageError GivenOptions :=
  if (given.lookup rule.name).isSome then .error (.repeatedOption rule.name)
  else if rule.needsText && value.isEmpty then .error (.invalidValue rule.name value)
  else .ok (given ++ [(rule.name, value)])

/-- An option was given. -/
def has (given : GivenOptions) (name : String) : Bool := (given.lookup name).isSome

end GivenOptions

/-- The word looks like an option. -/
def looksLikeOption (word : String) : Bool :=
  match word.toList with
  | '-' :: _ :: _ => true
  | _ => false

/-- What a word of options leads to. -/
inductive WordEffect where
  | given (options : GivenOptions)
  /-- The last option of the word still needs its value. -/
  | needs (rule : OptionRule) (options : GivenOptions)

/-- One long option behind its two dashes. -/
def readLong (rules : List OptionRule) (given : GivenOptions) (word : List Char) :
    Except UsageError WordEffect :=
  let name := String.ofList (word.takeWhile (· != '='))
  match rules.find? (·.name == name), word.dropWhile (· != '=') with
  | none, _ => .error (.unknownOption ("--" ++ name))
  | some rule, [] =>
    if rule.takesValue then .ok (.needs rule given) else (given.add rule "").map .given
  | some rule, _ :: value =>
    if rule.takesValue then (given.add rule (String.ofList value)).map .given
    else .error (.unwantedValue rule.name)

/-- Short options behind their dash. -/
def readShort (rules : List OptionRule) (given : GivenOptions) :
    List Char → Except UsageError WordEffect
  | [] => .ok (.given given)
  | c :: rest =>
    match rules.find? (·.letter == c) with
    | none => .error (.unknownOption ("-" ++ String.ofList [c]))
    | some rule =>
      if rule.takesValue then
        match rest with
        | [] => .ok (.needs rule given)
        | '=' :: value => (given.add rule (String.ofList value)).map .given
        | value => (given.add rule (String.ofList value)).map .given
      else
        match given.add rule "" with
        | .error e => .error e
        | .ok given => readShort rules given rest

/-- One word that looks like an option. -/
def readWord (rules : List OptionRule) (given : GivenOptions) (word : String) :
    Except UsageError WordEffect :=
  match word.toList with
  | '-' :: '-' :: name => readLong rules given name
  | '-' :: letters => readShort rules given letters
  | _ => .error (.unexpectedWord word)

/-- Reads options up to the first other word: the options, and the words from there on. -/
def readOptions (rules : List OptionRule) (given : GivenOptions) :
    List String → Except UsageError (GivenOptions × List String)
  | [] => .ok (given, [])
  | word :: rest =>
    if looksLikeOption word then
      match readWord rules given word, rest with
      | .error e, _ => .error e
      | .ok (.given given), rest => readOptions rules given rest
      | .ok (.needs rule _), [] => .error (.missingValue rule.name)
      | .ok (.needs rule given), value :: rest =>
        if looksLikeOption value then .error (.missingValue rule.name)
        else
          match given.add rule value with
          | .error e => .error e
          | .ok given => readOptions rules given rest
    else .ok (given, word :: rest)

end WarehouseAccess
