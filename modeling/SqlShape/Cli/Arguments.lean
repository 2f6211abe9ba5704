import SqlShape.Dialect.Basic

/-!
# Command-line arguments

One positional argument names the query file. Options are long (`--params F`, `--params=F`) or short (`-p F`,
`-pF`, `-p=F`); short flags may stand together, and the last of them may take a value. What follows `--` is
positional. Nothing may be given twice, a value may not look like an option, and a path may not be empty.
Arguments are read in order: the first fault or request for help ends the reading.
-/

namespace SqlShape.Cli

/-- How the compiled command is printed. -/
inductive Format where
  | text
  | json
deriving DecidableEq, Repr

/-- The format of a name. -/
def Format.ofName? (name : String) : Option Format :=
  if name = "text" then some .text
  else if name = "json" then some .json
  else none

/-- The name of a format. -/
def Format.name : Format → String
  | text => "text"
  | json => "json"

/-- What the command line asks for. -/
structure Arguments where
  query : String
  params : Option String
  config : Option String
  dialect : Option Dialect
  relationalNulls : Bool
  format : Format
  verbose : Bool
deriving DecidableEq, Repr

/-- What is wrong with the arguments. -/
inductive UsageFault where
  | unexpected (argument : String)
  | missingValue (option : String)
  | unwantedValue (option : String)
  | invalidValue (option value : String)
  | repeated (option : String)
  | missingQuery
deriving DecidableEq, Repr

/-- The words for a fault. -/
def UsageFault.message : UsageFault → String
  | unexpected argument => "unexpected argument '" ++ argument ++ "' found"
  | missingValue option => "a value is required for '" ++ option ++ "' but none was supplied"
  | unwantedValue option => "unexpected value for '" ++ option ++ "' found; no more were expected"
  | invalidValue option value => "invalid value '" ++ value ++ "' for '" ++ option ++ "'"
  | repeated option => "the argument '" ++ option ++ "' cannot be used multiple times"
  | missingQuery => "the following required arguments were not provided:\n  <QUERY>"

/-- Why the reading of arguments ends early. -/
inductive Stop where
  | usage (fault : UsageFault)
  | help (long : Bool)
  | version
deriving DecidableEq, Repr

/-- Options with a value. -/
inductive Valued where
  | params
  | config
  | provider
  | format
deriving DecidableEq, Repr

/-- The long name of an option. -/
def Valued.name : Valued → String
  | params => "params"
  | config => "config"
  | provider => "provider"
  | format => "format"

/-- Options without a value. -/
inductive Flag where
  | relationalNulls
  | verbose
  | help
  | version
deriving DecidableEq, Repr

/-- The long name of a flag. -/
def Flag.name : Flag → String
  | relationalNulls => "relational-nulls"
  | verbose => "verbose"
  | help => "help"
  | version => "version"

/-- An option of either sort. -/
inductive Switch where
  | valued (option : Valued)
  | flag (flag : Flag)
deriving DecidableEq, Repr

/-- The option of a long name, which may not be shortened. -/
def Switch.ofLong? (name : String) : Option Switch :=
  match name with
  | "params" => some (.valued .params)
  | "config" => some (.valued .config)
  | "provider" => some (.valued .provider)
  | "format" => some (.valued .format)
  | "relational-nulls" => some (.flag .relationalNulls)
  | "verbose" => some (.flag .verbose)
  | "help" => some (.flag .help)
  | "version" => some (.flag .version)
  | _ => none

/-- The option of a short name. -/
def Switch.ofShort? (c : Char) : Option Switch :=
  match c with
  | 'p' => some (.valued .params)
  | 'C' => some (.valued .config)
  | 'f' => some (.valued .format)
  | 'v' => some (.flag .verbose)
  | 'h' => some (.flag .help)
  | 'V' => some (.flag .version)
  | _ => none

/-- What was read so far. -/
structure Seen where
  query : Option String := none
  params : Option String := none
  config : Option String := none
  dialect : Option Dialect := none
  relationalNulls : Bool := false
  format : Option Format := none
  verbose : Bool := false

/-- Ends the reading for a fault. -/
def fault {α : Type} (f : UsageFault) : Except Stop α :=
  .error (.usage f)

/-- A path, which may not be empty. -/
def path (option value : String) : Except Stop String :=
  if value.isEmpty then fault (.missingValue option) else .ok value

/-- Refuses an option that was given before. -/
def once (option : String) (given : Bool) : Except Stop Unit :=
  if given then fault (.repeated option) else .ok ()

namespace Seen

/-- Takes the value of an option. -/
def setValue (s : Seen) (option : Valued) (value : String) : Except Stop Seen := do
  let name := "--" ++ option.name
  match option with
  | .params =>
    once name s.params.isSome
    return { s with params := some (← path name value) }
  | .config =>
    once name s.config.isSome
    return { s with config := some (← path name value) }
  | .provider =>
    once name s.dialect.isSome
    match Dialect.read value with
    | .ok dialect => return { s with dialect := some dialect }
    | .error _ => fault (.invalidValue name value)
  | .format =>
    once name s.format.isSome
    match Format.ofName? value with
    | some format => return { s with format := some format }
    | none => fault (.invalidValue name value)

/-- Takes a flag; `long` says how help was asked for. -/
def setFlag (s : Seen) (flag : Flag) (long : Bool) : Except Stop Seen := do
  match flag with
  | .relationalNulls =>
    once ("--" ++ flag.name) s.relationalNulls
    return { s with relationalNulls := true }
  | .verbose =>
    once ("--" ++ flag.name) s.verbose
    return { s with verbose := true }
  | .help => throw (.help long)
  | .version => throw .version

/-- Takes a positional argument. -/
def setPositional (s : Seen) (argument : String) : Except Stop Seen := do
  match s.query with
  | some _ => fault (.unexpected argument)
  | none => return { s with query := some (← path "<QUERY>" argument) }

/-- Takes short options that stand together behind a dash. The last one may lack its value. -/
def setShorts (s : Seen) : List Char → Except Stop (Seen × Option Valued)
  | [] => .ok (s, none)
  | c :: rest =>
    match Switch.ofShort? c with
    | none => fault (.unexpected (String.ofList ['-', c]))
    | some (.flag flag) => do (← s.setFlag flag false).setShorts rest
    | some (.valued option) =>
      match rest with
      | [] => .ok (s, some option)
      | '=' :: value => do return (← s.setValue option (String.ofList value), none)
      | value => do return (← s.setValue option (String.ofList value), none)

/-- The arguments, all read. -/
def finish (s : Seen) : Except Stop Arguments :=
  match s.query with
  | none => fault .missingQuery
  | some query => .ok {
      query
      params := s.params
      config := s.config
      dialect := s.dialect
      relationalNulls := s.relationalNulls
      format := s.format.getD .text
      verbose := s.verbose }

end Seen

/-- An argument that starts like an option. A dash alone does not. -/
def looksLikeOption (argument : String) : Bool :=
  match argument.toList with
  | '-' :: _ :: _ => true
  | _ => false

/-- Takes a long option behind its dashes: it, and the option whose value is due in the next argument. -/
def setLong (s : Seen) (argument : List Char) : Except Stop (Seen × Option Valued) := do
  let name := String.ofList (argument.takeWhile (· != '='))
  let value := match argument.dropWhile (· != '=') with
    | [] => none
    | _ :: value => some (String.ofList value)
  match Switch.ofLong? name, value with
  | none, _ => fault (.unexpected ("--" ++ name))
  | some (.flag _), some _ => fault (.unwantedValue ("--" ++ name))
  | some (.flag flag), none => return (← s.setFlag flag true, none)
  | some (.valued option), some value => return (← s.setValue option value, none)
  | some (.valued option), none => return (s, some option)

/-- Takes an argument that may be an option, and says which option waits for the next one as its value. -/
def setArgument (s : Seen) (argument : String) : Except Stop (Seen × Option Valued) :=
  match argument.toList with
  | '-' :: '-' :: long => setLong s long
  | '-' :: c :: rest => s.setShorts (c :: rest)
  | _ => do return (← s.setPositional argument, none)

/-- Takes positional arguments only. -/
def readPositional (s : Seen) : List String → Except Stop Seen
  | [] => .ok s
  | argument :: rest => do readPositional (← s.setPositional argument) rest

/-- Takes arguments in order. -/
def readArguments (s : Seen) : List String → Except Stop Seen
  | [] => .ok s
  | argument :: rest =>
    if argument = "--" then readPositional s rest
    else do
      let (s, due) ← setArgument s argument
      match due, rest with
      | none, rest => readArguments s rest
      | some option, value :: rest =>
        if looksLikeOption value then fault (.missingValue ("--" ++ option.name))
        else readArguments (← s.setValue option value) rest
      | some option, [] => fault (.missingValue ("--" ++ option.name))

/-- Reads the arguments of a call. -/
def Arguments.read (arguments : List String) : Except Stop Arguments := do
  (← readArguments {} arguments).finish

end SqlShape.Cli
