import SqlShape.Cli.Help
import SqlShape.Cli.Output
import SqlShape.Compiler
import SqlShape.Config.Toml
import SqlShape.Json.Reader
import SqlShape.Query.Json

/-!
# A run of the command line

Reading is in order: arguments, configuration, query, parameter values. Then the values are bound, the query is
compiled and the command is printed. The first failure ends the run with a report of its causes. Files are read
through a function, so a run is a value.
-/

namespace SqlShape.Cli

/-- Why a file could not be read. -/
inductive FileFault where
  | notFound
  | isDirectory
  | notDirectory
  | denied
  | notText
  | other (text : String)
deriving DecidableEq, Repr

/-- The words for a fault. -/
def FileFault.message : FileFault → String
  | notFound => "No such file or directory (os error 2)"
  | isDirectory => "Is a directory (os error 21)"
  | notDirectory => "Not a directory (os error 20)"
  | denied => "Permission denied (os error 13)"
  | notText => "stream did not contain valid UTF-8"
  | other text => text

/-- The contents of files by path. -/
abbrev Files :=
  String → Except FileFault String

/-- What failed, and the causes from the outermost to the innermost. -/
structure Report where
  summary : String
  causes : List String
deriving DecidableEq, Repr

/-- A cause with its lines indented, and numbered if it is one of several. -/
def Report.indented (number : Option Nat) (cause : String) : String :=
  let (first, others) := match number with
    | some n =>
      let digits := toString n
      (String.ofList (List.replicate (5 - digits.length) ' ') ++ digits ++ ": ", "       ")
    | none => ("    ", "    ")
  match cause.splitOn "\n" with
  | [] => first
  | line :: lines => "\n".intercalate ((first ++ line) :: lines.map (others ++ ·))

/-- A report as text. -/
def Report.text (r : Report) : String :=
  match r.causes with
  | [] => r.summary
  | [cause] => r.summary ++ "\n\nCaused by:\n" ++ indented none cause
  | causes =>
    r.summary ++ "\n\nCaused by:\n"
      ++ "\n".intercalate (causes.zipIdx.map fun (cause, n) => indented (some n) cause)

/-- How a run ended. -/
inductive Outcome where
  | printed (text : String)
  | failed (report : Report)
  | refused (fault : UsageFault)
deriving DecidableEq, Repr

/-- The exit code of an outcome. -/
def Outcome.code : Outcome → Nat
  | printed _ => 0
  | failed _ => 1
  | refused _ => 2

/-- The settings of a run: the defaults or a file, and what the arguments put in their place. -/
def configure (files : Files) (a : Arguments) : Except Report Config := do
  let config ← match a.config with
    | none => pure {}
    | some path =>
      let summary := "Failed to load config from " ++ path
      match files path with
      | .error fault =>
        throw ⟨summary, ["failed to read config file " ++ path ++ ": " ++ fault.message, fault.message]⟩
      | .ok source =>
        match Config.ofToml source with
        | .error e => throw ⟨summary, [e.message]⟩
        | .ok config => pure config
  return { config with
    dialect := a.dialect.getD config.dialect
    relationalNulls := config.relationalNulls || a.relationalNulls }

/-- Reads a JSON file. -/
def readJson {α : Type} (files : Files) (path : String) (read : Json → Option α) : Except Report α :=
  match files path with
  | .error fault => .error ⟨"Failed to read " ++ path, [fault.message]⟩
  | .ok source =>
    match (Json.parse? source).bind read with
    | some a => .ok a
    | none => .error ⟨"Invalid JSON in " ++ path, []⟩

/-- Compiles the query that the arguments name. -/
def compile (files : Files) (a : Arguments) : Except Report Command := do
  let config ← configure files a
  let shape ← readJson files a.query Shape.ofJson?
  let given ← match a.params with
    | some path => readJson files path fun j => j.normalized.fields?
    | none => pure []
  let bindings ← match shape.bindPlain given with
    | .ok bindings => pure bindings
    | .error e =>
      match e.causes with
      | summary :: causes => throw ⟨summary, causes⟩
      | [] => throw ⟨"", []⟩
  let compiler ← match Engine.ofConfig config with
    | .ok compiler => pure compiler
    | .error e => throw ⟨"Failed to set up query compiler", [e.message]⟩
  match (compiler.compile shape bindings).1 with
  | .ok command => return command
  | .error e => throw ⟨"Failed to compile " ++ a.query, [e.message]⟩

/-- Compiles and prints. -/
def run (files : Files) (a : Arguments) : Outcome :=
  match compile files a with
  | .ok command => .printed (command.print a.format)
  | .error report => .failed report

/-- The outcome of reading that ended early. -/
def Stop.outcome : Stop → Outcome
  | usage fault => .refused fault
  | help long => .printed (helpText long)
  | version => .printed versionText

end SqlShape.Cli
