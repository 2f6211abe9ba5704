import SqlShape.Cli.Run

/-!
# The command line

Reads the files that the arguments name and prints the outcome of the run.
-/

namespace SqlShape.Cli

/-- Reads a file. -/
def readFile (path : String) : IO (Except FileFault String) := do
  try
    return .ok (← IO.FS.readFile path)
  catch
    | .noFileOrDirectory .. => return .error .notFound
    | .inappropriateType .. => return .error .isDirectory
    | .permissionDenied .. => return .error .denied
    | e => return .error (.other (toString e))

/-- Reads the files that a run may ask for. -/
def readFiles (paths : List String) : IO Files := do
  let contents ← paths.mapM fun path => do return (path, ← readFile path)
  return fun path => (contents.lookup path).getD (.error .notFound)

/-- Prints an outcome and yields its exit code. -/
def report (outcome : Outcome) : IO UInt32 := do
  match outcome with
  | .printed text => IO.print text
  | .failed r => IO.eprintln ("Error: " ++ r.text)
  | .refused fault => IO.eprint (usageText fault)
  return outcome.code.toUInt32

/-- Compiles the query that the arguments name. -/
def execute (arguments : List String) : IO UInt32 := do
  match Arguments.read arguments with
  | .error stop => report stop.outcome
  | .ok a =>
    let files ← readFiles (a.query :: a.config.toList ++ a.params.toList)
    report (run files a)

end SqlShape.Cli

/-- The command line. -/
def main (arguments : List String) : IO UInt32 :=
  SqlShape.Cli.execute arguments
