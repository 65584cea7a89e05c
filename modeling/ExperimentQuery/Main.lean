import ExperimentQuery.Cli.Job

/-!
# The program

Compiles experiments and metrics to scripts, checks metrics, runs experiments over recorded events
and seals connection params.

* `processHost`: the files and the environment of the process;
* `main`: the report of the command line, written out.
-/

namespace ExperimentQuery

/-- What the process finds at a path. -/
def readPath (path : String) : IO FileContent := do
  try
    return .text (← IO.FS.readFile path)
  catch
    | .noFileOrDirectory .. => return .missing
    | e => return .unreadable (toString e)

/-- The files and the environment of the process. -/
def processHost : Host IO where
  read := readPath
  getVariable := fun name => IO.getEnv name
  random := fun count => do return (← IO.getRandomBytes (USize.ofNat count)).data.toList

/-- The jobs of the program. -/
def usage : String :=
  "usage: expql [--config FILE] compile FILE [--fingerprint] | metric-value FILE [--by-date] | " ++
    "validate FILE --fact-tables FILE | run FILE --events FILE | seal CONNECTION"

/-- The report of a command line, written out; the exit code is 2 for a command line that is not
understood. -/
def runProgram (args : List String) : IO UInt32 := do
  match Invocation.parse? args with
  | none =>
    IO.eprintln usage
    return 2
  | some i =>
    let report ← i.report processHost
    IO.print report.output
    report.errors.forM IO.eprintln
    return if report.success then 0 else 1

end ExperimentQuery

/-- The program on its command line. -/
def main (args : List String) : IO UInt32 := ExperimentQuery.runProgram args
