import Localize.Cli

/-! # Command line entry point

The project directory is read as a JSON object of paths and file contents from standard
input; the run's report goes to standard output, followed by the project's files after the
run, as a JSON object. Errors go to standard error and end the command with status 1.
-/

open Localize

/-- All of standard input. -/
partial def readAll (stdin : IO.FS.Stream) (acc : String) : IO String := do
  let line ← stdin.getLine
  if line.isEmpty then return acc else readAll stdin (acc ++ line)

/-- Runs the command with the given arguments. -/
def main (args : List String) : IO UInt32 := do
  let input ← readAll (← IO.getStdin) ""
  match Json.readText Json.Scan.readValue input with
  | .error e =>
    IO.eprintln ("Error: " ++ e.message)
    return 1
  | .ok v =>
    match Cli.projectOf v >>= Cli.run Cli.unavailableTools args with
    | .error message =>
      IO.eprintln ("Error: " ++ message)
      return 1
    | .ok outcome =>
      outcome.err.forM IO.eprintln
      outcome.out.forM IO.println
      IO.println (Cli.filesOf outcome.project).render
      return 0
