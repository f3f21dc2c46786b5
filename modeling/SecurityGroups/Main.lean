/-
SecurityGroups/Main.lean

The command line of the checker.

It reads the settings from the environment and the request from standard
input, and exits with the status of the report.
-/
import SecurityGroups.Checker

namespace SecurityGroups

/-- The settings that the environment has. -/
def environment : IO (String → Option String) := do
  let limit ← IO.getEnv Settings.limitName
  let log ← IO.getEnv Settings.logName
  return fun name =>
    if name = Settings.limitName then limit else if name = Settings.logName then log else none

end SecurityGroups

open SecurityGroups

/-- Runs the checker once. -/
def main (args : List String) : IO UInt32 := do
  let lookup ← environment
  let input ← if args.isEmpty then pure "" else (← IO.getStdin).readToEnd
  let report := Checker.report (Checker.check lookup args input)
  IO.print report.output
  match report.failure with
  | some message => IO.eprintln message
  | none => pure ()
  return report.status.toUInt32
