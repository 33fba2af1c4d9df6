import Bidirectional.CommandLine.Arguments

/-!
# The command line

Prints what `Bidirectional.CommandLine.execute` answers to the arguments.  A record of the log is
one line, without the time at which it was made.
-/

open Bidirectional

/-- A record as a line on standard error: level, origin and message. -/
def logLine (r : Log.Record) : String :=
  "[" ++ Text.padRight 5 r.level.render ++ " " ++ r.origin.path ++ "] " ++ r.message

/-- Prints the answer to the arguments and ends with its exit status. -/
def main (args : List String) : IO UInt32 := do
  let out := CommandLine.execute logLine args
  IO.print out.stdout
  out.stderr.forM IO.eprintln
  return out.exitCode.toUInt32
