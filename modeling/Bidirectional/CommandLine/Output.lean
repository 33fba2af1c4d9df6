import Bidirectional.Program
import Bidirectional.Text.Quoted

/-!
# Answers of the command line

What a request comes to: an exit status, the text on standard output and the lines on standard
error.  All programs asked for are looked up first, so a name that is not in the catalogue keeps
every program from running.  Then they are run one after the other, each in its own environment: the
loop prints what a program comes to, writes the records of its log that are shown, and counts the
programs that did not have the outcome expected.

How a record is laid out as a line is not settled here; it is the parameter `line` of all that
writes to the log.  The verbosity of a request is the level that is in effect.  The surroundings of
a process may set a filter that overrides the level asked for; such a filter has no part in this.

## Main definitions

* `CommandLine.Request`: what can be asked for
* `CommandLine.Output`: an exit status with what is printed
* `CommandLine.Tally.next`: the loop over programs, one program further
* `CommandLine.list`, `CommandLine.runNamed`: the two commands
* `CommandLine.answer`: the answer to a request
-/

namespace Bidirectional.CommandLine

/-- What a command line asks for. -/
inductive Request where
  /-- To say which version this is. -/
  | version
  /-- To list the catalogue. -/
  | list
  /-- To run programs: those named, or all if none is. -/
  | run (verbosity : Log.Verbosity) (names : List Name)
  deriving DecidableEq

/-- What a command line comes to. -/
structure Output where
  /-- The exit status. -/
  exitCode : Nat
  /-- The text on standard output. -/
  stdout : String
  /-- The lines on standard error. -/
  stderr : List String
  deriving DecidableEq

/-- Lines as text, each of them ended. -/
def unlines (ls : List String) : String :=
  String.join (ls.map (· ++ "\n"))

/-- The answer to the question for the version. -/
def version : Output :=
  ⟨0, unlines ["bitype 0.1.0"], []⟩

/-- The line of a program in the list of all. -/
def listLine (p : Program) : String :=
  Text.padRight 28 p.name ++ " " ++ p.description

/-- Lists the catalogue. -/
def list : Output :=
  ⟨0, unlines (Catalogue.programs.map listLine), []⟩

/-- The line that says what a program asks of its expression. -/
def goalLine : Goal → String
  | .check t => "  check:       " ++ t.render
  | .synthesize => "  synthesize"

/-- The lines printed for a program that was run, a blank one at their end. -/
def block (p : Program) : List String :=
  [p.name ++ ": " ++ p.description,
    "  environment: " ++ p.env.render,
    "  expression:  " ++ p.expr.render,
    goalLine p.goal,
    "  result:      " ++ p.run.outcome.render,
    if p.run.passed then "PASSED" else "FAILED",
    ""]

/-! ## Running programs -/

/-- How far a series of programs has come. -/
structure Tally where
  /-- The number of programs that did not have the outcome expected. -/
  failures : Nat
  /-- The text on standard output. -/
  stdout : String
  /-- The lines on standard error. -/
  stderr : List String
  deriving DecidableEq

/-- Before the first program. -/
def Tally.start : Tally :=
  ⟨0, "", []⟩

/-- Runs one more program: its lines are printed, the records of its log are written, and it is
counted if it did not have the outcome expected. -/
def Tally.next (line : Log.Record → String) (v : Log.Verbosity) (t : Tally) (p : Program) : Tally :=
  ⟨if p.run.passed then t.failures else t.failures + 1,
    t.stdout ++ unlines (block p),
    t.stderr ++ (v.shown p.log).map line⟩

/-- The line that closes a run in which programs did not have the outcome expected. -/
def failureLine (failures total : Nat) : String :=
  toString failures ++ " of " ++ toString total ++ " programs failed"

/-- What a tally at the end of a run of so many programs comes to. -/
def Tally.finish (t : Tally) (total : Nat) : Output :=
  if 0 < t.failures then ⟨1, t.stdout, t.stderr ++ [failureLine t.failures total]⟩
  else ⟨0, t.stdout, t.stderr⟩

/-- Runs programs in order.  The exit status says whether all had the outcome expected. -/
def runAll (line : Log.Record → String) (v : Log.Verbosity) (ps : List Program) : Output :=
  (ps.foldl (Tally.next line v) .start).finish ps.length

/-! ## Programs by name -/

/-- The programs of a list of names, or the first name that has none. -/
def select : List Name → Except Name (List Program)
  | [] => .ok []
  | x :: xs =>
    match Catalogue.find? x with
    | none => .error x
    | some p => (select xs).map (p :: ·)

/-- The answer to a name that is not in the catalogue. -/
def unknown (x : Name) : Output :=
  ⟨1, "", ["Error: UnknownProgram \x7b name: " ++ Text.quoted x ++ " \x7d"]⟩

/-- Runs the programs of a list of names, or the whole catalogue if the list is empty. -/
def runNamed (line : Log.Record → String) (v : Log.Verbosity) : List Name → Output
  | [] => runAll line v Catalogue.programs
  | x :: xs =>
    match select (x :: xs) with
    | .ok ps => runAll line v ps
    | .error y => unknown y

/-- The answer to a request. -/
def answer (line : Log.Record → String) : Request → Output
  | .version => version
  | .list => list
  | .run v names => runNamed line v names

end Bidirectional.CommandLine
