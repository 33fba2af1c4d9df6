import Bidirectional.CommandLine.Output

/-!
# Arguments of the command line

The outer layer of the command line: the words that are given to it, read as a request.  Options are
read up to the command and after it; `--` after the command makes names of all words that follow,
whatever they look like, and `-` is a name too.  How much of the log is shown goes by how often it
was asked for after the command, or, if it was not asked for there, before it.

Only the commands `list` and `run`, and the options for the verbosity and the version, are read.
Help, by an option or as a command, and the completions for a shell are left out: to ask for them
counts as misuse here.  What is said about misuse is one line, in place of an account of what was
misused.

## Main definitions

* `CommandLine.Word`: one argument by its look
* `CommandLine.Request.ofArgs?`: reading the arguments, unless they are misused
* `CommandLine.execute`: the answer to a list of arguments
-/

namespace Bidirectional.CommandLine

/-- An argument by its look. -/
inductive Word where
  /-- One or more requests to show more of the log. -/
  | more (times : Nat)
  /-- The request for the version, alone or after requests to show more. -/
  | version
  /-- The end of the options. -/
  | endOfOptions
  /-- An option that does not exist. -/
  | unknownOption
  /-- Anything else. -/
  | plain
  deriving DecidableEq

/-- Single-letter options written together: each `v` asks for more, and the first `V` for the
version, whatever follows it. -/
def Word.ofLetters (letters : List Char) : Word :=
  match letters.dropWhile (· == 'v') with
  | [] => .more letters.length
  | 'V' :: _ => .version
  | _ => .unknownOption

/-- The option of a long name. -/
def Word.ofLongName (name : List Char) : Word :=
  if name = "verbose".toList then .more 1
  else if name = "version".toList then .version
  else .unknownOption

/-- An argument by its look. -/
def Word.ofChars : List Char → Word
  | ['-'] => .plain
  | ['-', '-'] => .endOfOptions
  | '-' :: '-' :: name => .ofLongName name
  | '-' :: letters => .ofLetters letters
  | _ => .plain

/-- The words after the command: how often more of the log was asked for, and the names.  The
options are known ones only, and the version is not asked for here. -/
def operands? : List String → Option (Nat × List Name)
  | [] => some (0, [])
  | w :: ws =>
    match Word.ofChars w.toList with
    | .more n => (operands? ws).map fun (times, names) => (n + times, names)
    | .plain => (operands? ws).map fun (times, names) => (times, w :: names)
    | .endOfOptions => some (0, ws)
    | .version | .unknownOption => none

/-- The verbosity asked for by the counts before and after the command. -/
def verbosity (before after : Nat) : Log.Verbosity :=
  .ofCount (if after = 0 then before else after)

/-- The request made by a command and the words after it. -/
def command? (before : Nat) (name : String) (rest : List String) : Option Request :=
  match operands? rest with
  | none => none
  | some (after, names) =>
    if name = "run" then some (.run (verbosity before after) names)
    else if name = "list" ∧ names = [] then some .list
    else none

/-- Reads the arguments, more of the log having been asked for `before` times. -/
def scan? (before : Nat) : List String → Option Request
  | [] => none
  | w :: ws =>
    match Word.ofChars w.toList with
    | .more n => scan? (before + n) ws
    | .version => some .version
    | .plain => command? before w ws
    | .endOfOptions | .unknownOption => none

/-- What the arguments ask for, or nothing if they are misused. -/
def Request.ofArgs? (args : List String) : Option Request :=
  scan? 0 args

/-- The answer to arguments that are misused. -/
def misuse : Output :=
  ⟨2, "", ["usage: bitype [-v]... list | run [NAMES]..."]⟩

/-- The answer to a list of arguments. -/
def execute (line : Log.Record → String) (args : List String) : Output :=
  match Request.ofArgs? args with
  | some r => answer line r
  | none => misuse

end Bidirectional.CommandLine
