/-!
# The log

A record has a level, the part of the checker it comes from, and a message.  A reader of the log
sets how much of it is shown: nothing, the debug records, or the trace records too.

## Main definitions

* `Log.Level`, `Log.Origin`, `Log.Record`: records
* `Log.Verbosity`, `Log.Verbosity.shown`: the records that a reader sees
* `Log.Record.render`: a record as text
-/

namespace Bidirectional.Log

/-- The levels of a record. -/
inductive Level where
  | debug
  | trace
  deriving DecidableEq

/-- The word for a level. -/
def Level.render : Level → String
  | .debug => "DEBUG"
  | .trace => "TRACE"

/-- The parts of the checker that write records. -/
inductive Origin where
  | judgment
  | programs
  deriving DecidableEq

/-- The path by which a log names an origin. -/
def Origin.path : Origin → String
  | .judgment => "bitype::typechecker::judgment"
  | .programs => "bitype::programs"

/-- One record of the log. -/
structure Record where
  /-- How detailed the record is. -/
  level : Level
  /-- Who wrote it. -/
  origin : Origin
  /-- What it says. -/
  message : String
  deriving DecidableEq

/-- A record as text: its level and what it says. -/
def Record.render (r : Record) : String :=
  r.level.render ++ " " ++ r.message

/-- How much of the log is shown. -/
inductive Verbosity where
  | quiet
  | debug
  | trace
  deriving DecidableEq

/-- The verbosity asked for by saying "more" a number of times. -/
def Verbosity.ofCount : Nat → Verbosity
  | 0 => .quiet
  | 1 => .debug
  | _ => .trace

/-- Whether records of a level are shown. -/
def Verbosity.shows : Verbosity → Level → Bool
  | .quiet, _ => false
  | .debug, .debug => true
  | .debug, .trace => false
  | .trace, _ => true

/-- The records that are shown, in order. -/
def Verbosity.shown (v : Verbosity) (records : List Record) : List Record :=
  records.filter fun r => v.shows r.level

end Bidirectional.Log
