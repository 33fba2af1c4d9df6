import Bidirectional.Error
import Bidirectional.Judgment.Basic

/-!
# Programs

A program is an expression together with the environment it is judged in, the mode of the judgment
and the outcome it is expected to have.  Running it judges the expression in that environment, so a
program can be run any number of times, and reports whether the outcome is the expected one.

The catalogue has the programs that come with the checker, in the order in which they are presented,
and the way to one of them by its name.

## Main definitions

* `Goal`, `Outcome`, `Program`, `Report`
* `Outcome.agrees`: whether two outcomes are the same
* `Program.judge`: the outcome of a program, with the events on the way
* `Program.run`, `Program.log`: the report and the log of a run
* `Catalogue.programs`: all programs
* `Catalogue.find?`, `Catalogue.find`: the program of a name
-/

namespace Bidirectional

/-- What a program asks of its expression. -/
inductive Goal where
  /-- To check against a type. -/
  | check (ty : Ty)
  /-- To have a type synthesized. -/
  | synthesize
  deriving DecidableEq

/-- What a judgment answered, by its mode. -/
inductive Outcome where
  | checked (result : Bool)
  | synthesized (result : Option Ty)
  deriving DecidableEq

namespace Outcome

/-- Whether two results of synthesis are the same: both missing, or the same tree. -/
def sameResult : Option Ty → Option Ty → Bool
  | none, none => true
  | some s, some t => s.same t
  | _, _ => false

/-- Whether two outcomes are of one mode and carry the same result. -/
def agrees : Outcome → Outcome → Bool
  | .checked b, .checked b' => b == b'
  | .synthesized r, .synthesized r' => sameResult r r'
  | _, _ => false

/-- An outcome as text. -/
def render : Outcome → String
  | .checked b => Text.ofBool b
  | .synthesized r => Ty.renderOr "no type" r

end Outcome

/-- An expression to judge, with all that the judgment needs and the outcome it should have. -/
structure Program where
  /-- The name by which it is called. -/
  name : Name
  /-- What it shows. -/
  description : String
  /-- The environment it is judged in. -/
  env : Env
  /-- The expression. -/
  expr : Expr
  /-- The mode of the judgment. -/
  goal : Goal
  /-- The outcome it should have. -/
  expected : Outcome
  deriving DecidableEq

/-- What a run of a program came to. -/
structure Report where
  /-- The name of the program. -/
  name : Name
  /-- The outcome it had. -/
  outcome : Outcome
  /-- Whether that is the expected one. -/
  passed : Bool
  deriving DecidableEq

/-- Judges an expression as a goal asks. -/
def Goal.judge : Goal → Expr → Judge Outcome
  | .check t, e => return .checked (← Bidirectional.check e t)
  | .synthesize, e => return .synthesized (← Bidirectional.synth e)

namespace Program

/-- Judges the expression of a program in its environment. -/
def judge (p : Program) : Run Outcome :=
  p.goal.judge p.expr p.env

/-- Runs a program. -/
def run (p : Program) : Report :=
  ⟨p.name, p.judge.answer, p.judge.answer.agrees p.expected⟩

/-- The record that closes the log of a run: the outcome next to the expected one. -/
def closingRecord (p : Program) : Log.Record :=
  ⟨.debug, .programs,
    p.name ++ ": " ++ p.judge.answer.render ++ " (expected " ++ p.expected.render ++ ")"⟩

/-- The log of a run: the events of the judgment and the closing record. -/
def log (p : Program) : List Log.Record :=
  p.judge.log ++ [p.closingRecord]

end Program

/-! ## The catalogue -/

namespace Catalogue

/-- The type of functions from unit to unit. -/
def unitToUnit : Ty :=
  .arrow .unit .unit

/-- A lambda that ignores its parameter. -/
def lambdaUnit : Program where
  name := "lambda-unit"
  description := "a lambda returning unit checks against () -> ()"
  env := Env.empty.declare "x" .unit
  expr := .lam "x" .unit
  goal := .check unitToUnit
  expected := .checked true

/-- An intersection, bound and then passed on. -/
def letIntersectionLambda : Program where
  name := "let-intersection-lambda"
  description := "an intersection bound by let is passed to a lambda"
  env := ((Env.empty.declare "x" .unit).declare "z" .unit).declare "g" unitToUnit
  expr := .letIn "y" (.inter [.var "z", .var "g"]) (.app (.lam "x" (.var "y")) (.var "y"))
  goal := .check .unit
  expected := .checked true

/-- A function of two arguments, one after the other. -/
def curriedApplication : Program where
  name := "curried-application"
  description := "a curried function applied to unit, then to a function"
  env := (Env.empty.declare "f" unitToUnit).declare "g" (.arrow .unit (.arrow unitToUnit .unit))
  expr := .app (.app (.var "g") .unit) (.var "f")
  goal := .check .unit
  expected := .checked true

/-- An intersection where one of its members is asked for. -/
def intersectionPolymorphism : Program where
  name := "intersection-polymorphism"
  description := "a value of type () /\\ (() -> ()) is accepted where () is expected"
  env := Env.empty.declare "f" unitToUnit
  expr := .letIn "x" (.inter [.unit, .var "f"]) (.app (.var "f") (.var "x"))
  goal := .check .unit
  expected := .checked true

/-- A name that is not bound. -/
def unboundVariable : Program where
  name := "unbound-variable"
  description := "a variable missing from the environment has no type"
  env := Env.empty
  expr := .var "x"
  goal := .synthesize
  expected := .synthesized none

/-- A goal that is not met. -/
def unitAgainstFunction : Program where
  name := "unit-against-function"
  description := "the unit value does not check against a function type"
  env := Env.empty
  expr := .unit
  goal := .check unitToUnit
  expected := .checked false

/-- All programs, in order. -/
def programs : List Program :=
  [lambdaUnit, letIntersectionLambda, curriedApplication, intersectionPolymorphism,
    unboundVariable, unitAgainstFunction]

/-- The program of a name, if there is one. -/
def find? (name : Name) : Option Program :=
  programs.find? fun p => p.name == name

/-- The program of a name, or the error that there is none. -/
def find (name : Name) : Except Error Program :=
  match find? name with
  | some p => .ok p
  | none => .error (.unknownProgram name)

end Catalogue

end Bidirectional
