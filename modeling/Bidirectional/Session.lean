import Bidirectional.Error
import Bidirectional.Judgment.Basic

/-!
# Sessions

A session is a series of steps on one environment: judgments, bindings and questions.  What a step
writes stays for the steps after it.  A step that could not be built is answered by the error that
kept it from being built, and leaves the environment as it was.

## Main definitions

* `Step`, `Reply`: what a session can be asked, and its answers
* `Step.run`: one step
* `Session.run`: a list of steps, one after the other
* `Session.transcript`: what each request of a list came to
-/

namespace Bidirectional

/-- The steps of a session. -/
inductive Step where
  /-- Check an expression against a goal. -/
  | check (e : Expr) (goal : Ty)
  /-- Synthesize the type of an expression. -/
  | synth (e : Expr)
  /-- Bind a name to a type or to no type. -/
  | bind (x : Name) (t : Option Ty)
  /-- Bind a name to a type. -/
  | declare (x : Name) (t : Ty)
  /-- Ask for the type of a name. -/
  | lookup (x : Name)
  /-- Ask whether a name is bound. -/
  | isBound (x : Name)
  /-- Ask for the number of names bound. -/
  | size
  /-- Ask whether no name is bound. -/
  | isEmpty
  deriving DecidableEq

/-- The answers of a session. -/
inductive Reply where
  /-- Nothing to say. -/
  | done
  /-- Yes or no. -/
  | truth (b : Bool)
  /-- A type or none. -/
  | type (t : Option Ty)
  /-- A number. -/
  | count (n : Nat)
  deriving DecidableEq

/-- Runs one step. -/
def Step.run : Step → Judge Reply
  | .check e t => return .truth (← Bidirectional.check e t)
  | .synth e => return .type (← Bidirectional.synth e)
  | .bind x t => fun env => ⟨.done, env.bind x t, []⟩
  | .declare x t => fun env => ⟨.done, env.declare x t, []⟩
  | .lookup x => fun env => ⟨.type (env.lookup x), env, []⟩
  | .isBound x => fun env => ⟨.truth (env.isBound x), env, []⟩
  | .size => fun env => ⟨.count env.size, env, []⟩
  | .isEmpty => fun env => ⟨.truth env.isEmpty, env, []⟩

namespace Session

/-- Runs steps in order, each in the environment left by the one before it. -/
def run : List Step → Judge (List Reply)
  | [] => return []
  | s :: ss => do
    let reply ← s.run
    return reply :: (← run ss)

/-- What may be asked: a step, or the error that kept one from being built. -/
abbrev Request := Except Error Step

/-- Answers one request. -/
def answer : Request → Judge (Except Error Reply)
  | .ok s => return .ok (← s.run)
  | .error e => return .error e

/-- What each of a list of requests came to, in order. -/
def transcript : List Request → Env → List (Run (Except Error Reply))
  | [], _ => []
  | r :: rs, env => answer r env :: transcript rs (answer r env).env

/-- The environment after a list of requests. -/
def finish : List Request → Env → Env
  | [], env => env
  | r :: rs, env => finish rs (answer r env).env

end Session

end Bidirectional
