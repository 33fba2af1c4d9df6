import Bidirectional.Env
import Bidirectional.Log

/-!
# Events and runs of a judgment

A judgment reads and overwrites one environment and makes events known as it goes: that it begins
with an expression of some kind, that it is done with one and how it ended, and what happened to the
name of a `let`.  Events carry the data itself; their wording is only for the log.

Given the environment it starts in, a judgment comes to a run: its answer, the environment it
leaves, and its events in order.  Judgments are put together one after the other, each starting in
the environment that the one before it left.

## Main definitions

* `Event`, `Event.record`: the events, and the log record of an event
* `Run`: an answer, the environment left behind and the events on the way
* `Run.log`: the log of a run
* `Judge`: what turns an environment into a run
* `Judge.emit`, `Judge.typeOf`, `Judge.assign`: the single steps

## Main results

* `Judge.bind_apply`: a sequence runs its parts in order
-/

namespace Bidirectional

/-- The events of a judgment. -/
inductive Event where
  /-- Synthesis begins. -/
  | enterSynth (kind : Kind)
  /-- Synthesis is done, with or without a type. -/
  | leaveSynth (kind : Kind) (result : Option Ty)
  /-- Checking against a goal begins. -/
  | enterCheck (kind : Kind) (goal : Ty)
  /-- Checking against a goal is done. -/
  | leaveCheck (kind : Kind) (goal : Ty) (result : Bool)
  /-- The expression bound by a `let` has no type. -/
  | untyped (name : Name)
  /-- A `let` gives a type to a name that was bound already. -/
  | overwrote (name : Name) (ty : Ty)
  deriving DecidableEq

namespace Event

/-- The level of an event: the fate of a `let` name is for debugging, the rest is a trace. -/
def level : Event → Log.Level
  | .untyped _ | .overwrote .. => .debug
  | _ => .trace

/-- The wording of an event. -/
def message : Event → String
  | .enterSynth k => "synthesize " ++ k.render
  | .leaveSynth k r => k.render ++ " => " ++ Ty.renderOr "no type" r
  | .enterCheck k t => "check " ++ k.render ++ " <= " ++ t.render
  | .leaveCheck k t r => k.render ++ " <= " ++ t.render ++ ": " ++ Text.ofBool r
  | .untyped x => "let " ++ x ++ ": bound expression has no type"
  | .overwrote x t => "let " ++ x ++ ": overwriting binding with " ++ t.render

/-- The log record of an event. -/
def record (e : Event) : Log.Record :=
  ⟨e.level, .judgment, e.message⟩

end Event

/-- What a judgment comes to. -/
structure Run (α : Type) where
  /-- The answer. -/
  answer : α
  /-- The environment left behind. -/
  env : Env
  /-- The events, first to last. -/
  events : List Event
  deriving DecidableEq

/-- The log of a run. -/
def Run.log {α : Type} (r : Run α) : List Log.Record :=
  r.events.map Event.record

/-- A judgment with answers in `α`. -/
def Judge (α : Type) : Type :=
  Env → Run α

namespace Judge

variable {α β : Type}

/-- The judgment that answers `a` and does nothing else. -/
protected def pure (a : α) : Judge α :=
  fun env => ⟨a, env, []⟩

/-- One judgment, then the judgment its answer leads to. -/
protected def bind (m : Judge α) (k : α → Judge β) : Judge β :=
  fun env =>
    let first := m env
    let second := k first.answer first.env
    ⟨second.answer, second.env, first.events ++ second.events⟩

instance : Monad Judge where
  pure := Judge.pure
  bind := Judge.bind

/-- A sequence runs its second part in the environment left by the first, and its events are those
of the first and then those of the second. -/
theorem bind_apply (m : Judge α) (k : α → Judge β) (env : Env) :
    (m >>= k) env =
      ⟨(k (m env).answer (m env).env).answer, (k (m env).answer (m env).env).env,
        (m env).events ++ (k (m env).answer (m env).env).events⟩ := rfl

/-- Makes an event known. -/
def emit (e : Event) : Judge Unit :=
  fun env => ⟨(), env, [e]⟩

/-- The type of a name. -/
def typeOf (x : Name) : Judge (Option Ty) :=
  fun env => ⟨env.lookup x, env, []⟩

/-- Binds the name of a `let` to what was synthesized for it.  Before that it is made known if there
is no type, or if the name is bound already. -/
def assign (x : Name) (t : Option Ty) : Judge Unit :=
  fun env => ⟨(), env.bind x t,
    match t with
    | none => [.untyped x]
    | some ty => if env.isBound x then [.overwrote x ty] else []⟩

theorem emit_apply (e : Event) (env : Env) : emit e env = ⟨(), env, [e]⟩ := rfl

end Judge

end Bidirectional
