import Bidirectional.Judgment.Run

/-!
# The two judgments

Synthesis finds a type for an expression; checking tests an expression against a goal.  There is one
definition per rule, over the judgments of the parts: what is done for an expression of each kind in
either mode, given how its parts are judged.  The environment is one flat store: a parameter is read
from it and not introduced, and a `let` writes into it for good.

Every rule makes known that it begins.  It makes known how it ended too, except that an
application without a function type for its function, and an intersection with a member without a
type, just have no type.

Each judgment calls the other on parts of the expression only, so both end on every expression, and
neither can fail: an expression that no rule types is answered with no type, or with `false`.

## Main definitions

* `Rule.synthVar`, `Rule.synthLam`, `Rule.synthApp`, `Rule.synthUnit`, `Rule.synthLet`,
  `Rule.synthInter`: synthesis, by kind
* `Rule.checkLam`, `Rule.checkApp`, `Rule.subsume`: checking
* `synth`: the type of an expression, if it has one
* `check`: whether an expression has a given type
-/

namespace Bidirectional

namespace Rule

open Judge (emit typeOf assign)

/-- Ends synthesis with a result. -/
def synthesized (k : Kind) (r : Option Ty) : Judge (Option Ty) := do
  emit (.leaveSynth k r)
  return r

/-- Ends checking with a result. -/
def checked (k : Kind) (goal : Ty) (r : Bool) : Judge Bool := do
  emit (.leaveCheck k goal r)
  return r

/-! ## Synthesis -/

/-- A variable has the type of its name. -/
def synthVar (x : Name) : Judge (Option Ty) := do
  emit (.enterSynth .variable)
  let t ← typeOf x
  synthesized .variable t

/-- The type of a function from what is known of its parameter and its body. -/
def arrow? : Option Ty → Option Ty → Option Ty
  | some d, some c => some (.arrow d c)
  | _, _ => none

/-- A lambda goes from the type of its parameter, read before the body is judged, to the type of its
body, which is judged in any case. -/
def synthLam (x : Name) (body : Judge (Option Ty)) : Judge (Option Ty) := do
  emit (.enterSynth .lambda)
  let d ← typeOf x
  let c ← body
  synthesized .lambda (arrow? d c)

/-- An application has the codomain of its function, if its argument checks against the domain. -/
def synthApp (fn : Judge (Option Ty)) (arg : Ty → Judge Bool) : Judge (Option Ty) := do
  emit (.enterSynth .application)
  match ← fn with
  | some (.arrow d c) =>
    let ok ← arg d
    synthesized .application (if ok then some c else none)
  | _ => return none

/-- The unit value has the unit type. -/
def synthUnit : Judge (Option Ty) := do
  emit (.enterSynth .unit)
  synthesized .unit (some .unit)

/-- A `let` binds its name to whatever was synthesized, and has the type of its body.  Without a
type for the bound expression the body is not judged. -/
def synthLet (x : Name) (bound body : Judge (Option Ty)) : Judge (Option Ty) := do
  emit (.enterSynth .letIn)
  let t ← bound
  assign x t
  match t with
  | some _ =>
    let r ← body
    synthesized .letIn r
  | none => synthesized .letIn none

/-- The intersection of a list of types, none being needed for the empty list. -/
def inter? : List Ty → Option Ty
  | [] => none
  | m :: ms => some (.inter (m :: ms))

/-- An intersection has the intersection of the types of its members, if there are members and all
have a type. -/
def synthInter (members : Judge (Option (List Ty))) : Judge (Option Ty) := do
  emit (.enterSynth .intersect)
  match ← members with
  | some ts => synthesized .intersect (inter? ts)
  | none => return none

/-- No members have no types. -/
def synthNil : Judge (Option (List Ty)) :=
  return some []

/-- Members have types if the first has one and the others do; they are judged in order, up to the
first one without a type. -/
def synthCons (first : Judge (Option Ty)) (rest : Judge (Option (List Ty))) :
    Judge (Option (List Ty)) := do
  match ← first with
  | some t => return (← rest).map (t :: ·)
  | none => return none

/-! ## Checking -/

/-- A lambda checks against a function type whose domain the type of its parameter is a subtype of,
if its body checks against the codomain. -/
def checkLam (x : Name) (body : Ty → Judge Bool) (goal : Ty) : Judge Bool := do
  emit (.enterCheck .lambda goal)
  match goal with
  | .arrow d c =>
    let t ← typeOf x
    if Ty.anyBelow d t then
      let ok ← body c
      checked .lambda goal ok
    else checked .lambda goal false
  | _ => checked .lambda goal false

/-- An application checks against a goal if its function checks against the function type from the
type of the argument, which is synthesized first, to the goal. -/
def checkApp (fn : Ty → Judge Bool) (arg : Judge (Option Ty)) (goal : Ty) : Judge Bool := do
  emit (.enterCheck .application goal)
  match ← arg with
  | some t =>
    let ok ← fn (.arrow t goal)
    checked .application goal ok
  | none => checked .application goal false

/-- Any other expression checks against a goal if the type synthesized for it is a subtype. -/
def subsume (k : Kind) (synth : Judge (Option Ty)) (goal : Ty) : Judge Bool := do
  emit (.enterCheck k goal)
  let t ← synth
  checked k goal (Ty.anyBelow goal t)

end Rule

/-! ## The judgments -/

open Rule

mutual

/-- Synthesizes the type of an expression. -/
def synth : Expr → Judge (Option Ty)
  | .var x => synthVar x
  | .lam x b => synthLam x (synth b)
  | .app f a => synthApp (synth f) (check a)
  | .unit => synthUnit
  | .letIn x b c => synthLet x (synth b) (synth c)
  | .inter es => synthInter (synthAll es)

/-- Checks an expression against a goal. -/
def check : Expr → Ty → Judge Bool
  | .var x => subsume .variable (synthVar x)
  | .lam x b => checkLam x (check b)
  | .app f a => checkApp (check f) (synth a)
  | .unit => subsume .unit synthUnit
  | .letIn x b c => subsume .letIn (synthLet x (synth b) (synth c))
  | .inter es => subsume .intersect (synthInter (synthAll es))

/-- Synthesizes the types of the members of an intersection. -/
def synthAll : List Expr → Judge (Option (List Ty))
  | [] => synthNil
  | e :: es => synthCons (synth e) (synthAll es)

end

/-- Checking an expression that is neither a lambda nor an application is synthesis and a subtype
test. -/
theorem check_eq_subsume {e : Expr} (hl : e.kind ≠ .lambda) (ha : e.kind ≠ .application) (t : Ty) :
    check e t = subsume e.kind (synth e) t := by
  cases e <;> simp_all [check, synth, Expr.kind]

end Bidirectional
