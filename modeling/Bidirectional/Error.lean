import Bidirectional.Render

/-!
# Errors and partial operations

The three ways in which a request can be refused, and the operations that have two of them.  An
expression without a type is not an error: a judgment answers it with no type, or with `false`.

Equality of types is supported in part: the two sides are walked together, domain first, and an
intersection met on the left ends the walk with an error.  Where the domains differ the codomains
are not looked at, so an intersection there goes unnoticed; an intersection on the right alone only
makes the types unequal.

The intersection of a list of types or of expressions is refused for the empty list.  The
constructors themselves take any list; these operations are for members whose number is not known
beforehand.  A type built without the empty list has a member in every intersection, at any depth.

## Main definitions

* `Error`, `Error.message`: the causes and their wording
* `Ty.structEq`: supported structural equality
* `Ty.ofMembers`, `Expr.ofMembers`: the intersection of a list with at least one member
* `Ty.NoEmptyInter`: types without an empty intersection at any depth
-/

namespace Bidirectional

/-- The causes for which a request is refused. -/
inductive Error where
  /-- Structural equality met an intersection on its left side. -/
  | unsupportedEquality (ty : Ty)
  /-- An intersection was to be built from no members. -/
  | emptyIntersection
  /-- The catalogue has no program of this name. -/
  | unknownProgram (name : String)
  deriving DecidableEq

/-- The wording of an error. -/
def Error.message : Error → String
  | .unsupportedEquality t =>
    "structural equality is not supported for intersection type `" ++ t.render ++ "`"
  | .emptyIntersection => "an intersection needs at least one member"
  | .unknownProgram name => "unknown program `" ++ name ++ "`"

/-! ## Structural equality -/

/-- Whether two types are equal, or the intersection on the left side that keeps this from being
said. -/
def Ty.structEq : Ty → Ty → Except Error Bool
  | .inter ms, _ => .error (.unsupportedEquality (.inter ms))
  | .unit, .unit => .ok true
  | .arrow d c, .arrow d' c' =>
    match structEq d d' with
    | .ok true => structEq c c'
    | .ok false => .ok false
    | .error e => .error e
  | _, _ => .ok false

/-! ## Building intersections -/

/-- The intersection type of a list of members, of which there has to be one. -/
def Ty.ofMembers : List Ty → Except Error Ty
  | [] => .error .emptyIntersection
  | m :: ms => .ok (.inter (m :: ms))

/-- The intersection of a list of expressions, of which there has to be one. -/
def Expr.ofMembers : List Expr → Except Error Expr
  | [] => .error .emptyIntersection
  | e :: es => .ok (.inter (e :: es))

namespace Ty

mutual

/-- The type has no empty intersection at any depth. -/
def NoEmptyInter : Ty → Prop
  | .unit => True
  | .arrow d c => NoEmptyInter d ∧ NoEmptyInter c
  | .inter ms => ms ≠ [] ∧ NoEmptyInterAll ms

/-- None of a list of types has an empty intersection at any depth. -/
def NoEmptyInterAll : List Ty → Prop
  | [] => True
  | m :: ms => NoEmptyInter m ∧ NoEmptyInterAll ms

end

mutual

/-- Whether there is an empty intersection is decided part by part. -/
def decNoEmptyInter : (t : Ty) → Decidable t.NoEmptyInter
  | .unit => isTrue trivial
  | .arrow d c =>
    have := decNoEmptyInter d
    have := decNoEmptyInter c
    inferInstanceAs (Decidable (NoEmptyInter d ∧ NoEmptyInter c))
  | .inter ms =>
    have := decNoEmptyInterAll ms
    inferInstanceAs (Decidable (ms ≠ [] ∧ NoEmptyInterAll ms))

/-- For a list of types it is decided one by one. -/
def decNoEmptyInterAll : (ms : List Ty) → Decidable (NoEmptyInterAll ms)
  | [] => isTrue trivial
  | m :: ms =>
    have := decNoEmptyInter m
    have := decNoEmptyInterAll ms
    inferInstanceAs (Decidable (NoEmptyInter m ∧ NoEmptyInterAll ms))

end

instance : DecidablePred NoEmptyInter := decNoEmptyInter

theorem noEmptyInterAll_iff {ms : List Ty} :
    NoEmptyInterAll ms ↔ ∀ m ∈ ms, NoEmptyInter m := by
  induction ms with
  | nil => simp [NoEmptyInterAll]
  | cons m ms ih => simp [NoEmptyInterAll, ih]

theorem noEmptyInter_inter {ms : List Ty} :
    NoEmptyInter (.inter ms) ↔ ms ≠ [] ∧ ∀ m ∈ ms, NoEmptyInter m := by
  rw [NoEmptyInter, noEmptyInterAll_iff]

end Ty

end Bidirectional
