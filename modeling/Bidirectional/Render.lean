import Bidirectional.Expr.Basic
import Bidirectional.Ty

/-!
# Types and expressions as text

The unit type is `()`.  A function type is its domain, an arrow and its codomain; the arrow groups
to the right, so a codomain that is itself a function stands bare.  An intersection is its members
with `/\` between them; a one-member intersection has a leading `/\`, which tells it from its
member, and the empty one is the empty text.

A function is `\x. body` and a binding `let x = bound; body`; both reach as far to the right as
they can, so as the function of an application they stand in parentheses.  Application groups to
the left, and its argument stands bare only if it is a variable, the unit value or an
intersection.  The members of an intersection stand bare between its parentheses.

## Main definitions

* `Text.parens`, `Text.parensIf`, `Text.ofBool`, `Text.padRight`: small pieces of layout
* `Ty.render`: a type as text
* `Ty.renderOr`: a type that may be missing, with the word to use if it is
* `Expr.render`: an expression as text
-/

namespace Bidirectional

namespace Text

/-- The text between parentheses. -/
def parens (s : String) : String :=
  "(" ++ s ++ ")"

/-- The text between parentheses if `b` holds, and bare otherwise. -/
def parensIf (b : Bool) (s : String) : String :=
  if b then parens s else s

@[simp]
theorem parensIf_true (s : String) : parensIf true s = parens s := rfl

@[simp]
theorem parensIf_false (s : String) : parensIf false s = s := rfl

/-- The word for a truth value. -/
def ofBool : Bool → String
  | true => "true"
  | false => "false"

/-- The text followed by as many blanks as it needs to be `width` characters long; a text that is
already longer is kept whole. -/
def padRight (width : Nat) (s : String) : String :=
  s ++ String.ofList (List.replicate (width - s.length) ' ')

end Text

/-! ## Types -/

namespace Ty

open Text (parensIf)

/-- What stands in front of the members of an intersection: a mark where there is just one. -/
def singleMark : List Ty → String
  | [_] => "/\\ "
  | _ => ""

mutual

/-- A type as text. -/
def render : Ty → String
  | .unit => "()"
  | .arrow d c =>
    parensIf d.isCompound (render d) ++ " -> " ++ parensIf c.isInter (render c)
  | .inter ms => singleMark ms ++ " /\\ ".intercalate (renderMembers ms)

/-- The members of an intersection as text, each in parentheses unless it is the unit type. -/
def renderMembers : List Ty → List String
  | [] => []
  | m :: ms => parensIf m.isCompound (render m) :: renderMembers ms

end

theorem renderMembers_eq_map (ms : List Ty) :
    renderMembers ms = ms.map fun m => parensIf m.isCompound m.render := by
  induction ms with
  | nil => rfl
  | cons m ms ih => rw [renderMembers, ih, List.map_cons]

/-- A type as text, or `absent` where there is none. -/
def renderOr (absent : String) : Option Ty → String
  | some t => t.render
  | none => absent

@[simp]
theorem renderOr_some (absent : String) (t : Ty) : renderOr absent (some t) = t.render := rfl

@[simp]
theorem renderOr_none (absent : String) : renderOr absent none = absent := rfl

end Ty

/-! ## Expressions -/

namespace Expr

open Text (parens parensIf)

/-- Whether an expression stands bare as an argument. -/
def isAtomic : Expr → Bool
  | .var _ | .unit | .inter _ => true
  | _ => false

/-- Whether an expression reaches as far to the right as it can, and so needs parentheses in front
of an argument. -/
def isOpenEnded : Expr → Bool
  | .lam .. | .letIn .. => true
  | _ => false

mutual

/-- An expression as text. -/
def render : Expr → String
  | .var x => x
  | .lam x b => "\\" ++ x ++ ". " ++ render b
  | .app f a => parensIf f.isOpenEnded (render f) ++ " " ++ parensIf (!a.isAtomic) (render a)
  | .unit => "()"
  | .letIn x b c => "let " ++ x ++ " = " ++ render b ++ "; " ++ render c
  | .inter es => parens (" /\\ ".intercalate (renderMembers es))

/-- The members of an intersection as text. -/
def renderMembers : List Expr → List String
  | [] => []
  | e :: es => render e :: renderMembers es

end

theorem renderMembers_eq_map (es : List Expr) : renderMembers es = es.map render := by
  induction es with
  | nil => rfl
  | cons e es ih => rw [renderMembers, ih, List.map_cons]

end Expr

end Bidirectional
