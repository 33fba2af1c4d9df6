/-!
# Expressions

The expressions that are judged: variables, functions of one parameter, applications, the unit
value, `let`, and intersections of a list of members, the terms whose type is an intersection.
Every expression has a kind, the word by which a log speaks of it.

## Main definitions

* `Expr`: expressions over names
* `Kind`, `Expr.kind`: which of the six forms an expression has
* `Expr.same`: the test for being the same tree, and the decidable equality it gives

## Main results

* `Expr.induction`: induction with one hypothesis for every member of an intersection
-/

namespace Bidirectional

/-- Names of variables, parameters and `let` bindings: arbitrary text, compared exactly. -/
abbrev Name := String

/-- Expressions. -/
inductive Expr where
  | var (name : Name)
  | lam (param : Name) (body : Expr)
  | app (fn arg : Expr)
  | unit
  | letIn (name : Name) (bound body : Expr)
  | inter (members : List Expr)
  deriving Inhabited

/-- The six forms of an expression. -/
inductive Kind where
  | variable
  | lambda
  | application
  | unit
  | letIn
  | intersect
  deriving DecidableEq

/-- The word for a form. -/
def Kind.render : Kind → String
  | .variable => "variable"
  | .lambda => "lambda"
  | .application => "application"
  | .unit => "unit"
  | .letIn => "let"
  | .intersect => "intersect"

namespace Expr

/-- Induction on expressions, with a hypothesis for every member of an intersection. -/
@[elab_as_elim, induction_eliminator]
theorem induction {motive : Expr → Prop} (var : ∀ x, motive (.var x))
    (lam : ∀ x b, motive b → motive (.lam x b))
    (app : ∀ f a, motive f → motive a → motive (.app f a)) (unit : motive .unit)
    (letIn : ∀ x b c, motive b → motive c → motive (.letIn x b c))
    (inter : ∀ members, (∀ e ∈ members, motive e) → motive (.inter members)) :
    ∀ e, motive e
  | .var x => var x
  | .lam x b => lam x b (induction var lam app unit letIn inter b)
  | .app f a =>
    app f a (induction var lam app unit letIn inter f) (induction var lam app unit letIn inter a)
  | .unit => unit
  | .letIn x b c =>
    letIn x b c (induction var lam app unit letIn inter b)
      (induction var lam app unit letIn inter c)
  | .inter es => inter es fun e _ => induction var lam app unit letIn inter e

/-- The form of an expression, whatever its parts are. -/
def kind : Expr → Kind
  | .var _ => .variable
  | .lam .. => .lambda
  | .app .. => .application
  | .unit => .unit
  | .letIn .. => .letIn
  | .inter _ => .intersect

/-! ## The same tree -/

mutual

/-- Whether two expressions are the same tree, names included. -/
def same : Expr → Expr → Bool
  | .var x, .var y => x == y
  | .lam x b, .lam x' b' => x == x' && same b b'
  | .app f a, .app f' a' => same f f' && same a a'
  | .unit, .unit => true
  | .letIn x b c, .letIn x' b' c' => x == x' && same b b' && same c c'
  | .inter es, .inter es' => sameAll es es'
  | _, _ => false

/-- Whether two lists of expressions are of one length and the same member by member. -/
def sameAll : List Expr → List Expr → Bool
  | [], [] => true
  | e :: es, e' :: es' => same e e' && sameAll es es'
  | _, _ => false

end

mutual

theorem eq_of_same : ∀ (e : Expr) {e' : Expr}, same e e' = true → e = e'
  | .var x, e', h => by
    cases e' <;> simp [same] at h
    rw [h]
  | .lam x b, e', h => by
    cases e' <;> simp [same] at h
    rw [h.1, eq_of_same b h.2]
  | .app f a, e', h => by
    cases e' <;> simp [same] at h
    rw [eq_of_same f h.1, eq_of_same a h.2]
  | .unit, e', h => by
    cases e' <;> simp [same] at h
    rfl
  | .letIn x b c, e', h => by
    cases e' <;> simp [same] at h
    rw [h.1.1, eq_of_same b h.1.2, eq_of_same c h.2]
  | .inter es, e', h => by
    cases e' <;> simp [same] at h
    rw [eq_of_sameAll es h]

theorem eq_of_sameAll : ∀ (es : List Expr) {es' : List Expr}, sameAll es es' = true → es = es'
  | [], es', h => by
    cases es' <;> simp [sameAll] at h
    rfl
  | e :: es, es', h => by
    cases es' <;> simp [sameAll] at h
    rw [eq_of_same e h.1, eq_of_sameAll es h.2]

end

mutual

theorem same_self : ∀ e : Expr, same e e = true
  | .var _ => by simp [same]
  | .lam _ b => by simp [same, same_self b]
  | .app f a => by simp [same, same_self f, same_self a]
  | .unit => rfl
  | .letIn _ b c => by simp [same, same_self b, same_self c]
  | .inter es => by rw [same, sameAll_self es]

theorem sameAll_self : ∀ es : List Expr, sameAll es es = true
  | [] => rfl
  | e :: es => by simp [sameAll, same_self e, sameAll_self es]

end

/-- The test holds of a tree and itself, and of no other. -/
theorem same_iff_eq {e e' : Expr} : same e e' = true ↔ e = e' :=
  ⟨eq_of_same e, fun h => h ▸ same_self e⟩

instance : DecidableEq Expr := fun _ _ => decidable_of_iff _ same_iff_eq

end Expr

end Bidirectional
