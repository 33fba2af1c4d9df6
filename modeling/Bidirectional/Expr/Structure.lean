import Bidirectional.Expr.Basic

/-!
# Names, parts and spines

The names that an expression reads from the environment it is judged in, and the names that it
writes there.  A parameter is read: a lambda takes its type from the environment.  A `let` writes
its name, and its body reads what was written.

The parts of an expression are counted at any depth, the expression itself among them.  What is
asked of every part is asked form by form, and the other way round.  A spine is a head that is
applied to arguments, one after the other.

## Main definitions

* `Expr.freeNames`: the names read
* `Expr.letNames`: the names of all `let`s, one entry for each
* `Expr.nodes`: the number of nodes
* `Expr.Separate`: the expression reads no name that it writes
* `Expr.Hygienic`: no part of the expression reads a name that it writes
* `Expr.PartOf`: the parts of an expression, itself among them
* `Expr.spine`: a head applied to a list of arguments

## Main results

* `Expr.hygienic_iff`: an expression is hygienic if no part both writes and reads a name
-/

namespace Bidirectional.Expr

mutual

/-- The free names of an expression, parameters included. -/
def freeNames : Expr → List Name
  | .var x => [x]
  | .lam x b => x :: freeNames b
  | .app f a => freeNames f ++ freeNames a
  | .unit => []
  | .letIn x b c => freeNames b ++ (freeNames c).filter (· != x)
  | .inter es => freeNamesAll es

/-- The free names of a list of expressions. -/
def freeNamesAll : List Expr → List Name
  | [] => []
  | e :: es => freeNames e ++ freeNamesAll es

end

mutual

/-- The names of the `let`s of an expression, from the outside in and from left to right. -/
def letNames : Expr → List Name
  | .var _ => []
  | .lam _ b => letNames b
  | .app f a => letNames f ++ letNames a
  | .unit => []
  | .letIn x b c => x :: (letNames b ++ letNames c)
  | .inter es => letNamesAll es

/-- The names of the `let`s of a list of expressions. -/
def letNamesAll : List Expr → List Name
  | [] => []
  | e :: es => letNames e ++ letNamesAll es

end

mutual

/-- The number of nodes of an expression. -/
def nodes : Expr → Nat
  | .var _ => 1
  | .lam _ b => nodes b + 1
  | .app f a => nodes f + nodes a + 1
  | .unit => 1
  | .letIn _ b c => nodes b + nodes c + 1
  | .inter es => nodesAll es + 1

/-- The number of nodes of a list of expressions. -/
def nodesAll : List Expr → Nat
  | [] => 0
  | e :: es => nodes e + nodesAll es

end

/-- Whether no name is both written and read by an expression. -/
def Separate (e : Expr) : Prop :=
  ∀ x ∈ e.letNames, x ∉ e.freeNames

instance (e : Expr) : Decidable e.Separate :=
  inferInstanceAs (Decidable (∀ x ∈ e.letNames, x ∉ e.freeNames))

mutual

/-- Whether no part of an expression both writes and reads a name. -/
def Hygienic : Expr → Prop
  | .var x => Separate (.var x)
  | .lam x b => Separate (.lam x b) ∧ Hygienic b
  | .app f a => Separate (.app f a) ∧ Hygienic f ∧ Hygienic a
  | .unit => Separate .unit
  | .letIn x b c => Separate (.letIn x b c) ∧ Hygienic b ∧ Hygienic c
  | .inter es => Separate (.inter es) ∧ HygienicAll es

/-- Whether all of a list of expressions are hygienic. -/
def HygienicAll : List Expr → Prop
  | [] => True
  | e :: es => Hygienic e ∧ HygienicAll es

end

mutual

/-- Hygiene is decided part by part. -/
def decHygienic : (e : Expr) → Decidable e.Hygienic
  | .var x => inferInstanceAs (Decidable (Separate (.var x)))
  | .lam x b =>
    have := decHygienic b
    inferInstanceAs (Decidable (Separate (.lam x b) ∧ Hygienic b))
  | .app f a =>
    have := decHygienic f
    have := decHygienic a
    inferInstanceAs (Decidable (Separate (.app f a) ∧ Hygienic f ∧ Hygienic a))
  | .unit => inferInstanceAs (Decidable (Separate .unit))
  | .letIn x b c =>
    have := decHygienic b
    have := decHygienic c
    inferInstanceAs (Decidable (Separate (.letIn x b c) ∧ Hygienic b ∧ Hygienic c))
  | .inter es =>
    have := decHygienicAll es
    inferInstanceAs (Decidable (Separate (.inter es) ∧ HygienicAll es))

/-- Hygiene of a list of expressions is decided one by one. -/
def decHygienicAll : (es : List Expr) → Decidable (HygienicAll es)
  | [] => inferInstanceAs (Decidable True)
  | e :: es =>
    have := decHygienic e
    have := decHygienicAll es
    inferInstanceAs (Decidable (Hygienic e ∧ HygienicAll es))

end

instance : DecidablePred Hygienic := decHygienic

theorem mem_freeNamesAll {x : Name} {es : List Expr} :
    x ∈ freeNamesAll es ↔ ∃ e ∈ es, x ∈ freeNames e := by
  induction es with
  | nil => simp [freeNamesAll]
  | cons e es ih => simp [freeNamesAll, ih]

theorem mem_letNamesAll {x : Name} {es : List Expr} :
    x ∈ letNamesAll es ↔ ∃ e ∈ es, x ∈ letNames e := by
  induction es with
  | nil => simp [letNamesAll]
  | cons e es ih => simp [letNamesAll, ih]

theorem hygienicAll_iff {es : List Expr} : HygienicAll es ↔ ∀ e ∈ es, Hygienic e := by
  induction es with
  | nil => simp [HygienicAll]
  | cons e es ih => simp [HygienicAll, ih]

/-! ## Parts -/

/-- The parts of an expression, at any depth, the expression among them. -/
inductive PartOf : Expr → Expr → Prop
  | refl (e : Expr) : PartOf e e
  | lam {s b : Expr} (x : Name) (h : PartOf s b) : PartOf s (.lam x b)
  | fn {s f : Expr} (a : Expr) (h : PartOf s f) : PartOf s (.app f a)
  | arg {s a : Expr} (f : Expr) (h : PartOf s a) : PartOf s (.app f a)
  | bound {s b : Expr} (x : Name) (c : Expr) (h : PartOf s b) : PartOf s (.letIn x b c)
  | body {s c : Expr} (x : Name) (b : Expr) (h : PartOf s c) : PartOf s (.letIn x b c)
  | member {s e : Expr} {es : List Expr} (mem : e ∈ es) (h : PartOf s e) : PartOf s (.inter es)

theorem Hygienic.separate {e : Expr} (h : e.Hygienic) : e.Separate := by
  cases e with
  | var | unit => exact h
  | lam | app | letIn | inter => exact h.1

theorem Hygienic.of_partOf {s e : Expr} (h : e.Hygienic) (hs : s.PartOf e) : s.Hygienic := by
  induction hs with
  | refl => exact h
  | lam _ _ ih => exact ih h.2
  | fn _ _ ih => exact ih h.2.1
  | arg _ _ ih => exact ih h.2.2
  | bound _ _ _ ih => exact ih h.2.1
  | body _ _ _ ih => exact ih h.2.2
  | member hmem _ ih => exact ih (hygienicAll_iff.mp h.2 _ hmem)

/-- **An expression is hygienic if no part of it both writes and reads a name.** -/
theorem hygienic_iff {e : Expr} : e.Hygienic ↔ ∀ s : Expr, s.PartOf e → s.Separate := by
  refine ⟨fun h s hs => (h.of_partOf hs).separate, fun h => ?_⟩
  induction e with
  | var x => exact h _ (.refl _)
  | lam x b ih => exact ⟨h _ (.refl _), ih fun s hs => h s (.lam x hs)⟩
  | app f a ihf iha =>
    exact ⟨h _ (.refl _), ihf fun s hs => h s (.fn a hs), iha fun s hs => h s (.arg f hs)⟩
  | unit => exact h _ (.refl _)
  | letIn x b c ihb ihc =>
    exact ⟨h _ (.refl _), ihb fun s hs => h s (.bound x c hs), ihc fun s hs => h s (.body x b hs)⟩
  | inter es ih =>
    refine ⟨h _ (.refl _), hygienicAll_iff.mpr fun e he => ?_⟩
    exact ih e he fun s hs => h s (.member he hs)

/-! ## Spines -/

/-- The head `h` applied to the arguments `as`, one after the other. -/
def spine (h : Expr) (as : List Expr) : Expr :=
  as.foldl .app h

theorem spine_cons (h a : Expr) (as : List Expr) :
    h.spine (a :: as) = (Expr.app h a).spine as := rfl

/-- A spine that is cut at an argument. -/
theorem spine_append_cons (h a : Expr) (before after : List Expr) :
    h.spine (before ++ a :: after) = (Expr.app (h.spine before) a).spine after := by
  rw [spine, List.foldl_append]
  rfl

end Bidirectional.Expr
