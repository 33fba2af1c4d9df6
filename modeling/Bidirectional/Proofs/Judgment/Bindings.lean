import Bidirectional.Proofs.Judgment.Derivation

/-!
# What a successful run binds

A run that succeeds has skipped no part of its expression, so it has come by every `let`, wherever
it stands, and has given a type to its name. Names are never unbound and never lose their type in
such a run: only a `let` whose bound expression has no type does that, and then the run fails. So
the names bound at the end are those bound at the start and the names of the `let`s, and likewise
for the names that have a type.

## Main definitions

* `Env.Gains ns`: the second environment binds and types what the first does, and the names of `ns`

## Main results

* `Derives.holds_iff`: what `let`s add to a property of names, in a successful run
* `judgments_type_lets`: a judgment that succeeds leaves every `let` of its expression typed
-/

namespace Bidirectional

namespace Env

variable {G : Env} {x y : Name}

theorem isBound_declare (s : Ty) :
    (G.declare x s).isBound y = true ↔ y = x ∨ G.isBound y = true := by
  rw [declare, isBound_bind, Bool.or_eq_true, beq_iff_eq]

theorem isSome_lookup_declare (s : Ty) :
    ((G.declare x s).lookup y).isSome = true ↔ y = x ∨ (G.lookup y).isSome = true := by
  rw [declare, lookup_bind]
  by_cases h : y = x
  · simp [h]
  · simp [h]

/-- A name is bound at the end if it was at the start or is in `ns`, and a name has a type at the
end if it had one at the start or is in `ns`. -/
structure Gains (ns : List Name) (G G' : Env) : Prop where
  /-- The names bound. -/
  isBound_iff : ∀ x, G'.isBound x = true ↔ G.isBound x = true ∨ x ∈ ns
  /-- The names that have a type. -/
  isTyped_iff : ∀ x, (G'.lookup x).isSome = true ↔ (G.lookup x).isSome = true ∨ x ∈ ns

end Env

variable {v : Verdict} {G G' : Env} {l : List Event}

/-- **What `let`s add to a property of names.** If giving a type to a name adds this name to those
that have the property, a successful run adds the names of its `let`s: the rule for a `let` adds its
own name between its two parts. -/
theorem Derives.holds_iff {P : Env → Name → Prop}
    (hP : ∀ {G : Env} {x y : Name} (s : Ty), P (G.declare x s) y ↔ y = x ∨ P G y)
    (h : Derives v G l G') (y : Name) : P G' y ↔ P G y ∨ y ∈ v.letNames := by
  induction h with
  | var | unit | nil => simp [Verdict.letNames, Expr.letNames, Expr.letNamesAll]
  | lam _ _ ih => exact ih
  | app _ _ ihf iha =>
    simp only [Verdict.letNames, Expr.letNames, List.mem_append] at ihf iha ⊢
    rw [iha, ihf, or_assoc]
  | letIn _ _ ihb ihc =>
    simp only [Verdict.letNames, Expr.letNames, List.mem_cons, List.mem_append] at ihb ihc ⊢
    rw [ihc, hP, ihb, or_assoc, or_assoc, or_left_comm]
  | inter _ _ ih => exact ih
  | cons _ _ ihe ihes =>
    simp only [Verdict.letNames, Expr.letNamesAll, List.mem_append] at ihe ihes ⊢
    rw [ihes, ihe, or_assoc]
  | checkLam _ _ _ ih => exact ih
  | checkApp _ _ iha ihf =>
    simp only [Verdict.letNames, Expr.letNames, List.mem_append] at iha ihf ⊢
    rw [ihf, iha, or_right_comm, or_assoc]
  | subsume _ _ _ _ ih => exact ih

theorem Derives.gains (h : Derives v G l G') : Env.Gains v.letNames G G' where
  isBound_iff := h.holds_iff (P := fun G y => G.isBound y = true) Env.isBound_declare
  isTyped_iff := h.holds_iff (P := fun G y => (G.lookup y).isSome = true) Env.isSome_lookup_declare

/-- **A judgment that succeeds leaves every `let` of its expression typed.** The names bound at the
end are those bound at the start and the names of the `let`s, and all of the latter have a type,
even those that were bound to no type at the start. -/
theorem judgments_type_lets (e : Expr) (G : Env) :
    (∀ t, (synth e G).answer = some t → Env.Gains e.letNames G (synth e G).env) ∧
      ∀ g, (check e g G).answer = true → Env.Gains e.letNames G (check e g G).env :=
  ⟨fun _ ht => (synth_answer_iff.mp ht).gains, fun _ hg => (check_answer_iff.mp hg).gains⟩

/-- One `let` stands under a lambda, where its name was bound to no type, and one in a member of an
intersection that is an argument. -/
theorem judgments_type_lets_nested :
    (synth (.app (.lam "x" (.letIn "y" (.var "x") (.var "y"))) (.inter [.letIn "z" .unit .unit]))
        (Env.ofBindings [("x", some .unit), ("y", none)])).answer = some .unit ∧
      Env.Gains ["y", "z"] (Env.ofBindings [("x", some .unit), ("y", none)])
        (synth
          (.app (.lam "x" (.letIn "y" (.var "x") (.var "y"))) (.inter [.letIn "z" .unit .unit]))
          (Env.ofBindings [("x", some .unit), ("y", none)])).env := by
  have hbound : Derives (.synth (.var "x") .unit)
      (Env.ofBindings [("x", some .unit), ("y", none)]) _ _ := .var (by decide)
  have hfn : Derives (.synth (.lam "x" (.letIn "y" (.var "x") (.var "y"))) (.arrow .unit .unit))
      (Env.ofBindings [("x", some .unit), ("y", none)]) _ _ :=
    .lam (by decide) (.letIn hbound (.var (by decide)))
  have harg : Derives (.check (.inter [.letIn "z" .unit .unit]) .unit)
      ((Env.ofBindings [("x", some .unit), ("y", none)]).declare "y" .unit) _ _ :=
    .subsume nofun nofun (.inter (.cons (.letIn .unit .unit) .nil) (by decide)) (by simp)
  have ht := congrArg Run.answer (Derives.app hfn harg).reached
  exact ⟨ht, (judgments_type_lets _ _).1 _ ht⟩

end Bidirectional
