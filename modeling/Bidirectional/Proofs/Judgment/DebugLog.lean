import Bidirectional.Proofs.Env.FiniteMap
import Bidirectional.Proofs.Judgment.FailFast

/-!
# The debug log

The records of the log that are for debugging tell what happened to the names of the `let`s: that
the bound expression had no type, or that a name was given a type although it was bound already.
Nothing is said of a name that was new. So in a run that succeeds each `let` has either added a name
to the environment or left a record behind, and the number of names at the end can be told from the
log. It does not matter in which order the parts of the expression are judged, or whether a name was
bound before the run or by another `let` of the same run: what the parts add is added up along the
rules, in the order in which they are judged.

## Main definitions

* `debugLog`: what is seen of events at the level of debugging
* `overwrites`: the number of names in a list of events that were bound already
* `Run.AccountsForGrowth`: the log of a run tells how many names the run has added

## Main results

* `Derives.size_add_overwrites`: a `let` adds a name or overwrites one, in a successful run
* `judgments_account_for_growth`: the log of a successful run accounts for the names it has added
-/

namespace Bidirectional

open Rule (synthesis checking)

variable {α : Type} {v : Verdict} {G G' : Env} {l l' : List Event} {k : Kind} {g t : Ty}

/-- What a reader of the log sees of a list of events, if only the debug records are asked for. -/
def debugLog (l : List Event) : List Log.Record :=
  Log.Verbosity.debug.shown (l.map Event.record)

@[simp]
theorem debugLog_append : debugLog (l ++ l') = debugLog l ++ debugLog l' := by
  simp [debugLog, Log.Verbosity.shown]

@[simp]
theorem debugLog_checking : debugLog (checking k g l) = debugLog l := by
  simp [debugLog, checking, Log.Verbosity.shown, Log.Verbosity.shows, Event.record, Event.level]

/-! ## Counting names that were bound already -/

/-- The number of names that were bound already when a `let` gave them a type. -/
def overwrites (l : List Event) : Nat :=
  l.countP Event.isOverwrite

@[simp]
theorem overwrites_nil : overwrites [] = 0 := rfl

@[simp]
theorem overwrites_append : overwrites (l ++ l') = overwrites l + overwrites l' :=
  List.countP_append

@[simp]
theorem overwrites_synthesis : overwrites (synthesis k l t) = overwrites l := by
  simp [overwrites, synthesis, Event.isOverwrite]

@[simp]
theorem overwrites_checking : overwrites (checking k g l) = overwrites l := by
  simp [overwrites, checking, Event.isOverwrite]

/-- **A `let` adds its name to the environment or makes it known that the name was there.** -/
theorem size_declare_add_overwrites (x : Name) (s : Ty) (G : Env) :
    (G.declare x s).size + overwrites (Judge.assign x (some s) G).events = G.size + 1 := by
  rw [Env.declare, Env.size_bind, Judge.assign]
  cases G.isBound x <;> rfl

/-- **The names at the end of a successful run** are as many as at the start and one more for each
`let`, less those that were overwritten. -/
theorem Derives.size_add_overwrites (h : Derives v G l G') :
    G'.size + overwrites l = G.size + v.letNames.length := by
  induction h with
  | var | unit | nil => simp [Verdict.letNames, Expr.letNames, Expr.letNamesAll]
  | lam _ _ ih | inter _ _ ih =>
    rw [overwrites_synthesis]
    exact ih
  | app _ _ ihf iha =>
    simp only [Verdict.letNames, Expr.letNames, List.length_append, overwrites_synthesis,
      overwrites_append] at ihf iha ⊢
    omega
  | @letIn x _ _ s _ _ G₁ _ _ _ _ _ ihb ihc =>
    have hname := size_declare_add_overwrites x s G₁
    simp only [Verdict.letNames, Expr.letNames, List.length_cons, List.length_append,
      overwrites_synthesis, overwrites_append] at ihb ihc ⊢
    omega
  | cons _ _ ihe ihes =>
    simp only [Verdict.letNames, Expr.letNamesAll, List.length_append, overwrites_append]
      at ihe ihes ⊢
    omega
  | checkLam _ _ _ ih | subsume _ _ _ _ ih =>
    rw [overwrites_checking]
    exact ih
  | checkApp _ _ iha ihf =>
    simp only [Verdict.letNames, Expr.letNames, List.length_append, overwrites_checking,
      overwrites_append] at iha ihf ⊢
    omega

/-! ## What the log accounts for -/

open Classical in
/-- The log of a run from `G` on an expression with a number of `let`s tells how many names the run
has added. -/
structure Run.AccountsForGrowth (r : Run α) (G : Env) (lets : Nat) : Prop where
  /-- No record says that the bound expression of a `let` has no type. -/
  typed : ∀ record ∈ r.log, ¬ record.SaysUntyped
  /-- Each `let` has added a name, or there is a record that says that the name was bound. -/
  size : r.env.size + r.log.countP (·.SaysOverwrote) = G.size + lets

open Classical in
/-- A run accounts for what it has added if it has made no failure known and its events do. -/
theorem Run.AccountsForGrowth.of_events {r : Run α} {lets : Nat} (hfree : FailureFree r.events)
    (hsize : r.env.size + overwrites r.events = G.size + lets) : r.AccountsForGrowth G lets := by
  refine ⟨fun record hrecord huntyped => ?_, ?_⟩
  · obtain ⟨ev, hev, rfl⟩ := List.mem_map.mp hrecord
    obtain ⟨x, rfl⟩ := Event.record_saysUntyped_iff.mp huntyped
    cases hfree _ hev
  · rw [Run.countP_log r fun _ => Event.record_saysOverwrote_iff]
    exact hsize

/-- **The log of a successful run accounts for the names that the run has added.** No record says
that a bound expression has no type, and the names at the end are as many as at the start and one
more for each `let`, less the number of records that say that a binding is overwritten. -/
theorem judgments_account_for_growth (e : Expr) (G : Env) :
    ((synth e G).answer.isSome = true →
        (synth e G).AccountsForGrowth G e.letNames.length) ∧
      ∀ t, (check e t G).answer = true → (check e t G).AccountsForGrowth G e.letNames.length := by
  constructor
  · intro h
    obtain ⟨t, ht⟩ := Option.isSome_iff_exists.mp h
    have hder := synth_answer_iff.mp ht
    exact .of_events hder.failureFree hder.size_add_overwrites
  · intro t h
    have hder := check_answer_iff.mp h
    exact .of_events hder.failureFree hder.size_add_overwrites

/-- Three `let`s of one name: the argument is judged first and has two of them, one in the bound
expression of the other. The first one adds the name and the others overwrite it. -/
theorem judgments_account_for_growth_shadowing :
    (check (.app (.lam "x" (.letIn "y" (.var "x") (.var "y")))
        (.letIn "y" (.letIn "y" .unit (.var "y")) (.var "y"))) .unit
        (Env.ofBindings [("x", some .unit)])).answer = true ∧
      (check (.app (.lam "x" (.letIn "y" (.var "x") (.var "y")))
        (.letIn "y" (.letIn "y" .unit (.var "y")) (.var "y"))) .unit
        (Env.ofBindings [("x", some .unit)])).env.size = 2 ∧
      (check (.app (.lam "x" (.letIn "y" (.var "x") (.var "y")))
        (.letIn "y" (.letIn "y" .unit (.var "y")) (.var "y"))) .unit
        (Env.ofBindings [("x", some .unit)])).AccountsForGrowth
        (Env.ofBindings [("x", some .unit)]) 3 := by
  have hinner : Derives (.synth (.letIn "y" .unit (.var "y")) .unit)
      (Env.ofBindings [("x", some .unit)]) _ _ := .letIn .unit (.var (by decide))
  have harg : Derives (.synth (.letIn "y" (.letIn "y" .unit (.var "y")) (.var "y")) .unit)
      (Env.ofBindings [("x", some .unit)]) _ _ := .letIn hinner (.var (by decide))
  have hbound : Derives (.synth (.var "x") .unit)
      (((Env.ofBindings [("x", some .unit)]).declare "y" .unit).declare "y" .unit) _ _ :=
    .var (by decide)
  have hbody : Derives (.check (.letIn "y" (.var "x") (.var "y")) .unit)
      (((Env.ofBindings [("x", some .unit)]).declare "y" .unit).declare "y" .unit) _ _ :=
    .subsume nofun nofun (.letIn hbound (.var (by decide))) Ty.isSubtype_unit_unit
  have hfn : Derives (.check (.lam "x" (.letIn "y" (.var "x") (.var "y"))) (.arrow .unit .unit))
      (((Env.ofBindings [("x", some .unit)]).declare "y" .unit).declare "y" .unit) _ _ :=
    .checkLam (by decide) Ty.isSubtype_unit_unit hbody
  have hrun := (Derives.checkApp harg hfn).reached
  have hok := congrArg Run.answer hrun
  exact ⟨hok, congrArg (fun r => r.env.size) hrun, (judgments_account_for_growth _ _).2 _ hok⟩

end Bidirectional
