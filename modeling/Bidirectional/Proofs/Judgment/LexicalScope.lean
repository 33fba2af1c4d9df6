import Bidirectional.Proofs.Judgment.Answers
import Bidirectional.Proofs.Judgment.Noninterference

/-!
# Lexical scope

The judgments run on one environment that no `let` ever restores. On a hygienic expression, where no
part reads a name that it also writes, this cannot be told from lexical scope: what one part writes
is under names that no part beside it reads, so every part finds the types that it would find in the
environment of the whole.

With lexical scope every part of an expression is judged in the environment of the whole, except
that the body of a `let` is judged with the name of the `let` bound to the type of the bound
expression. Nothing that is written survives the body it was written for.

## Main definitions

* `synthLex`, `checkLex`: synthesis and checking with lexical scope
* `Lexical e env lex`: the judgments of `e` in `env` answer as with lexical scope in `lex`

## Main results

* `Lexical.of_hygienic`: lexical scope of hygienic expressions, from environments that agree on the
  free names
* `judgments_lexical`: the judgments have lexical scope on hygienic expressions
-/

namespace Bidirectional

/-! ## The lexical judgments -/

open Rule (arrow? inter?)

mutual

/-- The type of an expression in an environment, with lexical scope. -/
def synthLex : Expr → Env → Option Ty
  | .var x, env => env.lookup x
  | .lam x b, env => arrow? (env.lookup x) (synthLex b env)
  | .app f a, env =>
    match synthLex f env with
    | some (.arrow d c) => if checkLex a d env then some c else none
    | _ => none
  | .unit, _ => some .unit
  | .letIn x b c, env => (synthLex b env).bind fun t => synthLex c (env.declare x t)
  | .inter es, env => (synthAllLex es env).bind inter?

/-- Whether an expression checks against a goal in an environment, with lexical scope. -/
def checkLex : Expr → Ty → Env → Bool
  | .var x, goal, env => Ty.anyBelow goal (env.lookup x)
  | .lam x b, goal, env =>
    match goal with
    | .arrow d c => Ty.anyBelow d (env.lookup x) && checkLex b c env
    | _ => false
  | .app f a, goal, env =>
    match synthLex a env with
    | some t => checkLex f (.arrow t goal) env
    | none => false
  | .unit, goal, _ => Ty.anyBelow goal (some .unit)
  | .letIn x b c, goal, env =>
    Ty.anyBelow goal ((synthLex b env).bind fun t => synthLex c (env.declare x t))
  | .inter es, goal, env => Ty.anyBelow goal ((synthAllLex es env).bind inter?)

/-- The types of a list of expressions, if all have one. -/
def synthAllLex : List Expr → Env → Option (List Ty)
  | [], _ => some []
  | e :: es, env => (synthLex e env).bind fun t => (synthAllLex es env).map (t :: ·)

end

/-! ## The judgments beside the lexical ones -/

theorem checkLex_of_synthLex {e : Expr} (hl : e.kind ≠ .lambda) (ha : e.kind ≠ .application)
    (g : Ty) (env : Env) : checkLex e g env = Ty.anyBelow g (synthLex e env) := by
  cases e with
  | lam | app => simp [Expr.kind] at hl ha
  | var | unit | letIn | inter => simp only [checkLex, synthLex]

/-- The judgments of an expression in one environment answer as with lexical scope in another. -/
structure Lexical (e : Expr) (env lex : Env) : Prop where
  /-- Synthesis finds the type that it finds with lexical scope. -/
  synth : (synth e env).answer = synthLex e lex
  /-- Checking answers as with lexical scope, whatever the goal. -/
  check : ∀ g, (check e g env).answer = checkLex e g lex

namespace Lexical

variable {env lex : Env} {x : Name} {b c f a e : Expr} {es : List Expr}

theorem of_synth (hl : e.kind ≠ .lambda) (ha : e.kind ≠ .application)
    (h : (Bidirectional.synth e env).answer = synthLex e lex) : Lexical e env lex := by
  refine ⟨h, fun g => ?_⟩
  rw [answer_check_of_synth env g hl ha, checkLex_of_synthLex hl ha, h]

theorem lam (hx : env.lookup x = lex.lookup x) (hb : Lexical b env lex) :
    Lexical (.lam x b) env lex := by
  refine ⟨?_, fun g => ?_⟩
  · rw [answer_synth_lam, synthLex, hx, hb.synth]
  · cases g with
    | arrow d c =>
      rw [answer_check_lam, checkLex]
      simp only [hx, hb.check c]
    | unit | inter => rfl

/-- The function of an application is judged first in synthesis and last in checking, so both its
parts have to answer as with lexical scope also after the other. -/
theorem app (hf : Lexical f env lex) (ha : Lexical a env lex)
    (ha' : Lexical a (Bidirectional.synth f env).env lex)
    (hf' : Lexical f (Bidirectional.synth a env).env lex) : Lexical (.app f a) env lex := by
  refine ⟨?_, fun g => ?_⟩
  · rw [answer_synth_app, synthLex, hf.synth]
    rcases synthLex f lex with _ | (_ | ⟨d, c⟩ | ms)
    case some.arrow =>
      show (if (Bidirectional.check a d (Bidirectional.synth f env).env).answer then some c
        else none) = if checkLex a d lex then some c else none
      rw [ha'.check d]
    all_goals rfl
  · rw [answer_check_app, checkLex, ha.synth]
    cases synthLex a lex with
    | none => rfl
    | some t => exact hf'.check (.arrow t g)

theorem letIn (hb : Lexical b env lex)
    (hc : ∀ t, Lexical c ((Bidirectional.synth b env).env.declare x t) (lex.declare x t)) :
    Lexical (.letIn x b c) env lex := by
  refine of_synth nofun nofun ?_
  rw [answer_synth_letIn, synthLex, hb.synth]
  exact congrArg _ (funext fun t => (hc t).synth)

/-- The members of an intersection, none of which writes a name that one of them reads. -/
theorem synthAll (hsep : ∀ x ∈ Expr.letNamesAll es, x ∉ Expr.freeNamesAll es)
    (hagree : Env.AgreeOn (Expr.freeNamesAll es) env lex)
    (h : ∀ e ∈ es, ∀ env, Env.AgreeOn e.freeNames env lex → Lexical e env lex) :
    (synthAll es env).answer = synthAllLex es lex := by
  induction es generalizing env with
  | nil => rw [answer_synthAll_nil, synthAllLex]
  | cons e es ih =>
    obtain ⟨he, hes⟩ := List.forall_mem_cons.mp h
    have hfirst := he env (hagree.mono (List.subset_append_left _ _))
    have hagree' : Env.AgreeOn (Expr.freeNamesAll es) (Bidirectional.synth e env).env lex :=
      (synth_frames e).agreeOn
        (fun x hx hmem => hsep x (List.mem_append_left _ hx) (List.mem_append_right _ hmem))
        (hagree.mono (List.subset_append_right _ _))
    have hsep' : ∀ x ∈ Expr.letNamesAll es, x ∉ Expr.freeNamesAll es := fun x hx hmem =>
      hsep x (List.mem_append_right _ hx) (List.mem_append_right _ hmem)
    rw [answer_synthAll_cons, synthAllLex, hfirst.synth, ih hsep' hagree' hes]

theorem inter (hsep : (Expr.inter es).Separate)
    (hagree : Env.AgreeOn (Expr.inter es).freeNames env lex)
    (h : ∀ e ∈ es, ∀ env, Env.AgreeOn e.freeNames env lex → Lexical e env lex) :
    Lexical (.inter es) env lex := by
  refine of_synth nofun nofun ?_
  rw [answer_synth_inter, synthLex, synthAll hsep hagree h]

/-- **A hygienic expression is judged as with lexical scope**, in every environment that agrees with
the lexical one on its free names. The two environments drift apart, though never on a name that is
read: what one part of an application writes the other does not read, and the body of a `let` reads
its name, which is written in both, and names that the bound expression does not write. -/
theorem of_hygienic (h : e.Hygienic) (hagree : Env.AgreeOn e.freeNames env lex) :
    Lexical e env lex := by
  induction e generalizing env lex with
  | var x =>
    refine of_synth nofun nofun ?_
    rw [answer_synth_var, synthLex]
    exact hagree x List.mem_cons_self
  | lam x b ih =>
    exact .lam (hagree x List.mem_cons_self) (ih h.2 (hagree.mono (List.subset_cons_self x _)))
  | app f a ihf iha =>
    obtain ⟨hsep, hf, ha⟩ := h
    have hagreef := hagree.mono (List.subset_append_left f.freeNames a.freeNames)
    have hagreea := hagree.mono (List.subset_append_right f.freeNames a.freeNames)
    have hagreea' := (synth_frames f).agreeOn
      (fun x hx hmem => hsep x (List.mem_append_left _ hx) (List.mem_append_right _ hmem)) hagreea
    have hagreef' := (synth_frames a).agreeOn
      (fun x hx hmem => hsep x (List.mem_append_right _ hx) (List.mem_append_left _ hmem)) hagreef
    exact .app (ihf hf hagreef) (iha ha hagreea) (iha ha hagreea') (ihf hf hagreef')
  | unit =>
    refine of_synth nofun nofun ?_
    rw [answer_synth_unit, synthLex]
  | letIn x b c ihb ihc =>
    obtain ⟨hsep, hb, hc⟩ := h
    refine .letIn (ihb hb (hagree.mono (List.subset_append_left _ _))) fun t => ?_
    have hbody := (synth_frames b).agreeOn
      (fun y hy hmem => hsep y (List.mem_cons_of_mem x (List.mem_append_left _ hy))
        (List.mem_append_right _ hmem))
      (hagree.mono (List.subset_append_right _ _))
    exact ihc hc (hbody.declare t)
  | inter es ih =>
    exact .inter h.1 hagree fun e he _ hagree' => ih e he (Expr.hygienicAll_iff.mp h.2 e he) hagree'

end Lexical

/-- **The environment that no `let` restores implements lexical scope** on expressions of which no
part writes a name that it reads: both judgments answer as the lexical ones do. -/
theorem judgments_lexical (e : Expr) (h : ∀ s : Expr, s.PartOf e → s.Separate) (env : Env)
    (t : Ty) :
    (synth e env).answer = synthLex e env ∧ (check e t env).answer = checkLex e t env := by
  have hlex : Lexical e env env := .of_hygienic (Expr.hygienic_iff.mpr h) (.refl _ env)
  exact ⟨hlex.synth, hlex.check t⟩

/-- Function and argument both bind `y`, to different types. -/
theorem judgments_lexical_siblings :
    (∀ s : Expr, s.PartOf (.app (.letIn "y" (.var "f") (.var "y")) (.letIn "y" .unit (.var "y"))) →
      s.Separate) ∧
      (check (.app (.letIn "y" (.var "f") (.var "y")) (.letIn "y" .unit (.var "y"))) .unit
        (Env.ofBindings [("f", some (.arrow .unit .unit)), ("y", none)])).answer =
      checkLex (.app (.letIn "y" (.var "f") (.var "y")) (.letIn "y" .unit (.var "y"))) .unit
        (Env.ofBindings [("f", some (.arrow .unit .unit)), ("y", none)]) := by
  have h := Expr.hygienic_iff.mp
    (show (Expr.app (.letIn "y" (.var "f") (.var "y")) (.letIn "y" .unit (.var "y"))).Hygienic by
      decide)
  exact ⟨h, (judgments_lexical _ h _ .unit).2⟩

end Bidirectional
