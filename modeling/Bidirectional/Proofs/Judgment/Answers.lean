import Bidirectional.Judgment.Basic

/-!
# Answers of the judgments

What the judgments answer to an expression of each form, in terms of the runs of its parts. A part
is run in the environment that the part before it left behind: the argument of an application after
its function in synthesis and before it in checking, the body of a `let` after the bound expression,
a member of an intersection after the members before it.

## Main results

* `answer_synth_lam` and its neighbours: synthesis, by form
* `answer_check_lam`, `answer_check_app`, `answer_check_of_synth`: checking
-/

namespace Bidirectional

variable (env : Env) (x : Name) (b c f a e : Expr) (es : List Expr) (g : Ty)

theorem answer_synth_var : (synth (.var x) env).answer = env.lookup x := rfl

theorem answer_synth_lam :
    (synth (.lam x b) env).answer = Rule.arrow? (env.lookup x) (synth b env).answer := rfl

theorem answer_synth_app :
    (synth (.app f a) env).answer =
      match (synth f env).answer with
      | some (.arrow d c) => if (check a d (synth f env).env).answer then some c else none
      | _ => none := by
  rw [synth, Rule.synthApp, Judge.bind_apply, Judge.bind_apply, Judge.emit_apply]
  dsimp only
  rcases (synth f env).answer with _ | (_ | ⟨d, c⟩ | ms) <;> rfl

theorem answer_synth_unit : (synth .unit env).answer = some .unit := rfl

theorem answer_synth_letIn :
    (synth (.letIn x b c) env).answer =
      (synth b env).answer.bind fun t => (synth c ((synth b env).env.declare x t)).answer := by
  rw [synth, Rule.synthLet, Judge.bind_apply, Judge.bind_apply, Judge.emit_apply]
  dsimp only
  cases (synth b env).answer with
  | none => rfl
  | some t => rfl

theorem answer_synth_inter :
    (synth (.inter es) env).answer = (synthAll es env).answer.bind Rule.inter? := by
  rw [synth, Rule.synthInter, Judge.bind_apply, Judge.bind_apply, Judge.emit_apply]
  dsimp only
  cases (synthAll es env).answer with
  | none => rfl
  | some ts => rfl

theorem answer_synthAll_nil : (synthAll [] env).answer = some [] := rfl

theorem answer_synthAll_cons :
    (synthAll (e :: es) env).answer =
      (synth e env).answer.bind fun t => (synthAll es (synth e env).env).answer.map (t :: ·) := by
  rw [synthAll, Rule.synthCons, Judge.bind_apply]
  cases (synth e env).answer with
  | none => rfl
  | some t => rfl

theorem answer_check_lam :
    (check (.lam x b) g env).answer =
      match g with
      | .arrow d c => Ty.anyBelow d (env.lookup x) && (check b c env).answer
      | _ => false := by
  cases g with
  | arrow d c =>
    show ((if Ty.anyBelow d (env.lookup x) then
      check b c >>= Rule.checked .lambda (.arrow d c)
      else Rule.checked .lambda (.arrow d c) false : Judge Bool) env).answer =
        (Ty.anyBelow d (env.lookup x) && (check b c env).answer)
    cases Ty.anyBelow d (env.lookup x) with
    | false => rfl
    | true => rfl
  | unit => rfl
  | inter ms => rfl

theorem answer_check_app :
    (check (.app f a) g env).answer =
      match (synth a env).answer with
      | some t => (check f (.arrow t g) (synth a env).env).answer
      | none => false := by
  rw [check, Rule.checkApp, Judge.bind_apply, Judge.bind_apply, Judge.emit_apply]
  dsimp only
  cases (synth a env).answer with
  | none => rfl
  | some t => rfl

theorem answer_check_of_synth {e : Expr} (hl : e.kind ≠ .lambda) (ha : e.kind ≠ .application) :
    (check e g env).answer = Ty.anyBelow g (synth e env).answer := by
  rw [check_eq_subsume hl ha]
  rfl

end Bidirectional
