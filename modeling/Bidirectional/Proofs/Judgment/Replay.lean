import Bidirectional.Proofs.Judgment.Noninterference

/-!
# Judging again

What a judgment writes stays in the environment, so a second run of it does not start where the
first one did. It makes no difference if the expression reads none of the names that it writes. Then
the second run finds the names that it reads as the first one found them, takes the same way, and
writes the same bindings again, the ones without a type among them and the ones that it overwrites
itself on the way. It does not matter whether the runs succeed.

An expression that does read a name that it writes can feed on what it has written. The type of the
name may then change with every run.

## Main definitions

* `Judge.Replays`: a second run of a judgment has the same answer and changes nothing

## Main results

* `Judge.Replays.of_uniform`: a judgment that reads nothing that it writes can be replayed
* `judgments_replay`: the judgments of such an expression can be replayed
-/

namespace Bidirectional

variable {α : Type} {m : Judge α}

/-- Run again in the environment that it has left, a judgment has the same answer and leaves this
environment as it is. -/
structure Judge.Replays (m : Judge α) (G : Env) : Prop where
  /-- The answers are the same. -/
  answer : (m (m G).env).answer = (m G).answer
  /-- The second run changes nothing. -/
  env : (m (m G).env).env = (m G).env

/-- **A judgment that reads nothing that it writes can be replayed**, where the names that it reads
are those that it has to find alike to be uniform. The first run has touched none of them. -/
theorem Judge.Replays.of_uniform {reads writes : List Name}
    (h : ∀ {G G' : Env}, Env.AgreeOn reads G G' → m.Uniform writes G G')
    (hsep : ∀ x ∈ writes, x ∉ reads) (G : Env) : m.Replays G := by
  have hframes : m.Frames writes := .of_uniform fun G => h (.refl reads G)
  have hagree : Env.AgreeOn reads (m G).env G := hframes.agreeOn hsep (.refl reads G)
  obtain ⟨hanswer, d, -, hsecond, hfirst⟩ := h hagree
  refine ⟨hanswer, ?_⟩
  calc (m (m G).env).env = (m G).env.overwrite d := hsecond
    _ = (G.overwrite d).overwrite d := by rw [hfirst]
    _ = G.overwrite d := Env.overwrite_overwrite_self G d
    _ = (m G).env := hfirst.symm

/-- **The judgments can be replayed** if the expression reads no name that it writes: a second run
has the answer of the first, be it a success or a failure, and leaves the environment as the first
has left it. -/
theorem judgments_replay {e : Expr} (he : e.Separate) (G : Env) :
    (synth e).Replays G ∧ ∀ t, (check e t).Replays G :=
  ⟨.of_uniform synth_uniform he G, fun t => .of_uniform (check_uniform t) he G⟩

/-- The name `y` is written twice, with another type each time, and `z` is bound to no type, with
which the run fails. -/
theorem judgments_replay_failing :
    (Expr.letIn "y" (.letIn "y" .unit (.lam "x" (.var "y")))
        (.letIn "z" (.var "w") (.var "y"))).Separate ∧
      (synth (.letIn "y" (.letIn "y" .unit (.lam "x" (.var "y")))
        (.letIn "z" (.var "w") (.var "y"))) (Env.ofBindings [("x", some .unit)])).answer = none ∧
      (synth (.letIn "y" (.letIn "y" .unit (.lam "x" (.var "y")))
        (.letIn "z" (.var "w") (.var "y"))) (Env.ofBindings [("x", some .unit)])).env =
          Env.ofBindings [("x", some .unit), ("y", some (.arrow .unit .unit)), ("z", none)] ∧
      (synth (.letIn "y" (.letIn "y" .unit (.lam "x" (.var "y")))
        (.letIn "z" (.var "w") (.var "y")))).Replays (Env.ofBindings [("x", some .unit)]) := by
  have he : (Expr.letIn "y" (.letIn "y" .unit (.lam "x" (.var "y")))
      (.letIn "z" (.var "w") (.var "y"))).Separate := by decide
  exact ⟨he, by decide, by decide, (judgments_replay he _).1⟩

/-- The parameter `x` is the name of the `let` as well: the second run finds the function that the
first one has bound. -/
example :
    (synth (.letIn "x" (.lam "x" .unit) (.var "x"))
        (Env.ofBindings [("x", some .unit)])).answer = some (.arrow .unit .unit) ∧
      (synth (.letIn "x" (.lam "x" .unit) (.var "x"))
        (synth (.letIn "x" (.lam "x" .unit) (.var "x"))
          (Env.ofBindings [("x", some .unit)])).env).answer =
        some (.arrow (.arrow .unit .unit) .unit) := by
  decide

end Bidirectional
