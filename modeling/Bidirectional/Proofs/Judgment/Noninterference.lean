import Bidirectional.Proofs.Env.FiniteMap
import Bidirectional.Proofs.Judgment.Simulation

/-!
# Noninterference

A judgment depends on its environment only through the types of the free names of its expression,
and changes it only under the names of its `let`s. Two runs from environments that agree on the free
names come to the same answer, and what they write is the same: one set of bindings, written over
either environment.

## Main definitions

* `Judge.Uniform ns`: a judgment answers and writes alike in two environments, under names of `ns`
* `Judge.Frames ns`: a judgment leaves all names but those of `ns` as they are
* `Simulation.patching`: the simulation between environments that the same was written over

## Main results

* `synth_uniform`, `check_uniform`: the judgments are uniform where free names have the same types
* `synth_frames`, `check_frames`: the judgments leave all but `let` names as they are
* `synth_env_eq`: without a `let`, synthesis leaves the environment as it was
* `judgments_noninterfering`: noninterference and frame of the judgments
-/

namespace Bidirectional

variable {α : Type} {env₁ env₂ : Env} {ns : List Name}

/-- A judgment answers alike in two environments and writes the same over both, under names of `ns`
only. -/
structure Judge.Uniform (m : Judge α) (ns : List Name) (env₁ env₂ : Env) : Prop where
  /-- The answers are the same. -/
  answer : (m env₁).answer = (m env₂).answer
  /-- One map, on names of `ns`, is what was written in both runs. -/
  patch : ∃ d : Env, (∀ x, d.isBound x = true → x ∈ ns) ∧
    (m env₁).env = env₁.overwrite d ∧ (m env₂).env = env₂.overwrite d

/-- A judgment leaves bindings of names outside `ns` untouched and unbinds no name. -/
structure Judge.Frames (m : Judge α) (ns : List Name) : Prop where
  /-- A name outside `ns` is bound as before. -/
  find?_eq : ∀ env, ∀ x ∉ ns, (m env).env.find? x = env.find? x
  /-- A name that was bound is bound. -/
  isBound : ∀ env x, env.isBound x = true → (m env).env.isBound x = true

/-- Environments still agree on names that a judgment does not write, after it ran in one. -/
theorem Judge.Frames.agreeOn {m : Judge α} (h : m.Frames ns) {ns' : List Name} {env env' : Env}
    (hns : ∀ x ∈ ns, x ∉ ns') (hagree : Env.AgreeOn ns' env env') :
    Env.AgreeOn ns' (m env).env env' := by
  intro x hx
  rw [Env.lookup, h.find?_eq env x fun hmem => hns x hmem hx]
  exact hagree x hx

/-- A judgment that is uniform in an environment and itself, whichever it is, has a frame. -/
theorem Judge.Frames.of_uniform {m : Judge α} (h : ∀ env, m.Uniform ns env env) :
    m.Frames ns := by
  constructor
  · intro env x hx
    obtain ⟨d, hd, henv, -⟩ := (h env).patch
    have hdx : d.isBound x = false := by
      rw [Bool.eq_false_iff]
      exact fun hbound => hx (hd x hbound)
    rw [henv, Env.find?_overwrite_of_not_isBound hdx]
  · intro env x hx
    obtain ⟨d, -, henv, -⟩ := (h env).patch
    rw [henv, Env.isBound_overwrite, hx, Bool.or_true]

/-! ## Both runs write the same -/

/-- Environments that are `env₁` and `env₂` with the same written over them, under names of `ns`. -/
def Simulation.patching (ns : List Name) (env₁ env₂ : Env) : Simulation :=
  .ofEq (fun G G' => ∃ d : Env, (∀ x, d.isBound x = true → x ∈ ns) ∧
      G = env₁.overwrite d ∧ G' = env₂.overwrite d) (· ∈ ns) <| by
    rintro _ _ x t hx ⟨d, hd, rfl, rfl⟩
    refine ⟨d.bind x t, fun y hy => ?_, Env.bind_overwrite env₁ d x t,
      Env.bind_overwrite env₂ d x t⟩
    rw [Env.isBound_bind, Bool.or_eq_true, beq_iff_eq] at hy
    rcases hy with rfl | hy
    · exact hx
    · exact hd y hy

/-- Nothing has been written at the start. -/
theorem Simulation.at_patching {S : List Name} (ns : List Name)
    (h : Env.AgreeOn S env₁ env₂) :
    (Simulation.patching ns env₁ env₂).At S env₁ env₂ := by
  refine ⟨⟨.empty, ?_, (Env.overwrite_empty env₁).symm, (Env.overwrite_empty env₂).symm⟩, ?_⟩
  · intro x hx
    cases hx
  · intro x hx
    exact rel_eq_iff.mpr (h x hx)

/-- The judgments of an expression write under the names of its `let`s only. -/
theorem Simulation.patching_respected (e : Expr) (env₁ env₂ : Env) :
    (Simulation.patching e.letNames env₁ env₂).Respected e.freeNames e :=
  Simulation.respected _ (fun _ hx => hx) (List.Subset.refl e.freeNames)

/-- Synthesis is uniform where the free names have the same types. -/
theorem synth_uniform {e : Expr} (h : Env.AgreeOn e.freeNames env₁ env₂) :
    (synth e).Uniform e.letNames env₁ env₂ := by
  have hsim := Simulation.patching_respected e env₁ env₂
  obtain ⟨hanswer, henv⟩ := hsim.synth _ _ (Simulation.at_patching e.letNames h)
  exact ⟨rel_eq_iff.mp hanswer, henv.env⟩

/-- Checking is uniform where the free names have the same types. -/
theorem check_uniform {e : Expr} (t : Ty) (h : Env.AgreeOn e.freeNames env₁ env₂) :
    (check e t).Uniform e.letNames env₁ env₂ := by
  have hsim := Simulation.patching_respected e env₁ env₂
  obtain ⟨hanswer, henv⟩ := hsim.check rfl _ _ (Simulation.at_patching e.letNames h)
  exact ⟨hanswer, henv.env⟩

theorem synth_frames (e : Expr) : (synth e).Frames e.letNames :=
  .of_uniform fun env => synth_uniform (.refl _ env)

theorem check_frames (e : Expr) (t : Ty) : (check e t).Frames e.letNames :=
  .of_uniform fun env => check_uniform t (.refl _ env)

/-- Without a `let`, synthesis leaves the environment as it was. -/
theorem synth_env_eq {e : Expr} (h : e.letNames = []) (G : Env) : (synth e G).env = G := by
  apply Env.ext_find?
  intro y
  apply (synth_frames e).find?_eq
  rw [h]
  exact List.not_mem_nil

/-- **The judgments do not interfere**: in environments that give the same types to the free names
of an expression, either judgment gives one answer and writes one set of bindings, under `let` names
only. All other names stay as they are, and no name becomes unbound. -/
theorem judgments_noninterfering (e : Expr) (t : Ty) {env₁ env₂ : Env}
    (h : Env.AgreeOn e.freeNames env₁ env₂) :
    (synth e).Uniform e.letNames env₁ env₂ ∧ (check e t).Uniform e.letNames env₁ env₂ ∧
      (synth e).Frames e.letNames ∧ (check e t).Frames e.letNames :=
  ⟨synth_uniform h, check_uniform t h, synth_frames e, check_frames e t⟩

/-- The parameter `w` is bound to no type in one environment and not bound in the other, and the
`let` name `y` has a type in one of them only. -/
theorem judgments_noninterfering_untyped_param :
    Env.AgreeOn (Expr.letIn "y" (.var "x") (.lam "w" (.var "y"))).freeNames
        (Env.ofBindings [("w", none), ("x", some .unit), ("y", some .unit)])
        (Env.ofBindings [("x", some .unit)]) ∧
      (synth (.letIn "y" (.var "x") (.lam "w" (.var "y")))).Uniform ["y"]
        (Env.ofBindings [("w", none), ("x", some .unit), ("y", some .unit)])
        (Env.ofBindings [("x", some .unit)]) := by
  have h : Env.AgreeOn (Expr.letIn "y" (.var "x") (.lam "w" (.var "y"))).freeNames
      (Env.ofBindings [("w", none), ("x", some .unit), ("y", some .unit)])
      (Env.ofBindings [("x", some .unit)]) := by decide
  exact ⟨h, (judgments_noninterfering _ .unit h).1⟩

end Bidirectional
