import Bidirectional.Proofs.Judgment.Answers
import Bidirectional.Proofs.Judgment.Noninterference
import Bidirectional.Proofs.Ty.InterFree

/-!
# Applied lambdas

The two modes ask for opposite things of the argument of a lambda. Synthesis checks the argument
against the type of the parameter. Checking synthesizes a type for the argument, takes it for the
domain of the lambda's goal, and tests whether the type of the parameter is below it. So checking
accepts arguments that the parameter cannot hold. Types that are below each other are the same, so
where the argument is judged by its synthesized type the two modes agree on it only if that is the
very type of the parameter.

## Main results

* `answer_check_applied_lam`, `answer_synth_applied_lam`: the modes on an applied lambda
* `applied_lam_accepted_iff`: what each mode asks of the argument, and when checking asks enough
* `applied_lam_accepted_unfit`: an argument that is accepted and that the parameter cannot hold
-/

namespace Bidirectional

variable {x : Name} {a b : Expr} {p t : Ty} {G : Env}

/-- Checking asks that the type of the parameter is below that of the argument. -/
theorem answer_check_applied_lam (hx : G.lookup x = some p) (ha : a.letNames = []) (g : Ty) :
    (check (.app (.lam x b) a) g G).answer = true ↔
      ∃ s, (synth a G).answer = some s ∧ p.isSubtype s = true ∧ (check b g G).answer = true := by
  rw [answer_check_app, synth_env_eq ha]
  cases (synth a G).answer with
  | none => simp
  | some s => simp [answer_check_lam, hx]

/-- Synthesis asks that the argument checks against the type of the parameter. -/
theorem answer_synth_applied_lam (hx : G.lookup x = some p) (hb : b.letNames = []) :
    (synth (.app (.lam x b) a) G).answer = some t ↔
      (synth b G).answer = some t ∧ (check a p G).answer = true := by
  have henv : (synth (.lam x b) G).env = G := synth_env_eq hb G
  rw [answer_synth_app, answer_synth_lam, henv, hx]
  cases (synth b G).answer with
  | none => simp [Rule.arrow?]
  | some c => simp [Rule.arrow?, and_comm]

/-- **What each mode asks of the argument of a lambda.** Checking asks that the parameter's type is
below the argument's, and synthesis that the argument checks against the parameter's type. Of the
arguments that are neither lambdas nor applications and that checking accepts, those check against
the parameter's type for which this very type is synthesized. -/
theorem applied_lam_accepted_iff (hx : G.lookup x = some p) (hb : b.letNames = [])
    (ha : a.letNames = []) (g : Ty) :
    ((check (.app (.lam x b) a) g G).answer = true ↔
        ∃ s, (synth a G).answer = some s ∧ p.isSubtype s = true ∧ (check b g G).answer = true) ∧
      ((synth (.app (.lam x b) a) G).answer = some g ↔
        (synth b G).answer = some g ∧ (check a p G).answer = true) ∧
      ((check (.app (.lam x b) a) g G).answer = true →
        a.kind ≠ .lambda → a.kind ≠ .application →
        ((check a p G).answer = true ↔ (synth a G).answer = some p)) := by
  refine ⟨answer_check_applied_lam hx ha g, answer_synth_applied_lam hx hb, ?_⟩
  intro haccepted hlam happ
  obtain ⟨s, hs, hps, -⟩ := (answer_check_applied_lam hx ha g).mp haccepted
  rw [answer_check_of_synth G p hlam happ, hs, Ty.anyBelow_some, Option.some.injEq]
  constructor
  · intro hsp
    exact (Ty.isSubtype_iff_below.mp hsp).antisymm (Ty.isSubtype_iff_below.mp hps)
  · rintro rfl
    exact hps

/-- The type of the parameter is an intersection, to which the argument does not belong. Checking
accepts the application and synthesis does not. -/
theorem applied_lam_accepted_iff_member :
    (Env.ofBindings [("x", some (.inter [.unit]))]).lookup "x" = some (.inter [.unit]) ∧
      (check (.app (.lam "x" .unit) .unit) .unit
        (Env.ofBindings [("x", some (.inter [.unit]))])).answer = true ∧
      (synth (.app (.lam "x" .unit) .unit)
        (Env.ofBindings [("x", some (.inter [.unit]))])).answer ≠ some .unit := by
  have hx : (Env.ofBindings [("x", some (.inter [.unit]))]).lookup "x" = some (.inter [.unit]) := by
    decide
  obtain ⟨hcheck, hsynth, hfit⟩ :=
    applied_lam_accepted_iff (b := .unit) (a := .unit) hx rfl rfl .unit
  have hbody : (check .unit .unit (Env.ofBindings [("x", some (.inter [.unit]))])).answer = true :=
    Ty.isSubtype_unit_unit
  have haccepted := hcheck.mpr ⟨.unit, rfl, by simp, hbody⟩
  refine ⟨hx, haccepted, fun hboth => ?_⟩
  cases (hfit haccepted nofun nofun).mp (hsynth.mp hboth).2

/-- **An accepted argument that the parameter cannot hold.** The parameter is applied in the body,
which one member of its type allows, and the argument is the unit value, which is not a function. -/
theorem applied_lam_accepted_unfit :
    (Env.ofBindings [("x", some (.inter [.unit, .arrow .unit .unit]))]).lookup "x" =
        some (.inter [.unit, .arrow .unit .unit]) ∧
      (Expr.app (.var "x") .unit).letNames = [] ∧ Expr.unit.letNames = [] ∧
      (check (.app (.lam "x" (.app (.var "x") .unit)) .unit) .unit
        (Env.ofBindings [("x", some (.inter [.unit, .arrow .unit .unit]))])).answer = true ∧
      (check .unit (.inter [.unit, .arrow .unit .unit])
        (Env.ofBindings [("x", some (.inter [.unit, .arrow .unit .unit]))])).answer = false := by
  have hx : (Env.ofBindings [("x", some (.inter [.unit, .arrow .unit .unit]))]).lookup "x" =
      some (.inter [.unit, .arrow .unit .unit]) := by decide
  refine ⟨hx, rfl, rfl, ?_, ?_⟩
  · refine (answer_check_applied_lam hx rfl .unit).mpr ⟨.unit, rfl, by simp, ?_⟩
    simp [answer_check_app, answer_synth_unit, synth_env_eq (e := .unit) rfl,
      answer_check_of_synth (e := .var "x") _ _ nofun nofun, answer_synth_var, hx]
  · rw [answer_check_of_synth (e := .unit) _ _ nofun nofun, answer_synth_unit, Ty.anyBelow_some,
      Ty.isSubtype_unit_inter]

end Bidirectional
