import Bidirectional.Program
import Bidirectional.Proofs.Ty.Rendering

/-!
# Outcomes and their texts

Outcomes agree if they are the same: of one mode, with the same answer, and types in them are
compared as trees. Their texts tell as much. The words for the answers of a check and for a missing
type are different from each other and from the text of any type, and types are told from each
other by their texts. Only an empty intersection is in the way, whose text is empty. A run of a
program is as expected if the expected outcome is of the mode that the program asks for, and has
just the answer of the judgment in it.

## Main definitions

* `Outcome.NoEmptyInter`: outcomes whose type, if there is one, has no empty intersection

## Main results

* `Outcome.agrees_iff_eq`: outcomes that agree are the same
* `Program.passed_check_iff`, `Program.passed_synthesize_iff`: when a run is as expected
* `comparison_is_identity`: types, outcomes and runs are compared by what they are
* `Outcome.render_inj`: outcomes with the same text are the same
* `renderings_unambiguous`: the text of a type, and that of an outcome, belongs to it alone
-/

namespace Bidirectional

namespace Outcome

variable {a b : Outcome}

/-- The type of the outcome, if there is one, has no empty intersection at any depth. -/
def NoEmptyInter : Outcome → Prop
  | .synthesized (some t) => t.NoEmptyInter
  | _ => True

theorem sameResult_iff_eq {r r' : Option Ty} : sameResult r r' = true ↔ r = r' := by
  match r, r' with
  | none, none => exact iff_of_true rfl rfl
  | some s, some t => rw [sameResult, Ty.same_iff_eq, Option.some.injEq]
  | none, some _ | some _, none => exact iff_of_false nofun nofun

/-- Outcomes that agree are the same. -/
theorem agrees_iff_eq : a.agrees b = true ↔ a = b := by
  match a, b with
  | .checked r, .checked r' => rw [agrees, beq_iff_eq, checked.injEq]
  | .synthesized r, .synthesized r' => rw [agrees, sameResult_iff_eq, synthesized.injEq]
  | .checked _, .synthesized _ | .synthesized _, .checked _ => exact iff_of_false nofun nofun

theorem agrees_equivalence : Equivalence fun a b : Outcome => a.agrees b = true where
  refl _ := agrees_iff_eq.mpr rfl
  symm h := agrees_iff_eq.mpr (agrees_iff_eq.mp h).symm
  trans h h' := agrees_iff_eq.mpr ((agrees_iff_eq.mp h).trans (agrees_iff_eq.mp h'))

/-- The text of a type is not one of the words for an outcome without a type. -/
theorem eq_synthesized_of_render {t : Ty} (ht : t.NoEmptyInter) (h : t.render = b.render) :
    ∃ s, b = .synthesized (some s) := by
  match b with
  | .synthesized (some s) => exact ⟨s, rfl⟩
  | .checked true | .checked false | .synthesized none =>
    exact absurd h (Ty.render_ne ht (by decide) (by decide))

/-- **Outcomes are the same if they have the same text.** -/
theorem render_inj (ha : a.NoEmptyInter) (hb : b.NoEmptyInter) : a.render = b.render ↔ a = b := by
  refine ⟨fun h => ?_, congrArg render⟩
  match a, b with
  | .synthesized (some s), b =>
    obtain ⟨t, rfl⟩ := eq_synthesized_of_render ha h
    rw [(Ty.render_inj ha hb).mp h]
  | a, .synthesized (some t) =>
    obtain ⟨s, rfl⟩ := eq_synthesized_of_render hb h.symm
    rw [(Ty.render_inj ha hb).mp h]
  | .checked true, .checked true | .checked false, .checked false => rfl
  | .synthesized none, .synthesized none => rfl
  | .checked true, .checked false | .checked false, .checked true => exact absurd h (by decide)
  | .checked true, .synthesized none | .synthesized none, .checked true =>
    exact absurd h (by decide)
  | .checked false, .synthesized none | .synthesized none, .checked false =>
    exact absurd h (by decide)

end Outcome

namespace Program

variable {p : Program}

theorem passed_iff : p.run.passed = true ↔ p.judge.answer = p.expected :=
  Outcome.agrees_iff_eq

theorem passed_check_iff {t : Ty} (h : p.goal = .check t) :
    p.run.passed = true ↔ p.expected = .checked (check p.expr t p.env).answer := by
  rw [passed_iff, judge, h, eq_comm]
  rfl

theorem passed_synthesize_iff (h : p.goal = .synthesize) :
    p.run.passed = true ↔ p.expected = .synthesized (synth p.expr p.env).answer := by
  rw [passed_iff, judge, h, eq_comm]
  rfl

end Program

/-- **Comparison is identity.** The test for types holds only of a tree and itself, whatever
intersections are in it; so agreement of outcomes is an equivalence, and a run is as expected
exactly if the expected outcome is of the mode asked for and has the answer of the judgment in
it. -/
theorem comparison_is_identity :
    (∀ s t : Ty, s.same t = true ↔ s = t) ∧
      Equivalence (fun a b : Outcome => a.agrees b = true) ∧
      ∀ p : Program, p.run.passed = true ↔
        (∃ t, p.goal = .check t ∧ p.expected = .checked (check p.expr t p.env).answer) ∨
          p.goal = .synthesize ∧ p.expected = .synthesized (synth p.expr p.env).answer := by
  refine ⟨fun _ _ => Ty.same_iff_eq, Outcome.agrees_equivalence, fun p => ?_⟩
  cases hgoal : p.goal with
  | check t => simp [Program.passed_check_iff hgoal]
  | synthesize => simp [Program.passed_synthesize_iff hgoal]

/-- **Renderings are unambiguous.** Types without an empty intersection have the same text only if
they are the same tree; so outcomes without one in their types agree exactly if they have the same
text. -/
theorem renderings_unambiguous :
    (∀ s t : Ty, s.NoEmptyInter → t.NoEmptyInter → (s.render = t.render ↔ s = t)) ∧
      ∀ a b : Outcome, a.NoEmptyInter → b.NoEmptyInter →
        (a.agrees b = true ↔ a.render = b.render) := by
  refine ⟨fun _ _ hs ht => Ty.render_inj hs ht, fun a b ha hb => ?_⟩
  rw [Outcome.agrees_iff_eq, Outcome.render_inj ha hb]

/-- A function whose codomain is an intersection of one member has another text than the function
to that member, and so have the outcomes. -/
theorem renderings_unambiguous_single :
    (Ty.arrow .unit (.inter [.arrow .unit .unit])).NoEmptyInter ∧
      (Ty.arrow .unit (.arrow .unit .unit)).NoEmptyInter ∧
      (Ty.arrow .unit (.inter [.arrow .unit .unit])).render ≠
        (Ty.arrow .unit (.arrow .unit .unit)).render ∧
      ((Outcome.synthesized (some (.arrow .unit (.inter [.arrow .unit .unit])))).agrees
          (.synthesized (some (.arrow .unit (.arrow .unit .unit)))) = true ↔
        (Outcome.synthesized (some (.arrow .unit (.inter [.arrow .unit .unit])))).render =
          (Outcome.synthesized (some (.arrow .unit (.arrow .unit .unit)))).render) := by
  have hs : (Ty.arrow .unit (.inter [.arrow .unit .unit])).NoEmptyInter := by decide
  have ht : (Ty.arrow .unit (.arrow .unit .unit)).NoEmptyInter := by decide
  obtain ⟨htypes, houtcomes⟩ := renderings_unambiguous
  exact ⟨hs, ht, mt (htypes _ _ hs ht).mp (by decide), houtcomes _ _ hs ht⟩

end Bidirectional
