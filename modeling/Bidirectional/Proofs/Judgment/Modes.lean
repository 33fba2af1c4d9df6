import Bidirectional.Proofs.Env.FiniteMap
import Bidirectional.Proofs.Judgment.Derivation
import Bidirectional.Proofs.Ty.InterFree

/-!
# The two modes without intersections

Checking an application starts from the argument and synthesis from the function, and the rule for a
lambda compares its parameter with the domain of the goal, where the subtype rule for functions
would compare the other way round. Without intersections none of this shows: subtyping is equality
then, and an expression checks against a type exactly if that type is synthesized for it. There may
be no `let` in an application: its parts are judged in opposite orders by the two modes, and the
later one would read what the earlier one has written.

## Main definitions

* `Expr.Plain`: expressions without intersections, and without a `let` in an application

## Main results

* `Expr.plain_iff`: plain expressions, in terms of their parts
* `Derives.interFree`: a plain expression has an intersection-free type, if it has one
* `derives_check_iff_synth`: the modes have derivations of the same verdicts
* `modes_agree`: the modes agree without intersections
-/

namespace Bidirectional

namespace Expr

/-- There is no intersection in the expression, and no `let` in the function or the argument of an
application. -/
def Plain : Expr → Prop
  | .var _ => True
  | .lam _ b => Plain b
  | .app f a => (f.letNames = [] ∧ a.letNames = []) ∧ Plain f ∧ Plain a
  | .unit => True
  | .letIn _ b c => Plain b ∧ Plain c
  | .inter _ => False

/-- Plainness is decided part by part. -/
def decPlain : (e : Expr) → Decidable e.Plain
  | .var _ => isTrue trivial
  | .lam _ b => decPlain b
  | .app f a =>
    have := decPlain f
    have := decPlain a
    inferInstanceAs (Decidable ((f.letNames = [] ∧ a.letNames = []) ∧ Plain f ∧ Plain a))
  | .unit => isTrue trivial
  | .letIn _ b c =>
    have := decPlain b
    have := decPlain c
    inferInstanceAs (Decidable (Plain b ∧ Plain c))
  | .inter _ => isFalse id

instance : DecidablePred Plain := decPlain

theorem Plain.of_partOf {s e : Expr} (h : e.Plain) (hs : s.PartOf e) : s.Plain := by
  induction hs with
  | refl => exact h
  | lam _ _ ih => exact ih h
  | fn _ _ ih => exact ih h.2.1
  | arg _ _ ih => exact ih h.2.2
  | bound _ _ _ ih => exact ih h.1
  | body _ _ _ ih => exact ih h.2
  | member => exact absurd h id

/-- **An expression is plain** if no part of it is an intersection and the parts that are
applications have no `let` in them. Parts of a part are parts of the whole, so both conditions pass
on to the parts. -/
theorem plain_iff {e : Expr} :
    e.Plain ↔ (∀ es : List Expr, ¬ (Expr.inter es).PartOf e) ∧
      ∀ f a : Expr, (Expr.app f a).PartOf e → f.letNames = [] ∧ a.letNames = [] := by
  constructor
  · intro h
    exact ⟨fun es hes => h.of_partOf hes, fun f a hfa => (h.of_partOf hfa).1⟩
  · rintro ⟨hinter, hlet⟩
    induction e with
    | var | unit => trivial
    | lam x b ih =>
      exact ih (fun es hes => hinter es (.lam x hes)) fun f a hfa => hlet f a (.lam x hfa)
    | app f a ihf iha =>
      refine ⟨hlet f a (.refl _), ?_, ?_⟩
      · exact ihf (fun es hes => hinter es (.fn a hes)) fun f' a' h => hlet f' a' (.fn a h)
      · exact iha (fun es hes => hinter es (.arg f hes)) fun f' a' h => hlet f' a' (.arg f h)
    | letIn x b c ihb ihc =>
      constructor
      · exact ihb (fun es hes => hinter es (.bound x c hes)) fun f a h => hlet f a (.bound x c h)
      · exact ihc (fun es hes => hinter es (.body x b hes)) fun f a h => hlet f a (.body x b h)
    | inter es => exact hinter es (.refl _)

end Expr

variable {e : Expr} {G G' : Env} {l : List Event} {s t : Ty}

/-- **A plain expression has an intersection-free type**, if it has one, and leaves an environment
behind that gives intersection-free types only. An argument is checked, which is not the mode of the
induction, but it has no `let`. -/
theorem Derives.interFree (h : Derives (.synth e t) G l G') (he : e.Plain)
    (hG : G.All Ty.InterFree) : t.InterFree ∧ G'.All Ty.InterFree := by
  induction e generalizing G G' l t with
  | var x =>
    cases h with
    | var type => exact ⟨hG type, hG⟩
  | lam x b ih =>
    cases h with
    | lam param body =>
      obtain ⟨hc, hG'⟩ := ih body he hG
      exact ⟨⟨hG param, hc⟩, hG'⟩
  | app f a ihf iha =>
    obtain ⟨⟨-, hleta⟩, hf, -⟩ := he
    cases h with
    | app fn arg =>
      obtain ⟨⟨-, hc⟩, hG₁⟩ := ihf fn hf hG
      rw [arg.env_eq hleta]
      exact ⟨hc, hG₁⟩
  | unit =>
    cases h
    exact ⟨trivial, hG⟩
  | letIn x b c ihb ihc =>
    cases h with
    | letIn bound body =>
      obtain ⟨hs, hG₁⟩ := ihb bound he.1 hG
      exact ihc body he.2 (hG₁.bind fun _ h => Option.some.inj h ▸ hs)
  | inter es => exact absurd he id

/-- An expression that is checked by synthesis and a subtype test: the test is for equality. -/
theorem derives_check_iff_of_subsume (hl : e.kind ≠ .lambda) (ha : e.kind ≠ .application)
    (he : e.Plain) (hG : G.All Ty.InterFree) (ht : t.InterFree) :
    (∃ l, Derives (.check e t) G l G') ↔ ∃ l, Derives (.synth e t) G l G' := by
  constructor
  · rintro ⟨l, h⟩
    cases h with
    | subsume _ _ found below =>
      obtain ⟨hs, -⟩ := found.interFree he hG
      obtain rfl := (Ty.isSubtype_iff_eq hs ht).mp below
      exact ⟨_, found⟩
    | checkLam => exact absurd rfl hl
    | checkApp => exact absurd rfl ha
  · rintro ⟨l, h⟩
    exact ⟨_, .subsume hl ha h ((Ty.isSubtype_iff_eq ht ht).mpr rfl)⟩

/-- **Without intersections the modes have derivations of the same verdicts**, and leave the same
environments behind. The parts of an application do not write, so they are all judged in `G` and
their order does not matter. -/
theorem derives_check_iff_synth (he : e.Plain) (hG : G.All Ty.InterFree) (ht : t.InterFree) :
    (∃ l, Derives (.check e t) G l G') ↔ ∃ l, Derives (.synth e t) G l G' := by
  induction e generalizing G G' t with
  | lam x b ih =>
    constructor
    · rintro ⟨l, h⟩
      cases h with
      | checkLam param below body =>
        obtain rfl := (Ty.isSubtype_iff_eq (hG param) ht.1).mp below
        obtain ⟨l', hbody⟩ := (ih he hG ht.2).mp ⟨_, body⟩
        exact ⟨_, .lam param hbody⟩
      | subsume notLam => exact absurd rfl notLam
    · rintro ⟨l, h⟩
      cases h with
      | lam param body =>
        obtain ⟨l', hbody⟩ := (ih he hG ht.2).mpr ⟨_, body⟩
        exact ⟨_, .checkLam param ((Ty.isSubtype_iff_eq ht.1 ht.1).mpr rfl) hbody⟩
  | app f a ihf iha =>
    obtain ⟨⟨hletf, hleta⟩, hf, ha⟩ := he
    constructor
    · rintro ⟨l, h⟩
      cases h with
      | checkApp arg fn =>
        obtain rfl := arg.env_eq hleta
        obtain rfl := fn.env_eq hletf
        obtain ⟨hs, -⟩ := arg.interFree ha hG
        have hgoal : Ty.InterFree (.arrow _ t) := ⟨hs, ht⟩
        obtain ⟨l₁, hfn⟩ := (ihf hf hG hgoal).mp ⟨_, fn⟩
        obtain ⟨l₂, harg⟩ := (iha ha hG hs).mpr ⟨_, arg⟩
        exact ⟨_, .app hfn harg⟩
      | subsume _ notApp => exact absurd rfl notApp
    · rintro ⟨l, h⟩
      cases h with
      | app fn arg =>
        obtain rfl := fn.env_eq hletf
        obtain rfl := arg.env_eq hleta
        obtain ⟨hfree, -⟩ := fn.interFree hf hG
        obtain ⟨l₁, harg⟩ := (iha ha hG hfree.1).mp ⟨_, arg⟩
        obtain ⟨l₂, hfn⟩ := (ihf hf hG hfree).mpr ⟨_, fn⟩
        exact ⟨_, .checkApp harg hfn⟩
  | var | unit | letIn | inter => exact derives_check_iff_of_subsume nofun nofun he hG ht

/-- **The modes agree without intersections**: an expression with no intersection and with no `let`
in an application checks against an intersection-free type if and only if that type is synthesized
for it, in every environment that gives intersection-free types only. -/
theorem modes_agree (hinter : ∀ es : List Expr, ¬ (Expr.inter es).PartOf e)
    (hlet : ∀ f a : Expr, (Expr.app f a).PartOf e → f.letNames = [] ∧ a.letNames = [])
    (hG : ∀ x s, G.lookup x = some s → s.InterFree) (ht : t.InterFree) :
    (check e t G).answer = true ↔ (synth e G).answer = some t := by
  have he : e.Plain := Expr.plain_iff.mpr ⟨hinter, hlet⟩
  have hall : G.All Ty.InterFree := fun x s => hG x s
  constructor
  · intro h
    obtain ⟨l, hder⟩ := (derives_check_iff_synth he hall ht).mp ⟨_, check_answer_iff.mp h⟩
    exact congrArg Run.answer hder.reached
  · intro h
    obtain ⟨l, hder⟩ := (derives_check_iff_synth he hall ht).mpr ⟨_, synth_answer_iff.mp h⟩
    exact congrArg Run.answer hder.reached

/-- A `let` of a lambda around an application: the unit type is synthesized, so the expression
checks against it. -/
theorem modes_agree_let :
    Expr.Plain (.letIn "k" (.lam "x" (.var "x")) (.app (.var "k") .unit)) ∧
      (Env.ofBindings [("x", some .unit)]).All Ty.InterFree ∧
      (check (.letIn "k" (.lam "x" (.var "x")) (.app (.var "k") .unit)) .unit
        (Env.ofBindings [("x", some .unit)])).answer = true := by
  have he : Expr.Plain (.letIn "k" (.lam "x" (.var "x")) (.app (.var "k") .unit)) := by decide
  have ht : Ty.InterFree .unit := trivial
  have hG : (Env.ofBindings [("x", some .unit)]).All Ty.InterFree := by decide
  have hbound : Derives (.synth (.lam "x" (.var "x")) (.arrow .unit .unit))
      (Env.ofBindings [("x", some .unit)]) _ _ := .lam (by decide) (.var (by decide))
  have hbody : Derives (.synth (.app (.var "k") .unit) .unit)
      ((Env.ofBindings [("x", some .unit)]).declare "k" (.arrow .unit .unit)) _ _ :=
    .app (.var (by decide)) (.subsume nofun nofun .unit Ty.isSubtype_unit_unit)
  have hsynth := congrArg Run.answer (Derives.letIn hbound hbody).reached
  obtain ⟨hinter, hlet⟩ := Expr.plain_iff.mp he
  exact ⟨he, hG, (modes_agree hinter hlet (fun x s => @hG x s) ht).mpr hsynth⟩

end Bidirectional
