import Bidirectional.Proofs.Judgment.DebugLog
import Bidirectional.Proofs.Ty.Arrows

/-!
# Goals of checking

The goal of a check grows and shrinks on the way through an expression: an application puts the type
of its argument in front, and a lambda takes the domain off again. What stands at the end of the
codomains is not touched by either. It is compared in the end by a subtype test, so it has to be the
unit type, and it may be replaced by a larger type.

The last holds for a lambda only if an argument was put in front of its goal before, so that its
domain is not a part of what is replaced. A lambda asks that the type of its parameter is below the
domain of the goal, and in a larger function type the domain is smaller.

Where a check succeeds, the goal has no part in what is written: whatever a `let` writes has been
synthesized, and synthesis has no goal.

## Main definitions

* `Expr.Saturated k`: with `k` arguments in front of the goal, each lambda that is checked meets one

## Main results

* `Derives.result_goal`, `goals_end_in_unit`: only goals that end in the unit type are met
* `Derives.raise_goal`: a larger type may be put in the last place of the goal
* `check_supertype`: a saturated expression checks against every supertype of a goal it meets
* `Derives.effect_eq`, `check_effect_eq`: the effect of a check that succeeds is the same for all
  goals
-/

namespace Bidirectional

variable {e : Expr} {G G' : Env} {l : List Event} {g s t : Ty} {ds : List Ty}

/-! ## Goals end in the unit type -/

/-- A goal that is met has the unit type for its result: the parts are checked against goals with the
same result. -/
theorem Derives.result_goal (h : Derives (.check e g) G l G') : g.result = .unit := by
  induction e generalizing G G' l g with
  | lam x b ih =>
    cases h with
    | checkLam _ _ body =>
      rw [Ty.result_arrow]
      exact ih body
    | subsume notLam => exact absurd rfl notLam
  | app f a ihf _ =>
    cases h with
    | checkApp _ fn =>
      have hfn := ihf fn
      rwa [Ty.result_arrow] at hfn
    | subsume _ notApp => exact absurd rfl notApp
  | var | unit | letIn | inter =>
    cases h with
    | subsume _ _ _ below => exact (Ty.isSubtype_iff_below.mp below).result_eq_unit

/-- **Only goals that end in the unit type are met.** No expression, an intersection no more than
any other, checks against an intersection, or against a function type that comes to an intersection
in the end. -/
theorem goals_end_in_unit (e : Expr) (G : Env) :
    (∀ t, (check e t G).answer = true → t.result = .unit) ∧
      ∀ ds ms, (check e (.arrows ds (.inter ms)) G).answer = false := by
  have hresult : ∀ t, (check e t G).answer = true → t.result = .unit :=
    fun t h => (check_answer_iff.mp h).result_goal
  refine ⟨hresult, fun ds ms => ?_⟩
  rw [Bool.eq_false_iff]
  intro h
  have hunit := hresult _ h
  rw [Ty.result_arrows] at hunit
  cases hunit

/-- A function that is met as a goal after one argument was put in front of it, and an intersection
that does not check against its own type. -/
theorem goals_end_in_unit_applied :
    (check (.app (.lam "x" (.lam "y" (.var "x"))) .unit) (.arrow .unit .unit)
        (Env.ofBindings [("x", some .unit), ("y", some .unit)])).answer = true ∧
      (Ty.arrow .unit .unit).result = .unit ∧
      (check (.inter [.unit]) (.inter [.unit])
        (Env.ofBindings [("x", some .unit), ("y", some .unit)])).answer = false := by
  have hvar : Derives (.check (.var "x") .unit)
      (Env.ofBindings [("x", some .unit), ("y", some .unit)]) _ _ :=
    .subsume nofun nofun (.var (by decide)) Ty.isSubtype_unit_unit
  have hfn : Derives (.check (.lam "x" (.lam "y" (.var "x"))) (.arrow .unit (.arrow .unit .unit)))
      (Env.ofBindings [("x", some .unit), ("y", some .unit)]) _ _ :=
    .checkLam (by decide) Ty.isSubtype_unit_unit (.checkLam (by decide) Ty.isSubtype_unit_unit hvar)
  have hmet := congrArg Run.answer (Derives.checkApp .unit hfn).reached
  exact ⟨hmet, (goals_end_in_unit _ _).1 _ hmet, (goals_end_in_unit _ _).2 [] [.unit]⟩

/-! ## Larger goals -/

namespace Expr

/-- With `k` arguments in front of the goal, every lambda that checking comes to finds an argument
in front of its goal. Checking goes to the function of an application and to the body of a lambda.
Other expressions are synthesized, and there may be any lambdas in them. -/
def Saturated : Expr → Nat → Prop
  | .var _, _ => True
  | .lam _ _, 0 => False
  | .lam _ b, k + 1 => Saturated b k
  | .app f _, k => Saturated f (k + 1)
  | .unit, _ => True
  | .letIn .., _ => True
  | .inter _, _ => True

/-- Saturation is decided along the functions and the bodies. -/
def decSaturated : (e : Expr) → (k : Nat) → Decidable (e.Saturated k)
  | .var _, _ => isTrue trivial
  | .lam _ _, 0 => isFalse id
  | .lam _ b, k + 1 => decSaturated b k
  | .app f _, k => decSaturated f (k + 1)
  | .unit, _ => isTrue trivial
  | .letIn .., _ => isTrue trivial
  | .inter _, _ => isTrue trivial

instance (e : Expr) (k : Nat) : Decidable (e.Saturated k) :=
  decSaturated e k

end Expr

/-- Where checking is synthesis and a subtype test, the goal may come to a larger type. -/
theorem Derives.raise_subsumed (hl : e.kind ≠ .lambda) (ha : e.kind ≠ .application)
    (hts : t.Below s) (h : Derives (.check e (.arrows ds t)) G l G') :
    ∃ l', Derives (.check e (.arrows ds s)) G l' G' := by
  generalize hg : Ty.arrows ds t = g at h
  cases h with
  | subsume _ _ found below =>
    subst hg
    have hbelow := (Ty.isSubtype_iff_below.mp below).arrows_mono hts
    exact ⟨_, .subsume hl ha found hbelow.isSubtype⟩
  | checkLam => exact absurd rfl hl
  | checkApp => exact absurd rfl ha

/-- **A larger type may be put in the last place of the goal** of a saturated expression, behind the
arguments that stand in front. An application adds one of these, and a lambda takes the first one
off, which is compared with the parameter as before. The environment left behind stays the same. -/
theorem Derives.raise_goal (he : e.Saturated ds.length) (hts : t.Below s)
    (h : Derives (.check e (.arrows ds t)) G l G') :
    ∃ l', Derives (.check e (.arrows ds s)) G l' G' := by
  induction e generalizing G G' l ds with
  | lam x b ih =>
    cases ds with
    | nil => exact absurd he id
    | cons d ds =>
      cases h with
      | checkLam param below body =>
        obtain ⟨l', hbody⟩ := ih he body
        exact ⟨_, .checkLam param below hbody⟩
      | subsume notLam => exact absurd rfl notLam
  | app f a ihf _ =>
    generalize hg : Ty.arrows ds t = g at h
    cases h with
    | @checkApp _ _ d _ _ _ _ _ _ arg fn =>
      subst hg
      have hsat : f.Saturated (d :: ds).length := he
      have hmet : Derives (.check f (.arrows (d :: ds) t)) _ _ _ := fn
      obtain ⟨l', hraised⟩ := ihf hsat hmet
      exact ⟨_, .checkApp arg hraised⟩
    | subsume _ notApp => exact absurd rfl notApp
  | var | unit | letIn | inter => exact h.raise_subsumed nofun nofun hts

/-- **A saturated expression checks against every supertype of a goal that it meets**, and leaves
the same environment behind. -/
theorem check_supertype (he : e.Saturated 0) (hts : t.isSubtype s = true)
    (h : (check e t G).answer = true) :
    (check e s G).answer = true ∧ (check e s G).env = (check e t G).env := by
  have hmet : Derives (.check e (.arrows [] t)) G _ _ := check_answer_iff.mp h
  obtain ⟨l', hraised⟩ := hmet.raise_goal he (Ty.isSubtype_iff_below.mp hts)
  have hrun : check e s G = ⟨true, (check e t G).env, l'⟩ := hraised.reached
  rw [hrun]
  exact ⟨rfl, rfl⟩

/-- A lambda with one argument for itself and one for its body, a `let` that has a function type.
The second argument has an intersection for its type, which is not below itself. -/
theorem check_supertype_inter_arg :
    Expr.Saturated (.app (.app (.lam "x" (.letIn "k" (.var "f") (.var "k"))) .unit)
        (.inter [.unit])) 0 ∧
      Ty.isSubtype (.arrow .unit .unit) (.arrow (.inter [.unit]) .unit) = true ∧
      (check (.app (.app (.lam "x" (.letIn "k" (.var "f") (.var "k"))) .unit) (.inter [.unit]))
        (.arrow (.inter [.unit]) .unit)
        (Env.ofBindings [("f", some (.arrow .unit (.arrow .unit .unit))),
          ("x", some .unit)])).answer = true := by
  have hsat : Expr.Saturated (.app (.app (.lam "x" (.letIn "k" (.var "f") (.var "k"))) .unit)
      (.inter [.unit])) 0 := by decide
  have hsub : Ty.isSubtype (.arrow .unit .unit) (.arrow (.inter [.unit]) .unit) = true := by simp
  have hbound : Derives (.synth (.var "f") (.arrow .unit (.arrow .unit .unit)))
      (Env.ofBindings [("f", some (.arrow .unit (.arrow .unit .unit))), ("x", some .unit)]) _ _ :=
    .var (by decide)
  have hbody : Derives (.synth (.letIn "k" (.var "f") (.var "k"))
      (.arrow .unit (.arrow .unit .unit)))
      (Env.ofBindings [("f", some (.arrow .unit (.arrow .unit .unit))), ("x", some .unit)]) _ _ :=
    .letIn hbound (.var (by decide))
  have hlam : Derives (.check (.lam "x" (.letIn "k" (.var "f") (.var "k")))
      (.arrow .unit (.arrow (.inter [.unit]) (.arrow .unit .unit))))
      (Env.ofBindings [("f", some (.arrow .unit (.arrow .unit .unit))), ("x", some .unit)]) _ _ :=
    .checkLam (by decide) Ty.isSubtype_unit_unit (.subsume nofun nofun hbody (by simp))
  have harg : Derives (.synth (.inter [.unit]) (.inter [.unit]))
      (Env.ofBindings [("f", some (.arrow .unit (.arrow .unit .unit))), ("x", some .unit)]) _ _ :=
    .inter (.cons .unit .nil) (by decide)
  have hmet := congrArg Run.answer (Derives.checkApp harg (.checkApp .unit hlam)).reached
  exact ⟨hsat, hsub, (check_supertype hsat hsub hmet).1⟩

/-! ## The effect of a check -/

/-- **The goal has no part in what a check does**: where two goals are met, the same environment is
left behind and the same is told of the `let`s. The parts that are checked come in the same order,
and those that are synthesized have one run only. -/
theorem Derives.effect_eq {g₁ g₂ : Ty} {G₁ G₂ : Env} {l₁ l₂ : List Event}
    (h₁ : Derives (.check e g₁) G l₁ G₁) (h₂ : Derives (.check e g₂) G l₂ G₂) :
    G₁ = G₂ ∧ debugLog l₁ = debugLog l₂ := by
  induction e generalizing G G₁ G₂ l₁ l₂ g₁ g₂ with
  | lam x b ih =>
    cases h₁ with
    | subsume notLam => exact absurd rfl notLam
    | checkLam _ _ body₁ =>
      cases h₂ with
      | subsume notLam => exact absurd rfl notLam
      | checkLam _ _ body₂ =>
        simp only [debugLog_checking]
        exact ih body₁ body₂
  | app f a ihf _ =>
    cases h₁ with
    | subsume _ notApp => exact absurd rfl notApp
    | checkApp arg₁ fn₁ =>
      cases h₂ with
      | subsume _ notApp => exact absurd rfl notApp
      | checkApp arg₂ fn₂ =>
        obtain ⟨rfl, rfl, rfl⟩ := arg₁.synth_unique arg₂
        obtain ⟨rfl, hlog⟩ := ihf fn₁ fn₂
        simp only [debugLog_checking, debugLog_append, hlog, and_self]
  | var | unit | letIn | inter =>
    cases h₁ with
    | subsume _ _ found₁ =>
      cases h₂ with
      | subsume _ _ found₂ =>
        obtain ⟨-, rfl, rfl⟩ := found₁.synth_unique found₂
        simp only [debugLog_checking, and_self]

/-- **The effect of a check that succeeds does not depend on the goal.** Against whichever goal an
expression is checked, if it meets the goal, it leaves the same environment behind, with the same
debug log. -/
theorem check_effect_eq {g₁ g₂ : Ty} (h₁ : (check e g₁ G).answer = true)
    (h₂ : (check e g₂ G).answer = true) :
    (check e g₁ G).env = (check e g₂ G).env ∧
      Log.Verbosity.debug.shown (check e g₁ G).log =
        Log.Verbosity.debug.shown (check e g₂ G).log :=
  (check_answer_iff.mp h₁).effect_eq (check_answer_iff.mp h₂)

/-- The variable `f` meets both goals, by different members of its type. The name `k`, which was
bound to no type, is given this type on the way. -/
theorem check_effect_eq_members :
    (check (.app (.lam "x" (.letIn "k" (.var "f") (.var "k"))) .unit) .unit
        (Env.ofBindings [("f", some (.inter [.unit, .arrow .unit .unit])), ("k", none),
          ("x", some .unit)])).answer = true ∧
      (check (.app (.lam "x" (.letIn "k" (.var "f") (.var "k"))) .unit) (.arrow .unit .unit)
        (Env.ofBindings [("f", some (.inter [.unit, .arrow .unit .unit])), ("k", none),
          ("x", some .unit)])).answer = true ∧
      (check (.app (.lam "x" (.letIn "k" (.var "f") (.var "k"))) .unit) .unit
        (Env.ofBindings [("f", some (.inter [.unit, .arrow .unit .unit])), ("k", none),
          ("x", some .unit)])).env =
        (check (.app (.lam "x" (.letIn "k" (.var "f") (.var "k"))) .unit) (.arrow .unit .unit)
          (Env.ofBindings [("f", some (.inter [.unit, .arrow .unit .unit])), ("k", none),
            ("x", some .unit)])).env := by
  have hbound : Derives (.synth (.var "f") (.inter [.unit, .arrow .unit .unit]))
      (Env.ofBindings [("f", some (.inter [.unit, .arrow .unit .unit])), ("k", none),
        ("x", some .unit)]) _ _ := .var (by decide)
  have hlet : Derives (.synth (.letIn "k" (.var "f") (.var "k"))
      (.inter [.unit, .arrow .unit .unit]))
      (Env.ofBindings [("f", some (.inter [.unit, .arrow .unit .unit])), ("k", none),
        ("x", some .unit)]) _ _ := .letIn hbound (.var (by decide))
  have hmet : ∀ g : Ty, Ty.isSubtype (.inter [.unit, .arrow .unit .unit]) g = true →
      (check (.app (.lam "x" (.letIn "k" (.var "f") (.var "k"))) .unit) g
        (Env.ofBindings [("f", some (.inter [.unit, .arrow .unit .unit])), ("k", none),
          ("x", some .unit)])).answer = true := by
    intro g hg
    have hfn : Derives (.check (.lam "x" (.letIn "k" (.var "f") (.var "k"))) (.arrow .unit g))
        (Env.ofBindings [("f", some (.inter [.unit, .arrow .unit .unit])), ("k", none),
          ("x", some .unit)]) _ _ :=
      .checkLam (by decide) Ty.isSubtype_unit_unit (.subsume nofun nofun hlet hg)
    exact congrArg Run.answer (Derives.checkApp .unit hfn).reached
  have hunit := hmet .unit (by simp)
  have harrow := hmet (.arrow .unit .unit) (by simp)
  exact ⟨hunit, harrow, (check_effect_eq hunit harrow).1⟩

end Bidirectional
