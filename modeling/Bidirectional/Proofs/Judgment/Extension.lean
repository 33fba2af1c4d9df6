import Bidirectional.Proofs.Judgment.Derivation

/-!
# Giving types to more names

An expression that is accepted stays accepted when more names are given types. A successful run
never profits from a name without a type: every name that it looks up has one, be it from the start
or by a `let` of the run itself, and the second run finds the same. Failed runs are not compared,
and they may do different things; one that breaks off early also writes less.

## Main definitions

* `Env.ExtendedBy`: the second environment gives every type that the first one gives

## Main results

* `Derives.extend`: a derivation can be repeated where more names have types
* `judgments_monotone`: giving types to more names breaks no accepted expression
-/

namespace Bidirectional

namespace Env

variable {G H : Env} {x : Name}

/-- Every name that has a type in the first environment has the same type in the second. -/
def ExtendedBy (G H : Env) : Prop :=
  ∀ x t, G.lookup x = some t → H.lookup x = some t

/-- Whatever the two environments give to a name, the same may be written over it. -/
theorem ExtendedBy.declare (h : G.ExtendedBy H) (x : Name) (s : Ty) :
    (G.declare x s).ExtendedBy (H.declare x s) := by
  intro y t hy
  rw [Env.declare, lookup_bind] at hy ⊢
  by_cases hxy : y = x
  · rw [if_pos hxy] at hy ⊢
    exact hy
  · rw [if_neg hxy] at hy ⊢
    exact h y t hy

/-- A name without a type may be given one. -/
theorem extendedBy_declare (hx : G.lookup x = none) (s : Ty) : G.ExtendedBy (G.declare x s) := by
  intro y t hy
  rw [Env.declare, lookup_bind]
  by_cases hxy : y = x
  · subst hxy
    rw [hx] at hy
    cases hy
  · rw [if_neg hxy]
    exact hy

end Env

/-- **A derivation can be repeated where more names have types.** It comes to the same verdict, and
leaves behind an environment that still gives all the types of the other one. The events may differ:
a name that a `let` overwrites in `H` may be new in `G`. -/
theorem Derives.extend {v : Verdict} {G G' H : Env} {l : List Event} (h : Derives v G l G')
    (hext : G.ExtendedBy H) : ∃ l' H', Derives v H l' H' ∧ G'.ExtendedBy H' := by
  induction h generalizing H with
  | @var x t G type => exact ⟨_, H, .var (hext x t type), hext⟩
  | @lam x b d c G G' l param _ ih =>
    obtain ⟨l', H', hb, hext'⟩ := ih hext
    exact ⟨_, H', .lam (hext x d param) hb, hext'⟩
  | app _ _ ihf iha =>
    obtain ⟨l₁, H₁, hf, hext₁⟩ := ihf hext
    obtain ⟨l₂, H', ha, hext'⟩ := iha hext₁
    exact ⟨_, H', .app hf ha, hext'⟩
  | unit => exact ⟨_, H, .unit, hext⟩
  | @letIn x b c s _ _ _ _ _ _ _ _ ihb ihc =>
    obtain ⟨l₁, H₁, hb, hext₁⟩ := ihb hext
    obtain ⟨l₂, H', hc, hext'⟩ := ihc (hext₁.declare x s)
    exact ⟨_, H', .letIn hb hc, hext'⟩
  | inter _ nonempty ih =>
    obtain ⟨l', H', hm, hext'⟩ := ih hext
    exact ⟨_, H', .inter hm nonempty, hext'⟩
  | nil => exact ⟨_, H, .nil, hext⟩
  | cons _ _ ihe ihes =>
    obtain ⟨l₁, H₁, he, hext₁⟩ := ihe hext
    obtain ⟨l₂, H', hes, hext'⟩ := ihes hext₁
    exact ⟨_, H', .cons he hes, hext'⟩
  | @checkLam x b d c s G G' l param below _ ih =>
    obtain ⟨l', H', hb, hext'⟩ := ih hext
    exact ⟨_, H', .checkLam (hext x s param) below hb, hext'⟩
  | checkApp _ _ iha ihf =>
    obtain ⟨l₁, H₁, ha, hext₁⟩ := iha hext
    obtain ⟨l₂, H', hf, hext'⟩ := ihf hext₁
    exact ⟨_, H', .checkApp ha hf, hext'⟩
  | subsume notLam notApp _ below ih =>
    obtain ⟨l', H', he, hext'⟩ := ih hext
    exact ⟨_, H', .subsume notLam notApp he below, hext'⟩

/-- **Giving types to more names breaks no accepted expression**: where the names that have a type
keep it, a type that was synthesized is synthesized again and a goal that was met is met again. All
types given by the one final environment are given by the other. -/
theorem judgments_monotone {G H : Env} (hext : G.ExtendedBy H) (e : Expr) :
    (∀ t, (synth e G).answer = some t →
      (synth e H).answer = some t ∧ (synth e G).env.ExtendedBy (synth e H).env) ∧
      ∀ g, (check e g G).answer = true →
        (check e g H).answer = true ∧ (check e g G).env.ExtendedBy (check e g H).env := by
  constructor
  · intro t ht
    obtain ⟨l', H', hder, hext'⟩ := (synth_answer_iff.mp ht).extend hext
    have hrun : synth e H = ⟨some t, H', l'⟩ := hder.reached
    rw [hrun]
    exact ⟨rfl, hext'⟩
  · intro g hg
    obtain ⟨l', H', hder, hext'⟩ := (check_answer_iff.mp hg).extend hext
    have hrun : check e g H = ⟨true, H', l'⟩ := hder.reached
    rw [hrun]
    exact ⟨rfl, hext'⟩

/-- The argument reads `y`, which has no type in the first environment and another type in the
second; the `let` in the function gives it the type that is needed. -/
theorem judgments_monotone_sibling :
    (Env.ofBindings [("f", some (.arrow .unit .unit))]).ExtendedBy
        (Env.ofBindings [("f", some (.arrow .unit .unit)), ("y", some (.arrow .unit .unit))]) ∧
      (synth (.app (.letIn "y" .unit (.var "f")) (.var "y"))
        (Env.ofBindings [("f", some (.arrow .unit .unit)),
          ("y", some (.arrow .unit .unit))])).answer = some .unit := by
  have hy : (Env.ofBindings [("f", some (.arrow .unit .unit))]).lookup "y" = none := by decide
  have hext := Env.extendedBy_declare hy (.arrow .unit .unit)
  have hfn : Derives (.synth (.letIn "y" .unit (.var "f")) (.arrow .unit .unit))
      (Env.ofBindings [("f", some (.arrow .unit .unit))]) _ _ := .letIn .unit (.var (by decide))
  have harg : Derives (.check (.var "y") .unit)
      ((Env.ofBindings [("f", some (.arrow .unit .unit))]).declare "y" .unit) _ _ :=
    .subsume nofun nofun (.var (by decide)) Ty.isSubtype_unit_unit
  have ht := congrArg Run.answer (Derives.app hfn harg).reached
  exact ⟨hext, ((judgments_monotone hext _).1 _ ht).1⟩

end Bidirectional
