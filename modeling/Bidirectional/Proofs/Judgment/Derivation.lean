import Bidirectional.Expr.Structure
import Bidirectional.Proofs.Judgment.Success

/-!
# Derivations

The successful runs of the judgments, as derivations: one rule for each form of an expression and
each mode. A derivation says what was found, the environment it started in, the events on the way
and the environment left behind. There are no rules for failure, so what holds of all successful
runs is proved rule by rule, without a word about the places where a run can break off.

## Main definitions

* `Verdict`: what a successful run has found
* `Verdict.Reached`: a verdict is the answer of a run
* `Derives`: derivations of verdicts

## Main results

* `derives_iff_reached`: the derivations are the successful runs
* `Derives.synth_unique`: synthesis in one environment has one derivation at most
* `Derives.env_eq`: without a `let` the environment is left as it was
-/

namespace Bidirectional

open Rule (synthesis checking)

/-- What a judgment that succeeds has found. -/
inductive Verdict where
  /-- The expression has the type. -/
  | synth (e : Expr) (t : Ty)
  /-- The expression checks against the goal. -/
  | check (e : Expr) (goal : Ty)
  /-- The members of an intersection have the types, one by one. -/
  | members (es : List Expr) (ts : List Ty)

namespace Verdict

/-- The run of a judgment from `G` has the verdict for its answer, leaves `G'` behind and makes the
events of `l` known. -/
def Reached : Verdict → Env → List Event → Env → Prop
  | .synth e t, G, l, G' => Bidirectional.synth e G = ⟨some t, G', l⟩
  | .check e g, G, l, G' => Bidirectional.check e g G = ⟨true, G', l⟩
  | .members es ts, G, l, G' => synthAll es G = ⟨some ts, G', l⟩

/-- The names of the `let`s that a verdict is about. -/
def letNames : Verdict → List Name
  | .synth e _ => e.letNames
  | .check e _ => e.letNames
  | .members es _ => Expr.letNamesAll es

end Verdict

/-- Derivations: `Derives v G l G'` if the verdict `v` is reached from `G` with the events `l`,
leaving `G'` behind. -/
inductive Derives : Verdict → Env → List Event → Env → Prop
  | var {x : Name} {t : Ty} {G : Env} (type : G.lookup x = some t) :
      Derives (.synth (.var x) t) G (synthesis .variable [] t) G
  | lam {x : Name} {b : Expr} {d c : Ty} {G G' : Env} {l : List Event}
      (param : G.lookup x = some d) (body : Derives (.synth b c) G l G') :
      Derives (.synth (.lam x b) (.arrow d c)) G (synthesis .lambda l (.arrow d c)) G'
  /-- The function gives the goal for the argument. -/
  | app {f a : Expr} {d c : Ty} {G G₁ G' : Env} {l₁ l₂ : List Event}
      (fn : Derives (.synth f (.arrow d c)) G l₁ G₁) (arg : Derives (.check a d) G₁ l₂ G') :
      Derives (.synth (.app f a) c) G (synthesis .application (l₁ ++ l₂) c) G'
  | unit {G : Env} : Derives (.synth .unit .unit) G (synthesis .unit [] .unit) G
  /-- The body is judged where the name has the type of the bound expression. -/
  | letIn {x : Name} {b c : Expr} {s t : Ty} {G G₁ G' : Env} {l₁ l₂ : List Event}
      (bound : Derives (.synth b s) G l₁ G₁) (body : Derives (.synth c t) (G₁.declare x s) l₂ G') :
      Derives (.synth (.letIn x b c) t) G
        (synthesis .letIn (l₁ ++ (Judge.assign x (some s) G₁).events ++ l₂) t) G'
  | inter {es : List Expr} {ts : List Ty} {G G' : Env} {l : List Event}
      (members : Derives (.members es ts) G l G') (nonempty : ts ≠ []) :
      Derives (.synth (.inter es) (.inter ts)) G (synthesis .intersect l (.inter ts)) G'
  | nil {G : Env} : Derives (.members [] []) G [] G
  | cons {e : Expr} {es : List Expr} {t : Ty} {ts : List Ty} {G G₁ G' : Env} {l₁ l₂ : List Event}
      (first : Derives (.synth e t) G l₁ G₁) (rest : Derives (.members es ts) G₁ l₂ G') :
      Derives (.members (e :: es) (t :: ts)) G (l₁ ++ l₂) G'
  | checkLam {x : Name} {b : Expr} {d c s : Ty} {G G' : Env} {l : List Event}
      (param : G.lookup x = some s) (below : s.isSubtype d = true)
      (body : Derives (.check b c) G l G') :
      Derives (.check (.lam x b) (.arrow d c)) G (checking .lambda (.arrow d c) l) G'
  /-- The argument gives the domain of the goal for the function. -/
  | checkApp {f a : Expr} {s g : Ty} {G G₁ G' : Env} {l₁ l₂ : List Event}
      (arg : Derives (.synth a s) G l₁ G₁) (fn : Derives (.check f (.arrow s g)) G₁ l₂ G') :
      Derives (.check (.app f a) g) G (checking .application g (l₁ ++ l₂)) G'
  /-- All other expressions are checked by synthesis and a subtype test. -/
  | subsume {e : Expr} {s g : Ty} {G G' : Env} {l : List Event} (notLam : e.kind ≠ .lambda)
      (notApp : e.kind ≠ .application) (found : Derives (.synth e s) G l G')
      (below : s.isSubtype g = true) : Derives (.check e g) G (checking e.kind g l) G'

variable {v : Verdict} {G G' : Env} {l : List Event}

/-! ## Derivations are successful runs -/

/-- A verdict that has a derivation is reached. -/
theorem Derives.reached (h : Derives v G l G') : v.Reached G l G' := by
  induction h with
  | var type => exact Rule.synthVar_eq_iff.mpr ⟨type, rfl, rfl⟩
  | lam param _ ih => exact Rule.synthLam_eq_iff.mpr ⟨_, _, _, param, ih, rfl, rfl⟩
  | app _ _ ihf iha => exact Rule.synthApp_eq_iff.mpr ⟨_, _, _, _, ihf, iha, rfl⟩
  | unit => exact Rule.synthUnit_eq_iff.mpr ⟨rfl, rfl, rfl⟩
  | letIn _ _ ihb ihc => exact Rule.synthLet_eq_iff.mpr ⟨_, _, _, _, ihb, ihc, rfl⟩
  | inter _ nonempty ih => exact Rule.synthInter_eq_iff.mpr ⟨_, _, ih, nonempty, rfl, rfl⟩
  | nil => rfl
  | cons _ _ ihe ihes => exact Rule.synthCons_eq_iff.mpr ⟨_, _, _, _, _, ihe, ihes, rfl, rfl⟩
  | checkLam param below _ ih =>
    exact Rule.checkLam_eq_iff.mpr ⟨_, _, _, _, rfl, param, below, ih, rfl⟩
  | checkApp _ _ iha ihf => exact Rule.checkApp_eq_iff.mpr ⟨_, _, _, _, iha, ihf, rfl⟩
  | subsume notLam notApp _ below ih =>
    show check _ _ _ = _
    rw [check_eq_subsume notLam notApp]
    exact Rule.subsume_eq_iff.mpr ⟨_, _, ih, below, rfl⟩

/-- Both judgments of an expression have derivations for their successful runs. -/
structure Derivable (e : Expr) : Prop where
  synth : ∀ {t G l G'}, (Verdict.synth e t).Reached G l G' → Derives (.synth e t) G l G'
  check : ∀ {g G l G'}, (Verdict.check e g).Reached G l G' → Derives (.check e g) G l G'

namespace Derivable

/-- An expression that is checked by synthesis and a subtype test only needs its synthesis. -/
theorem of_synth {e : Expr} (hl : e.kind ≠ .lambda) (ha : e.kind ≠ .application)
    (h : ∀ {t G l G'}, (Verdict.synth e t).Reached G l G' → Derives (.synth e t) G l G') :
    Derivable e := by
  refine ⟨h, fun {g G l G'} hrun => ?_⟩
  rw [Verdict.Reached, check_eq_subsume hl ha] at hrun
  obtain ⟨s, l₁, hsynth, hs, rfl⟩ := Rule.subsume_eq_iff.mp hrun
  exact .subsume hl ha (h hsynth) hs

theorem members {es : List Expr} (h : ∀ e ∈ es, Derivable e) {ts : List Ty}
    (hrun : (Verdict.members es ts).Reached G l G') : Derives (.members es ts) G l G' := by
  induction es generalizing ts G l with
  | nil =>
    cases hrun
    exact .nil
  | cons e es ih =>
    obtain ⟨he, hes⟩ := List.forall_mem_cons.mp h
    obtain ⟨s, us, G₁, l₁, l₂, hfirst, hrest, rfl, rfl⟩ := Rule.synthCons_eq_iff.mp hrun
    exact .cons (he.synth hfirst) (ih hes hrest)

end Derivable

/-- Every successful run has a derivation: a rule that succeeds has parts that succeed. -/
theorem derivable (e : Expr) : Derivable e := by
  induction e with
  | var x =>
    refine .of_synth nofun nofun fun hrun => ?_
    obtain ⟨hx, rfl, rfl⟩ := Rule.synthVar_eq_iff.mp hrun
    exact .var hx
  | lam x b ih =>
    refine ⟨fun hrun => ?_, fun hrun => ?_⟩
    · obtain ⟨d, c, l₁, hx, hb, rfl, rfl⟩ := Rule.synthLam_eq_iff.mp hrun
      exact .lam hx (ih.synth hb)
    · obtain ⟨d, c, s, l₁, rfl, hx, hs, hb, rfl⟩ := Rule.checkLam_eq_iff.mp hrun
      exact .checkLam hx hs (ih.check hb)
  | app f a ihf iha =>
    refine ⟨fun hrun => ?_, fun hrun => ?_⟩
    · obtain ⟨d, G₁, l₁, l₂, hf, ha, rfl⟩ := Rule.synthApp_eq_iff.mp hrun
      exact .app (ihf.synth hf) (iha.check ha)
    · obtain ⟨s, G₁, l₁, l₂, ha, hf, rfl⟩ := Rule.checkApp_eq_iff.mp hrun
      exact .checkApp (iha.synth ha) (ihf.check hf)
  | unit =>
    refine .of_synth nofun nofun fun hrun => ?_
    obtain ⟨rfl, rfl, rfl⟩ := Rule.synthUnit_eq_iff.mp hrun
    exact .unit
  | letIn x b c ihb ihc =>
    refine .of_synth nofun nofun fun hrun => ?_
    obtain ⟨s, G₁, l₁, l₂, hb, hc, rfl⟩ := Rule.synthLet_eq_iff.mp hrun
    exact .letIn (ihb.synth hb) (ihc.synth hc)
  | inter es ih =>
    refine .of_synth nofun nofun fun hrun => ?_
    obtain ⟨ts, l₁, hm, hne, rfl, rfl⟩ := Rule.synthInter_eq_iff.mp hrun
    exact .inter (Derivable.members ih hm) hne

/-- **The derivations are the successful runs**, with the environments and events of the runs. -/
theorem derives_iff_reached : Derives v G l G' ↔ v.Reached G l G' := by
  refine ⟨Derives.reached, fun h => ?_⟩
  cases v with
  | synth e t => exact (derivable e).synth h
  | check e g => exact (derivable e).check h
  | members es ts => exact Derivable.members (fun e _ => derivable e) h

theorem synth_answer_iff {e : Expr} {t : Ty} :
    (synth e G).answer = some t ↔
      Derives (.synth e t) G (synth e G).events (synth e G).env := by
  rw [derives_iff_reached]
  constructor
  · intro h
    rw [Verdict.Reached, ← h]
  · exact congrArg Run.answer

theorem check_answer_iff {e : Expr} {g : Ty} :
    (check e g G).answer = true ↔
      Derives (.check e g) G (check e g G).events (check e g G).env := by
  rw [derives_iff_reached]
  constructor
  · intro h
    rw [Verdict.Reached, ← h]
  · exact congrArg Run.answer

/-- Synthesis in one environment finds one type, with one run. -/
theorem Derives.synth_unique {e : Expr} {s t : Ty} {G₁ G₂ : Env} {l₁ l₂ : List Event}
    (h₁ : Derives (.synth e s) G l₁ G₁) (h₂ : Derives (.synth e t) G l₂ G₂) :
    s = t ∧ G₁ = G₂ ∧ l₁ = l₂ := by
  have hrun : (⟨some s, G₁, l₁⟩ : Run (Option Ty)) = ⟨some t, G₂, l₂⟩ :=
    h₁.reached.symm.trans h₂.reached
  cases hrun
  exact ⟨rfl, rfl, rfl⟩

/-- Without a `let` the environment is left as it was, since no other rule writes. -/
theorem Derives.env_eq (h : Derives v G l G') (hv : v.letNames = []) : G' = G := by
  induction h with
  | var | unit | nil => rfl
  | lam _ _ ih => exact ih hv
  | app _ _ ihf iha =>
    obtain ⟨hf, ha⟩ := List.append_eq_nil_iff.mp hv
    rw [iha ha, ihf hf]
  | letIn => cases hv
  | inter _ _ ih => exact ih hv
  | cons _ _ ihe ihes =>
    obtain ⟨he, hes⟩ := List.append_eq_nil_iff.mp hv
    rw [ihes hes, ihe he]
  | checkLam _ _ _ ih => exact ih hv
  | checkApp _ _ iha ihf =>
    obtain ⟨hf, ha⟩ := List.append_eq_nil_iff.mp hv
    rw [ihf hf, iha ha]
  | subsume _ _ _ _ ih => exact ih hv

end Bidirectional
