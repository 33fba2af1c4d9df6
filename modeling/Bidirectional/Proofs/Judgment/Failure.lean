import Bidirectional.Proofs.Judgment.Derivation

/-!
# Failures

The runs of the judgments that fail. Such a run succeeds with some parts of its expression, up to
the place where it breaks off, and no part after that place is judged. There is one rule for each
way in which a run can break off at an expression, and one for each part that can have broken off
before. Only a lambda whose parameter has no type has a part that is judged although it is settled
that the whole has no type.

## Main definitions

* `Question`: what a judgment is asked
* `Question.Failed`: the run on a question fails
* `Fails`: the ways in which a run can fail

## Main results

* `fails_iff_failed`: the runs that fail are those that fail in one of these ways
-/

namespace Bidirectional

open Judge (bind_eq_iff emit_bind_eq_iff assign_bind_eq_iff typeOf_bind)
open Rule (synthesized_eq_iff checked_eq_iff)

/-- What a judgment is asked. -/
inductive Question where
  /-- The type of an expression. -/
  | synth (e : Expr)
  /-- Whether an expression checks against a goal. -/
  | check (e : Expr) (goal : Ty)
  /-- The types of the members of an intersection. -/
  | members (es : List Expr)

/-- The run on a question from `G` fails, leaves `G'` behind and makes the events of `l` known. -/
def Question.Failed : Question → Env → List Event → Env → Prop
  | .synth e, G, l, G' => Bidirectional.synth e G = ⟨none, G', l⟩
  | .check e g, G, l, G' => Bidirectional.check e g G = ⟨false, G', l⟩
  | .members es, G, l, G' => synthAll es G = ⟨none, G', l⟩

/-- The events of a synthesis that makes it known that there is no type, with those of the parts in
between. -/
def Rule.noSynthesis (k : Kind) (l : List Event) : List Event :=
  .enterSynth k :: (l ++ [.leaveSynth k none])

/-- The events of a check that fails, with those of the parts in between. -/
def Rule.noChecking (k : Kind) (goal : Ty) (l : List Event) : List Event :=
  .enterCheck k goal :: (l ++ [.leaveCheck k goal false])

open Rule (noSynthesis noChecking)

/-- Failures: `Fails q G l G'` if the question `q`, asked in `G`, comes to nothing with the events
`l`, leaving `G'` behind. -/
inductive Fails : Question → Env → List Event → Env → Prop
  | var {x : Name} {G : Env} (type : G.lookup x = none) :
      Fails (.synth (.var x)) G (noSynthesis .variable []) G
  /-- The parameter has no type, and the body is judged nevertheless. -/
  | lamParam {x : Name} {b : Expr} {c : Ty} {G G' : Env} {l : List Event}
      (param : G.lookup x = none) (body : Derives (.synth b c) G l G') :
      Fails (.synth (.lam x b)) G (noSynthesis .lambda l) G'
  | lamBody {x : Name} {b : Expr} {G G' : Env} {l : List Event} (body : Fails (.synth b) G l G') :
      Fails (.synth (.lam x b)) G (noSynthesis .lambda l) G'
  /-- Without a function there is no exit. -/
  | appFn {f a : Expr} {G G' : Env} {l : List Event} (fn : Fails (.synth f) G l G') :
      Fails (.synth (.app f a)) G (.enterSynth .application :: l) G'
  | appNotArrow {f a : Expr} {t : Ty} {G G' : Env} {l : List Event}
      (fn : Derives (.synth f t) G l G') (notArrow : t.asArrow? = none) :
      Fails (.synth (.app f a)) G (.enterSynth .application :: l) G'
  | appArg {f a : Expr} {d c : Ty} {G G₁ G' : Env} {l₁ l₂ : List Event}
      (fn : Derives (.synth f (.arrow d c)) G l₁ G₁) (arg : Fails (.check a d) G₁ l₂ G') :
      Fails (.synth (.app f a)) G (noSynthesis .application (l₁ ++ l₂)) G'
  /-- The name is bound to no type, and the body is not judged. -/
  | letBound {x : Name} {b c : Expr} {G G₁ : Env} {l : List Event}
      (bound : Fails (.synth b) G l G₁) :
      Fails (.synth (.letIn x b c)) G (noSynthesis .letIn (l ++ [.untyped x])) (G₁.bind x none)
  | letBody {x : Name} {b c : Expr} {s : Ty} {G G₁ G' : Env} {l₁ l₂ : List Event}
      (bound : Derives (.synth b s) G l₁ G₁) (body : Fails (.synth c) (G₁.declare x s) l₂ G') :
      Fails (.synth (.letIn x b c)) G
        (noSynthesis .letIn (l₁ ++ (Judge.assign x (some s) G₁).events ++ l₂)) G'
  /-- Without all members there is no exit. -/
  | interMembers {es : List Expr} {G G' : Env} {l : List Event}
      (members : Fails (.members es) G l G') :
      Fails (.synth (.inter es)) G (.enterSynth .intersect :: l) G'
  | interEmpty {G : Env} : Fails (.synth (.inter [])) G (noSynthesis .intersect []) G
  | first {e : Expr} {es : List Expr} {G G' : Env} {l : List Event}
      (first : Fails (.synth e) G l G') : Fails (.members (e :: es)) G l G'
  | rest {e : Expr} {es : List Expr} {t : Ty} {G G₁ G' : Env} {l₁ l₂ : List Event}
      (first : Derives (.synth e t) G l₁ G₁) (rest : Fails (.members es) G₁ l₂ G') :
      Fails (.members (e :: es)) G (l₁ ++ l₂) G'
  | checkLamGoal {x : Name} {b : Expr} {g : Ty} {G : Env} (notArrow : g.asArrow? = none) :
      Fails (.check (.lam x b) g) G (noChecking .lambda g []) G
  | checkLamParam {x : Name} {b : Expr} {d c : Ty} {G : Env}
      (notBelow : Ty.anyBelow d (G.lookup x) = false) :
      Fails (.check (.lam x b) (.arrow d c)) G (noChecking .lambda (.arrow d c) []) G
  | checkLamBody {x : Name} {b : Expr} {d c : Ty} {G G' : Env} {l : List Event}
      (below : Ty.anyBelow d (G.lookup x) = true) (body : Fails (.check b c) G l G') :
      Fails (.check (.lam x b) (.arrow d c)) G (noChecking .lambda (.arrow d c) l) G'
  | checkAppArg {f a : Expr} {g : Ty} {G G' : Env} {l : List Event}
      (arg : Fails (.synth a) G l G') :
      Fails (.check (.app f a) g) G (noChecking .application g l) G'
  | checkAppFn {f a : Expr} {s g : Ty} {G G₁ G' : Env} {l₁ l₂ : List Event}
      (arg : Derives (.synth a s) G l₁ G₁) (fn : Fails (.check f (.arrow s g)) G₁ l₂ G') :
      Fails (.check (.app f a) g) G (noChecking .application g (l₁ ++ l₂)) G'
  | subsume {e : Expr} {g : Ty} {G G' : Env} {l : List Event} (notLam : e.kind ≠ .lambda)
      (notApp : e.kind ≠ .application) (found : Fails (.synth e) G l G') :
      Fails (.check e g) G (noChecking e.kind g l) G'
  | notBelow {e : Expr} {s g : Ty} {G G' : Env} {l : List Event} (notLam : e.kind ≠ .lambda)
      (notApp : e.kind ≠ .application) (found : Derives (.synth e s) G l G')
      (notBelow : s.isSubtype g = false) : Fails (.check e g) G (noChecking e.kind g l) G'

/-! ## The ways to fail are failing runs -/

/-- A question that fails in one of the ways of `Fails` has a failing run. -/
theorem Fails.failed {q : Question} {G G' : Env} {l : List Event} (h : Fails q G l G') :
    q.Failed G l G' := by
  induction h with
  | var type =>
    refine emit_bind_eq_iff.mpr ⟨_, ?_, rfl⟩
    rw [typeOf_bind, type]
    rfl
  | lamParam param body =>
    refine emit_bind_eq_iff.mpr ⟨_, ?_, rfl⟩
    rw [typeOf_bind, param]
    exact bind_eq_iff.mpr ⟨_, _, _, _, body.reached, rfl, rfl⟩
  | @lamBody x _ G _ _ _ ih =>
    refine emit_bind_eq_iff.mpr ⟨_, ?_, rfl⟩
    rw [typeOf_bind]
    refine bind_eq_iff.mpr ⟨_, _, _, _, ih, ?_, rfl⟩
    cases G.lookup x <;> rfl
  | appFn _ ih =>
    refine emit_bind_eq_iff.mpr ⟨_, ?_, rfl⟩
    exact bind_eq_iff.mpr ⟨_, _, _, _, ih, rfl, (List.append_nil _).symm⟩
  | @appNotArrow _ _ t _ _ _ fn notArrow =>
    refine emit_bind_eq_iff.mpr ⟨_, ?_, rfl⟩
    refine bind_eq_iff.mpr ⟨_, _, _, _, fn.reached, ?_, (List.append_nil _).symm⟩
    cases t with
    | unit | inter => rfl
    | arrow => cases notArrow
  | appArg fn _ ih =>
    refine emit_bind_eq_iff.mpr ⟨_, ?_, rfl⟩
    refine bind_eq_iff.mpr ⟨_, _, _, _, fn.reached, ?_, List.append_assoc ..⟩
    exact bind_eq_iff.mpr ⟨_, _, _, _, ih, rfl, rfl⟩
  | letBound _ ih =>
    refine emit_bind_eq_iff.mpr ⟨_, ?_, rfl⟩
    refine bind_eq_iff.mpr ⟨_, _, _, _, ih, ?_, List.append_assoc ..⟩
    exact assign_bind_eq_iff.mpr ⟨_, rfl, rfl⟩
  | letBody bound _ ih =>
    refine emit_bind_eq_iff.mpr ⟨_, ?_, rfl⟩
    rw [List.append_assoc, List.append_assoc]
    refine bind_eq_iff.mpr ⟨_, _, _, _, bound.reached, ?_, rfl⟩
    refine assign_bind_eq_iff.mpr ⟨_, ?_, rfl⟩
    exact bind_eq_iff.mpr ⟨_, _, _, _, ih, rfl, rfl⟩
  | interMembers _ ih =>
    refine emit_bind_eq_iff.mpr ⟨_, ?_, rfl⟩
    exact bind_eq_iff.mpr ⟨_, _, _, _, ih, rfl, (List.append_nil _).symm⟩
  | interEmpty => rfl
  | first _ ih => exact bind_eq_iff.mpr ⟨_, _, _, _, ih, rfl, (List.append_nil _).symm⟩
  | rest first _ ih =>
    refine bind_eq_iff.mpr ⟨_, _, _, _, first.reached, ?_, rfl⟩
    exact bind_eq_iff.mpr ⟨_, _, _, _, ih, rfl, (List.append_nil _).symm⟩
  | @checkLamGoal _ _ g _ notArrow =>
    cases g with
    | unit | inter => rfl
    | arrow => cases notArrow
  | checkLamParam notBelow =>
    rw [Question.Failed, Bidirectional.check, Rule.checkLam_arrow]
    refine emit_bind_eq_iff.mpr ⟨_, ?_, rfl⟩
    rw [typeOf_bind, notBelow]
    rfl
  | checkLamBody below _ ih =>
    rw [Question.Failed, Bidirectional.check, Rule.checkLam_arrow]
    refine emit_bind_eq_iff.mpr ⟨_, ?_, rfl⟩
    rw [typeOf_bind, if_pos below]
    exact bind_eq_iff.mpr ⟨_, _, _, _, ih, rfl, rfl⟩
  | checkAppArg _ ih =>
    refine emit_bind_eq_iff.mpr ⟨_, ?_, rfl⟩
    exact bind_eq_iff.mpr ⟨_, _, _, _, ih, rfl, rfl⟩
  | checkAppFn arg _ ih =>
    refine emit_bind_eq_iff.mpr ⟨_, ?_, rfl⟩
    refine bind_eq_iff.mpr ⟨_, _, _, _, arg.reached, ?_, List.append_assoc ..⟩
    exact bind_eq_iff.mpr ⟨_, _, _, _, ih, rfl, rfl⟩
  | subsume notLam notApp _ ih =>
    rw [Question.Failed, check_eq_subsume notLam notApp]
    refine emit_bind_eq_iff.mpr ⟨_, ?_, rfl⟩
    exact bind_eq_iff.mpr ⟨_, _, _, _, ih, rfl, rfl⟩
  | notBelow notLam notApp found notBelow =>
    rw [Question.Failed, check_eq_subsume notLam notApp]
    refine emit_bind_eq_iff.mpr ⟨_, ?_, rfl⟩
    refine bind_eq_iff.mpr ⟨_, _, _, _, found.reached, ?_, rfl⟩
    rw [Ty.anyBelow_some, notBelow]
    rfl

/-! ## Every failure is one of these -/

/-- Both judgments of an expression fail in one of the ways of `Fails`, if they fail. -/
structure Fallible (e : Expr) : Prop where
  synth : ∀ {G l G'}, (Question.synth e).Failed G l G' → Fails (.synth e) G l G'
  check : ∀ {g G l G'}, (Question.check e g).Failed G l G' → Fails (.check e g) G l G'

namespace Fallible

variable {b c f a : Expr} {es : List Expr}

/-- An expression that is checked by synthesis and a subtype test only needs its synthesis. -/
theorem of_synth {e : Expr} (hl : e.kind ≠ .lambda) (ha : e.kind ≠ .application)
    (h : ∀ {G l G'}, (Question.synth e).Failed G l G' → Fails (.synth e) G l G') :
    Fallible e := by
  refine ⟨h, fun {g G l G'} hrun => ?_⟩
  rw [Question.Failed, check_eq_subsume hl ha] at hrun
  obtain ⟨_, hrest, rfl⟩ := emit_bind_eq_iff.mp hrun
  obtain ⟨r, _, l₁, _, hsynth, hend, rfl⟩ := bind_eq_iff.mp hrest
  obtain ⟨hbelow, rfl, rfl⟩ := checked_eq_iff.mp hend
  rw [hbelow]
  cases r with
  | none => exact .subsume hl ha (h hsynth)
  | some s => exact .notBelow hl ha (derives_iff_reached.mpr hsynth) hbelow

theorem lam (x : Name) (hb : Fallible b) : Fallible (.lam x b) := by
  refine ⟨fun {G l G'} hrun => ?_, fun {g G l G'} hrun => ?_⟩
  · obtain ⟨_, hrest, rfl⟩ := emit_bind_eq_iff.mp hrun
    rw [typeOf_bind] at hrest
    obtain ⟨r, _, l₁, _, hbody, hend, rfl⟩ := bind_eq_iff.mp hrest
    obtain ⟨harrow, rfl, rfl⟩ := synthesized_eq_iff.mp hend
    rw [harrow]
    cases r with
    | none => exact .lamBody (hb.synth hbody)
    | some c =>
      cases hx : G.lookup x with
      | none => exact .lamParam hx (derives_iff_reached.mpr hbody)
      | some d =>
        rw [hx] at harrow
        cases harrow
  · cases g with
    | unit | inter =>
      cases hrun
      exact .checkLamGoal rfl
    | arrow d c =>
      rw [Question.Failed, Bidirectional.check, Rule.checkLam_arrow] at hrun
      obtain ⟨_, hrest, rfl⟩ := emit_bind_eq_iff.mp hrun
      rw [typeOf_bind] at hrest
      split at hrest
      · rename_i hbelow
        obtain ⟨ok, _, l₁, _, hbody, hend, rfl⟩ := bind_eq_iff.mp hrest
        obtain ⟨rfl, rfl, rfl⟩ := checked_eq_iff.mp hend
        exact .checkLamBody hbelow (hb.check hbody)
      · rename_i hbelow
        cases hrest
        exact .checkLamParam (Bool.eq_false_iff.mpr hbelow)

theorem app (hf : Fallible f) (ha : Fallible a) : Fallible (.app f a) := by
  refine ⟨fun {G l G'} hrun => ?_, fun {g G l G'} hrun => ?_⟩
  · obtain ⟨_, hrest, rfl⟩ := emit_bind_eq_iff.mp hrun
    obtain ⟨r, G₁, l₁, _, hfn, hthen, rfl⟩ := bind_eq_iff.mp hrest
    rcases r with _ | (_ | ⟨d, c⟩ | ms)
    case none =>
      cases hthen
      rw [List.append_nil]
      exact .appFn (hf.synth hfn)
    case some.arrow =>
      obtain ⟨ok, _, l₂, _, harg, hend, rfl⟩ := bind_eq_iff.mp hthen
      obtain ⟨hok, rfl, rfl⟩ := synthesized_eq_iff.mp hend
      cases ok with
      | true => cases hok
      | false =>
        rw [← List.append_assoc]
        exact .appArg (derives_iff_reached.mpr hfn) (ha.check harg)
    all_goals
      cases hthen
      rw [List.append_nil]
      exact .appNotArrow (derives_iff_reached.mpr hfn) rfl
  · obtain ⟨_, hrest, rfl⟩ := emit_bind_eq_iff.mp hrun
    obtain ⟨r, G₁, l₁, _, harg, hthen, rfl⟩ := bind_eq_iff.mp hrest
    cases r with
    | none =>
      obtain ⟨-, rfl, rfl⟩ := checked_eq_iff.mp hthen
      exact .checkAppArg (ha.synth harg)
    | some s =>
      obtain ⟨ok, _, l₂, _, hfn, hend, rfl⟩ := bind_eq_iff.mp hthen
      obtain ⟨rfl, rfl, rfl⟩ := checked_eq_iff.mp hend
      rw [← List.append_assoc]
      exact .checkAppFn (derives_iff_reached.mpr harg) (hf.check hfn)

theorem letIn (x : Name) (hb : Fallible b) (hc : Fallible c) : Fallible (.letIn x b c) := by
  refine .of_synth nofun nofun fun {G l G'} hrun => ?_
  obtain ⟨_, hrest, rfl⟩ := emit_bind_eq_iff.mp hrun
  obtain ⟨r, G₁, l₁, _, hbound, hassign, rfl⟩ := bind_eq_iff.mp hrest
  obtain ⟨_, hthen, rfl⟩ := assign_bind_eq_iff.mp hassign
  cases r with
  | none =>
    obtain ⟨-, rfl, rfl⟩ := synthesized_eq_iff.mp hthen
    rw [← List.append_assoc]
    exact .letBound (hb.synth hbound)
  | some s =>
    obtain ⟨r, _, l₂, _, hbody, hend, rfl⟩ := bind_eq_iff.mp hthen
    obtain ⟨rfl, rfl, rfl⟩ := synthesized_eq_iff.mp hend
    rw [← List.append_assoc, ← List.append_assoc]
    exact .letBody (derives_iff_reached.mpr hbound) (hc.synth hbody)

theorem members (h : ∀ e ∈ es, Fallible e) {G G' : Env} {l : List Event}
    (hrun : (Question.members es).Failed G l G') : Fails (.members es) G l G' := by
  induction es generalizing G l with
  | nil => cases hrun
  | cons e es ih =>
    obtain ⟨he, hes⟩ := List.forall_mem_cons.mp h
    obtain ⟨r, G₁, l₁, _, hfirst, hthen, rfl⟩ := bind_eq_iff.mp hrun
    cases r with
    | none =>
      cases hthen
      rw [List.append_nil]
      exact .first (he.synth hfirst)
    | some t =>
      obtain ⟨r, _, l₂, _, hrest, hend, rfl⟩ := bind_eq_iff.mp hthen
      cases r with
      | none =>
        cases hend
        rw [List.append_nil]
        exact .rest (derives_iff_reached.mpr hfirst) (ih hes hrest)
      | some ts => cases hend

theorem inter (h : ∀ e ∈ es, Fallible e) : Fallible (.inter es) := by
  refine .of_synth nofun nofun fun {G l G'} hrun => ?_
  obtain ⟨_, hrest, rfl⟩ := emit_bind_eq_iff.mp hrun
  obtain ⟨r, G₁, l₁, _, hmembers, hend, rfl⟩ := bind_eq_iff.mp hrest
  cases r with
  | none =>
    cases hend
    rw [List.append_nil]
    exact .interMembers (members h hmembers)
  | some ts =>
    obtain ⟨hinter, rfl, rfl⟩ := synthesized_eq_iff.mp hend
    cases ts with
    | cons t ts => cases hinter
    | nil =>
      -- Only the empty list of members has the empty list of types.
      cases (derives_iff_reached (v := .members es [])).mpr hmembers
      exact .interEmpty

end Fallible

/-- A rule that fails has a part that fails, or all parts that it has judged succeed. -/
theorem fallible (e : Expr) : Fallible e := by
  induction e with
  | var x =>
    refine .of_synth nofun nofun fun {G l G'} hrun => ?_
    obtain ⟨_, hrest, rfl⟩ := emit_bind_eq_iff.mp hrun
    rw [typeOf_bind] at hrest
    obtain ⟨hx, rfl, rfl⟩ := synthesized_eq_iff.mp hrest
    rw [hx]
    exact .var hx
  | lam x b ih => exact ih.lam x
  | app f a ihf iha => exact ihf.app iha
  | unit => exact .of_synth nofun nofun nofun
  | letIn x b c ihb ihc => exact ihb.letIn x ihc
  | inter es ih => exact .inter ih

/-- **The runs that fail are those that fail in one of the ways of `Fails`**, with the same
environments and events. -/
theorem fails_iff_failed {q : Question} {G G' : Env} {l : List Event} :
    Fails q G l G' ↔ q.Failed G l G' := by
  refine ⟨Fails.failed, fun h => ?_⟩
  cases q with
  | synth e => exact (fallible e).synth h
  | check e g => exact (fallible e).check h
  | members es => exact Fallible.members (fun e _ => fallible e) h

theorem synth_fails {e : Expr} {G : Env} (h : (synth e G).answer = none) :
    Fails (.synth e) G (synth e G).events (synth e G).env := by
  rw [fails_iff_failed, Question.Failed, ← h]

theorem check_fails {e : Expr} {g : Ty} {G : Env} (h : (check e g G).answer = false) :
    Fails (.check e g) G (check e g G).events (check e g G).env := by
  rw [fails_iff_failed, Question.Failed, ← h]

end Bidirectional
