import Bidirectional.Proofs.Judgment.Noninterference
import Bidirectional.Session
import Mathlib.Data.List.Pairwise

/-!
# Independent steps of a session

The steps of a session share one environment, and what a step writes stays for the steps after it.
A step reads some names and writes some: a judgment reads the free names of its expression and
writes the names of its `let`s, whether it succeeds or not. Where neither of two steps writes what
the other reads or writes, it makes no difference which is first. So independent steps can be put
in any order: each of them gets the reply that it would get first, and the same environment is left
in the end. Questions on the number of names read all names there are.

## Main definitions

* `Step.Reads`, `Step.writes`: the names that a step reads and writes
* `Step.Independent`: neither of two steps writes what the other reads or writes

## Main results

* `Step.run_uniform`: a step depends on the names that it reads, and changes those that it writes
* `Step.Independent.env_comm`: two independent steps leave the same environment in either order
* `independent_steps_commute`: independent steps can be put in any order
-/

namespace Bidirectional

namespace Judge

variable {α β : Type} {m : Judge α} {ns : List Name} {G G' : Env}

/-- What is made of the answer afterwards does not count. -/
theorem Uniform.map (h : m.Uniform ns G G') (f : α → β) :
    Judge.Uniform (m >>= fun a => pure (f a)) ns G G' :=
  ⟨congrArg f h.answer, h.patch⟩

/-- A judgment that writes nothing is uniform if it answers alike. -/
theorem Uniform.of_env_eq (hanswer : (m G).answer = (m G').answer) (h : ∀ G, (m G).env = G) :
    m.Uniform ns G G' := by
  refine ⟨hanswer, .empty, nofun, ?_, ?_⟩
  · rw [h, Env.overwrite_empty]
  · rw [h, Env.overwrite_empty]

end Judge

namespace Step

variable {s s' : Step} {G G' : Env}

/-- The names that a step reads. -/
def Reads : Step → Name → Prop
  | .check e _, x | .synth e, x => x ∈ e.freeNames
  | .bind .., _ | .declare .., _ => False
  | .lookup y, x | .isBound y, x => x = y
  | .size, _ | .isEmpty, _ => True

instance : (s : Step) → (x : Name) → Decidable (s.Reads x)
  | .check e _, x | .synth e, x => inferInstanceAs (Decidable (x ∈ e.freeNames))
  | .bind .., _ | .declare .., _ => isFalse id
  | .lookup y, x | .isBound y, x => inferInstanceAs (Decidable (x = y))
  | .size, _ | .isEmpty, _ => isTrue trivial

/-- The names that a step writes. -/
def writes : Step → List Name
  | .check e _ | .synth e => e.letNames
  | .bind x _ | .declare x _ => [x]
  | _ => []

/-- The first step writes nothing that the second reads or writes. -/
def Spares (s s' : Step) : Prop :=
  ∀ x ∈ s.writes, ¬ s'.Reads x ∧ x ∉ s'.writes

instance (s s' : Step) : Decidable (s.Spares s') :=
  inferInstanceAs (Decidable (∀ x ∈ s.writes, ¬ s'.Reads x ∧ x ∉ s'.writes))

/-- Neither step writes what the other reads or writes. -/
def Independent (s s' : Step) : Prop :=
  s.Spares s' ∧ s'.Spares s

instance (s s' : Step) : Decidable (s.Independent s') :=
  inferInstanceAs (Decidable (s.Spares s' ∧ s'.Spares s))

instance : Std.Symm Independent := ⟨fun _ _ h => ⟨h.2, h.1⟩⟩

/-! ## What a step depends on and what it changes -/

/-- Binding a name writes one binding. -/
theorem bind_uniform (x : Name) (t : Option Ty) :
    (Step.bind x t).run.Uniform [x] G G' := by
  refine ⟨rfl, Env.empty.bind x t, ?_, Env.bind_overwrite G .empty x t,
    Env.bind_overwrite G' .empty x t⟩
  intro y hy
  rw [Env.isBound_bind, Bool.or_eq_true, beq_iff_eq] at hy
  rcases hy with rfl | hy
  · exact List.mem_singleton_self y
  · cases hy

/-- **A step depends on the names that it reads only**, and writes the same over environments that
bind these names alike. -/
theorem run_uniform (h : ∀ x, s.Reads x → G.find? x = G'.find? x) :
    s.run.Uniform s.writes G G' := by
  cases s with
  | check e t =>
    exact (check_uniform t fun x hx => congrArg Option.join (h x hx)).map Reply.truth
  | synth e => exact (synth_uniform fun x hx => congrArg Option.join (h x hx)).map Reply.type
  | bind x t => exact bind_uniform x t
  | declare x t => exact bind_uniform x (some t)
  | lookup x =>
    exact .of_env_eq (congrArg (fun o => Reply.type (Option.join o)) (h x rfl)) fun _ => rfl
  | isBound x =>
    exact .of_env_eq (congrArg (fun o => Reply.truth (Option.isSome o)) (h x rfl)) fun _ => rfl
  | size =>
    obtain rfl := Env.ext_find? fun x => h x trivial
    exact .of_env_eq rfl fun _ => rfl
  | isEmpty =>
    obtain rfl := Env.ext_find? fun x => h x trivial
    exact .of_env_eq rfl fun _ => rfl

theorem run_frames (s : Step) : s.run.Frames s.writes :=
  .of_uniform fun _ => run_uniform fun _ _ => rfl

/-- A step finds the names that it reads as they were before a step that spares it. -/
theorem Spares.run_uniform (h : s.Spares s') (G : Env) :
    s'.run.Uniform s'.writes (s.run G).env G := by
  apply Step.run_uniform
  intro x hx
  exact (run_frames s).find?_eq G x fun hmem => (h x hmem).1 hx

/-! ## Two steps -/

/-- **Independent steps leave the same environment in either order**: either of them writes the same
bindings, be it first or second. -/
theorem Independent.env_comm (h : s.Independent s') (G : Env) :
    (s'.run (s.run G).env).env = (s.run (s'.run G).env).env := by
  obtain ⟨d', hd', hsecond', hfirst'⟩ := (h.1.run_uniform G).patch
  obtain ⟨d, hd, hsecond, hfirst⟩ := (h.2.run_uniform G).patch
  have hdisjoint : ∀ x, d.isBound x = true → d'.isBound x = false := by
    intro x hx
    rw [Bool.eq_false_iff]
    exact fun hx' => (h.1 x (hd x hx)).2 (hd' x hx')
  calc (s'.run (s.run G).env).env = (s.run G).env.overwrite d' := hsecond'
    _ = (G.overwrite d).overwrite d' := by rw [hfirst]
    _ = (G.overwrite d').overwrite d := Env.overwrite_comm hdisjoint G
    _ = (s'.run G).env.overwrite d := by rw [hfirst']
    _ = (s.run (s'.run G).env).env := hsecond.symm

end Step

/-! ## All steps of a session -/

namespace Session

variable {ss ss' : List Step}

/-- The steps of a session change the environment one after the other. -/
theorem run_env (ss : List Step) (G : Env) :
    (run ss G).env = ss.foldl (fun G s => (s.run G).env) G := by
  induction ss generalizing G with
  | nil => rfl
  | cons s ss ih => exact ih (s.run G).env

theorem run_cons_answer (s : Step) (ss : List Step) (G : Env) :
    (run (s :: ss) G).answer = (s.run G).answer :: (run ss (s.run G).env).answer := rfl

/-- Independent steps get the replies that each of them would get first. -/
theorem run_answer (h : ss.Pairwise Step.Independent) (G : Env) :
    (run ss G).answer = ss.map fun s => (s.run G).answer := by
  induction ss generalizing G with
  | nil => rfl
  | cons s ss ih =>
    obtain ⟨hs, hss⟩ := List.pairwise_cons.mp h
    rw [run_cons_answer, ih hss, List.map_cons]
    congr 1
    apply List.map_congr_left
    intro s' hs'
    exact ((hs s' hs').1.run_uniform G).answer

/-- Independent steps leave the same environment in any order. -/
theorem run_env_perm (h : ss.Pairwise Step.Independent) (hp : ss.Perm ss') (G : Env) :
    (run ss G).env = (run ss' G).env := by
  rw [run_env, run_env]
  apply hp.foldl_eq'
  intro s hs s' hs' G
  -- Steps that are equal need not be independent, but then there is nothing to exchange.
  by_cases heq : s = s'
  · rw [heq]
  · exact (h.forall hs hs' heq).env_comm G

/-! ## Sessions of steps -/

/-- A session of steps gives the replies of their run. -/
theorem transcript_ok (ss : List Step) (G : Env) :
    (transcript (ss.map .ok) G).map Run.answer = (run ss G).answer.map .ok := by
  induction ss generalizing G with
  | nil => rfl
  | cons s ss ih =>
    rw [run_cons_answer, List.map_cons, List.map_cons, ← ih]
    rfl

/-- A session of steps ends in the environment that their run leaves. -/
theorem finish_ok (ss : List Step) (G : Env) : finish (ss.map .ok) G = (run ss G).env := by
  induction ss generalizing G with
  | nil => rfl
  | cons s ss ih => exact ih (s.run G).env

end Session

open Session (transcript finish)

/-- **Independent steps of a session can be put in any order.** If no two steps, at different places
of a session, touch what the other one writes, then in every order of the steps each of them gets
one and the same reply, and the session ends in the same environment. -/
theorem independent_steps_commute {ss ss' : List Step} (h : ss.Pairwise Step.Independent)
    (hp : ss.Perm ss') (G : Env) :
    (∃ reply : Step → Reply,
        (transcript (ss.map .ok) G).map Run.answer = ss.map (fun s => .ok (reply s)) ∧
        (transcript (ss'.map .ok) G).map Run.answer = ss'.map (fun s => .ok (reply s))) ∧
      finish (ss.map .ok) G = finish (ss'.map .ok) G := by
  have h' : ss'.Pairwise Step.Independent := (hp.pairwise_iff (Std.Symm.symm _ _)).mp h
  refine ⟨⟨fun s => (s.run G).answer, ?_, ?_⟩, ?_⟩
  · rw [Session.transcript_ok, Session.run_answer h, List.map_map]
    rfl
  · rw [Session.transcript_ok, Session.run_answer h', List.map_map]
    rfl
  · rw [Session.finish_ok, Session.finish_ok, Session.run_env_perm h hp]

/-- One judgment fails and still writes the name of its `let`, another one succeeds and writes its
own, and both leave the name alone that is asked for. -/
theorem independent_steps_commute_failing :
    [Step.synth (.letIn "y" (.var "w") .unit), .check (.letIn "z" (.var "x") (.var "z")) .unit,
        .lookup "x"].Pairwise Step.Independent ∧
      [Step.synth (.letIn "y" (.var "w") .unit), .check (.letIn "z" (.var "x") (.var "z")) .unit,
        .lookup "x"].Perm
        [.lookup "x", .check (.letIn "z" (.var "x") (.var "z")) .unit,
          .synth (.letIn "y" (.var "w") .unit)] ∧
      finish [.ok (.synth (.letIn "y" (.var "w") .unit)),
          .ok (.check (.letIn "z" (.var "x") (.var "z")) .unit), .ok (.lookup "x")]
          (Env.ofBindings [("x", some .unit)]) =
        finish [.ok (.lookup "x"), .ok (.check (.letIn "z" (.var "x") (.var "z")) .unit),
          .ok (.synth (.letIn "y" (.var "w") .unit))] (Env.ofBindings [("x", some .unit)]) := by
  have h : [Step.synth (.letIn "y" (.var "w") .unit),
      .check (.letIn "z" (.var "x") (.var "z")) .unit,
      .lookup "x"].Pairwise Step.Independent := by decide
  have hp : [Step.synth (.letIn "y" (.var "w") .unit),
      .check (.letIn "z" (.var "x") (.var "z")) .unit, .lookup "x"].Perm
      [.lookup "x", .check (.letIn "z" (.var "x") (.var "z")) .unit,
        .synth (.letIn "y" (.var "w") .unit)] := by decide
  exact ⟨h, hp, (independent_steps_commute h hp _).2⟩

end Bidirectional
