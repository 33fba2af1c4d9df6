import Bidirectional.Error
import Bidirectional.Proofs.Env.FiniteMap
import Bidirectional.Proofs.Judgment.Simulation
import Bidirectional.Session

/-!
# No empty intersections in a session

An empty intersection can be written down, as an expression, as a goal and as a type to be bound.
Of these only the last puts one into an environment. The judgments build the types that they find
from the types of names, and the intersection of no types at all is not among them. A goal that has
an empty intersection is compared with what was found and then forgotten; in particular the goal for
the function of an application, which is built from the goal for the whole, is never bound.

The judgments keep the property as they keep any relation between two runs that their rules keep:
here the two runs are the same one, and types are related to themselves if they have no empty
intersection.

## Main definitions

* `Simulation.withoutEmptyInter`: the simulation of a run by itself, on types without empty
  intersections
* `Step.BindsNoEmptyInter`, `Reply.NoEmptyInter`: steps and replies without empty intersections

## Main results

* `synth_noEmptyInter`, `check_noEmptyInter`: the judgments create no empty intersection
* `Step.run_noEmptyInter`: a step of a session creates none
* `sessions_create_no_empty_inter`: a session creates none
-/

namespace Bidirectional

/-! ## The judgments -/

section Self

variable {α : Type} {P : α → Prop}

theorem rel_self_iff {o o' : Option α} :
    Option.Rel (fun a a' => a = a' ∧ P a) o o' ↔ o = o' ∧ ∀ a ∈ o, P a := by
  constructor
  · rintro (⟨rfl, ha⟩ | _)
    · exact ⟨rfl, fun a h => Option.some.inj h ▸ ha⟩
    · exact ⟨rfl, nofun⟩
  · rintro ⟨rfl, h⟩
    cases o with
    | none => exact .none
    | some a => exact .some ⟨rfl, h a rfl⟩

theorem eq_and_forall_of_forall₂ {l l' : List α}
    (h : List.Forall₂ (fun a a' => a = a' ∧ P a) l l') : l = l' ∧ ∀ a ∈ l, P a := by
  induction h with
  | nil => exact ⟨rfl, nofun⟩
  | cons ha _ ih => exact ⟨by rw [ha.1, ih.1], List.forall_mem_cons.mpr ⟨ha.2, ih.2⟩⟩

end Self

variable {G : Env}

/-- The simulation of a run by itself, on types that have no empty intersection if they are found.
Goals may be any types. -/
def Simulation.withoutEmptyInter : Simulation where
  found s s' := s = s' ∧ s.NoEmptyInter
  goal := Eq
  env G G' := G = G' ∧ G.All Ty.NoEmptyInter
  writes _ := True
  unit := ⟨rfl, trivial⟩
  arrow hd hc := ⟨by rw [hd.1, hc.1], hd.2, hc.2⟩
  inter hne h := by
    obtain ⟨rfl, hms⟩ := eq_and_forall_of_forall₂ h
    exact ⟨rfl, Ty.noEmptyInter_inter.mpr ⟨hne, hms⟩⟩
  found_asArrow? := by
    rintro s _ ⟨rfl, hs⟩
    cases s with
    | arrow d c => exact .some ⟨⟨rfl, hs.1⟩, rfl, hs.2⟩
    | unit | inter => exact .none
  goal_of_found h := h.1
  goal_arrow hs hg := by rw [hs.1, hg]
  goal_asArrow? := @rel_asArrow?_of_eq
  isSubtype hs hg := by rw [hs.1, hg]
  bind := by
    rintro G _ x t t' - ⟨rfl, hG⟩ hrel
    obtain ⟨rfl, ht⟩ := rel_self_iff.mp hrel
    exact ⟨rfl, hG.bind ht⟩

theorem Simulation.at_withoutEmptyInter (hG : G.All Ty.NoEmptyInter) (S : List Name) :
    Simulation.withoutEmptyInter.At S G G :=
  ⟨⟨rfl, hG⟩, fun _ _ => rel_self_iff.mpr ⟨rfl, fun _ hs => hG hs⟩⟩

theorem Simulation.withoutEmptyInter_respected (e : Expr) :
    Simulation.withoutEmptyInter.Respected e.freeNames e :=
  Simulation.respected _ (fun _ _ => trivial) (List.Subset.refl e.freeNames)

/-- Synthesis finds types without an empty intersection and binds such types only. -/
theorem synth_noEmptyInter (e : Expr) (hG : G.All Ty.NoEmptyInter) :
    (∀ t ∈ (synth e G).answer, t.NoEmptyInter) ∧ (synth e G).env.All Ty.NoEmptyInter := by
  have hsim := Simulation.withoutEmptyInter_respected e
  obtain ⟨hanswer, henv⟩ := hsim.synth G G (Simulation.at_withoutEmptyInter hG _)
  exact ⟨(rel_self_iff.mp hanswer).2, henv.env.2⟩

/-- Checking binds types without an empty intersection only, whatever the goal is. -/
theorem check_noEmptyInter (e : Expr) (g : Ty) (hG : G.All Ty.NoEmptyInter) :
    (check e g G).env.All Ty.NoEmptyInter := by
  have hsim := Simulation.withoutEmptyInter_respected e
  obtain ⟨-, henv⟩ := hsim.check rfl G G (Simulation.at_withoutEmptyInter hG _)
  exact henv.env.2

/-! ## Steps and sessions -/

/-- If the step binds a name to a type, that type has no empty intersection. -/
def Step.BindsNoEmptyInter : Step → Prop
  | .bind _ t => ∀ s ∈ t, s.NoEmptyInter
  | .declare _ t => t.NoEmptyInter
  | _ => True

/-- If the reply is a type, it has no empty intersection. -/
def Reply.NoEmptyInter : Reply → Prop
  | .type t => ∀ s ∈ t, s.NoEmptyInter
  | _ => True

/-- **A step creates no empty intersection**, neither in its reply nor in the environment. -/
theorem Step.run_noEmptyInter {s : Step} (hs : s.BindsNoEmptyInter)
    (hG : G.All Ty.NoEmptyInter) :
    (s.run G).answer.NoEmptyInter ∧ (s.run G).env.All Ty.NoEmptyInter := by
  cases s with
  | check e t => exact ⟨trivial, check_noEmptyInter e t hG⟩
  | synth e => exact synth_noEmptyInter e hG
  | bind x t => exact ⟨trivial, hG.bind hs⟩
  | declare x t => exact ⟨trivial, hG.bind fun s h => Option.some.inj h ▸ hs⟩
  | lookup x => exact ⟨fun _ h => hG h, hG⟩
  | isBound | size | isEmpty => exact ⟨trivial, hG⟩

open Session (Request transcript finish)

/-- The same for a request, which may be an error instead of a step. -/
theorem Session.answer_noEmptyInter {r : Request}
    (hr : ∀ s, r = .ok s → s.BindsNoEmptyInter) (hG : G.All Ty.NoEmptyInter) :
    (∀ reply, (answer r G).answer = .ok reply → reply.NoEmptyInter) ∧
      (answer r G).env.All Ty.NoEmptyInter := by
  cases r with
  | error e => exact ⟨nofun, hG⟩
  | ok s =>
    obtain ⟨hreply, henv⟩ := Step.run_noEmptyInter (hr s rfl) hG
    refine ⟨fun reply h => ?_, henv⟩
    obtain rfl : (s.run G).answer = reply := Except.ok.inj h
    exact hreply

/-- **A session creates no empty intersection.** From an environment whose types have none, with
any expressions and any goals, and with types that have none to be bound, no type in a reply has an
empty intersection, and no type that is bound after any of the steps has one. -/
theorem sessions_create_no_empty_inter {rs : List Request} {G : Env}
    (hrs : ∀ s, .ok s ∈ rs → Step.BindsNoEmptyInter s) (hG : G.All Ty.NoEmptyInter) :
    (∀ r ∈ transcript rs G, (∀ reply, r.answer = .ok reply → reply.NoEmptyInter) ∧
        r.env.All Ty.NoEmptyInter) ∧
      (finish rs G).All Ty.NoEmptyInter := by
  induction rs generalizing G with
  | nil => exact ⟨nofun, hG⟩
  | cons r rs ih =>
    have hr := Session.answer_noEmptyInter (r := r)
      (fun s hs => hrs s (hs ▸ List.mem_cons_self)) hG
    obtain ⟨htranscript, hfinish⟩ := ih (fun s hs => hrs s (List.mem_cons_of_mem r hs)) hr.2
    exact ⟨List.forall_mem_cons.mpr ⟨hr, htranscript⟩, hfinish⟩

/-- There is an empty intersection in a goal, which becomes part of the goal for a function, and
another one is the expression that a `let` binds. -/
theorem sessions_create_no_empty_inter_goal :
    (∀ s, .ok s ∈ ([.ok (.check (.app (.lam "x" (.var "x")) .unit) (.inter [])),
        .ok (.synth (.letIn "y" (.inter []) .unit)), .ok (.declare "w" (.inter [.unit]))] :
        List Request) → Step.BindsNoEmptyInter s) ∧
      (Env.ofBindings [("x", some .unit)]).All Ty.NoEmptyInter ∧
      (finish [.ok (.check (.app (.lam "x" (.var "x")) .unit) (.inter [])),
        .ok (.synth (.letIn "y" (.inter []) .unit)), .ok (.declare "w" (.inter [.unit]))]
        (Env.ofBindings [("x", some .unit)])).All Ty.NoEmptyInter := by
  have hrs : ∀ s, .ok s ∈ ([.ok (.check (.app (.lam "x" (.var "x")) .unit) (.inter [])),
      .ok (.synth (.letIn "y" (.inter []) .unit)), .ok (.declare "w" (.inter [.unit]))] :
      List Request) → Step.BindsNoEmptyInter s := by
    intro s hs
    simp only [List.mem_cons, Except.ok.injEq, List.not_mem_nil, or_false] at hs
    rcases hs with rfl | rfl | rfl
    · trivial
    · trivial
    · show (Ty.inter [.unit]).NoEmptyInter
      decide
  have hG : (Env.ofBindings [("x", some .unit)]).All Ty.NoEmptyInter := by decide
  exact ⟨hrs, hG, (sessions_create_no_empty_inter hrs hG).2⟩

end Bidirectional
