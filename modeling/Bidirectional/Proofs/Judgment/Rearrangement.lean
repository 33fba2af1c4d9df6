import Bidirectional.Proofs.Judgment.Simulation
import Bidirectional.Proofs.Ty.Rearrangement

/-!
# Typing up to rearranged intersections

Types that are alike are so for typing as well. Where the goal and the types of the environment are
rearranged, checking gives the same answer, synthesis finds a type that is alike, and environments
that bind alike are left behind. Rearrangement is a simulation: it passes to the parts of a function
type, to a new intersection and to what a `let` writes.

## Main definitions

* `Env.Alike`: environments that bind the same names to types that are alike
* `Simulation.rearranging`: rearrangement as a simulation

## Main results

* `typing_alike`: subtyping and both judgments respect rearrangement
-/

namespace Bidirectional

variable {env env' : Env} {t t' : Option Ty}

/-- Environments that bind the same names, each to types that are alike or to no type in both. -/
def Env.Alike (env env' : Env) : Prop :=
  ∀ x, Option.Rel (Option.Rel Ty.Alike) (env.find? x) (env'.find? x)

namespace Env.Alike

theorem refl (env : Env) : env.Alike env :=
  fun _ => rel_refl (rel_refl Ty.Alike.refl) _

theorem lookup (h : env.Alike env') (x : Name) :
    Option.Rel Ty.Alike (env.lookup x) (env'.lookup x) := by
  have hx := h x
  rw [Env.lookup, Env.lookup]
  generalize env.find? x = o, env'.find? x = o' at hx
  cases hx with
  | some ht => exact ht
  | none => exact .none

theorem bind (h : env.Alike env') (x : Name) (ht : Option.Rel Ty.Alike t t') :
    (env.bind x t).Alike (env'.bind x t') := by
  intro y
  rw [Env.find?_bind, Env.find?_bind]
  split
  · exact .some ht
  · exact h y

end Env.Alike

/-- Rearrangement as a simulation, on types that are found and on goals alike. -/
def Simulation.rearranging : Simulation where
  found := Ty.Alike
  goal := Ty.Alike
  env := Env.Alike
  writes _ := True
  unit := .refl _
  arrow := .arrow
  inter _ := .inter
  found_asArrow? := Ty.Alike.asArrow?
  goal_of_found h := h
  goal_arrow := .arrow
  goal_asArrow? := Ty.Alike.asArrow?
  isSubtype := Ty.Alike.isSubtype_eq
  bind {_ _ x _ _} _ h ht := h.bind x ht

theorem Simulation.at_rearranging (h : env.Alike env') (S : List Name) :
    Simulation.rearranging.At S env env' :=
  ⟨h, fun x _ => h.lookup x⟩

/-- **Typing ignores order, repetition and nesting of members**: the subtype test does, and the
judgments do, in the goal as well as in the environment. -/
theorem typing_alike :
    (∀ {s s' t t' : Ty}, s.Alike s' → t.Alike t' → s.isSubtype t = s'.isSubtype t') ∧
      ∀ (e : Expr) {t t' : Ty} {env env' : Env}, t.Alike t' → env.Alike env' →
        ((check e t env).answer = (check e t' env').answer ∧
          (check e t env).env.Alike (check e t' env').env) ∧
        (Option.Rel Ty.Alike (synth e env).answer (synth e env').answer ∧
          (synth e env).env.Alike (synth e env').env) := by
  refine ⟨Ty.Alike.isSubtype_eq, fun e t t' env env' ht henv => ?_⟩
  have hsim := Simulation.rearranging.respected (fun _ _ => trivial)
    (List.Subset.refl e.freeNames)
  have hstart := Simulation.at_rearranging henv e.freeNames
  obtain ⟨hcheck, hcheckEnv⟩ := hsim.check ht env env' hstart
  obtain ⟨hsynth, hsynthEnv⟩ := hsim.synth env env' hstart
  exact ⟨⟨hcheck, hcheckEnv.env⟩, hsynth, hsynthEnv.env⟩

/-- The members of the type of `x` are flattened, put in another order and repeated, in the
environment and in the domain of the goal. -/
theorem typing_alike_flattened :
    Ty.Alike (.inter [.unit, .inter [.arrow .unit .unit]])
        (.inter [.unit, .arrow .unit .unit, .unit]) ∧
      (check (.app (.var "g") (.var "x"))
        (.arrow (.inter [.unit, .inter [.arrow .unit .unit]]) .unit)
        (Env.ofBindings [("g", some (.arrow .unit (.arrow .unit .unit))),
          ("x", some (.inter [.unit, .inter [.arrow .unit .unit]]))])).answer =
      (check (.app (.var "g") (.var "x")) (.arrow (.inter [.unit, .arrow .unit .unit, .unit]) .unit)
        (Env.ofBindings [("g", some (.arrow .unit (.arrow .unit .unit))),
          ("x", some (.inter [.unit, .arrow .unit .unit, .unit]))])).answer := by
  have hflat : Ty.Alike (.inter [.unit, .inter [.arrow .unit .unit]])
      (.inter [.unit, .arrow .unit .unit]) := .flatten [.unit] [.arrow .unit .unit] []
  have hswap : Ty.Alike (.inter [.unit, .arrow .unit .unit])
      (.inter [.arrow .unit .unit, .unit]) := .perm (.swap _ _ _)
  have hagain : Ty.Alike (.inter [.arrow .unit .unit, .unit])
      (.inter [.unit, .arrow .unit .unit, .unit]) := .again (by simp)
  have h := (hflat.trans hswap).trans hagain
  have hg := Env.Alike.refl (Env.ofBindings [("g", some (.arrow .unit (.arrow .unit .unit)))])
  have henv := hg.bind "x" (.some h)
  exact ⟨h, (typing_alike.2 (.app (.var "g") (.var "x")) (.arrow h (.refl .unit)) henv).1.1⟩

end Bidirectional
