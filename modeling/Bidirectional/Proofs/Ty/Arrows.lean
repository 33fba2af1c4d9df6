import Bidirectional.Proofs.Ty.Order
import Mathlib.Data.List.Forall2

/-!
# Function types of several arguments

A function type takes its arguments one after the other, as long as its codomain is a function type
again. The type that is left in the end is its result. No rule of subtyping has an intersection on
the right, and codomains are compared in the order of the types, so what is above some type has the
unit type for its result.

Two function types of several arguments are compared argument by argument, the other way round, and
last of all by what they come to. A larger type may be put in the last place of the greater one.
That is not a case of transitivity, since the arguments stay as they are and a type that holds an
intersection is not below itself.

## Main definitions

* `Ty.arrows`: the function type of a list of arguments
* `Ty.result`: the type at the end of the codomains

## Main results

* `Ty.Below.result_eq_unit`: what is above some type has the unit type for its result
* `Ty.Below.arrows_mono`: a larger type may be put in the last place
* `Ty.arrows_below_arrows_iff`: function types of as many arguments are compared one by one
-/

namespace Bidirectional.Ty

/-- The function type that takes arguments of the types `ds`, one after the other, and comes to
`t`. -/
def arrows (ds : List Ty) (t : Ty) : Ty :=
  ds.foldr .arrow t

@[simp]
theorem arrows_nil (t : Ty) : arrows [] t = t := rfl

@[simp]
theorem arrows_cons (d : Ty) (ds : List Ty) (t : Ty) :
    arrows (d :: ds) t = .arrow d (arrows ds t) := rfl

/-- The type at the end of the codomains. -/
def result : Ty → Ty
  | .unit => .unit
  | .arrow _ c => result c
  | .inter ms => .inter ms

theorem result_arrow (d c : Ty) : (arrow d c).result = c.result := rfl

theorem result_arrows (ds : List Ty) (t : Ty) : (arrows ds t).result = t.result := by
  induction ds with
  | nil => rfl
  | cons d ds ih => exact ih

variable {s t u : Ty} {ds : List Ty}

/-- What is above some type has the unit type for its result. -/
theorem Below.result_eq_unit (h : Below s t) : t.result = .unit := by
  induction h with
  | unit => rfl
  | arrow _ _ _ ihc => exact ihc
  | inter _ _ ih => exact ih

/-- **A larger type may be put in the last place** of a function type of several arguments. -/
theorem Below.arrows_mono (h : Below s (arrows ds t)) (htu : Below t u) :
    Below s (arrows ds u) := by
  induction ds generalizing s with
  | nil => exact h.trans htu
  | cons d ds ih => exact h.of_arrow fun d₀ c₀ hd hc => .arrow hd (ih hc)

/-- **Function types of as many arguments are compared one by one**: the arguments the other way
round, and then what the types come to. -/
theorem arrows_below_arrows_iff {r : Ty} {ss : List Ty} (hlen : ss.length = ds.length) :
    Below (arrows ds r) (arrows ss t) ↔ List.Forall₂ Below ss ds ∧ Below r t := by
  induction ds generalizing ss with
  | nil =>
    obtain rfl := List.length_eq_zero_iff.mp hlen
    simp
  | cons d ds ih =>
    cases ss with
    | nil => cases hlen
    | cons s ss =>
      rw [List.forall₂_cons, and_assoc, ← ih (Nat.succ.inj hlen), arrows_cons, arrows_cons]
      constructor
      · rintro (_ | ⟨hd, hc⟩ | _)
        exact ⟨hd, hc⟩
      · rintro ⟨hd, hc⟩
        exact .arrow hd hc

end Bidirectional.Ty
