import Bidirectional.Proofs.Ty.Order

/-!
# Intersection-free types

Types without an intersection at any depth. Between them the subtype relation is equality, so they
are the types that are below themselves. They also carry the whole relation: a type is below another
one exactly if some intersection-free type is between the two. The type in between is found along
the rules. It has the members that the rules choose, on either side, in place of the intersections.

## Main definitions

* `Ty.InterFree`: types without an intersection at any depth

## Main results

* `Ty.below_self_iff`: the types that are below themselves
* `Ty.Below.eq_of_interFree`: the relation is equality on intersection-free types
* `Ty.Below.antisymm`: types that are below each other are equal
* `Ty.isSubtype_iff_interpolant`: subtyping goes through intersection-free types
-/

namespace Bidirectional.Ty

/-- The type has no intersection at any depth. -/
def InterFree : Ty → Prop
  | .unit => True
  | .arrow d c => InterFree d ∧ InterFree c
  | .inter _ => False

/-- Freedom from intersections is decided part by part. -/
def decInterFree : (t : Ty) → Decidable t.InterFree
  | .unit => isTrue trivial
  | .arrow d c =>
    have := decInterFree d
    have := decInterFree c
    inferInstanceAs (Decidable (InterFree d ∧ InterFree c))
  | .inter _ => isFalse id

instance : DecidablePred InterFree := decInterFree

/-! ## Subtyping on intersection-free types -/

/-- **The intersection-free types are the types that are below themselves.** -/
theorem below_self_iff {t : Ty} : Below t t ↔ t.InterFree := by
  induction t with
  | unit => exact iff_of_true .unit trivial
  | arrow d c ihd ihc =>
    constructor
    · rintro (_ | ⟨hd, hc⟩ | _)
      exact ⟨ihd.mp hd, ihc.mp hc⟩
    · rintro ⟨hd, hc⟩
      exact .arrow (ihd.mpr hd) (ihc.mpr hc)
  | inter ms => exact iff_of_false (not_below_inter _ ms) id

/-- An intersection-free type is below no other intersection-free type. -/
theorem Below.eq_of_interFree {s t : Ty} (h : Below s t) (hs : s.InterFree) (ht : t.InterFree) :
    s = t := by
  induction h with
  | unit => rfl
  | arrow _ _ ihd ihc =>
    have hd := ihd ht.1 hs.1
    have hc := ihc hs.2 ht.2
    rw [hd, hc]
  | inter => exact absurd hs id

/-- **Types that are below each other are equal.** -/
theorem Below.antisymm {s t : Ty} (h : Below s t) (h' : Below t s) : s = t := by
  induction h with
  | unit => rfl
  | arrow _ _ ihd ihc =>
    cases h' with
    | arrow hd hc => rw [ihd hd, ihc hc]
  | @inter ms _ t =>
    exact absurd h' (not_below_inter t ms)

/-- The subtype test is equality on intersection-free types. -/
theorem isSubtype_iff_eq {s t : Ty} (hs : s.InterFree) (ht : t.InterFree) :
    isSubtype s t = true ↔ s = t := by
  rw [isSubtype_iff_below]
  constructor
  · exact fun h => h.eq_of_interFree hs ht
  · rintro rfl
    exact below_self_iff.mpr hs

/-! ## Interpolation -/

/-- Between two types, one below the other, there is an intersection-free one. -/
theorem Below.exists_between {s t : Ty} (h : Below s t) :
    ∃ m : Ty, m.InterFree ∧ Below s m ∧ Below m t := by
  induction h with
  | unit => exact ⟨.unit, trivial, .unit, .unit⟩
  | arrow _ _ ihd ihc =>
    obtain ⟨d, hd, hdl, hdr⟩ := ihd
    obtain ⟨c, hc, hcl, hcr⟩ := ihc
    exact ⟨.arrow d c, ⟨hd, hc⟩, .arrow hdr hcl, .arrow hdl hcr⟩
  | inter hm _ ih =>
    obtain ⟨m, hfree, hl, hr⟩ := ih
    exact ⟨m, hfree, .inter hm hl, hr⟩

/-- **Subtyping goes through intersection-free types**: a type is a subtype of another one if and
only if there is an intersection-free type between them. -/
theorem isSubtype_iff_interpolant (s t : Ty) :
    isSubtype s t = true ↔
      ∃ m : Ty, m.InterFree ∧ isSubtype s m = true ∧ isSubtype m t = true := by
  simp only [isSubtype_iff_below]
  constructor
  · exact Below.exists_between
  · rintro ⟨m, -, hl, hr⟩
    exact hl.trans hr

end Bidirectional.Ty
