import Bidirectional.Ty

/-!
# Subtyping as a relation

The subtype test decides a relation given by three rules: the unit type is below itself, a function
type is below another one by a larger domain and a smaller codomain, and an intersection is below
whatever one of its members is below. The relation is transitive. The domains of a chain of three
function types are passed through in the opposite order, so neither end of the chain gets smaller;
the type in the middle does, and it carries the induction.

## Main definitions

* `Ty.Below`: the subtype relation

## Main results

* `Ty.isSubtype_iff_below`: the subtype test decides the relation
* `Ty.not_below_inter`: nothing is below an intersection
* `Ty.Below.trans`, `Ty.isSubtype_trans`: subtyping is transitive
-/

namespace Bidirectional.Ty

/-- The subtype relation: `Below s t` if an `s` can stand where a `t` is expected. -/
inductive Below : Ty → Ty → Prop
  /-- The unit type is below itself. -/
  | unit : Below .unit .unit
  /-- Functions are contravariant in the domain and covariant in the codomain. -/
  | arrow {d c d' c' : Ty} (dom : Below d' d) (cod : Below c c') :
      Below (.arrow d c) (.arrow d' c')
  /-- One member of an intersection suffices. -/
  | inter {ms : List Ty} {m t : Ty} (mem : m ∈ ms) (member : Below m t) : Below (.inter ms) t

theorem below_of_isSubtype : ∀ {s t : Ty}, isSubtype s t = true → Below s t
  | .inter ms, t, h => by
    rw [isSubtype_inter_left] at h
    obtain ⟨m, hm, hmt⟩ := List.any_eq_true.mp h
    exact .inter hm (below_of_isSubtype hmt)
  | .unit, .unit, _ => .unit
  | .arrow d c, .arrow d' c', h => by
    rw [isSubtype_arrow_arrow] at h
    obtain ⟨hd, hc⟩ := Bool.and_eq_true_iff.mp h
    exact .arrow (below_of_isSubtype hd) (below_of_isSubtype hc)
  | .unit, .arrow .., h | .unit, .inter _, h => by simp at h
  | .arrow .., .unit, h | .arrow .., .inter _, h => by simp at h
-- The sides change places at a domain, so it is their sizes together that decrease.
termination_by s t => sizeOf s + sizeOf t
decreasing_by
  · have := List.sizeOf_lt_of_mem hm
    simp only [inter.sizeOf_spec]
    omega
  all_goals
    simp only [arrow.sizeOf_spec]
    omega

theorem Below.isSubtype {s t : Ty} (h : Below s t) : isSubtype s t = true := by
  induction h with
  | unit => exact isSubtype_unit_unit
  | arrow _ _ ihd ihc => rw [isSubtype_arrow_arrow, ihd, ihc, Bool.and_self]
  | inter hm _ ih =>
    rw [isSubtype_inter_left]
    exact List.any_eq_true.mpr ⟨_, hm, ih⟩

/-- **The subtype test decides the subtype relation.** -/
theorem isSubtype_iff_below {s t : Ty} : isSubtype s t = true ↔ Below s t :=
  ⟨below_of_isSubtype, Below.isSubtype⟩

/-- No rule has an intersection on the right, so nothing is below one. -/
theorem not_below_inter (s : Ty) (ms : List Ty) : ¬ Below s (.inter ms) := by
  generalize ht : Ty.inter ms = t
  intro h
  induction h with
  | unit => cases ht
  | arrow => cases ht
  | inter _ _ ih => exact ih ht

/-- An intersection is below what one of its members is below. -/
theorem below_inter_left {ms : List Ty} {t : Ty} : Below (.inter ms) t ↔ ∃ m ∈ ms, Below m t := by
  constructor
  · rintro (_ | _ | ⟨hm, h⟩)
    exact ⟨_, hm, h⟩
  · rintro ⟨m, hm, h⟩
    exact .inter hm h

/-- What is below a function type passes to a second function type, if its functions do. -/
theorem Below.of_arrow {s d c d' c' : Ty} (h : Below s (.arrow d c))
    (step : ∀ d₀ c₀, Below d d₀ → Below c₀ c → Below (.arrow d₀ c₀) (.arrow d' c')) :
    Below s (.arrow d' c') := by
  generalize ht : Ty.arrow d c = t at h
  induction h with
  | unit => cases ht
  | @arrow d₀ c₀ _ _ hd hc _ _ =>
    cases ht
    exact step d₀ c₀ hd hc
  | inter hm _ ih => exact .inter hm (ih ht)

/-- **The subtype relation is transitive.** A chain of function types is a chain of codomains and,
the other way round, one of domains, and both have a part of `t` in the middle. -/
theorem Below.trans {s t u : Ty} (hst : Below s t) (htu : Below t u) : Below s u := by
  induction t generalizing s u with
  | unit =>
    cases htu
    exact hst
  | arrow d c ihd ihc =>
    cases htu with
    | arrow hd hc =>
      refine hst.of_arrow fun d₀ c₀ hd₀ hc₀ => ?_
      exact .arrow (ihd hd hd₀) (ihc hc₀ hc)
  | inter ms => exact absurd hst (not_below_inter s ms)

/-- **The subtype test is transitive**, on types of any nesting. -/
theorem isSubtype_trans {s t u : Ty} (hst : isSubtype s t = true) (htu : isSubtype t u = true) :
    isSubtype s u = true := by
  have hst' : Below s t := isSubtype_iff_below.mp hst
  have htu' : Below t u := isSubtype_iff_below.mp htu
  exact (hst'.trans htu').isSubtype

/-- A chain through a function type, with an empty intersection and a one-member one in it. -/
theorem isSubtype_trans_arrow :
    isSubtype (.inter [.inter [], .arrow .unit (.inter [.unit])]) (.arrow .unit .unit) = true ∧
      isSubtype (.arrow .unit .unit) (.arrow (.inter [.inter [], .unit]) .unit) = true ∧
      isSubtype (.inter [.inter [], .arrow .unit (.inter [.unit])])
        (.arrow (.inter [.inter [], .unit]) .unit) = true := by
  have hst : isSubtype (.inter [.inter [], .arrow .unit (.inter [.unit])])
      (.arrow .unit .unit) = true := by simp
  have htu : isSubtype (.arrow .unit .unit) (.arrow (.inter [.inter [], .unit]) .unit) = true := by
    simp
  exact ⟨hst, htu, isSubtype_trans hst htu⟩

end Bidirectional.Ty
