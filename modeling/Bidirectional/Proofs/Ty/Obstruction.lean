import Bidirectional.Proofs.Ty.Equality

/-!
# Where structural equality is not supported

Structural equality goes through two types side by side, into the domains of two function types
first. It goes on into the codomains only where the domains were found equal, and it ends with an
error at the first intersection that it meets on the left. So an intersection is in the way if it
can be reached on a path through function types of both sides that leaves equal domains behind,
free of intersections, at every turn into the codomains. Any other intersection goes unnoticed: one
on the right, and one behind a difference. This is why the error depends on which of two types is
on the left, and the answer, if there is one on either side, does not.

## Main definitions

* `Ty.Side`, `Ty.Path`, `Ty.part?`: the ways through function types, and the parts they lead to
* `Ty.Obstructs p s t u`: the path `p` leads to the intersection `u` of `s` that is in the way

## Main results

* `Ty.exists_obstructs_arrow_iff`: what is in the way of comparing two function types
* `Ty.structEq_eq_error_iff`: structural equality ends with an error where something is in the way
* `Ty.structEq_outcomes`: the three outcomes of structural equality
-/

namespace Bidirectional.Ty

/-! ## Paths -/

/-- The two sides of a function type. -/
inductive Side where
  | dom
  | cod
  deriving DecidableEq

/-- The type on one side, of a domain and a codomain. -/
def Side.of : Side → Ty × Ty → Ty
  | .dom, (d, _) => d
  | .cod, (_, c) => c

/-- A way through function types, from the outside in. -/
abbrev Path := List Side

/-- The part of a type that a path leads to, if there is a function type at each of its steps. -/
def part? (t : Ty) : Path → Option Ty
  | [] => some t
  | w :: p => t.asArrow?.bind fun sides => part? (w.of sides) p

variable {s t u d d' c c' : Ty} {p : Path} {w : Side} {e : Error}

@[simp]
theorem part?_nil : t.part? [] = some t := rfl

@[simp]
theorem part?_dom : (arrow d c).part? (.dom :: p) = d.part? p := rfl

@[simp]
theorem part?_cod : (arrow d c).part? (.cod :: p) = c.part? p := rfl

/-- A path that goes anywhere goes through a function type. -/
theorem exists_eq_arrow_of_part? (h : (t.part? (w :: p)).isSome = true) :
    ∃ d c, t = .arrow d c := by
  cases t with
  | unit | inter => cases h
  | arrow d c => exact ⟨d, c, rfl⟩

/-! ## Obstructions -/

/-- The path `p` leads to the intersection `u` of `s`, through function types of both `s` and `t`.
Wherever it goes on into the codomains, the domains of both sides are one intersection-free type. -/
structure Obstructs (p : Path) (s t u : Ty) : Prop where
  /-- The path leads to `u` on the left. -/
  left : s.part? p = some u
  /-- An intersection is in the way. -/
  isInter : u.isInter = true
  /-- On the right the path leads to any type. -/
  right : (t.part? p).isSome = true
  /-- The domains that are left behind are equal and free of intersections. -/
  domains : ∀ q r : Path, p = q ++ .cod :: r → ∃ d c c', s.part? q = some (.arrow d c) ∧
    t.part? q = some (.arrow d c') ∧ d.InterFree

/-- An intersection on the left is in the way by itself. -/
theorem obstructs_nil : Obstructs [] s t u ↔ s = u ∧ u.isInter = true := by
  constructor
  · rintro ⟨hleft, hinter, -, -⟩
    rw [part?_nil] at hleft
    exact ⟨Option.some.inj hleft, hinter⟩
  · rintro ⟨rfl, hinter⟩
    refine ⟨part?_nil, hinter, ?_, fun q r hq => ?_⟩
    · rw [part?_nil, Option.isSome_some]
    · simp at hq

/-- Whatever else is in the way is so inside of two function types. -/
theorem Obstructs.exists_eq_arrow (h : Obstructs (w :: p) s t u) :
    (∃ d c, s = .arrow d c) ∧ ∃ d' c', t = .arrow d' c' := by
  have hleft : (s.part? (w :: p)).isSome = true := by rw [h.left, Option.isSome_some]
  exact ⟨exists_eq_arrow_of_part? hleft, exists_eq_arrow_of_part? h.right⟩

theorem obstructs_dom :
    Obstructs (.dom :: p) (.arrow d c) (.arrow d' c') u ↔ Obstructs p d d' u := by
  constructor
  · rintro ⟨hleft, hinter, hright, hdomains⟩
    refine ⟨hleft, hinter, hright, fun q r hq => ?_⟩
    exact hdomains (.dom :: q) r (congrArg _ hq)
  · rintro ⟨hleft, hinter, hright, hdomains⟩
    refine ⟨hleft, hinter, hright, fun q r hq => ?_⟩
    cases q with
    | nil => cases hq
    | cons w q =>
      obtain ⟨rfl, hp⟩ := List.cons.inj hq
      exact hdomains q r hp

theorem obstructs_cod :
    Obstructs (.cod :: p) (.arrow d c) (.arrow d' c') u ↔
      (d = d' ∧ d.InterFree) ∧ Obstructs p c c' u := by
  constructor
  · rintro ⟨hleft, hinter, hright, hdomains⟩
    refine ⟨?_, hleft, hinter, hright, fun q r hq => hdomains (.cod :: q) r (congrArg _ hq)⟩
    obtain ⟨_, _, _, hs, ht, hfree⟩ := hdomains [] p rfl
    cases hs
    cases ht
    exact ⟨rfl, hfree⟩
  · rintro ⟨⟨rfl, hfree⟩, hleft, hinter, hright, hdomains⟩
    refine ⟨hleft, hinter, hright, fun q r hq => ?_⟩
    cases q with
    | nil => exact ⟨d, c, c', part?_nil, part?_nil, hfree⟩
    | cons w q =>
      obtain ⟨rfl, hp⟩ := List.cons.inj hq
      exact hdomains q r hp

/-- **What is in the way of comparing two function types** is in the way of comparing their domains,
or of comparing their codomains if the domains are one intersection-free type. -/
theorem exists_obstructs_arrow_iff :
    (∃ p, Obstructs p (.arrow d c) (.arrow d' c') u) ↔
      (∃ p, Obstructs p d d' u) ∨ (d = d' ∧ d.InterFree) ∧ ∃ p, Obstructs p c c' u := by
  constructor
  · rintro ⟨p, h⟩
    cases p with
    | nil =>
      obtain ⟨rfl, hinter⟩ := obstructs_nil.mp h
      cases hinter
    | cons w p =>
      cases w with
      | dom => exact .inl ⟨p, obstructs_dom.mp h⟩
      | cod =>
        obtain ⟨hdom, hcod⟩ := obstructs_cod.mp h
        exact .inr ⟨hdom, p, hcod⟩
  · rintro (⟨p, h⟩ | ⟨hdom, p, h⟩)
    · exact ⟨.dom :: p, obstructs_dom.mpr h⟩
    · exact ⟨.cod :: p, obstructs_cod.mpr ⟨hdom, h⟩⟩

/-- Nothing is in the way of comparing two types that are neither an intersection on the left nor
two function types. -/
theorem not_obstructs (hs : s.isInter = false) (hst : s.asArrow? = none ∨ t.asArrow? = none) :
    ¬ Obstructs p s t u := by
  intro h
  cases p with
  | nil =>
    obtain ⟨rfl, hinter⟩ := obstructs_nil.mp h
    rw [hs] at hinter
    cases hinter
  | cons w p =>
    obtain ⟨⟨d, c, rfl⟩, ⟨d', c', rfl⟩⟩ := h.exists_eq_arrow
    rcases hst with h | h
    · cases h
    · cases h

/-! ## Outcomes -/

/-- An error comes from the domains, or from the codomains if the domains are equal. -/
theorem structEq_arrow_eq_error_iff :
    structEq (.arrow d c) (.arrow d' c') = .error e ↔
      structEq d d' = .error e ∨ structEq d d' = .ok true ∧ structEq c c' = .error e := by
  rw [structEq]
  rcases structEq d d' with _ | (_ | _)
  · simp
  · simp
  · simp

/-- **Structural equality ends with an error where an intersection is in the way**, and the error is
about that intersection. -/
theorem structEq_eq_error_iff :
    structEq s t = .error e ↔ ∃ u, e = .unsupportedEquality u ∧ ∃ p, Obstructs p s t u := by
  induction s generalizing t with
  | unit =>
    refine iff_of_false ?_ ?_
    · cases t <;> exact nofun
    · rintro ⟨u, -, p, h⟩
      exact not_obstructs rfl (.inl rfl) h
  | arrow d c ihd ihc =>
    cases t with
    | arrow d' c' =>
      simp only [structEq_arrow_eq_error_iff, ihd, ihc, structEq_eq_true_iff,
        exists_obstructs_arrow_iff]
      constructor
      · rintro (⟨u, rfl, h⟩ | ⟨hdom, u, rfl, h⟩)
        · exact ⟨u, rfl, .inl h⟩
        · exact ⟨u, rfl, .inr ⟨hdom, h⟩⟩
      · rintro ⟨u, rfl, h | ⟨hdom, h⟩⟩
        · exact .inl ⟨u, rfl, h⟩
        · exact .inr ⟨hdom, u, rfl, h⟩
    | unit | inter =>
      refine iff_of_false nofun ?_
      rintro ⟨u, -, p, h⟩
      exact not_obstructs rfl (.inr rfl) h
  | inter ms =>
    constructor
    · intro h
      cases h
      exact ⟨_, rfl, [], obstructs_nil.mpr ⟨rfl, rfl⟩⟩
    · rintro ⟨u, rfl, p, h⟩
      cases p with
      | nil =>
        obtain ⟨rfl, -⟩ := obstructs_nil.mp h
        rfl
      | cons w p =>
        obtain ⟨⟨d, c, hinter⟩, -⟩ := h.exists_eq_arrow
        cases hinter

theorem structEq_eq_true_comm : structEq s t = .ok true ↔ structEq t s = .ok true := by
  simp only [structEq_eq_true_iff]
  constructor
  · rintro ⟨rfl, hfree⟩
    exact ⟨rfl, hfree⟩
  · rintro ⟨rfl, hfree⟩
    exact ⟨rfl, hfree⟩

/-- If there is an answer whichever type is on the left, it is the same answer. -/
theorem structEq_answers_eq {b b' : Bool} (h : structEq s t = .ok b) (h' : structEq t s = .ok b') :
    b = b' := by
  cases b with
  | true =>
    rw [structEq_eq_true_comm.mp h] at h'
    exact Except.ok.inj h'
  | false =>
    cases b' with
    | false => rfl
    | true =>
      rw [structEq_eq_true_comm.mp h'] at h
      cases h

/-- **The outcomes of structural equality.** Two types are equal if they are one intersection-free
type; equality is not supported if an intersection is in the way; and they are unequal in all other
cases. If both sides can be compared with each other, they are equal both times or unequal both
times. -/
theorem structEq_outcomes (s t : Ty) :
    (structEq s t = .ok true ↔ s = t ∧ s.InterFree) ∧
      (∀ u, structEq s t = .error (.unsupportedEquality u) ↔ ∃ p, Obstructs p s t u) ∧
      (structEq s t = .ok false ↔ ¬ (s = t ∧ s.InterFree) ∧ ¬ ∃ u p, Obstructs p s t u) ∧
      ∀ b b', structEq s t = .ok b → structEq t s = .ok b' → b = b' := by
  have herror : ∀ u, structEq s t = .error (.unsupportedEquality u) ↔ ∃ p, Obstructs p s t u := by
    intro u
    rw [structEq_eq_error_iff]
    simp
  refine ⟨structEq_eq_true_iff, herror, ?_, fun _ _ => structEq_answers_eq⟩
  simp only [← structEq_eq_true_iff, ← herror]
  rcases h : structEq s t with e | (_ | _)
  · obtain ⟨u, rfl, -⟩ := structEq_eq_error_iff.mp h
    simp
  · simp
  · simp

/-- The domains differ, so the intersection in a codomain goes unnoticed on either side. -/
theorem structEq_outcomes_behind_difference :
    ∃ b b', structEq (.arrow .unit (.inter [.unit])) (.arrow (.arrow .unit .unit) .unit) = .ok b ∧
      structEq (.arrow (.arrow .unit .unit) .unit) (.arrow .unit (.inter [.unit])) = .ok b' ∧
      b = b' ∧
      ¬ ∃ u p,
        Obstructs p (.arrow .unit (.inter [.unit])) (.arrow (.arrow .unit .unit) .unit) u := by
  have h : structEq (.arrow .unit (.inter [.unit])) (.arrow (.arrow .unit .unit) .unit) =
      .ok false := rfl
  have h' : structEq (.arrow (.arrow .unit .unit) .unit) (.arrow .unit (.inter [.unit])) =
      .ok false := rfl
  obtain ⟨-, -, hfalse, hsame⟩ :=
    structEq_outcomes (.arrow .unit (.inter [.unit])) (.arrow (.arrow .unit .unit) .unit)
  exact ⟨_, _, h, h', hsame _ _ h h', (hfalse.mp h).2⟩

end Bidirectional.Ty
