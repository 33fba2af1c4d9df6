import Bidirectional.Proofs.Ty.Order
import Mathlib.Data.List.Forall2

/-!
# Rearranged intersections

Two types are alike if one becomes the other by rearranging the members of intersections, at any
depth: members may be put in another order, repeated, and taken out of an intersection that is
itself a member. An intersection of one member is not identified with that member. Subtyping does
not tell types that are alike apart, on either side: an intersection on the left asks only which
members there are, and an intersection on the right admits nothing.

## Main definitions

* `Ty.Alike`: the same type up to the order, repetition and nesting of members
* `Ty.Interchangeable`: no third type tells two types apart by subtyping

## Main results

* `Ty.Alike.inter`: intersections whose members are alike are alike
* `Ty.Alike.asArrow?`: types that are alike are function types together, with parts that are alike
* `Ty.Alike.isSubtype_eq`: the subtype test gives one answer on types that are alike
-/

namespace Bidirectional.Ty

/-- The same type up to the order, repetition and nesting of the members of intersections: the least
equivalence that is a congruence and has these three rearrangements. -/
inductive Alike : Ty → Ty → Prop
  | refl (t : Ty) : Alike t t
  | symm {s t : Ty} (h : Alike s t) : Alike t s
  | trans {s t u : Ty} (h : Alike s t) (h' : Alike t u) : Alike s u
  /-- The parts of a function type may be replaced. -/
  | arrow {d c d' c' : Ty} (dom : Alike d d') (cod : Alike c c') :
      Alike (.arrow d c) (.arrow d' c')
  /-- A member of an intersection may be replaced. -/
  | member (ms : List Ty) {m m' : Ty} (h : Alike m m') (ns : List Ty) :
      Alike (.inter (ms ++ m :: ns)) (.inter (ms ++ m' :: ns))
  /-- Members may be put in another order. -/
  | perm {ms ns : List Ty} (h : ms.Perm ns) : Alike (.inter ms) (.inter ns)
  /-- A member may be repeated. -/
  | again {ms : List Ty} {m : Ty} (h : m ∈ ms) : Alike (.inter ms) (.inter (m :: ms))
  /-- The members of a member may stand in its place. -/
  | flatten (ms ks ns : List Ty) :
      Alike (.inter (ms ++ [.inter ks] ++ ns)) (.inter (ms ++ ks ++ ns))

/-- Intersections whose members are alike, one by one, are alike: the members are replaced one after
the other. -/
theorem Alike.inter {ms ns : List Ty} (h : List.Forall₂ Alike ms ns) :
    Alike (.inter ms) (.inter ns) := by
  suffices H : ∀ ks, Alike (.inter (ks ++ ms)) (.inter (ks ++ ns)) from H []
  induction h with
  | nil => exact fun ks => .refl _
  | @cons m n ms ns hmn _ ih =>
    intro ks
    have hrest := ih (ks ++ [n])
    simp only [List.append_assoc, List.singleton_append] at hrest
    exact (Alike.member ks hmn ms).trans hrest

/-- **Types that are alike are function types together**, and then have domains and codomains that
are alike. -/
theorem Alike.asArrow? {s t : Ty} (h : Alike s t) :
    Option.Rel (fun p q => Alike p.1 q.1 ∧ Alike p.2 q.2) s.asArrow? t.asArrow? := by
  induction h with
  | refl t =>
    cases t with
    | arrow d c => exact .some ⟨.refl d, .refl c⟩
    | unit | inter => exact .none
  | @symm s t _ ih =>
    generalize s.asArrow? = p, t.asArrow? = q at ih ⊢
    cases ih with
    | some hp => exact .some ⟨hp.1.symm, hp.2.symm⟩
    | none => exact .none
  | @trans s t u _ _ ih ih' =>
    generalize s.asArrow? = p, t.asArrow? = q, u.asArrow? = r at ih ih' ⊢
    cases ih with
    | some hp =>
      cases ih' with
      | some hq => exact .some ⟨hp.1.trans hq.1, hp.2.trans hq.2⟩
    | none => exact ih'
  | arrow hd hc => exact .some ⟨hd, hc⟩
  | member | perm | again | flatten => exact .none

/-! ## Subtyping does not tell types that are alike apart -/

/-- Two types are interchangeable if they are below the same types, and the same types are below
them. -/
structure Interchangeable (s t : Ty) : Prop where
  /-- They are below the same types. -/
  sub : ∀ u, Below s u ↔ Below t u
  /-- The same types are below them. -/
  sup : ∀ u, Below u s ↔ Below u t

namespace Interchangeable

theorem refl (t : Ty) : Interchangeable t t := ⟨fun _ => .rfl, fun _ => .rfl⟩

theorem symm {s t : Ty} (h : Interchangeable s t) : Interchangeable t s :=
  ⟨fun u => (h.sub u).symm, fun u => (h.sup u).symm⟩

theorem trans {s t u : Ty} (h : Interchangeable s t) (h' : Interchangeable t u) :
    Interchangeable s u :=
  ⟨fun v => (h.sub v).trans (h'.sub v), fun v => (h.sup v).trans (h'.sup v)⟩

/-- Domains change sides, so each half of the claim takes one half of either hypothesis. -/
theorem arrow {d c d' c' : Ty} (hd : Interchangeable d d') (hc : Interchangeable c c') :
    Interchangeable (.arrow d c) (.arrow d' c') := by
  refine ⟨fun u => ⟨?_, ?_⟩, fun u => ⟨?_, ?_⟩⟩
  · rintro (_ | ⟨hdom, hcod⟩ | _)
    exact .arrow ((hd.sup _).mp hdom) ((hc.sub _).mp hcod)
  · rintro (_ | ⟨hdom, hcod⟩ | _)
    exact .arrow ((hd.sup _).mpr hdom) ((hc.sub _).mpr hcod)
  · intro h
    exact h.of_arrow fun _ _ hdom hcod => .arrow ((hd.sub _).mp hdom) ((hc.sup _).mp hcod)
  · intro h
    exact h.of_arrow fun _ _ hdom hcod => .arrow ((hd.sub _).mpr hdom) ((hc.sup _).mpr hcod)

/-- On the right two intersections are alike anyway: nothing is below either. -/
theorem inter {ms ns : List Ty}
    (h : ∀ u, (∃ m ∈ ms, Below m u) ↔ ∃ n ∈ ns, Below n u) :
    Interchangeable (.inter ms) (.inter ns) := by
  refine ⟨fun u => ?_, fun u => ?_⟩
  · rw [below_inter_left, below_inter_left]
    exact h u
  · exact iff_of_false (not_below_inter u ms) (not_below_inter u ns)

end Interchangeable

/-- Types that are alike are interchangeable. -/
theorem Alike.interchangeable {s t : Ty} (h : Alike s t) : Interchangeable s t := by
  induction h with
  | refl t => exact .refl t
  | symm _ ih => exact ih.symm
  | trans _ _ ih ih' => exact ih.trans ih'
  | arrow _ _ ihd ihc => exact .arrow ihd ihc
  | member ms _ ns ih =>
    refine .inter fun u => ?_
    simp only [List.mem_append, List.mem_cons, or_and_right, exists_or, exists_eq_left, ih.sub u]
  | perm h =>
    refine .inter fun u => ?_
    simp only [h.mem_iff]
  | again hm =>
    apply Interchangeable.inter
    intro u
    constructor
    · rintro ⟨n, hn, h⟩
      exact ⟨n, List.mem_cons_of_mem _ hn, h⟩
    · rintro ⟨n, hn, h⟩
      rcases List.mem_cons.mp hn with rfl | hn
      · exact ⟨n, hm, h⟩
      · exact ⟨n, hn, h⟩
  | flatten ms ks ns =>
    refine .inter fun u => ?_
    simp only [List.mem_append, List.mem_singleton, or_and_right, exists_or, exists_eq_left,
      below_inter_left]

/-- **The subtype test gives one answer on types that are alike**, on both sides at once. -/
theorem Alike.isSubtype_eq {s s' t t' : Ty} (hs : Alike s s') (ht : Alike t t') :
    isSubtype s t = isSubtype s' t' := by
  rw [Bool.eq_iff_iff, isSubtype_iff_below, isSubtype_iff_below]
  calc Below s t ↔ Below s' t := hs.interchangeable.sub t
    _ ↔ Below s' t' := ht.interchangeable.sup s'

end Bidirectional.Ty
