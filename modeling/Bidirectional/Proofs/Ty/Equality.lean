import Bidirectional.Error
import Bidirectional.Proofs.Ty.InterFree

/-!
# Structural equality and subtyping

Structural equality walks two types in one direction only and stops with an error at an
intersection; subtyping changes direction at every domain and has no errors. Where structural
equality says that two types are equal they are one intersection-free type, and that is when each of
them is a subtype of the other.

## Main results

* `Ty.structEq_of_interFree`: structural equality of an intersection-free type and any other
* `Ty.structEq_eq_true_iff`: the types that are said to be equal
* `Ty.isSubtype_both_iff_structEq`: mutual subtyping is supported structural equality
-/

namespace Bidirectional.Ty

variable {s t : Ty}

/-- An intersection-free type on the left meets no error, whatever is on the right. -/
theorem structEq_of_interFree (hs : s.InterFree) (t : Ty) :
    structEq s t = .ok (decide (s = t)) := by
  induction s generalizing t with
  | unit => cases t <;> simp [structEq]
  | arrow d c ihd ihc =>
    cases t with
    | arrow d' c' =>
      rw [structEq, ihd hs.1]
      by_cases hd : d = d'
      · simp [hd, ihc hs.2]
      · simp [hd]
    | unit | inter => simp [structEq]
  | inter => exact absurd hs id

/-- If structural equality says that two types are equal, it has met no intersection. -/
theorem interFree_of_structEq (h : structEq s t = .ok true) : s.InterFree := by
  induction s generalizing t with
  | unit => trivial
  | arrow d c ihd ihc =>
    cases t with
    | arrow d' c' =>
      rw [structEq] at h
      split at h
      · rename_i hd
        exact ⟨ihd hd, ihc h⟩
      · cases h
      · cases h
    | unit | inter => cases h
  | inter => cases h

/-- **Structural equality says that two types are equal** if and only if they are one
intersection-free type. -/
theorem structEq_eq_true_iff : structEq s t = .ok true ↔ s = t ∧ s.InterFree := by
  constructor
  · intro h
    have hs := interFree_of_structEq h
    rw [structEq_of_interFree hs] at h
    exact ⟨of_decide_eq_true (Except.ok.inj h), hs⟩
  · rintro ⟨rfl, hs⟩
    rw [structEq_of_interFree hs, decide_eq_true rfl]

/-- Types are below each other if and only if they are one intersection-free type. -/
theorem below_both_iff : Below s t ∧ Below t s ↔ s = t ∧ s.InterFree := by
  constructor
  · rintro ⟨hst, hts⟩
    exact ⟨hst.antisymm hts, below_self_iff.mp (hst.trans hts)⟩
  · rintro ⟨rfl, hs⟩
    have h := below_self_iff.mpr hs
    exact ⟨h, h⟩

/-- **Mutual subtyping is supported structural equality.** Only intersection-free types are subtypes
of themselves, and between them the subtype test alone gives the answer of structural equality. -/
theorem isSubtype_both_iff_structEq :
    (∀ s t : Ty, isSubtype s t = true ∧ isSubtype t s = true ↔ structEq s t = .ok true) ∧
      (∀ t : Ty, isSubtype t t = true ↔ t.InterFree) ∧
      ∀ s t : Ty, s.InterFree → t.InterFree → structEq s t = .ok (isSubtype s t) := by
  refine ⟨fun s t => ?_, fun t => ?_, fun s t hs ht => ?_⟩
  · rw [isSubtype_iff_below, isSubtype_iff_below, structEq_eq_true_iff]
    exact below_both_iff
  · rw [isSubtype_iff_below]
    exact below_self_iff
  · have hsub : isSubtype s t = decide (s = t) := by
      rw [Bool.eq_iff_iff, isSubtype_iff_eq hs ht, decide_eq_true_iff]
    rw [structEq_of_interFree hs, hsub]

/-- The domains differ deep inside, at a place where subtyping has changed direction twice. -/
theorem isSubtype_both_iff_structEq_domains :
    InterFree (.arrow (.arrow (.arrow .unit .unit) .unit) .unit) ∧
      InterFree (.arrow (.arrow .unit .unit) .unit) ∧
      structEq (.arrow (.arrow (.arrow .unit .unit) .unit) .unit)
          (.arrow (.arrow .unit .unit) .unit) =
        .ok (isSubtype (.arrow (.arrow (.arrow .unit .unit) .unit) .unit)
          (.arrow (.arrow .unit .unit) .unit)) := by
  have hs : InterFree (.arrow (.arrow (.arrow .unit .unit) .unit) .unit) := by decide
  have ht : InterFree (.arrow (.arrow .unit .unit) .unit) := by decide
  exact ⟨hs, ht, isSubtype_both_iff_structEq.2.2 _ _ hs ht⟩

end Bidirectional.Ty
