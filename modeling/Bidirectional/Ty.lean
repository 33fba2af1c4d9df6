/-!
# Types

The types that a judgment assigns: the unit type, functions, and intersections of a list of members.
An intersection keeps its members in order and with repetitions; it may have one member, and is then
a type other than that member, or none.

A function type is a subtype by a larger domain and a smaller codomain.  An intersection is a
subtype of whatever one of its members is a subtype of.  There is no rule for an intersection as
the supertype, so only an intersection-free type is a subtype of itself.

## Main definitions

* `Ty`: types
* `Ty.asArrow?`: the domain and codomain of a function type
* `Ty.same`: the test for being the same tree, and the decidable equality it gives
* `Ty.isSubtype`: the subtype test

## Main results

* `Ty.induction`: induction with one hypothesis for every member of an intersection
* `Ty.sameAll_eq`: lists of types are compared by their lengths and then pair by pair
* `Ty.isSubtype_inter_left` and its neighbours: the rules of subtyping as equations, one per shape
-/

namespace Bidirectional

/-- Types: unit, functions and intersections. -/
inductive Ty where
  | unit
  | arrow (dom cod : Ty)
  | inter (members : List Ty)
  deriving Inhabited

namespace Ty

/-- Induction on types, with a hypothesis for every member of an intersection. -/
@[elab_as_elim, induction_eliminator]
theorem induction {motive : Ty → Prop} (unit : motive .unit)
    (arrow : ∀ dom cod, motive dom → motive cod → motive (.arrow dom cod))
    (inter : ∀ members, (∀ m ∈ members, motive m) → motive (.inter members)) :
    ∀ t, motive t
  | .unit => unit
  | .arrow d c => arrow d c (induction unit arrow inter d) (induction unit arrow inter c)
  | .inter ms => inter ms fun m _ => induction unit arrow inter m

/-- Whether a type is put in parentheses as a part of a larger one: all but the unit type are. -/
def isCompound : Ty → Bool
  | .unit => false
  | _ => true

/-- Whether a type is an intersection at its root. -/
def isInter : Ty → Bool
  | .inter _ => true
  | _ => false

/-- The domain and codomain of a function type.  An intersection has none, whatever its members
are. -/
def asArrow? : Ty → Option (Ty × Ty)
  | .arrow d c => some (d, c)
  | _ => none

@[simp]
theorem asArrow?_eq_some {t d c : Ty} : t.asArrow? = some (d, c) ↔ t = .arrow d c := by
  cases t <;> simp [asArrow?]

/-! ## The same tree -/

mutual

/-- Whether two types are the same tree: intersections are compared member by member, so order and
number of the members count. -/
def same : Ty → Ty → Bool
  | .unit, .unit => true
  | .arrow d c, .arrow d' c' => same d d' && same c c'
  | .inter ms, .inter ns => sameAll ms ns
  | _, _ => false

/-- Whether two lists of types are of one length and the same member by member. -/
def sameAll : List Ty → List Ty → Bool
  | [], [] => true
  | m :: ms, n :: ns => same m n && sameAll ms ns
  | _, _ => false

end

/-- Lists of types are the same if they have one length and all pairs of members are the same. -/
theorem sameAll_eq (ms ns : List Ty) :
    sameAll ms ns = (ms.length == ns.length && (ms.zip ns).all fun p => same p.1 p.2) := by
  induction ms generalizing ns with
  | nil => cases ns <;> rfl
  | cons m ms ih =>
    cases ns with
    | nil => rfl
    | cons n ns =>
      rw [sameAll, ih, List.zip_cons_cons, List.all_cons, List.length_cons, List.length_cons,
        Bool.and_left_comm]
      congr 1
      rw [Bool.eq_iff_iff, beq_iff_eq, beq_iff_eq, Nat.add_right_cancel_iff]

mutual

theorem eq_of_same : ∀ {s t : Ty}, same s t = true → s = t
  | .unit, .unit, _ => rfl
  | .arrow d c, .arrow d' c', h => by
    rw [same, Bool.and_eq_true] at h
    rw [eq_of_same h.1, eq_of_same h.2]
  | .inter ms, .inter ns, h => by
    rw [same] at h
    rw [eq_of_sameAll h]
  | .unit, .arrow .., h | .unit, .inter _, h | .arrow .., .unit, h => by simp [same] at h
  | .arrow .., .inter _, h | .inter _, .unit, h | .inter _, .arrow .., h => by simp [same] at h

theorem eq_of_sameAll : ∀ {ms ns : List Ty}, sameAll ms ns = true → ms = ns
  | [], [], _ => rfl
  | m :: ms, n :: ns, h => by
    rw [sameAll, Bool.and_eq_true] at h
    rw [eq_of_same h.1, eq_of_sameAll h.2]
  | [], _ :: _, h | _ :: _, [], h => by simp [sameAll] at h

end

mutual

theorem same_self : ∀ t : Ty, same t t = true
  | .unit => rfl
  | .arrow d c => by rw [same, same_self d, same_self c, Bool.and_self]
  | .inter ms => by rw [same, sameAll_self ms]

theorem sameAll_self : ∀ ms : List Ty, sameAll ms ms = true
  | [] => rfl
  | m :: ms => by rw [sameAll, same_self m, sameAll_self ms, Bool.and_self]

end

/-- The test holds of a tree and itself, and of no other. -/
theorem same_iff_eq {s t : Ty} : same s t = true ↔ s = t :=
  ⟨eq_of_same, fun h => h ▸ same_self s⟩

instance : DecidableEq Ty := fun _ _ => decidable_of_iff _ same_iff_eq

/-! ## Subtyping -/

/-- Whether `s` is a subtype of `t`. -/
def isSubtype : (s t : Ty) → Bool
  | .inter ms, t => ms.attach.any fun ⟨m, _⟩ => isSubtype m t
  | .unit, .unit => true
  | .arrow d c, .arrow d' c' => isSubtype d' d && isSubtype c c'
  | _, _ => false
termination_by s t => sizeOf s + sizeOf t
decreasing_by
  all_goals simp_wf
  · have := List.sizeOf_lt_of_mem ‹_ ∈ ms›
    omega
  all_goals omega

@[simp]
theorem isSubtype_inter_left (ms : List Ty) (t : Ty) :
    isSubtype (.inter ms) t = ms.any (isSubtype · t) := by
  rw [isSubtype]
  simp

@[simp]
theorem isSubtype_unit_unit : isSubtype .unit .unit = true := by
  rw [isSubtype]

@[simp]
theorem isSubtype_arrow_arrow (d c d' c' : Ty) :
    isSubtype (.arrow d c) (.arrow d' c') = (isSubtype d' d && isSubtype c c') := by
  rw [isSubtype]

@[simp]
theorem isSubtype_unit_arrow (d c : Ty) : isSubtype .unit (.arrow d c) = false := by
  rw [isSubtype] <;> simp

@[simp]
theorem isSubtype_unit_inter (ms : List Ty) : isSubtype .unit (.inter ms) = false := by
  rw [isSubtype] <;> simp

@[simp]
theorem isSubtype_arrow_unit (d c : Ty) : isSubtype (.arrow d c) .unit = false := by
  rw [isSubtype] <;> simp

@[simp]
theorem isSubtype_arrow_inter (d c : Ty) (ms : List Ty) :
    isSubtype (.arrow d c) (.inter ms) = false := by
  rw [isSubtype] <;> simp

/-- Whether a type that may be missing is there and is a subtype of `t`. -/
def anyBelow (t : Ty) : Option Ty → Bool
  | some s => isSubtype s t
  | none => false

@[simp]
theorem anyBelow_some (s t : Ty) : anyBelow t (some s) = isSubtype s t := rfl

@[simp]
theorem anyBelow_none (t : Ty) : anyBelow t none = false := rfl

end Ty

end Bidirectional
