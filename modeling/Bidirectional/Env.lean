import Bidirectional.Expr.Basic
import Bidirectional.Render

/-!
# Environments

An environment binds finitely many names, each to a type or to no type.  A name bound to no type is
bound, and a lookup answers it like a name that is not bound at all.  The bindings are kept in
ascending order of their names, with no name twice, so two environments that bind alike are equal.

## Main definitions

* `Env`: environments
* `Env.bind`, `Env.declare`: overwriting the binding of one name
* `Env.lookup`, `Env.isBound`, `Env.size`, `Env.isEmpty`: reading
* `Env.ofBindings`: the environment of a list of bindings, the last of a name counting
* `Env.render`: an environment as text

## Main results

* `Env.find?_bind`: a binding is found under its name, and every other name is as it was
-/

namespace Bidirectional

/-- A name with its type, or with no type. -/
abbrev Binding := Name × Option Ty

/-- Writes a binding into a list of bindings in ascending order, in place of the binding of the same
name if there is one. -/
def insertBinding (x : Name) (t : Option Ty) : List Binding → List Binding
  | [] => [(x, t)]
  | (y, u) :: rest =>
    if x < y then (x, t) :: (y, u) :: rest
    else if x = y then (x, t) :: rest
    else (y, u) :: insertBinding x t rest

theorem mem_insertBinding {x : Name} {t : Option Ty} {b : Binding} {l : List Binding}
    (h : b ∈ insertBinding x t l) : b = (x, t) ∨ b ∈ l := by
  induction l with
  | nil => simpa [insertBinding] using h
  | cons hd rest ih =>
    obtain ⟨y, u⟩ := hd
    rw [insertBinding] at h
    split at h
    · simpa using h
    · split at h
      · simp only [List.mem_cons] at h ⊢
        exact h.imp id Or.inr
      · rcases List.mem_cons.1 h with h | h
        · exact .inr (h ▸ List.mem_cons_self)
        · exact (ih h).imp id (List.mem_cons_of_mem _)

theorem lt_of_not_lt_of_ne {x y : Name} (h : ¬ x < y) (hne : x ≠ y) : y < x := by
  refine Decidable.byContradiction fun h' => hne ?_
  exact String.le_antisymm (String.not_lt.1 h') (String.not_lt.1 h)

theorem pairwise_insertBinding (x : Name) (t : Option Ty) {l : List Binding}
    (h : l.Pairwise (·.1 < ·.1)) : (insertBinding x t l).Pairwise (·.1 < ·.1) := by
  induction l with
  | nil => simp [insertBinding]
  | cons hd rest ih =>
    obtain ⟨y, u⟩ := hd
    obtain ⟨hy, hrest⟩ := List.pairwise_cons.1 h
    rw [insertBinding]
    split
    · rename_i hxy
      refine List.pairwise_cons.2 ⟨fun b hb => ?_, h⟩
      rcases List.mem_cons.1 hb with rfl | hb
      · exact hxy
      · exact String.lt_trans hxy (hy b hb)
    · rename_i hxy
      split
      · rename_i heq
        exact List.pairwise_cons.2 ⟨fun b hb => heq ▸ hy b hb, hrest⟩
      · rename_i hne
        refine List.pairwise_cons.2 ⟨fun b hb => ?_, ih hrest⟩
        rcases mem_insertBinding hb with rfl | hb
        · exact lt_of_not_lt_of_ne hxy hne
        · exact hy b hb

/-- Environments: bindings in ascending order of their names, no name twice. -/
structure Env where
  /-- The bindings, in order. -/
  bindings : List Binding
  /-- Names ascend strictly. -/
  sorted : bindings.Pairwise (·.1 < ·.1)
  deriving DecidableEq

namespace Env

/-- The environment that binds no name. -/
def empty : Env := ⟨[], .nil⟩

instance : Inhabited Env := ⟨empty⟩

instance : EmptyCollection Env := ⟨empty⟩

/-- Binds a name to a type or to no type, in place of what it was bound to. -/
def bind (env : Env) (x : Name) (t : Option Ty) : Env :=
  ⟨insertBinding x t env.bindings, pairwise_insertBinding x t env.sorted⟩

/-- Binds a name to a type. -/
def declare (env : Env) (x : Name) (t : Ty) : Env :=
  env.bind x (some t)

/-- What a name is bound to, if it is bound. -/
def find? (env : Env) (x : Name) : Option (Option Ty) :=
  env.bindings.lookup x

/-- The type of a name: none if the name is not bound, or bound to no type. -/
def lookup (env : Env) (x : Name) : Option Ty :=
  (env.find? x).join

/-- Whether a name is bound, to a type or to no type. -/
def isBound (env : Env) (x : Name) : Bool :=
  (env.find? x).isSome

/-- The number of names bound. -/
def size (env : Env) : Nat :=
  env.bindings.length

/-- Whether no name is bound. -/
def isEmpty (env : Env) : Bool :=
  env.bindings.isEmpty

/-- The environment of a list of bindings, written one after the other. -/
def ofBindings (bs : List Binding) : Env :=
  bs.foldl (fun env b => env.bind b.1 b.2) empty

/-- One binding as text, a question mark standing for no type. -/
def renderBinding (b : Binding) : String :=
  b.1 ++ ": " ++ Ty.renderOr "?" b.2

/-- An environment as text: its bindings in order, between braces. -/
def render (env : Env) : String :=
  "\x7b" ++ ", ".intercalate (env.bindings.map renderBinding) ++ "\x7d"

/-! ## Reading what was written -/

theorem lookup_cons_ite (y z : Name) (u : Option Ty) (l : List Binding) :
    List.lookup y ((z, u) :: l) = if y = z then some u else l.lookup y := by
  rw [List.lookup_cons]
  by_cases h : y = z
  · simp [h]
  · simp [h, beq_false_of_ne h]

theorem lookup_insertBinding (x y : Name) (t : Option Ty) (l : List Binding) :
    (insertBinding x t l).lookup y = if y = x then some t else l.lookup y := by
  induction l with
  | nil => rw [insertBinding, lookup_cons_ite]
  | cons hd rest ih =>
    obtain ⟨z, u⟩ := hd
    rw [insertBinding]
    split
    · rw [lookup_cons_ite]
    · split
      · rename_i hz
        subst hz
        rw [lookup_cons_ite, lookup_cons_ite]
        split <;> rfl
      · rename_i hz
        rw [lookup_cons_ite, lookup_cons_ite, ih]
        by_cases h : y = z
        · have hx : y ≠ x := fun hx => hz (hx.symm.trans h)
          rw [if_pos h, if_neg hx, if_pos h]
        · rw [if_neg h, if_neg h]

@[simp]
theorem find?_empty (x : Name) : empty.find? x = none := rfl

/-- **A binding is found under its name**, and every other name is as it was. -/
theorem find?_bind (env : Env) (x y : Name) (t : Option Ty) :
    (env.bind x t).find? y = if y = x then some t else env.find? y :=
  lookup_insertBinding x y t env.bindings

theorem lookup_bind (env : Env) (x y : Name) (t : Option Ty) :
    (env.bind x t).lookup y = if y = x then t else env.lookup y := by
  rw [lookup, find?_bind]
  split <;> simp [lookup]

theorem isBound_bind (env : Env) (x y : Name) (t : Option Ty) :
    (env.bind x t).isBound y = (y == x || env.isBound y) := by
  rw [isBound, find?_bind]
  by_cases h : y = x <;> simp [isBound, h]

end Env

end Bidirectional
