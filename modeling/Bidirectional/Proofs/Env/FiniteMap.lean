import Bidirectional.Env

/-!
# Environments as finite maps

An environment is determined by what it finds under each name, since its bindings are kept in order
and no name is bound twice. One environment can be written over another: names that the second
binds are bound as it says, and all others are as they were. Two environments agree on a name if
they give it the same type, or both none; whether it is bound does not count.

## Main definitions

* `Env.All P`: all types that an environment gives satisfy `P`
* `Env.overwrite`: one environment written over another
* `Env.AgreeOn ns`: environments that agree on the names of `ns`

## Main results

* `Env.mem_bindings_iff`: the bindings are what is found
* `Env.ext_find?`: environments that find the same are equal
* `Env.eq_iff`: environments that bind the same names and give them the same types are equal
* `Env.size_bind`: a binding adds a name, or takes the place of another binding
* `Env.find?_overwrite`: what is found after writing one environment over another
-/

namespace Bidirectional.Env

variable {env env' d : Env} {x y : Name} {t : Option Ty}

/-- A name below all names of a list is not found there. -/
theorem lookup_eq_none_of_lt {l : List Binding} (h : ∀ b ∈ l, x < b.1) : l.lookup x = none := by
  apply List.lookup_eq_none_iff.mpr
  intro b hb
  rw [bne_iff_ne]
  rintro rfl
  exact String.lt_irrefl _ (h b hb)

theorem mem_iff_lookup_eq_some {l : List Binding} (h : l.Pairwise (·.1 < ·.1)) :
    (x, t) ∈ l ↔ l.lookup x = some t := by
  induction l with
  | nil => simp
  | cons b l ih =>
    obtain ⟨y, u⟩ := b
    obtain ⟨hy, hl⟩ := List.pairwise_cons.mp h
    rw [lookup_cons_ite, List.mem_cons, Prod.mk.injEq]
    by_cases hxy : x = y
    · subst hxy
      have hx : (x, t) ∉ l := fun hmem => String.lt_irrefl x (hy _ hmem)
      simp [hx, eq_comm]
    · simp [hxy, ih hl]

/-- The bindings of an environment are what is found in it. -/
theorem mem_bindings_iff : (x, t) ∈ env.bindings ↔ env.find? x = some t :=
  mem_iff_lookup_eq_some env.sorted

theorem ext_bindings (h : env.bindings = env'.bindings) : env = env' := by
  cases env
  cases env'
  cases h
  rfl

/-- **Environments that find the same under every name are equal.** Their names ascend strictly, so
the same bindings come in one order only. -/
theorem ext_find? (h : ∀ x, env.find? x = env'.find? x) : env = env' := by
  have hmem : ∀ b, b ∈ env.bindings ↔ b ∈ env'.bindings := by
    rintro ⟨x, t⟩
    rw [mem_bindings_iff, mem_bindings_iff, h x]
  have hne : ∀ {b b' : Binding}, b.1 < b'.1 → b ≠ b' := by
    rintro b b' hlt rfl
    exact String.lt_irrefl _ hlt
  have hperm : env.bindings.Perm env'.bindings :=
    (List.perm_ext_iff_of_nodup (env.sorted.imp hne) (env'.sorted.imp hne)).mpr hmem
  apply ext_bindings
  exact hperm.eq_of_pairwise (fun _ _ _ _ hlt hgt => absurd hgt (String.lt_asymm hlt)) env.sorted
    env'.sorted

theorem isBound_iff : env.isBound x = true ↔ ∃ t, (x, t) ∈ env.bindings := by
  simp only [mem_bindings_iff]
  exact Option.isSome_iff_exists

theorem lookup_eq_some_iff {s : Ty} : env.lookup x = some s ↔ (x, some s) ∈ env.bindings := by
  rw [mem_bindings_iff]
  exact Option.join_eq_some_iff

/-- **Environments are equal if they bind the same names and give them the same types.** -/
theorem eq_iff :
    env = env' ↔ ∀ x, env.isBound x = env'.isBound x ∧ env.lookup x = env'.lookup x := by
  constructor
  · rintro rfl x
    exact ⟨rfl, rfl⟩
  · intro h
    apply ext_find?
    intro x
    obtain ⟨hbound, hlookup⟩ := h x
    rw [isBound, isBound] at hbound
    rw [lookup, lookup] at hlookup
    generalize env.find? x = o, env'.find? x = o' at hbound hlookup
    cases o with
    | none =>
      cases o' with
      | none => rfl
      | some t' => cases hbound
    | some t =>
      cases o' with
      | none => cases hbound
      | some t' => exact congrArg some hlookup

/-! ## The number of names -/

theorem length_insertBinding {l : List Binding} (h : l.Pairwise (·.1 < ·.1)) (x : Name)
    (t : Option Ty) :
    (insertBinding x t l).length = l.length + if (l.lookup x).isSome then 0 else 1 := by
  induction l with
  | nil => rfl
  | cons b l ih =>
    obtain ⟨y, u⟩ := b
    obtain ⟨hy, hl⟩ := List.pairwise_cons.mp h
    rw [insertBinding]
    by_cases hlt : x < y
    · have hnew : ((y, u) :: l).lookup x = none := by
        apply lookup_eq_none_of_lt
        intro b hb
        rcases List.mem_cons.mp hb with rfl | hb
        · exact hlt
        · exact String.lt_trans hlt (hy b hb)
      simp [hlt, hnew]
    · by_cases heq : x = y
      · subst heq
        simp
      · rw [if_neg hlt, if_neg heq, lookup_cons_ite, if_neg heq, List.length_cons, List.length_cons,
          ih hl, Nat.add_right_comm]

/-- **A binding adds a name to an environment**, unless the name was bound before. -/
theorem size_bind (env : Env) (x : Name) (t : Option Ty) :
    (env.bind x t).size = env.size + if env.isBound x then 0 else 1 :=
  length_insertBinding env.sorted x t

/-! ## Types of an environment -/

/-- All types that the environment gives satisfy `P`. -/
def All (P : Ty → Prop) (env : Env) : Prop :=
  ∀ ⦃x s⦄, env.lookup x = some s → P s

theorem all_iff {P : Ty → Prop} : env.All P ↔ ∀ b ∈ env.bindings, ∀ s ∈ b.2, P s := by
  constructor
  · rintro h ⟨x, t⟩ hb s hs
    rw [Option.mem_def] at hs
    subst hs
    exact h (lookup_eq_some_iff.mpr hb)
  · intro h x s hx
    exact h _ (lookup_eq_some_iff.mp hx) s rfl

instance (P : Ty → Prop) [DecidablePred P] (env : Env) : Decidable (env.All P) :=
  decidable_of_iff _ all_iff.symm

/-- Writing keeps this up, if a type that is written satisfies `P`. -/
theorem All.bind {P : Ty → Prop} (h : env.All P) (ht : ∀ s ∈ t, P s) : (env.bind x t).All P := by
  intro y s hy
  rw [lookup_bind] at hy
  split at hy
  · exact ht s hy
  · exact h hy

/-! ## Writing one environment over another -/

/-- The environment `env` with all bindings of `d` written into it. -/
def overwrite (env d : Env) : Env :=
  d.bindings.foldl (fun env b => env.bind b.1 b.2) env

theorem find?_foldl_bind {l : List Binding} (h : l.Pairwise (·.1 < ·.1)) (env : Env) (x : Name) :
    (l.foldl (fun env b => env.bind b.1 b.2) env).find? x = (l.lookup x).or (env.find? x) := by
  induction l generalizing env with
  | nil => rfl
  | cons b l ih =>
    obtain ⟨y, u⟩ := b
    obtain ⟨hy, hl⟩ := List.pairwise_cons.mp h
    rw [List.foldl_cons, ih hl, find?_bind, lookup_cons_ite]
    by_cases hxy : x = y
    · subst hxy
      simp [lookup_eq_none_of_lt hy]
    · simp [hxy]

/-- **What was written is found**, and any other name is as it was. -/
theorem find?_overwrite (env d : Env) (x : Name) :
    (env.overwrite d).find? x = (d.find? x).or (env.find? x) :=
  find?_foldl_bind d.sorted env x

@[simp]
theorem overwrite_empty (env : Env) : env.overwrite empty = env := rfl

/-- A binding written last is the last of the bindings written. -/
theorem bind_overwrite (env d : Env) (x : Name) (t : Option Ty) :
    (env.overwrite d).bind x t = env.overwrite (d.bind x t) := by
  apply ext_find?
  intro y
  rw [find?_bind, find?_overwrite, find?_overwrite, find?_bind]
  split
  · rfl
  · rfl

theorem find?_overwrite_of_not_isBound (h : d.isBound x = false) :
    (env.overwrite d).find? x = env.find? x := by
  have hd : d.find? x = none := by simpa [isBound] using h
  rw [find?_overwrite, hd, Option.none_or]

theorem isBound_overwrite (env d : Env) (x : Name) :
    (env.overwrite d).isBound x = (d.isBound x || env.isBound x) := by
  rw [isBound, find?_overwrite, Option.isSome_or]
  rfl

/-- What is written already is not written again. -/
theorem overwrite_overwrite_self (env d : Env) :
    (env.overwrite d).overwrite d = env.overwrite d := by
  apply ext_find?
  intro x
  rw [find?_overwrite, find?_overwrite, ← Option.or_assoc, Option.or_self]

/-- What is written under different names can be written in either order. -/
theorem overwrite_comm {d d' : Env} (h : ∀ x, d.isBound x = true → d'.isBound x = false)
    (env : Env) : (env.overwrite d).overwrite d' = (env.overwrite d').overwrite d := by
  apply ext_find?
  intro x
  rw [find?_overwrite, find?_overwrite, find?_overwrite, find?_overwrite]
  cases hd : d.find? x with
  | none => rw [Option.none_or, Option.none_or]
  | some t =>
    have hd' : d'.find? x = none := by
      simpa [isBound] using h x (by rw [isBound, hd, Option.isSome_some])
    rw [hd', Option.none_or, Option.none_or]

/-! ## Agreement -/

/-- Environments that give the same type to every name of `ns`, or no type in both. -/
def AgreeOn (ns : List Name) (env env' : Env) : Prop :=
  ∀ x ∈ ns, env.lookup x = env'.lookup x

instance (ns : List Name) (env env' : Env) : Decidable (AgreeOn ns env env') :=
  inferInstanceAs (Decidable (∀ x ∈ ns, env.lookup x = env'.lookup x))

theorem AgreeOn.refl (ns : List Name) (env : Env) : AgreeOn ns env env := fun _ _ => rfl

theorem AgreeOn.mono {ns ns' : List Name} (h : AgreeOn ns' env env') (hns : ns ⊆ ns') :
    AgreeOn ns env env' :=
  fun x hx => h x (hns hx)

/-- Environments agree on a name that is given the same type in both. -/
theorem AgreeOn.declare {ns : List Name} (h : AgreeOn (ns.filter (· != x)) env env') (s : Ty) :
    AgreeOn ns (env.declare x s) (env'.declare x s) := by
  intro y hy
  rw [Env.declare, Env.declare, lookup_bind, lookup_bind]
  split
  · rfl
  · rename_i hne
    exact h y (List.mem_filter.mpr ⟨hy, by simpa using hne⟩)

end Bidirectional.Env
