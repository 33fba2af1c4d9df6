import Bidirectional.Proofs.Env.FiniteMap
import Bidirectional.Proofs.Ty.Rendering

/-!
# The text of an environment

The text of an environment is a canonical form: environments with the same text bind the same names
and give them the same types, and the other way round. A name ends at the first colon, and a type
can be told from what follows it, so the text falls apart into bindings in one way. The bindings are
in the order of their names, whatever the order in which they were written, so environments that
bind alike have the same text. For this no name may have a colon, and no type an empty
intersection. A comma in a name does no harm.

## Main definitions

* `Env.Clean`: environments without a colon in a name and without an empty intersection in a type

## Main results

* `Env.legible_binding`: a binding is legible where a type may end
* `Env.render_inj`: clean environments with the same text are equal
* `Env.rendering_canonical`: they have the same text exactly if they bind alike
-/

namespace Bidirectional.Env

open Text (Legible)

variable {env env' : Env} {b : Binding}

/-- The name of the binding has no colon, and its type, if it has one, no empty intersection. -/
def CleanBinding (b : Binding) : Prop :=
  ':' ∉ b.1.toList ∧ ∀ t ∈ b.2, t.NoEmptyInter

instance : DecidablePred CleanBinding :=
  fun b => inferInstanceAs (Decidable (':' ∉ b.1.toList ∧ ∀ t ∈ b.2, t.NoEmptyInter))

/-- No bound name has a colon, and no type has an empty intersection. -/
structure Clean (env : Env) : Prop where
  /-- Names are free of colons. -/
  names : ∀ x, env.isBound x = true → ':' ∉ x.toList
  /-- Types are free of empty intersections. -/
  types : env.All Ty.NoEmptyInter

theorem clean_iff : env.Clean ↔ ∀ b ∈ env.bindings, CleanBinding b := by
  constructor
  · rintro h ⟨x, t⟩ hb
    exact ⟨h.names x (isBound_iff.mpr ⟨t, hb⟩), all_iff.mp h.types _ hb⟩
  · intro h
    refine ⟨fun x hx => ?_, all_iff.mpr fun b hb => (h b hb).2⟩
    obtain ⟨t, hb⟩ := isBound_iff.mp hx
    exact (h _ hb).1

/-! ## Bindings -/

/-- The characters of a type that may be missing. -/
def typeChars (t : Option Ty) : List Char :=
  (Ty.renderOr "?" t).toList

/-- The characters of a binding. -/
def bindingChars (b : Binding) : List Char :=
  (renderBinding b).toList

theorem bindingChars_eq (b : Binding) :
    bindingChars b = b.1.toList ++ ':' :: ' ' :: typeChars b.2 := by
  simp [bindingChars, renderBinding, typeChars]

/-- A type that may be missing is legible: the question mark is not the beginning of a type. -/
theorem legible_typeChars {t : Option Ty} (ht : ∀ s ∈ t, s.NoEmptyInter) :
    Legible typeChars (fun t => ∀ s ∈ t, s.NoEmptyInter) Ty.Ends t := by
  intro t' r r' ht' hr hr' heq
  match t, t' with
  | none, none => exact ⟨rfl, List.append_cancel_left heq⟩
  | none, some s =>
    exact absurd heq.symm (Ty.chars_append_ne (ht' s rfl) (by simp [typeChars])
      (by simp [typeChars]) _)
  | some s, none =>
    exact absurd heq (Ty.chars_append_ne (ht s rfl) (by simp [typeChars]) (by simp [typeChars]) _)
  | some s, some s' =>
    obtain ⟨rfl, hrest⟩ := (Ty.readable (ht s rfl)).legible (ht' s' rfl) hr hr' heq
    exact ⟨rfl, hrest⟩

/-- A binding is legible: its name ends at the first colon. -/
theorem legible_binding (hb : CleanBinding b) : Legible bindingChars CleanBinding Ty.Ends b := by
  intro b' r r' hb' hr hr' heq
  rw [bindingChars_eq, bindingChars_eq, List.append_assoc, List.append_assoc] at heq
  obtain ⟨hname, htail⟩ := Text.legible_name hb.1 hb'.1 rfl rfl heq
  simp only [List.cons_append, List.cons.injEq, true_and] at htail
  obtain ⟨htype, hrest⟩ := legible_typeChars hb.2 hb'.2 hr hr' htail
  exact ⟨Prod.ext hname htype, hrest⟩

/-! ## Lists of bindings -/

/-- The characters of a list of bindings. -/
def listChars (bs : List Binding) : List Char :=
  ", ".toList.intercalate (bs.map bindingChars)

theorem toList_render (env : Env) :
    env.render.toList = '\x7b' :: (listChars env.bindings ++ ['\x7d']) := by
  rw [render, String.toList_append, String.toList_append, String.toList_intercalate, List.map_map]
  rfl

/-- A list of bindings is legible before the closing brace, which is no comma, if it is not
empty. -/
theorem legible_listChars {bs : List Binding} (hne : bs ≠ []) (hbs : ∀ b ∈ bs, CleanBinding b) :
    Legible listChars (fun bs => bs ≠ [] ∧ ∀ b ∈ bs, CleanBinding b) (· = ['\x7d']) bs := by
  refine .intercalate hne (.flatMap (fun b hb => legible_binding (hbs b hb)) hbs ?_ ?_ ?_)
  · intro r
    simp
  · rintro _ rfl
    simp
  · rintro _ _ u - rfl
    simp

/-- Only the empty list has an empty text, since there is a colon in every binding. -/
theorem listChars_eq_nil_iff {bs : List Binding} : listChars bs = [] ↔ bs = [] := by
  cases bs with
  | nil => exact iff_of_true rfl rfl
  | cons b bs =>
    rw [listChars, List.map_cons, Text.intercalate_cons, bindingChars_eq]
    simp

/-- **Environments are equal if they have the same text.** -/
theorem render_inj (h : env.Clean) (h' : env'.Clean) : env.render = env'.render ↔ env = env' := by
  refine ⟨fun heq => ?_, congrArg render⟩
  have htext : listChars env.bindings = listChars env'.bindings := by
    have hlist := congrArg String.toList heq
    rw [toList_render, toList_render] at hlist
    exact List.append_cancel_right (List.cons.inj hlist).2
  have hnil : env.bindings = [] ↔ env'.bindings = [] := by
    rw [← listChars_eq_nil_iff, htext, listChars_eq_nil_iff]
  apply ext_bindings
  by_cases hne : env.bindings = []
  · rw [hne, hnil.mp hne]
  · have hne' : env'.bindings ≠ [] := fun h => hne (hnil.mpr h)
    have hbs := legible_listChars hne (clean_iff.mp h)
    have happ : listChars env.bindings ++ ['\x7d'] = listChars env'.bindings ++ ['\x7d'] := by
      rw [htext]
    exact (hbs ⟨hne', clean_iff.mp h'⟩ rfl rfl happ).1

/-- **The text of an environment is a canonical form.** Environments without a colon in a name and
without an empty intersection in a type have the same text exactly if they bind the same names and
give them the same types. -/
theorem rendering_canonical {G₁ G₂ : Env} (h₁ : G₁.Clean) (h₂ : G₂.Clean) :
    G₁.render = G₂.render ↔
      ∀ x, G₁.isBound x = G₂.isBound x ∧ G₁.lookup x = G₂.lookup x := by
  rw [render_inj h₁ h₂, eq_iff]

/-- A name with a comma is not taken for two bindings. -/
theorem rendering_canonical_comma :
    (ofBindings [("a, b", some .unit)]).Clean ∧
      (ofBindings [("b", none), ("a", none), ("b", some .unit)]).Clean ∧
      (ofBindings [("a, b", some .unit)]).render ≠
        (ofBindings [("b", none), ("a", none), ("b", some .unit)]).render := by
  have h₁ : (ofBindings [("a, b", some .unit)]).Clean := clean_iff.mpr (by decide)
  have h₂ : (ofBindings [("b", none), ("a", none), ("b", some .unit)]).Clean :=
    clean_iff.mpr (by decide)
  refine ⟨h₁, h₂, fun heq => ?_⟩
  have hbound := ((rendering_canonical h₁ h₂).mp heq "a").1
  exact absurd hbound (by decide)

end Bidirectional.Env
