import Bidirectional.Render

/-!
# Legible texts

A text stands in a longer text and other text follows it. It is legible if it can be told where it
ends and what it is the text of: no other value has a text that makes the same longer text, whatever
follows there. That is asked only for what can follow; a type may be followed by a closing
parenthesis, say, but not by an arrow. Legible texts that stand one after the other, with the same
separator before each, make a legible text again.

## Main definitions

* `Text.Legible text P Stop a`: the text of `a` is told from the texts of all values with `P`, where
  what follows satisfies `Stop`

## Main results

* `Text.Legible.eq`: a legible text is the text of one value only
* `Text.legible_word`, `Text.legible_name`: a word is legible where it cannot go on, and a name
  before a character that it does not have
* `Text.Legible.flatMap`, `Text.Legible.intercalate`: lists are legible if their elements are
-/

namespace Bidirectional.Text

variable {α : Type} {text : α → List Char} {P : α → Prop} {Stop End : List Char → Prop} {a b : α}

/-- If the text of `a` and the text of a value with `P` are continued to the same text, both by
something that satisfies `Stop`, the values are the same, and so is what follows. -/
def Legible (text : α → List Char) (P : α → Prop) (Stop : List Char → Prop) (a : α) : Prop :=
  ∀ ⦃b : α⦄ ⦃r r' : List Char⦄, P b → Stop r → Stop r' → text a ++ r = text b ++ r' →
    a = b ∧ r = r'

/-- A legible text is the text of one value only, if it may stand at the end. -/
theorem Legible.eq (h : Legible text P Stop a) (hstop : Stop []) (hb : P b)
    (heq : text a = text b) : a = b := by
  have happ : text a ++ [] = text b ++ [] := by rw [heq]
  exact (h hb hstop hstop happ).1

/-- Lists of characters with `p` are followed in one list in one way only by something that does not
begin with such a character: the first character without `p` is where they end. -/
theorem append_inj_of_forall {p : Char → Prop} {xs ys r r' : List Char} (hxs : ∀ c ∈ xs, p c)
    (hys : ∀ c ∈ ys, p c) (hr : ∀ c ∈ r.head?, ¬ p c) (hr' : ∀ c ∈ r'.head?, ¬ p c)
    (heq : xs ++ r = ys ++ r') : xs = ys ∧ r = r' := by
  induction xs generalizing ys with
  | nil =>
    cases ys with
    | nil => exact ⟨rfl, heq⟩
    | cons y ys =>
      rw [List.nil_append] at heq
      exact absurd (hys y List.mem_cons_self) (hr y (by rw [heq]; rfl))
  | cons x xs ih =>
    cases ys with
    | nil =>
      rw [List.nil_append] at heq
      exact absurd (hxs x List.mem_cons_self) (hr' x (by rw [← heq]; rfl))
    | cons y ys =>
      obtain ⟨hxy, htail⟩ := List.cons.inj heq
      obtain ⟨hlist, hrest⟩ :=
        ih (List.forall_mem_cons.mp hxs).2 (List.forall_mem_cons.mp hys).2 htail
      exact ⟨by rw [hxy, hlist], hrest⟩

/-- A word is legible where no further character of a word follows. -/
theorem legible_word {p : Char → Prop} {x : String} (hx : ∀ c ∈ x.toList, p c) :
    Legible String.toList (fun y => ∀ c ∈ y.toList, p c) (fun r => ∀ c ∈ r.head?, ¬ p c) x := by
  intro y r r' hy hr hr' heq
  obtain ⟨hxy, htail⟩ := append_inj_of_forall hx hy hr hr' heq
  exact ⟨String.toList_inj.mp hxy, htail⟩

/-- A name is legible before a character that it does not have. -/
theorem legible_name {c : Char} {x : String} (hx : c ∉ x.toList) :
    Legible String.toList (fun y => c ∉ y.toList) (fun r => r.head? = some c) x := by
  have hne : ∀ {y : String}, c ∉ y.toList → ∀ a ∈ y.toList, a ≠ c := by
    rintro y hy a ha rfl
    exact hy ha
  intro y r r' hy hr hr' heq
  exact legible_word (p := (· ≠ c)) (hne hx) (hne hy) (by simp [hr]) (by simp [hr']) heq

/-- **Lists are legible if their elements are**, each with a separator before it, if what follows
the list does not look like one more element. -/
theorem Legible.flatMap {sep : List Char} {as : List α} (h : ∀ a ∈ as, Legible text P Stop a)
    (hP : ∀ a ∈ as, P a) (hsep : ∀ r, Stop (sep ++ r)) (hend : ∀ r, End r → Stop r)
    (hne : ∀ a r u, P a → End r → r ≠ sep ++ (text a ++ u)) :
    Legible (fun as => as.flatMap fun a => sep ++ text a) (fun bs => ∀ b ∈ bs, P b) End as := by
  have hstop : ∀ (bs : List α) (r : List Char), End r →
      Stop (bs.flatMap (fun b => sep ++ text b) ++ r) := by
    intro bs r hr
    cases bs with
    | nil => exact hend r hr
    | cons b bs =>
      rw [List.flatMap_cons, List.append_assoc, List.append_assoc]
      exact hsep _
  induction as with
  | nil =>
    intro bs r r' hPbs hr _ heq
    cases bs with
    | nil => exact ⟨rfl, heq⟩
    | cons b bs =>
      simp only [List.flatMap_nil, List.flatMap_cons, List.nil_append, List.append_assoc] at heq
      exact absurd heq (hne b r _ (List.forall_mem_cons.mp hPbs).1 hr)
  | cons a as ih =>
    obtain ⟨ha, has⟩ := List.forall_mem_cons.mp h
    obtain ⟨hPa, hPas⟩ := List.forall_mem_cons.mp hP
    intro bs r r' hPbs hr hr' heq
    cases bs with
    | nil =>
      simp only [List.flatMap_nil, List.flatMap_cons, List.nil_append, List.append_assoc] at heq
      exact absurd heq.symm (hne a r' _ hPa hr')
    | cons b bs =>
      obtain ⟨hb, hbs⟩ := List.forall_mem_cons.mp hPbs
      simp only [List.flatMap_cons, List.append_assoc] at heq
      obtain ⟨rfl, htail⟩ :=
        ha hb (hstop as r hr) (hstop bs r' hr') (List.append_cancel_left heq)
      obtain ⟨rfl, hrest⟩ := ih has hPas hbs hr hr' htail
      exact ⟨rfl, hrest⟩

/-! ## Texts with a separator between them -/

/-- The separator stands between texts, so it stands before each of them except the first. -/
theorem intercalate_cons (sep u : List Char) (us : List (List Char)) :
    sep.intercalate (u :: us) = u ++ us.flatMap (sep ++ ·) := by
  induction us generalizing u with
  | nil => simp
  | cons v vs ih =>
    rw [List.intercalate_cons_cons, ih v, List.flatMap_cons]
    simp only [List.append_assoc]

theorem append_intercalate_map {sep : List Char} {as : List α} (has : as ≠ []) :
    sep ++ sep.intercalate (as.map text) = as.flatMap fun a => sep ++ text a := by
  cases as with
  | nil => exact absurd rfl has
  | cons a as =>
    rw [List.map_cons, intercalate_cons, List.flatMap_cons, List.flatMap_map, List.append_assoc]

/-- Lists that are not empty are legible with the separator between their elements too. -/
theorem Legible.intercalate {sep : List Char} {as : List α} (has : as ≠ [])
    (h : Legible (fun as => as.flatMap fun a => sep ++ text a) (fun bs => ∀ b ∈ bs, P b) End as) :
    Legible (fun as => sep.intercalate (as.map text)) (fun bs => bs ≠ [] ∧ ∀ b ∈ bs, P b) End
      as := by
  intro bs r r' hbs hr hr' heq
  apply h hbs.2 hr hr'
  dsimp only
  rw [← append_intercalate_map has, ← append_intercalate_map hbs.1, List.append_assoc,
    List.append_assoc, heq]

end Bidirectional.Text
