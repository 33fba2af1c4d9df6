import Bidirectional.Error
import Bidirectional.Proofs.Text.Legible
import Bidirectional.Render

/-!
# The text of a type

A type can be read off its text, as long as no intersection in it is empty. Every text has a first
part, the domain of a function or the first member of an intersection, which is the unit type or
stands between parentheses, so it can be told where it ends. What follows the first part tells the
form of the type: nothing does after the unit type, an arrow after a domain, and `/\` after a
member. An intersection of one member has its `/\` in front instead. A codomain is the one part that
may stand bare without being the unit type. Nothing in parentheses is empty, so these are never
taken for the unit type.

## Main definitions

* `Ty.chars`, `Ty.partChars`, `Ty.codChars`: a type as text by itself, as a domain or member, and as
  a codomain
* `Ty.first`, `Ty.mark`, `Ty.rest`: the first part of a type, and what stands before and after it
* `Ty.alphabet`: the characters that occur in the texts of types
* `Ty.Readable`: a type and its first part are legible

## Main results

* `Ty.chars_subset`: there is no letter in the text of a type
* `Ty.readable`: types without an empty intersection are readable
* `Ty.render_inj`: two of them with the same text are the same
* `Ty.render_ne`: their texts are not words
-/

namespace Bidirectional.Ty

open Text (Legible parensIf)

variable {s t d c : Ty} {r r' : List Char}

/-! ## The parts of a text -/

/-- The characters of a type as text. -/
def chars (t : Ty) : List Char :=
  t.render.toList

/-- The characters of a type as a domain or as a member. -/
def partChars (t : Ty) : List Char :=
  (parensIf t.isCompound t.render).toList

/-- The characters of a type as a codomain. -/
def codChars (t : Ty) : List Char :=
  (parensIf t.isInter t.render).toList

/-- The part that comes first in the text of a type: the domain, or the first member. -/
def first : Ty → Ty
  | .unit => .unit
  | .arrow d _ => d
  | .inter [] => .unit
  | .inter (m :: _) => m

/-- What stands before the first part. -/
def mark : Ty → List Char
  | .inter ms => (singleMark ms).toList
  | _ => []

/-- What stands after the first part. -/
def rest : Ty → List Char
  | .unit => []
  | .arrow _ c => " -> ".toList ++ codChars c
  | .inter ms => ms.tail.flatMap fun m => " /\\ ".toList ++ partChars m

theorem partChars_unit : partChars .unit = ['(', ')'] := rfl

theorem partChars_of_isCompound (h : t.isCompound = true) :
    partChars t = '(' :: (chars t ++ [')']) := by
  simp [partChars, chars, h, Text.parens]

theorem codChars_of_isInter (h : t.isInter = true) : codChars t = partChars t := by
  cases t with
  | unit | arrow => cases h
  | inter ms => rfl

theorem codChars_of_not_isInter (h : t.isInter = false) : codChars t = chars t := by
  simp [codChars, chars, h]

/-- **The text of a type is its first part**, with what stands before and after it. -/
theorem chars_eq (ht : t.NoEmptyInter) : chars t = t.mark ++ (partChars t.first ++ t.rest) := by
  cases t with
  | unit => rfl
  | arrow d c => simp [chars, render, mark, first, rest, partChars, codChars]
  | inter ms =>
    cases ms with
    | nil => exact absurd rfl ht.1
    | cons m ms =>
      rw [chars, render, renderMembers_eq_map, String.toList_append, String.toList_intercalate,
        List.map_cons, List.map_cons, Text.intercalate_cons, List.map_map, List.flatMap_map]
      rfl

theorem mark_of_not_isInter (h : t.isInter = false) : t.mark = [] := by
  cases t with
  | unit | arrow => rfl
  | inter => cases h

theorem exists_partChars_eq (t : Ty) : ∃ u, partChars t = '(' :: u := by
  cases t with
  | unit => exact ⟨_, partChars_unit⟩
  | arrow | inter => exact ⟨_, partChars_of_isCompound rfl⟩

theorem mark_eq (t : Ty) : t.mark = [] ∨ t.mark = ['/', '\\', ' '] := by
  cases t with
  | unit | arrow => exact .inl rfl
  | inter ms =>
    match ms with
    | [] | _ :: _ :: _ => exact .inl rfl
    | [_] => exact .inr (by simp [mark, singleMark])

/-- A mark is told from the first part after it, which begins with a parenthesis. -/
theorem mark_eq_of_append {u v : List Char}
    (heq : t.mark ++ (partChars t.first ++ u) = s.mark ++ (partChars s.first ++ v)) :
    t.mark = s.mark := by
  obtain ⟨u', hu⟩ := exists_partChars_eq t.first
  obtain ⟨v', hv⟩ := exists_partChars_eq s.first
  rw [hu, hv] at heq
  rcases mark_eq t with hm | hm
  · rcases mark_eq s with hn | hn
    · rw [hm, hn]
    · rw [hm, hn] at heq
      cases heq
  · rcases mark_eq s with hn | hn
    · rw [hm, hn] at heq
      cases heq
    · rw [hm, hn]

/-- A text begins with a parenthesis, or with the mark of an intersection of one member. -/
theorem head?_chars (ht : t.NoEmptyInter) :
    (chars t).head? = some '(' ∨ (chars t).head? = some '/' := by
  obtain ⟨u, hu⟩ := exists_partChars_eq t.first
  rw [chars_eq ht, hu]
  rcases mark_eq t with hm | hm
  · left
    rw [hm]
    rfl
  · right
    rw [hm]
    rfl

/-! ## The characters of a text -/

/-- The characters that the texts of types are made of. -/
def alphabet : List Char :=
  "() ->/\\".toList

theorem parensIf_subset {b : Bool} {w : String} (h : w.toList ⊆ alphabet) :
    (parensIf b w).toList ⊆ alphabet := by
  cases b with
  | false => exact h
  | true =>
    have hopen : '(' ∈ alphabet := by decide
    have hclose : ')' ∈ alphabet := by decide
    simp [Text.parens, h, hopen, hclose]

/-- There is no letter in the text of a type, be there an empty intersection in it or not. -/
theorem chars_subset (t : Ty) : chars t ⊆ alphabet := by
  induction t with
  | unit => decide
  | arrow d c ihd ihc =>
    have harrow : " -> ".toList ⊆ alphabet := by decide
    rw [chars, render, String.toList_append, String.toList_append]
    exact List.append_subset.mpr
      ⟨List.append_subset.mpr ⟨parensIf_subset ihd, harrow⟩, parensIf_subset ihc⟩
  | inter ms ih =>
    have hmark : (inter ms).mark ⊆ alphabet := by
      rcases mark_eq (.inter ms) with h | h
      · rw [h]
        exact List.nil_subset _
      · rw [h]
        decide
    have hsep : " /\\ ".toList ⊆ alphabet := by decide
    rw [chars, render, renderMembers_eq_map, String.toList_append, String.toList_intercalate]
    refine List.append_subset.mpr ⟨hmark, ?_⟩
    cases ms with
    | nil => exact List.nil_subset _
    | cons m ms =>
      obtain ⟨hm, hms⟩ := List.forall_mem_cons.mp ih
      rw [List.map_cons, List.map_cons, Text.intercalate_cons]
      refine List.append_subset.mpr ⟨parensIf_subset hm, ?_⟩
      intro a ha
      simp only [List.map_map, List.flatMap_map, List.mem_flatMap, List.mem_append] at ha
      obtain ⟨n, hn, ha | ha⟩ := ha
      · exact hsep ha
      · exact parensIf_subset (hms n hn) ha

/-! ## What can follow -/

/-- What can follow a type that stands bare: anything but a blank, with which an arrow or a `/\`
would begin. -/
def Ends (r : List Char) : Prop :=
  r.head? ≠ some ' '

theorem ends_nil : Ends [] := nofun

@[simp]
theorem ends_cons {a : Char} : Ends (a :: r) ↔ a ≠ ' ' := by
  rw [Ends, List.head?_cons, Ne, Option.some.injEq]

/-! ## Legible parts -/

/-- The type is legible as a domain or member, whatever follows. -/
def LegiblePart (t : Ty) : Prop :=
  Legible partChars NoEmptyInter (fun _ => True) t

/-- What begins neither with a parenthesis nor with a mark does not begin with a type. -/
theorem chars_append_ne {w : List Char} (ht : t.NoEmptyInter) (hopen : w.head? ≠ some '(')
    (hmark : w.head? ≠ some '/') (u : List Char) : chars t ++ u ≠ w := by
  rintro rfl
  rw [List.head?_append] at hopen hmark
  rcases head?_chars ht with h | h
  · rw [h] at hopen
    exact hopen rfl
  · rw [h] at hmark
    exact hmark rfl

theorem legiblePart_unit : LegiblePart .unit := by
  intro b r r' hb _ _ heq
  cases b with
  | unit => exact ⟨rfl, List.append_cancel_left heq⟩
  | arrow | inter =>
    rw [partChars_unit, partChars_of_isCompound rfl] at heq
    simp only [List.cons_append, List.append_assoc, List.cons.injEq, true_and] at heq
    exact absurd heq.symm (chars_append_ne hb (by simp) (by simp) _)

/-- A type that is legible before a closing parenthesis is legible as a part: it is between
parentheses there, or it is the unit type. -/
theorem legiblePart_of_legible (ht : t.NoEmptyInter) (h : Legible chars NoEmptyInter Ends t) :
    LegiblePart t := by
  cases hc : t.isCompound with
  | false =>
    cases t with
    | unit => exact legiblePart_unit
    | arrow | inter => cases hc
  | true =>
    intro b r r' hb _ _ heq
    rw [partChars_of_isCompound hc] at heq
    cases b with
    | unit =>
      rw [partChars_unit] at heq
      simp only [List.cons_append, List.append_assoc, List.cons.injEq, true_and] at heq
      exact absurd heq (chars_append_ne ht (by simp) (by simp) _)
    | arrow | inter =>
      rw [partChars_of_isCompound rfl] at heq
      simp only [List.cons_append, List.append_assoc, List.cons.injEq, true_and] at heq
      obtain ⟨heq', htail⟩ := h hb (ends_cons.mpr (by decide)) (ends_cons.mpr (by decide)) heq
      exact ⟨heq', (List.cons.inj htail).2⟩

/-- A type and its first part are legible. -/
structure Readable (t : Ty) : Prop where
  /-- The type is legible where it stands bare. -/
  legible : Legible chars NoEmptyInter Ends t
  /-- Its first part is. -/
  first : LegiblePart t.first

/-- After the first part there is a blank, except in the unit type and in an intersection of one
member. -/
theorem eq_unit_of_ends (ht : t.NoEmptyInter) (hm : t.mark = []) (hr : Ends (t.rest ++ r)) :
    t = .unit := by
  cases t with
  | unit => rfl
  | arrow d c => exact absurd rfl hr
  | inter ms =>
    match ms with
    | [] => exact absurd rfl ht.1
    | [m] => simp [mark, singleMark] at hm
    | m :: n :: ns => exact absurd rfl hr

theorem NoEmptyInter.first (ht : t.NoEmptyInter) : t.first.NoEmptyInter := by
  cases t with
  | unit => trivial
  | arrow d c => exact ht.1
  | inter ms =>
    cases ms with
    | nil => trivial
    | cons m ms => exact ht.2.1

/-- As a codomain a type is legible too: an intersection is between parentheses there, and is not
taken for the domain of a function that stands bare, since a blank follows that. -/
theorem Readable.legible_cod (ht : t.NoEmptyInter) (h : t.Readable) :
    Legible codChars NoEmptyInter Ends t := by
  have hpart := legiblePart_of_legible ht h.legible
  intro b r r' hb hr hr' heq
  cases hti : t.isInter with
  | true =>
    rw [codChars_of_isInter hti] at heq
    cases hbi : b.isInter with
    | true =>
      rw [codChars_of_isInter hbi] at heq
      exact hpart hb trivial trivial heq
    | false =>
      -- The intersection would be the domain of `b`, or `b` itself.
      rw [codChars_of_not_isInter hbi, chars_eq hb, mark_of_not_isInter hbi, List.nil_append,
        List.append_assoc] at heq
      obtain ⟨rfl, rfl⟩ := hpart hb.first trivial trivial heq
      rw [eq_unit_of_ends hb (mark_of_not_isInter hbi) hr] at hti
      cases hti
  | false =>
    rw [codChars_of_not_isInter hti] at heq
    cases hbi : b.isInter with
    | true =>
      rw [codChars_of_isInter hbi, chars_eq ht, mark_of_not_isInter hti, List.nil_append,
        List.append_assoc] at heq
      obtain ⟨rfl, rfl⟩ := h.first hb trivial trivial heq
      rw [eq_unit_of_ends ht (mark_of_not_isInter hti) hr'] at hbi
      cases hbi
    | false =>
      rw [codChars_of_not_isInter hbi] at heq
      exact h.legible hb hr hr' heq

/-! ## The form of a type -/

/-- A type is told from all others that have the same first part and the same before it, by what
follows that part. -/
def ToldByRest (t : Ty) : Prop :=
  ∀ ⦃s : Ty⦄ ⦃r r' : List Char⦄, s.NoEmptyInter → Ends r → Ends r' → t.mark = s.mark →
    t.first = s.first → t.rest ++ r = s.rest ++ r' → t = s ∧ r = r'

/-- Then it is told from all others, since its mark and its first part can be told from what comes
after them. -/
theorem ToldByRest.legible (ht : t.NoEmptyInter) (hfirst : LegiblePart t.first)
    (h : t.ToldByRest) : Legible chars NoEmptyInter Ends t := by
  intro s r r' hs hr hr' heq
  rw [chars_eq ht, chars_eq hs] at heq
  simp only [List.append_assoc] at heq
  have hmark : t.mark = s.mark := mark_eq_of_append heq
  rw [hmark] at heq
  obtain ⟨hf, hrest⟩ := hfirst hs.first trivial trivial (List.append_cancel_left heq)
  exact h hs hr hr' hmark hf hrest

/-- An arrow is not taken for the `/\` after a first member. -/
theorem rest_arrow_append_ne {ms : List Ty} (hms : (inter ms).NoEmptyInter)
    (hm : (inter ms).mark = []) : (arrow d c).rest ++ r ≠ (inter ms).rest ++ r' := by
  match ms with
  | [] => exact absurd rfl hms.1
  | [m] => simp [mark, singleMark] at hm
  | m :: n :: ns => simp [rest]

theorem toldByRest_unit : ToldByRest .unit := by
  intro s r r' hs hr _ hmark _ heq
  have hr₁ : Ends (s.rest ++ r') := heq ▸ hr
  obtain rfl := eq_unit_of_ends hs hmark.symm hr₁
  exact ⟨rfl, heq⟩

theorem toldByRest_arrow (hc : Legible codChars NoEmptyInter Ends c) : ToldByRest (.arrow d c) := by
  intro s r r' hs hr hr' hmark hfirst heq
  cases s with
  | unit =>
    have hr₁ : Ends ((arrow d c).rest ++ r) := heq ▸ hr'
    exact absurd rfl hr₁
  | arrow d' c' =>
    obtain rfl : d = d' := hfirst
    rw [rest, rest, List.append_assoc, List.append_assoc] at heq
    obtain ⟨rfl, hrest⟩ := hc hs.2 hr hr' (List.append_cancel_left heq)
    exact ⟨rfl, hrest⟩
  | inter ms => exact absurd heq (rest_arrow_append_ne hs hmark.symm)

theorem toldByRest_inter {ms : List Ty} (ht : (inter ms).NoEmptyInter)
    (hms : ∀ m ∈ ms, LegiblePart m) : ToldByRest (.inter ms) := by
  intro s r r' hs hr hr' hmark hfirst heq
  cases s with
  | unit =>
    have hr₁ : Ends ((inter ms).rest ++ r) := heq ▸ hr'
    exact absurd (eq_unit_of_ends ht hmark hr₁) nofun
  | arrow d c => exact absurd heq.symm (rest_arrow_append_ne ht hmark)
  | inter ns =>
    match ms, ns with
    | [], _ => exact absurd rfl ht.1
    | _ :: _, [] => exact absurd rfl hs.1
    | m :: ms, n :: ns =>
      obtain rfl : m = n := hfirst
      have hlist : Legible (fun ms : List Ty => ms.flatMap fun m => " /\\ ".toList ++ partChars m)
          (fun ns => ∀ n ∈ ns, NoEmptyInter n) Ends ms := by
        refine .flatMap (List.forall_mem_cons.mp hms).2 (noEmptyInterAll_iff.mp ht.2.2)
          (fun _ => trivial) (fun _ _ => trivial) ?_
        rintro _ _ u - hblank rfl
        exact absurd rfl hblank
      obtain ⟨rfl, hrest⟩ := hlist (noEmptyInterAll_iff.mp hs.2.2) hr hr' heq
      exact ⟨rfl, hrest⟩

/-- **Types without an empty intersection are readable.** A bare codomain is compared by its own
first part, so first parts are followed along with the types. -/
theorem readable (ht : t.NoEmptyInter) : t.Readable := by
  induction t with
  | unit => exact ⟨toldByRest_unit.legible ht legiblePart_unit, legiblePart_unit⟩
  | arrow d c ihd ihc =>
    have hd := legiblePart_of_legible ht.1 (ihd ht.1).legible
    have hc := (ihc ht.2).legible_cod ht.2
    exact ⟨(toldByRest_arrow hc).legible ht hd, hd⟩
  | inter ms ih =>
    have hms : ∀ m ∈ ms, LegiblePart m := by
      intro m hm
      have hm' := (noEmptyInter_inter.mp ht).2 m hm
      exact legiblePart_of_legible hm' (ih m hm hm').legible
    have hfirst : LegiblePart (inter ms).first := by
      cases ms with
      | nil => exact legiblePart_unit
      | cons m ms => exact hms m List.mem_cons_self
    exact ⟨(toldByRest_inter ht hms).legible ht hfirst, hfirst⟩

/-- A word is not the text of a type. -/
theorem render_ne {w : String} (ht : t.NoEmptyInter) (hopen : w.toList.head? ≠ some '(')
    (hmark : w.toList.head? ≠ some '/') : t.render ≠ w := by
  intro heq
  apply chars_append_ne ht hopen hmark []
  rw [List.append_nil, chars, heq]

/-- **Types without an empty intersection are the same if they have the same text.** -/
theorem render_inj (hs : s.NoEmptyInter) (ht : t.NoEmptyInter) : s.render = t.render ↔ s = t := by
  constructor
  · intro h
    exact (readable hs).legible.eq ends_nil ht (congrArg String.toList h)
  · rintro rfl
    rfl

end Bidirectional.Ty
