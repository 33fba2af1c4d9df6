import Bidirectional.Expr.Structure
import Bidirectional.Proofs.Text.Legible

/-!
# The text of an expression

An expression can be read off its text, if its names are words and no intersection in it has fewer
than two members. Functions and bindings begin with a mark of their own, the backslash and the word
`let`. All other texts are terms with a blank between them, the head of an application and its
arguments. A term is a name, or it is a list of expressions between parentheses with `/\` between
them: the empty list is the unit value, a list of one is an expression that cannot stand bare, and a
longer one is an intersection. An intersection of one member would be taken for the member, and an
empty one for the unit value.

No part that stands bare needs parentheses to be told from what follows it. The names end where
words end. A bound expression ends at the semicolon that no `let` inside it has taken, and the terms
of an application go on as long as the blank after them is not the one of a `/\`.

## Main definitions

* `Expr.IsWord`: the names that are told from all else in a text
* `Expr.Clean`: expressions with words for names and without small intersections
* `Expr.terms`: the head of an application and its arguments
* `Expr.group`: what stands between the parentheses of a term
* `Expr.Readable`: an expression and its terms are legible

## Main results

* `Expr.readable`: clean expressions are readable
* `expr_renderings_unambiguous`: clean expressions with the same text are the same
-/

namespace Bidirectional

namespace Expr

open Text (Legible parensIf)

/-! ## Clean expressions -/

/-- The characters of a word: letters, digits and the underscore. -/
def isWordChar (c : Char) : Bool :=
  c.isAlphanum || c == '_'

/-- A word is made of such characters, of one at least, and is not the word with which bindings
begin. -/
def IsWord (x : Name) : Prop :=
  x ≠ "" ∧ x ≠ "let" ∧ x.toList.all isWordChar = true

instance : DecidablePred IsWord :=
  fun x => inferInstanceAs (Decidable (x ≠ "" ∧ x ≠ "let" ∧ x.toList.all isWordChar = true))

theorem IsWord.isWordChar {x : Name} (hx : IsWord x) : ∀ c ∈ x.toList, isWordChar c = true :=
  List.all_eq_true.mp hx.2.2

theorem IsWord.exists_cons {x : Name} (hx : IsWord x) :
    ∃ c u, x.toList = c :: u ∧ Expr.isWordChar c = true := by
  obtain ⟨c, u, hcons⟩ := List.exists_cons_of_ne_nil (mt String.toList_eq_nil_iff.mp hx.1)
  exact ⟨c, u, hcons, hx.isWordChar c (hcons ▸ List.mem_cons_self)⟩

mutual

/-- All names of the expression are words, and all its intersections have two members or more. -/
def Clean : Expr → Prop
  | .var x => IsWord x
  | .lam x b => IsWord x ∧ Clean b
  | .app f a => Clean f ∧ Clean a
  | .unit => True
  | .letIn x b c => IsWord x ∧ Clean b ∧ Clean c
  | .inter es => 2 ≤ es.length ∧ CleanAll es

/-- All of a list of expressions are clean. -/
def CleanAll : List Expr → Prop
  | [] => True
  | e :: es => Clean e ∧ CleanAll es

end

mutual

/-- Whether an expression is clean is decided part by part. -/
def decClean : (e : Expr) → Decidable e.Clean
  | .var x => inferInstanceAs (Decidable (IsWord x))
  | .lam x b =>
    have := decClean b
    inferInstanceAs (Decidable (IsWord x ∧ Clean b))
  | .app f a =>
    have := decClean f
    have := decClean a
    inferInstanceAs (Decidable (Clean f ∧ Clean a))
  | .unit => isTrue trivial
  | .letIn x b c =>
    have := decClean b
    have := decClean c
    inferInstanceAs (Decidable (IsWord x ∧ Clean b ∧ Clean c))
  | .inter es =>
    have := decCleanAll es
    inferInstanceAs (Decidable (2 ≤ es.length ∧ CleanAll es))

/-- For a list of expressions it is decided one by one. -/
def decCleanAll : (es : List Expr) → Decidable (CleanAll es)
  | [] => isTrue trivial
  | e :: es =>
    have := decClean e
    have := decCleanAll es
    inferInstanceAs (Decidable (Clean e ∧ CleanAll es))

end

instance : DecidablePred Clean := decClean

theorem cleanAll_iff {es : List Expr} : CleanAll es ↔ ∀ e ∈ es, Clean e := by
  induction es with
  | nil => simp [CleanAll]
  | cons e es ih => simp [CleanAll, ih]

variable {e t f a b c : Expr} {x : Name} {es : List Expr} {r r' : List Char}

/-! ## The parts of a text -/

/-- The characters of an expression as text. -/
def chars (e : Expr) : List Char :=
  e.render.toList

/-- The characters of an expression as an argument. -/
def termChars (e : Expr) : List Char :=
  (parensIf (!e.isAtomic) e.render).toList

/-- The characters of an expression in front of an argument. -/
def headChars (e : Expr) : List Char :=
  (parensIf e.isOpenEnded e.render).toList

/-- The characters of a list of expressions with `/\` between them. -/
def groupChars (es : List Expr) : List Char :=
  " /\\ ".toList.intercalate (es.map chars)

/-- The head of an application and its arguments, in order. Any other expression is alone. -/
def terms : Expr → List Expr
  | .app f a => terms f ++ [a]
  | e => [e]

/-- The expressions that stand between the parentheses of a term, if it is not a name. -/
def group : Expr → List Expr
  | .unit => []
  | .inter es => es
  | e => [e]

/-- The expression that has these expressions between its parentheses. -/
def ofGroup : List Expr → Expr
  | [] => .unit
  | [e] => e
  | es => .inter es

theorem terms_ne_nil (e : Expr) : e.terms ≠ [] := by
  cases e with
  | app f a => exact List.append_ne_nil_of_right_ne_nil _ (List.cons_ne_nil a [])
  | var | lam | unit | letIn | inter => exact List.cons_ne_nil _ _

/-- An expression is the spine of its terms. -/
theorem spine_terms {h : Expr} {as : List Expr} (hterms : e.terms = h :: as) : h.spine as = e := by
  induction e generalizing h as with
  | var | lam | unit | letIn | inter =>
    cases hterms
    rfl
  | app f a ih _ =>
    obtain ⟨h', as', hf⟩ := List.exists_cons_of_ne_nil (terms_ne_nil f)
    rw [terms, hf, List.cons_append] at hterms
    cases hterms
    rw [spine_append_cons, ih hf]
    rfl

/-- An expression is told by its terms. -/
theorem terms_inj {e' : Expr} (h : e.terms = e'.terms) : e = e' := by
  obtain ⟨hd, as, hterms⟩ := List.exists_cons_of_ne_nil (terms_ne_nil e)
  rw [← spine_terms hterms, spine_terms (h ▸ hterms)]

/-- A clean expression is told by its group, which has no member, one or more by its form. -/
theorem ofGroup_group (he : e.Clean) : ofGroup e.group = e := by
  cases e with
  | var | lam | app | unit | letIn => rfl
  | inter es =>
    cases es with
    | nil => exact absurd he.1 (by decide)
    | cons m ms =>
      cases ms with
      | nil => exact absurd he.1 (Nat.lt_irrefl 1)
      | cons n ns => rfl

theorem Clean.of_mem_group (he : e.Clean) : ∀ t ∈ e.group, t.Clean := by
  cases e with
  | unit => exact nofun
  | inter es => exact cleanAll_iff.mp he.2
  | var | lam | app | letIn => exact List.forall_mem_singleton.mpr he

theorem Clean.of_mem_terms (he : e.Clean) : ∀ t ∈ e.terms, t.Clean := by
  induction e with
  | var | lam | unit | letIn | inter => exact List.forall_mem_singleton.mpr he
  | app f a ih _ =>
    exact List.forall_mem_append.mpr ⟨ih he.1, List.forall_mem_singleton.mpr he.2⟩

theorem chars_lam (x : Name) (b : Expr) :
    chars (.lam x b) = '\\' :: (x.toList ++ '.' :: ' ' :: chars b) := by
  simp [chars, render]

theorem chars_letIn (x : Name) (b c : Expr) :
    chars (.letIn x b c) =
      "let".toList ++ ' ' :: (x.toList ++ " = ".toList ++ (chars b ++ ';' :: ' ' :: chars c)) := by
  simp [chars, render]

theorem chars_app (f a : Expr) : chars (.app f a) = headChars f ++ ' ' :: termChars a := by
  simp [chars, render, headChars, termChars]

theorem headChars_of_not_isOpenEnded (h : e.isOpenEnded = false) : headChars e = chars e := by
  simp [headChars, chars, h]

/-- What is not an application stands in front of an argument as it does behind one. -/
theorem headChars_eq_termChars (h : e.isOpenEnded = !e.isAtomic) : headChars e = termChars e := by
  rw [headChars, termChars, h]

/-- **In front of an argument an expression is its terms**, with a blank before each. -/
theorem blank_headChars (e : Expr) :
    ' ' :: headChars e = e.terms.flatMap fun t => [' '] ++ termChars t := by
  induction e with
  | var | lam | unit | letIn | inter =>
    rw [headChars_eq_termChars rfl]
    simp [terms]
  | app f a ih _ =>
    rw [terms, List.flatMap_append, ← ih, headChars_of_not_isOpenEnded rfl, chars_app]
    simp

theorem exists_eq_var (h : t.kind = .variable) : ∃ x, t = .var x := by
  cases t with
  | var x => exact ⟨x, rfl⟩
  | lam | app | unit | letIn | inter => cases h

/-- **A term is a name or a list of expressions between parentheses.** -/
theorem termChars_eq (h : t.kind ≠ .variable) :
    termChars t = '(' :: (groupChars t.group ++ [')']) := by
  cases t with
  | var => exact absurd rfl h
  | unit => rfl
  | inter es =>
    rw [termChars, isAtomic, render, renderMembers_eq_map, Bool.not_true, Text.parensIf_false,
      Text.parens, String.toList_append, String.toList_append, String.toList_intercalate,
      List.map_map]
    rfl
  | lam | app | letIn => simp [termChars, isAtomic, group, groupChars, Text.parens, chars]

/-! ## What can follow -/

/-- What can follow a word: nothing that would make it longer. -/
def AfterWord (r : List Char) : Prop :=
  ∀ c ∈ r.head?, ¬ isWordChar c = true

/-- What can follow an expression that stands bare: nothing that would make it longer, be it a
character of a word or a blank with a term after it. The blank of a `/\` can follow. -/
structure Ends (r : List Char) : Prop where
  /-- A word does not go on. -/
  afterWord : AfterWord r
  /-- No term comes after a blank. -/
  blank : ∀ u, r = ' ' :: u → u.head? = some '/'

@[simp]
theorem afterWord_cons {a : Char} : AfterWord (a :: r) ↔ isWordChar a = false := by
  simp [AfterWord]

theorem ends_nil : Ends [] := ⟨nofun, nofun⟩

theorem ends_paren (r : List Char) : Ends (')' :: r) :=
  ⟨by rw [afterWord_cons]; decide, nofun⟩

theorem ends_semicolon (r : List Char) : Ends (';' :: r) :=
  ⟨by rw [afterWord_cons]; decide, nofun⟩

theorem ends_meet (r : List Char) : Ends (" /\\ ".toList ++ r) := by
  refine ⟨?_, ?_⟩
  · show AfterWord (' ' :: _)
    rw [afterWord_cons]
    decide
  · rintro u hu
    cases hu
    rfl

/-! ## How texts begin -/

/-- A word is told from whatever comes after it. -/
theorem IsWord.legible (hx : IsWord x) : Legible String.toList IsWord AfterWord x :=
  fun _ _ _ hy hr hr' heq => Text.legible_word hx.isWordChar hy.isWordChar hr hr' heq

/-- The text begins with a parenthesis, or with a word that ends there. -/
def BeginsWithTerm (s : List Char) : Prop :=
  (∃ u, s = '(' :: u) ∨ ∃ y u, IsWord y ∧ AfterWord u ∧ s = y.toList ++ u

theorem BeginsWithTerm.head? {s : List Char} (h : BeginsWithTerm s) :
    ∃ c, s.head? = some c ∧ (c = '(' ∨ isWordChar c = true) := by
  rcases h with ⟨u, rfl⟩ | ⟨y, u, hy, -, rfl⟩
  · exact ⟨'(', rfl, .inl rfl⟩
  · obtain ⟨c, v, hcons, hc⟩ := hy.exists_cons
    rw [hcons]
    exact ⟨c, rfl, .inr hc⟩

theorem not_beginsWithTerm_cons {a : Char} (hopen : a ≠ '(') (hword : isWordChar a = false) :
    ¬ BeginsWithTerm (a :: r) := by
  intro h
  obtain ⟨c, hc, rfl | hc'⟩ := h.head?
  · exact hopen (Option.some.inj hc)
  · rw [← Option.some.inj hc, hword] at hc'
    cases hc'

/-- A binding is not taken for a name, since `let` is none. -/
theorem not_beginsWithTerm_let : ¬ BeginsWithTerm ("let".toList ++ ' ' :: r) := by
  rintro (⟨u, hu⟩ | ⟨y, u, hy, hu, heq⟩)
  · cases hu
  · have hlet : ∀ c ∈ "let".toList, isWordChar c = true := List.all_eq_true.mp (by decide)
    have hblank : AfterWord (' ' :: r) := afterWord_cons.mpr (by decide)
    exact hy.2.1 (Text.legible_word hlet hy.isWordChar hblank hu heq).1.symm

theorem beginsWithTerm_termChars (ht : t.Clean) (hr : AfterWord r) :
    BeginsWithTerm (termChars t ++ r) := by
  by_cases hk : t.kind = .variable
  · obtain ⟨x, rfl⟩ := exists_eq_var hk
    exact .inr ⟨x, r, ht, hr, rfl⟩
  · exact .inl ⟨_, by rw [termChars_eq hk]; rfl⟩

/-- A term begins with a parenthesis or with a character of a word. -/
theorem head?_termChars (ht : t.Clean) :
    ∃ c, (termChars t).head? = some c ∧ (c = '(' ∨ isWordChar c = true) := by
  have hterm := beginsWithTerm_termChars ht (r := []) nofun
  rw [List.append_nil] at hterm
  exact hterm.head?

theorem beginsWithTerm_headChars (he : e.Clean) (hr : AfterWord r) :
    BeginsWithTerm (headChars e ++ r) := by
  induction e generalizing r with
  | var | lam | unit | letIn | inter =>
    rw [headChars_eq_termChars rfl]
    exact beginsWithTerm_termChars he hr
  | app f a ih _ =>
    rw [headChars_of_not_isOpenEnded rfl, chars_app, List.append_assoc]
    exact ih he.1 (afterWord_cons.mpr (by decide))

/-- What is neither a function nor a binding begins with a term. -/
theorem beginsWithTerm_chars (hopen : e.isOpenEnded = false) (he : e.Clean) (hr : AfterWord r) :
    BeginsWithTerm (chars e ++ r) := by
  rw [← headChars_of_not_isOpenEnded hopen]
  exact beginsWithTerm_headChars he hr

/-- Functions and bindings do not begin with a term. -/
theorem not_beginsWithTerm_chars (hopen : e.isOpenEnded = true) :
    ¬ BeginsWithTerm (chars e ++ r) := by
  cases e with
  | lam x b =>
    rw [chars_lam]
    exact not_beginsWithTerm_cons (by decide) (by decide)
  | letIn x b c =>
    rw [chars_letIn, List.append_assoc]
    exact not_beginsWithTerm_let
  | var | app | unit | inter => cases hopen

/-- So they are not taken for anything else. -/
theorem isOpenEnded_of_chars {e' : Expr} (hopen : e.isOpenEnded = true) (he' : e'.Clean)
    (hr' : AfterWord r') (heq : chars e ++ r = chars e' ++ r') : e'.isOpenEnded = true := by
  cases hopen' : e'.isOpenEnded with
  | true => rfl
  | false =>
    have hterm := beginsWithTerm_chars hopen' he' hr'
    rw [← heq] at hterm
    exact absurd hterm (not_beginsWithTerm_chars hopen)

/-- A text is not empty, and does not begin with a closing parenthesis. -/
theorem head?_chars (he : e.Clean) : ∃ c, (chars e).head? = some c ∧ c ≠ ')' := by
  cases e with
  | lam x b => exact ⟨'\\', by rw [chars_lam]; rfl, by decide⟩
  | letIn x b c => exact ⟨'l', by rw [chars_letIn]; rfl, by decide⟩
  | var | app | unit | inter =>
    have hterm := beginsWithTerm_chars rfl he (r := []) nofun
    rw [List.append_nil] at hterm
    obtain ⟨c, hc, hc'⟩ := hterm.head?
    refine ⟨c, hc, ?_⟩
    rintro rfl
    exact absurd hc' (by decide)

/-! ## Legible terms -/

/-- The expression is legible as an argument, where a word may end. -/
def LegibleTerm (t : Expr) : Prop :=
  Legible termChars Clean AfterWord t

/-- A term that is not a name begins with a parenthesis, so it is not taken for a name. -/
theorem termChars_append_ne (hx : IsWord x) (ht : t.kind ≠ .variable) :
    x.toList ++ r ≠ termChars t ++ r' := by
  intro heq
  obtain ⟨c, u, hcons, hc⟩ := hx.exists_cons
  rw [termChars_eq ht, hcons] at heq
  rw [(List.cons.inj heq).1] at hc
  exact absurd hc (by decide)

theorem legibleTerm_var (hx : IsWord x) : LegibleTerm (.var x) := by
  intro t r r' ht hr hr' heq
  by_cases hk : t.kind = .variable
  · obtain ⟨y, rfl⟩ := exists_eq_var hk
    obtain ⟨rfl, hrest⟩ := hx.legible ht hr hr' heq
    exact ⟨rfl, hrest⟩
  · exact absurd heq (termChars_append_ne hx hk)

/-- Only the empty list may be followed at once by the closing parenthesis. -/
theorem groupChars_append_ne (he : e.Clean) (hr : r.head? = some ')') :
    r ≠ groupChars (e :: es) ++ r' := by
  rintro rfl
  obtain ⟨c, hc, hne⟩ := head?_chars he
  rw [groupChars, List.map_cons, Text.intercalate_cons, List.append_assoc, List.head?_append,
    hc] at hr
  exact hne (Option.some.inj hr)

/-- Lists of expressions are legible before a closing parenthesis. -/
theorem legible_groupChars (h : ∀ e ∈ es, Legible chars Clean Ends e) (hes : ∀ e ∈ es, e.Clean) :
    Legible groupChars (fun es => ∀ e ∈ es, e.Clean) (fun r => r.head? = some ')') es := by
  intro es' r r' hes' hr hr' heq
  cases es with
  | nil =>
    cases es' with
    | nil => exact ⟨rfl, heq⟩
    | cons e' es' => exact absurd heq (groupChars_append_ne (List.forall_mem_cons.mp hes').1 hr)
  | cons e es =>
    cases es' with
    | nil => exact absurd heq.symm (groupChars_append_ne (List.forall_mem_cons.mp hes).1 hr')
    | cons e' es' =>
      have hlist : Legible groupChars (fun es => es ≠ [] ∧ ∀ e ∈ es, e.Clean)
          (fun r => r.head? = some ')') (e :: es) := by
        refine .intercalate (List.cons_ne_nil e es) (.flatMap h hes ends_meet ?_ ?_)
        · intro r hr
          obtain ⟨u, rfl⟩ := List.head?_eq_some_iff.mp hr
          exact ends_paren u
        · rintro _ _ u - hr rfl
          cases hr
      exact hlist ⟨List.cons_ne_nil e' es', hes'⟩ hr hr' heq

/-- A term that is not a name is legible if the expressions between its parentheses are. -/
theorem legibleTerm_of_group (ht : t.Clean) (hk : t.kind ≠ .variable)
    (h : ∀ e ∈ t.group, Legible chars Clean Ends e) : LegibleTerm t := by
  intro t' r r' ht' hr hr' heq
  by_cases hk' : t'.kind = .variable
  · obtain ⟨y, rfl⟩ := exists_eq_var hk'
    exact absurd heq.symm (termChars_append_ne ht' hk)
  · rw [termChars_eq hk, termChars_eq hk'] at heq
    simp only [List.cons_append, List.append_assoc, List.cons.injEq, true_and] at heq
    obtain ⟨hgroup, hrest⟩ :=
      legible_groupChars h ht.of_mem_group ht'.of_mem_group rfl rfl heq
    refine ⟨?_, (List.cons.inj hrest).2⟩
    rw [← ofGroup_group ht, hgroup, ofGroup_group ht']

/-! ## Legible expressions -/

/-- An expression and its terms are legible. -/
structure Readable (e : Expr) : Prop where
  /-- The expression is legible where it stands bare. -/
  legible : Legible chars Clean Ends e
  /-- Its terms are. -/
  terms : ∀ t ∈ e.terms, LegibleTerm t

/-- Then it is legible as a term: what cannot stand bare is between parentheses there, and what can
is its own only term. -/
theorem Readable.term (he : e.Clean) (h : e.Readable) : LegibleTerm e := by
  cases e with
  | app f a => exact legibleTerm_of_group he nofun (List.forall_mem_singleton.mpr h.legible)
  | var | lam | unit | letIn | inter => exact h.terms _ List.mem_cons_self

theorem legible_lam (hx : IsWord x) (hb : Legible chars Clean Ends b) :
    Legible chars Clean Ends (.lam x b) := by
  intro e r r' he hr hr' heq
  have hopen := isOpenEnded_of_chars rfl he hr'.afterWord heq
  cases e with
  | lam y b' =>
    rw [chars_lam, chars_lam] at heq
    simp only [List.cons_append, List.append_assoc, List.cons.injEq, true_and] at heq
    have hdot : ∀ u, AfterWord ('.' :: u) := fun u => afterWord_cons.mpr (by decide)
    obtain ⟨rfl, hbody⟩ := hx.legible he.1 (hdot _) (hdot _) heq
    simp only [List.cons.injEq, true_and] at hbody
    obtain ⟨rfl, hrest⟩ := hb he.2 hr hr' hbody
    exact ⟨rfl, hrest⟩
  | letIn y b' c' =>
    rw [chars_lam, chars_letIn] at heq
    cases heq
  | var | app | unit | inter => cases hopen

theorem legible_letIn (hx : IsWord x) (hb : Legible chars Clean Ends b)
    (hc : Legible chars Clean Ends c) : Legible chars Clean Ends (.letIn x b c) := by
  intro e r r' he hr hr' heq
  have hopen := isOpenEnded_of_chars rfl he hr'.afterWord heq
  cases e with
  | letIn y b' c' =>
    rw [chars_letIn, chars_letIn] at heq
    simp only [List.append_assoc, List.cons_append, List.append_cancel_left_eq, List.cons.injEq,
      true_and] at heq
    have hblank : ∀ u, AfterWord (" = ".toList ++ u) := fun u => afterWord_cons.mpr (by decide)
    obtain ⟨rfl, hbound⟩ := hx.legible he.1 (hblank _) (hblank _) heq
    obtain ⟨rfl, hbody⟩ := hb he.2.1 (ends_semicolon _) (ends_semicolon _)
      (List.append_cancel_left hbound)
    simp only [List.cons.injEq, true_and] at hbody
    obtain ⟨rfl, hrest⟩ := hc he.2.2 hr hr' hbody
    exact ⟨rfl, hrest⟩
  | lam y b' =>
    rw [chars_letIn, chars_lam] at heq
    cases heq
  | var | app | unit | inter => cases hopen

/-- Lists of terms are legible with a blank before each: what follows is not one more term. -/
theorem legible_terms {ts : List Expr} (h : ∀ t ∈ ts, LegibleTerm t) (hts : ∀ t ∈ ts, t.Clean) :
    Legible (fun ts : List Expr => ts.flatMap fun t => [' '] ++ termChars t)
      (fun ts => ∀ t ∈ ts, t.Clean) Ends ts := by
  refine .flatMap h hts (fun r => afterWord_cons.mpr (by decide)) (fun r hr => hr.afterWord) ?_
  rintro t _ u ht hr rfl
  obtain ⟨c, hc, hc'⟩ := head?_termChars ht
  have hslash : (termChars t ++ u).head? = some '/' := hr.blank _ rfl
  rw [List.head?_append, hc] at hslash
  obtain rfl : c = '/' := Option.some.inj hslash
  exact absurd hc' (by decide)

/-- **What is neither a function nor a binding is legible if its terms are.** -/
theorem legible_of_terms (hopen : e.isOpenEnded = false) (he : e.Clean)
    (h : ∀ t ∈ e.terms, LegibleTerm t) : Legible chars Clean Ends e := by
  intro e' r r' he' hr hr' heq
  cases hopen' : e'.isOpenEnded with
  | true =>
    rw [isOpenEnded_of_chars hopen' he hr.afterWord heq.symm] at hopen
    cases hopen
  | false =>
    rw [← headChars_of_not_isOpenEnded hopen, ← headChars_of_not_isOpenEnded hopen'] at heq
    have hblank := congrArg (' ' :: ·) heq
    simp only [← List.cons_append, blank_headChars] at hblank
    obtain ⟨hterms, hrest⟩ := legible_terms h he.of_mem_terms he'.of_mem_terms hr hr' hblank
    exact ⟨terms_inj hterms, hrest⟩

/-- What is neither a function nor a binding is readable if its terms are legible. -/
theorem Readable.of_terms (hopen : e.isOpenEnded = false) (he : e.Clean)
    (h : ∀ t ∈ e.terms, LegibleTerm t) : e.Readable :=
  ⟨legible_of_terms hopen he h, h⟩

/-- A function or a binding is its own only term, and stands there between parentheses. -/
theorem Readable.of_legible (hopen : e.isOpenEnded = true) (he : e.Clean)
    (h : Legible chars Clean Ends e) : e.Readable := by
  refine ⟨h, ?_⟩
  cases e with
  | lam | letIn =>
    exact List.forall_mem_singleton.mpr
      (legibleTerm_of_group he nofun (List.forall_mem_singleton.mpr h))
  | var | app | unit | inter => cases hopen

/-- **Clean expressions are readable.** An application is compared term by term, so the terms are
followed along with the expression. -/
theorem readable (he : e.Clean) : e.Readable := by
  induction e with
  | var x => exact .of_terms rfl he (List.forall_mem_singleton.mpr (legibleTerm_var he))
  | lam x b ih => exact .of_legible rfl he (legible_lam he.1 (ih he.2).legible)
  | app f a ihf iha =>
    have ha := (iha he.2).term he.2
    exact .of_terms rfl he
      (List.forall_mem_append.mpr ⟨(ihf he.1).terms, List.forall_mem_singleton.mpr ha⟩)
  | unit =>
    exact .of_terms rfl he (List.forall_mem_singleton.mpr (legibleTerm_of_group he nofun nofun))
  | letIn x b c ihb ihc =>
    exact .of_legible rfl he (legible_letIn he.1 (ihb he.2.1).legible (ihc he.2.2).legible)
  | inter es ih =>
    have hes : ∀ e ∈ es, Legible chars Clean Ends e := by
      intro e hmem
      exact (ih e hmem (cleanAll_iff.mp he.2 e hmem)).legible
    exact .of_terms rfl he (List.forall_mem_singleton.mpr (legibleTerm_of_group he nofun hes))

end Expr

/-- **Renderings of expressions are unambiguous.** Expressions whose names are words, and whose
intersections have two members or more, have the same text only if they are the same tree. -/
theorem expr_renderings_unambiguous {e₁ e₂ : Expr} (h₁ : e₁.Clean) (h₂ : e₂.Clean) :
    e₁.render = e₂.render ↔ e₁ = e₂ := by
  constructor
  · intro heq
    exact (Expr.readable h₁).legible.eq Expr.ends_nil h₂ (congrArg String.toList heq)
  · rintro rfl
    rfl

/-- Two bindings, one in the bound expression of the other or one in its body, stand bare in either
place and are still told apart. -/
theorem expr_renderings_unambiguous_nested_let :
    (Expr.letIn "x" (.letIn "y" (.var "a") (.var "b")) (.var "c")).Clean ∧
      (Expr.letIn "x" (.var "a") (.letIn "y" (.var "b") (.var "c"))).Clean ∧
      (Expr.letIn "x" (.letIn "y" (.var "a") (.var "b")) (.var "c")).render ≠
        (Expr.letIn "x" (.var "a") (.letIn "y" (.var "b") (.var "c"))).render := by
  have h₁ : (Expr.letIn "x" (.letIn "y" (.var "a") (.var "b")) (.var "c")).Clean := by decide
  have h₂ : (Expr.letIn "x" (.var "a") (.letIn "y" (.var "b") (.var "c"))).Clean := by decide
  exact ⟨h₁, h₂, mt (expr_renderings_unambiguous h₁ h₂).mp (by decide)⟩

/-- An intersection of one member has the text of the member as an argument. -/
example : (Expr.app (.var "f") (.inter [.app (.var "g") .unit])).render =
    (Expr.app (.var "f") (.app (.var "g") .unit)).render := by
  decide

end Bidirectional
