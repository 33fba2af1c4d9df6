import Bidirectional.Proofs.Judgment.Answers
import Bidirectional.Proofs.Judgment.Derivation
import Bidirectional.Proofs.Judgment.Noninterference
import Bidirectional.Proofs.Ty.Arrows

/-!
# Spines

A head that is applied to arguments, one after the other. Checking goes through a spine from the
last argument to the first. It synthesizes each of them in the environment that the argument after
it left behind, and puts its type in front of the goal. If all have a type, the head is checked
against the function type of all of them. If one has no type, the check fails there, and neither the
arguments before it nor the head are judged.

Synthesis goes through a spine from the head, and checks each argument against the domain that the
type of the head has for it. Where the head is a variable with as many domains, no argument has a
`let`, and each is checked by synthesis and a subtype test, both modes ask the same: every argument
has a type below its domain, and what the head comes to is below the goal.

## Main definitions

* `ArgsTyped`: the arguments of a spine have types, from the last to the first
* `spineEvents`: the events of checking a spine, around those of the part it ends with

## Main results

* `check_spine_of_argsTyped`, `check_spine_of_untyped`: the run on a spine, by whether its arguments
  have types
* `check_spine`: the closed form of checking a spine
* `spine_modes_agree`: the modes agree on a variable with arguments of simple forms
-/

namespace Bidirectional

open Judge (bind_eq_iff emit_bind_eq_iff)

/-- The arguments `as` have types, from the last to the first: synthesis of the last one starts in
`G`, each of the others starts in the environment that the argument after it left behind, and the
first leaves `G'` behind. The list has the type and the events of each argument, in the order of the
arguments. -/
inductive ArgsTyped (G : Env) : List Expr → List (Ty × List Event) → Env → Prop
  | nil : ArgsTyped G [] [] G
  | cons {a : Expr} {as : List Expr} {s : Ty} {l : List Event} {found : List (Ty × List Event)}
      {G₁ G' : Env} (after : ArgsTyped G as found G₁) (first : synth a G₁ = ⟨some s, G', l⟩) :
      ArgsTyped G (a :: as) ((s, l) :: found) G'

/-- The events of checking an application with the answer `ok`, around those of its parts. -/
def applicationEvents (goal : Ty) (ok : Bool) (l : List Event) : List Event :=
  .enterCheck .application goal :: (l ++ [.leaveCheck .application goal ok])

/-- The events of checking a spine against `t` with the answer `ok`, the events `inner` of what
comes after the arguments being in the middle. The last argument is the outermost: its application
is entered first and left last, with `t` for the goal, and each application further in has the types
of the arguments after it in front of `t`. -/
def spineEvents (ok : Bool) (t : Ty) : List (Ty × List Event) → List Event → List Event
  | [], inner => inner
  | (_, l) :: found, inner =>
    spineEvents ok t found
      (applicationEvents (.arrows (found.map Prod.fst) t) ok (l ++ inner))

example (ok : Bool) (t s₁ s₂ : Ty) (l₁ l₂ inner : List Event) :
    spineEvents ok t [(s₁, l₁), (s₂, l₂)] inner =
      applicationEvents t ok (l₂ ++ applicationEvents (.arrow s₂ t) ok (l₁ ++ inner)) := rfl

variable {x : Name} {f a h : Expr} {as : List Expr} {ds : List Ty} {r s t g : Ty}
  {found : List (Ty × List Event)} {G G₁ G' : Env} {l l₁ l₂ : List Event} {ok : Bool}

/-! ## Runs on spines -/

/-- An argument with a type puts this type in front of the goal. -/
theorem check_app_of_typed (ha : synth a G = ⟨some s, G₁, l₁⟩)
    (hf : check f (.arrow s g) G₁ = ⟨ok, G', l₂⟩) :
    check (.app f a) g G = ⟨ok, G', applicationEvents g ok (l₁ ++ l₂)⟩ := by
  rw [applicationEvents, List.append_assoc]
  refine emit_bind_eq_iff.mpr ⟨_, bind_eq_iff.mpr ⟨_, _, _, _, ha, ?_, rfl⟩, rfl⟩
  exact bind_eq_iff.mpr ⟨_, _, _, _, hf, rfl, rfl⟩

/-- An argument without a type ends the check. -/
theorem check_app_of_untyped (ha : synth a G = ⟨none, G', l⟩) (f : Expr) :
    check (.app f a) g G = ⟨false, G', applicationEvents g false l⟩ :=
  emit_bind_eq_iff.mpr ⟨_, bind_eq_iff.mpr ⟨_, _, _, _, ha, rfl, rfl⟩, rfl⟩

/-- **If all arguments have a type**, the head is checked against the function type of all of them,
where the first argument left off. The head with its first argument is the head of the rest. -/
theorem check_spine_of_argsTyped (hargs : ArgsTyped G as found G₁)
    (hh : check h (.arrows (found.map Prod.fst) t) G₁ = ⟨ok, G', l⟩) :
    check (h.spine as) t G = ⟨ok, G', spineEvents ok t found l⟩ := by
  induction hargs generalizing h l G' with
  | nil => exact hh
  | cons _ first ih => exact ih (check_app_of_typed first hh)

/-- **If an argument has no type** and all those after it have one, the check fails there. -/
theorem check_spine_of_untyped (hargs : ArgsTyped G as found G₁)
    (ha : synth a G₁ = ⟨none, G', l⟩) (before : List Expr) (h : Expr) :
    check (h.spine (before ++ a :: as)) t G =
      ⟨false, G',
        spineEvents false t found
          (applicationEvents (.arrows (found.map Prod.fst) t) false l)⟩ := by
  rw [Expr.spine_append_cons]
  exact check_spine_of_argsTyped hargs (check_app_of_untyped ha _)

/-- Either all arguments have a type, or there is a last one without. -/
theorem argsTyped_or_untyped (G : Env) (as : List Expr) :
    (∃ found G₁, ArgsTyped G as found G₁) ∨
      ∃ before a after found G₁, as = before ++ a :: after ∧ ArgsTyped G after found G₁ ∧
        (synth a G₁).answer = none := by
  induction as with
  | nil => exact .inl ⟨[], G, .nil⟩
  | cons a as ih =>
    rcases ih with ⟨found, G₁, hargs⟩ | ⟨before, b, after, found, G₁, rfl, hargs, hb⟩
    · cases ha : (synth a G₁).answer with
      | none => exact .inr ⟨[], a, as, found, G₁, rfl, hargs, ha⟩
      | some s =>
        have hrun : synth a G₁ = ⟨some s, (synth a G₁).env, (synth a G₁).events⟩ := by rw [← ha]
        exact .inl ⟨_, _, .cons hargs hrun⟩
    · exact .inr ⟨a :: before, b, after, found, G₁, rfl, hargs, hb⟩

/-- **The closed form of checking a spine.** The arguments are synthesized from the last to the
first, each in the environment that the one after it left behind. If all have a type, the answer and
the environment are those of the head, checked against the function type of all arguments where the
first one left off. If one has no type the answer is `false`, the environment is the one that its
synthesis left behind, and neither the arguments before it nor the head have a part in the run. One
of the two is always the case. The head may be any expression. -/
theorem check_spine (h : Expr) (as : List Expr) (t : Ty) (G : Env) :
    (∀ found G₁ ok G' l, ArgsTyped G as found G₁ →
        check h (.arrows (found.map Prod.fst) t) G₁ = ⟨ok, G', l⟩ →
        check (h.spine as) t G = ⟨ok, G', spineEvents ok t found l⟩) ∧
      (∀ before a after found G₁ G' l, as = before ++ a :: after → ArgsTyped G after found G₁ →
        synth a G₁ = ⟨none, G', l⟩ →
        check (h.spine as) t G =
          ⟨false, G',
            spineEvents false t found
              (applicationEvents (.arrows (found.map Prod.fst) t) false l)⟩) ∧
      ((∃ found G₁, ArgsTyped G as found G₁) ∨
        ∃ before a after found G₁, as = before ++ a :: after ∧ ArgsTyped G after found G₁ ∧
          (synth a G₁).answer = none) := by
  refine ⟨fun found G₁ ok G' l hargs hh => check_spine_of_argsTyped hargs hh, ?_,
    argsTyped_or_untyped G as⟩
  rintro before a after found G₁ G' l rfl hargs ha
  exact check_spine_of_untyped hargs ha before h

/-- The argument in the middle has no type: the `let` after it has written, the one before it has
not. Without the argument in the middle the head is checked, after both have written. -/
theorem check_spine_untyped_middle :
    (check ((Expr.var "f").spine [.letIn "z" .unit .unit, .var "w", .letIn "y" .unit .unit]) .unit
        (.ofBindings [("f", some (.arrow .unit (.arrow .unit .unit)))])).answer = false ∧
      (check ((Expr.var "f").spine [.letIn "z" .unit .unit, .var "w", .letIn "y" .unit .unit])
        .unit (.ofBindings [("f", some (.arrow .unit (.arrow .unit .unit)))])).env =
        .ofBindings [("f", some (.arrow .unit (.arrow .unit .unit))), ("y", some .unit)] ∧
      (check ((Expr.var "f").spine [.letIn "z" .unit .unit, .letIn "y" .unit .unit]) .unit
        (.ofBindings [("f", some (.arrow .unit (.arrow .unit .unit)))])).answer = true ∧
      (check ((Expr.var "f").spine [.letIn "z" .unit .unit, .letIn "y" .unit .unit]) .unit
        (.ofBindings [("f", some (.arrow .unit (.arrow .unit .unit)))])).env =
        .ofBindings [("f", some (.arrow .unit (.arrow .unit .unit))), ("y", some .unit),
          ("z", some .unit)] := by
  have hlast : ArgsTyped (.ofBindings [("f", some (.arrow .unit (.arrow .unit .unit)))])
      [.letIn "y" .unit .unit] _
      (.ofBindings [("f", some (.arrow .unit (.arrow .unit .unit))), ("y", some .unit)]) :=
    .cons .nil (Derives.letIn .unit .unit).reached
  have hboth : ArgsTyped (.ofBindings [("f", some (.arrow .unit (.arrow .unit .unit)))])
      [.letIn "z" .unit .unit, .letIn "y" .unit .unit] _
      (.ofBindings [("f", some (.arrow .unit (.arrow .unit .unit))), ("y", some .unit),
        ("z", some .unit)]) :=
    .cons hlast (Derives.letIn .unit .unit).reached
  have hvar : Derives (.synth (.var "f") (.arrow .unit (.arrow .unit .unit)))
      (.ofBindings [("f", some (.arrow .unit (.arrow .unit .unit))), ("y", some .unit),
        ("z", some .unit)]) _ _ := .var (by decide)
  have hhead : Derives (.check (.var "f") (.arrow .unit (.arrow .unit .unit))) _ _ _ :=
    .subsume nofun nofun hvar (by simp)
  have huntyped := (check_spine (.var "f") _ .unit _).2.1 [.letIn "z" .unit .unit] (.var "w") _ _ _
    _ _ rfl hlast rfl
  have htyped := (check_spine (.var "f") _ .unit _).1 _ _ true _ _ hboth hhead.reached
  exact ⟨congrArg Run.answer huntyped, congrArg Run.env huntyped, congrArg Run.answer htyped,
    congrArg Run.env htyped⟩

/-! ## The modes on spines -/

/-- Without a `let` in the arguments, checking a spine is synthesis of all arguments and a check of
the head. -/
theorem answer_check_spine (hlet : ∀ a ∈ as, a.letNames = []) :
    (check (h.spine as) t G).answer = true ↔
      ∃ ss, List.Forall₂ (fun a s => (synth a G).answer = some s) as ss ∧
        (check h (.arrows ss t) G).answer = true := by
  induction as generalizing h with
  | nil => simp [Expr.spine]
  | cons a as ih =>
    obtain ⟨ha, has⟩ := List.forall_mem_cons.mp hlet
    rw [Expr.spine_cons, ih has]
    constructor
    · rintro ⟨ss, hss, happ⟩
      rw [answer_check_app, synth_env_eq ha] at happ
      cases hs : (synth a G).answer with
      | none =>
        rw [hs] at happ
        cases happ
      | some s =>
        rw [hs] at happ
        exact ⟨s :: ss, .cons hs hss, happ⟩
    · rintro ⟨_, _ | ⟨hs, hss⟩, hh⟩
      refine ⟨_, hss, ?_⟩
      rw [answer_check_app, synth_env_eq ha, hs]
      exact hh

/-- A spine has no type if its head has none. -/
theorem answer_synth_spine_of_none (hh : (synth h G).answer = none) (as : List Expr) :
    (synth (h.spine as) G).answer = none := by
  induction as generalizing h with
  | nil => exact hh
  | cons a as ih =>
    apply ih
    rw [answer_synth_app, hh]

/-- Without a `let`, a spine whose head has as many domains as there are arguments has the type that
the head comes to, if every argument checks against its domain. -/
theorem answer_synth_spine (hh : h.letNames = []) (hlet : ∀ a ∈ as, a.letNames = [])
    (hlen : as.length = ds.length) (ht : (synth h G).answer = some (.arrows ds r)) (c : Ty) :
    (synth (h.spine as) G).answer = some c ↔
      List.Forall₂ (fun a d => (check a d G).answer = true) as ds ∧ c = r := by
  induction as generalizing h ds with
  | nil =>
    obtain rfl := List.length_eq_zero_iff.mp hlen.symm
    simpa [Expr.spine, ht] using eq_comm
  | cons a as ih =>
    cases ds with
    | nil => cases hlen
    | cons d ds =>
      obtain ⟨ha, has⟩ := List.forall_mem_cons.mp hlet
      have happ : (synth (.app h a) G).answer =
          if (check a d G).answer then some (.arrows ds r) else none := by
        rw [answer_synth_app, ht, synth_env_eq hh]
        rfl
      rw [Expr.spine_cons, List.forall₂_cons]
      cases hok : (check a d G).answer with
      | false =>
        rw [hok] at happ
        rw [answer_synth_spine_of_none happ]
        simp
      | true =>
        rw [hok] at happ
        have hfn : (Expr.app h a).letNames = [] := List.append_eq_nil_iff.mpr ⟨hh, ha⟩
        rw [ih hfn has (Nat.succ.inj hlen) happ]
        simp

/-- Arguments that are neither lambdas nor applications check against their domains if and only if
they have types below them. -/
theorem forall₂_check_iff (hkind : ∀ a ∈ as, a.kind ≠ .lambda ∧ a.kind ≠ .application) :
    List.Forall₂ (fun a d => (check a d G).answer = true) as ds ↔
      ∃ ss, List.Forall₂ (fun a s => (synth a G).answer = some s) as ss ∧
        List.Forall₂ Ty.Below ss ds := by
  induction as generalizing ds with
  | nil => simp
  | cons a as ih =>
    obtain ⟨⟨hlam, happ⟩, has⟩ := List.forall_mem_cons.mp hkind
    constructor
    · rintro (_ | ⟨hcheck, hrest⟩)
      rw [answer_check_of_synth _ _ hlam happ] at hcheck
      obtain ⟨s, hs, hsub⟩ := Ty.anyBelow_eq_true.mp hcheck
      obtain ⟨ss, hss, hbelow⟩ := (ih has).mp hrest
      exact ⟨s :: ss, .cons hs hss, .cons (Ty.isSubtype_iff_below.mp hsub) hbelow⟩
    · rintro ⟨_, _ | ⟨hs, hss⟩, _ | ⟨hsub, hbelow⟩⟩
      refine .cons ?_ ((ih has).mpr ⟨_, hss, hbelow⟩)
      rw [answer_check_of_synth _ _ hlam happ, hs]
      exact hsub.isSubtype

/-- **The modes agree on a variable with arguments of simple forms.** The variable has a function
type with a domain for each argument, and no argument has a `let` in it or is a lambda or an
application. Such a spine checks against a goal if and only if a type below the goal is synthesized
for it. -/
theorem spine_modes_agree (hx : G.lookup x = some (.arrows ds r)) (hlen : as.length = ds.length)
    (hlet : ∀ a ∈ as, a.letNames = [])
    (hkind : ∀ a ∈ as, a.kind ≠ .lambda ∧ a.kind ≠ .application) (t : Ty) :
    (check ((Expr.var x).spine as) t G).answer = true ↔
      ∃ c, (synth ((Expr.var x).spine as) G).answer = some c ∧ c.isSubtype t = true := by
  have hhead : ∀ ss, as.length = ss.length → ((check (.var x) (.arrows ss t) G).answer = true ↔
      List.Forall₂ Ty.Below ss ds ∧ r.Below t) := by
    intro ss hss
    rw [answer_check_of_synth (e := .var x) _ _ nofun nofun, answer_synth_var, hx,
      Ty.anyBelow_some, Ty.isSubtype_iff_below, Ty.arrows_below_arrows_iff (hss ▸ hlen)]
  calc (check ((Expr.var x).spine as) t G).answer = true
      ↔ ∃ ss, List.Forall₂ (fun a s => (synth a G).answer = some s) as ss ∧
          (check (.var x) (.arrows ss t) G).answer = true := answer_check_spine hlet
    _ ↔ ∃ ss, List.Forall₂ (fun a s => (synth a G).answer = some s) as ss ∧
          List.Forall₂ Ty.Below ss ds ∧ r.Below t :=
        exists_congr fun ss => and_congr_right fun hss => hhead ss hss.length_eq
    _ ↔ List.Forall₂ (fun a d => (check a d G).answer = true) as ds ∧ r.Below t := by
        rw [forall₂_check_iff hkind]
        simp only [exists_and_right, ← and_assoc]
    _ ↔ ∃ c, (synth ((Expr.var x).spine as) G).answer = some c ∧ c.isSubtype t = true := by
        simp [answer_synth_spine (h := .var x) rfl hlet hlen hx, Ty.isSubtype_iff_below, and_assoc]

/-- There is an intersection inside a domain, in an argument and in what the variable comes to. -/
theorem spine_modes_agree_inter :
    (Env.ofBindings [("f", some (.arrow .unit .unit)),
        ("h", some (.arrows [.arrow (.inter [.unit]) .unit, .unit] (.inter [.unit])))]).lookup "h" =
        some (.arrows [.arrow (.inter [.unit]) .unit, .unit] (.inter [.unit])) ∧
      (synth ((Expr.var "h").spine [.var "f", .inter [.var "f", .unit]])
        (.ofBindings [("f", some (.arrow .unit .unit)),
          ("h", some (.arrows [.arrow (.inter [.unit]) .unit, .unit] (.inter [.unit])))])).answer =
        some (.inter [.unit]) ∧
      (check ((Expr.var "h").spine [.var "f", .inter [.var "f", .unit]]) .unit
        (.ofBindings [("f", some (.arrow .unit .unit)),
          ("h", some (.arrows [.arrow (.inter [.unit]) .unit, .unit] (.inter [.unit])))])).answer =
        true := by
  have hx : (Env.ofBindings [("f", some (.arrow .unit .unit)),
      ("h", some (.arrows [.arrow (.inter [.unit]) .unit, .unit] (.inter [.unit])))]).lookup "h" =
      some (.arrows [.arrow (.inter [.unit]) .unit, .unit] (.inter [.unit])) := by decide
  have hf : Derives (.synth (.var "f") (.arrow .unit .unit))
      (.ofBindings [("f", some (.arrow .unit .unit)),
        ("h", some (.arrows [.arrow (.inter [.unit]) .unit, .unit] (.inter [.unit])))]) _ _ :=
    .var (by decide)
  have hfirst : Derives (.check (.var "f") (.arrow (.inter [.unit]) .unit)) _ _ _ :=
    .subsume nofun nofun hf (by simp)
  have hsecond : Derives (.check (.inter [.var "f", .unit]) .unit) _ _ _ :=
    .subsume nofun nofun (.inter (.cons hf (.cons .unit .nil)) (by decide)) (by simp)
  have hsynth := congrArg Run.answer (Derives.app (.app (.var hx) hfirst) hsecond).reached
  have hlet : ∀ a ∈ [Expr.var "f", .inter [.var "f", .unit]], a.letNames = [] := by decide
  have hkind : ∀ a ∈ [Expr.var "f", .inter [.var "f", .unit]],
      a.kind ≠ .lambda ∧ a.kind ≠ .application := by decide
  exact ⟨hx, hsynth, (spine_modes_agree hx rfl hlet hkind .unit).mpr ⟨_, hsynth, by simp⟩⟩

end Bidirectional
