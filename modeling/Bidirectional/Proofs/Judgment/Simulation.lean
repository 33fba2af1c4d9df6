import Bidirectional.Expr.Structure
import Bidirectional.Judgment.Basic
import Mathlib.Data.List.Forall2

/-!
# Simulations between runs

Two runs of one judgment, from two environments, are compared step by step. A simulation is a
relation on types and one on environments that the steps of a judgment keep: what is built from
related types is related, the subtype test does not tell related types apart, and writing related
types under one name keeps environments related. Both judgments then keep it as well, on every
expression all of whose free names have related types at the start. A name bound by a `let` need
not: its body reads what both runs have written.

## Main definitions

* `Judge.Coupled`: two judgments that take related environments to related ends
* `Simulation`: relations on types and environments that the steps of a judgment keep
* `Simulation.ofEq`: the simulations that relate a type to itself only
* `Simulation.At S`: related environments that give related types to the names of `S`
* `Simulation.Respected S e`: both judgments of `e` keep the simulation at `S`

## Main results

* `Simulation.Respected.lam` and its neighbours: the forms of an expression, one by one
* `Simulation.respected`: the judgments keep every simulation
-/

namespace Bidirectional

namespace Judge

variable {α β : Type} {P Q R : Env → Env → Prop} {A : α → α → Prop} {B : β → β → Prop}

/-- Two judgments are coupled if they take environments that `P` relates to answers that `A` relates
and to environments that `Q` relates. Their events may differ. -/
def Coupled (P : Env → Env → Prop) (A : α → α → Prop) (Q : Env → Env → Prop)
    (m m' : Judge α) : Prop :=
  ∀ env env', P env env' → A (m env).answer (m' env').answer ∧ Q (m env).env (m' env').env

namespace Coupled

theorem pure {a a' : α} (h : A a a') : Coupled P A P (pure a) (pure a') :=
  fun _ _ hP => ⟨h, hP⟩

/-- Sequences are coupled if their first parts are and, on related answers, their second parts. -/
theorem bind {m m' : Judge α} {k k' : α → Judge β} (hm : Coupled P A Q m m')
    (hk : ∀ a a', A a a' → Coupled Q B R (k a) (k' a')) :
    Coupled P B R (m >>= k) (m' >>= k') := by
  intro env env' hP
  obtain ⟨hA, hQ⟩ := hm env env' hP
  exact hk _ _ hA _ _ hQ

/-- An event before a judgment changes nothing. -/
theorem emit {m m' : Judge α} (e e' : Event) (hm : Coupled P A Q m m') :
    Coupled P A Q (emit e >>= fun _ => m) (emit e' >>= fun _ => m') :=
  fun env env' hP => hm env env' hP

theorem typeOf {x : Name} {r : Ty → Ty → Prop}
    (h : ∀ env env', P env env' → Option.Rel r (env.lookup x) (env'.lookup x)) :
    Coupled P (Option.Rel r) P (typeOf x) (typeOf x) :=
  fun env env' hP => ⟨h env env' hP, hP⟩

theorem assign {x : Name} {t t' : Option Ty}
    (h : ∀ env env', P env env' → Q (env.bind x t) (env'.bind x t')) :
    Coupled P (fun _ _ => True) Q (assign x t) (assign x t') :=
  fun env env' hP => ⟨trivial, h env env' hP⟩

/-- The environments at the end may be related less closely. -/
theorem weaken {m m' : Judge α} (hm : Coupled P A Q m m')
    (h : ∀ env env', Q env env' → R env env') : Coupled P A R m m' := by
  intro env env' hP
  obtain ⟨hA, hQ⟩ := hm env env' hP
  exact ⟨hA, h _ _ hQ⟩

end Coupled

end Judge

theorem rel_refl {α : Type} {r : α → α → Prop} (h : ∀ a, r a a) : ∀ o, Option.Rel r o o
  | none => .none
  | some a => .some (h a)

theorem rel_eq_iff {α : Type} {o o' : Option α} : Option.Rel Eq o o' ↔ o = o' := by
  constructor
  · rintro (⟨rfl⟩ | _) <;> rfl
  · rintro rfl
    exact rel_refl (fun _ => rfl) o

theorem rel_asArrow?_of_eq {s t : Ty} (h : s = t) :
    Option.Rel (fun p q => p.1 = q.1 ∧ p.2 = q.2) s.asArrow? t.asArrow? :=
  h ▸ rel_refl (fun _ => ⟨rfl, rfl⟩) _

/-- A relation between two runs that the steps of a judgment keep. Types that are found (read from
the environment or synthesized) and types that are asked for may be related differently. -/
structure Simulation where
  /-- The relation on types that are found. -/
  found : Ty → Ty → Prop
  /-- The relation on types that are asked for. -/
  goal : Ty → Ty → Prop
  /-- The relation on environments. -/
  env : Env → Env → Prop
  /-- The names that may be written. -/
  writes : Name → Prop
  unit : found .unit .unit
  arrow : ∀ {d d' c c'}, found d d' → found c c' → found (.arrow d c) (.arrow d' c')
  inter : ∀ {ms ms'}, ms ≠ [] → List.Forall₂ found ms ms' → found (.inter ms) (.inter ms')
  /-- Related types are function types together, with related parts. -/
  found_asArrow? : ∀ {s s'}, found s s' →
    Option.Rel (fun p p' => found p.1 p'.1 ∧ found p.2 p'.2) s.asArrow? s'.asArrow?
  goal_of_found : ∀ {s s'}, found s s' → goal s s'
  goal_arrow : ∀ {s s' g g'}, found s s' → goal g g' → goal (.arrow s g) (.arrow s' g')
  /-- Related goals are function types together, with related parts. -/
  goal_asArrow? : ∀ {g g'}, goal g g' →
    Option.Rel (fun p p' => goal p.1 p'.1 ∧ goal p.2 p'.2) g.asArrow? g'.asArrow?
  /-- The subtype test does not tell related types apart. -/
  isSubtype : ∀ {s s' g g'}, found s s' → goal g g' → s.isSubtype g = s'.isSubtype g'
  /-- Writing related types under one name keeps environments related. -/
  bind : ∀ {G G' x t t'}, writes x → env G G' → Option.Rel found t t' →
    env (G.bind x t) (G'.bind x t')

namespace Simulation

open Judge (Coupled)

variable {α : Type} {sim : Simulation} {S S' : List Name} {G G' : Env} {x : Name}

/-- A simulation between runs that find the same types, and whose environments may differ. -/
def ofEq (env : Env → Env → Prop) (writes : Name → Prop)
    (bind : ∀ {G G' x t}, writes x → env G G' → env (G.bind x t) (G'.bind x t)) : Simulation where
  found := Eq
  goal := Eq
  env := env
  writes := writes
  unit := rfl
  arrow hd hc := by rw [hd, hc]
  inter _ h := by
    rw [List.forall₂_eq_eq_eq] at h
    rw [h]
  found_asArrow? := @rel_asArrow?_of_eq
  goal_of_found h := h
  goal_arrow hs hg := by rw [hs, hg]
  goal_asArrow? := @rel_asArrow?_of_eq
  isSubtype hs hg := by rw [hs, hg]
  bind hx h ht := rel_eq_iff.mp ht ▸ bind hx h

/-- Environments that are related and give related types to the names of `S`. -/
structure At (sim : Simulation) (S : List Name) (G G' : Env) : Prop where
  /-- The environments are related. -/
  env : sim.env G G'
  /-- A name of `S` has related types, or no type in either. -/
  lookup : ∀ x ∈ S, Option.Rel sim.found (G.lookup x) (G'.lookup x)

theorem At.mono (h : sim.At S' G G') (hS : S ⊆ S') : sim.At S G G' :=
  ⟨h.env, fun x hx => h.lookup x (hS hx)⟩

/-- Once a name is written it has related types, whatever it had before. -/
theorem At.bind {t t' : Option Ty} (h : sim.At S G G') (hx : sim.writes x)
    (ht : Option.Rel sim.found t t') : sim.At (x :: S) (G.bind x t) (G'.bind x t') := by
  refine ⟨sim.bind hx h.env ht, ?_⟩
  intro y hy
  rw [Env.lookup_bind, Env.lookup_bind]
  split
  · exact ht
  · rename_i hne
    exact h.lookup y ((List.mem_cons.mp hy).resolve_left hne)

/-- Two judgments that keep the simulation at `S` and have related answers. -/
def Couples (sim : Simulation) (S : List Name) (A : α → α → Prop) (m m' : Judge α) : Prop :=
  Coupled (sim.At S) A (sim.At S) m m'

/-! ## The rules, one by one -/

theorem couples_typeOf (hx : x ∈ S) :
    sim.Couples S (Option.Rel sim.found) (Judge.typeOf x) (Judge.typeOf x) :=
  Coupled.typeOf fun _ _ h => h.lookup x hx

theorem couples_synthesized (k : Kind) {r r' : Option Ty} (h : Option.Rel sim.found r r') :
    sim.Couples S (Option.Rel sim.found) (Rule.synthesized k r) (Rule.synthesized k r') :=
  Coupled.emit _ _ (.pure h)

theorem couples_checked (k : Kind) (g g' : Ty) {b b' : Bool} (h : b = b') :
    sim.Couples S Eq (Rule.checked k g b) (Rule.checked k g' b') :=
  Coupled.emit _ _ (.pure h)

theorem rel_arrow? {d d' c c' : Option Ty} (hd : Option.Rel sim.found d d')
    (hc : Option.Rel sim.found c c') :
    Option.Rel sim.found (Rule.arrow? d c) (Rule.arrow? d' c') := by
  cases hd with
  | none => exact .none
  | some hd =>
    cases hc with
    | none => exact .none
    | some hc => exact .some (sim.arrow hd hc)

theorem rel_inter? {ms ms' : List Ty} (h : List.Forall₂ sim.found ms ms') :
    Option.Rel sim.found (Rule.inter? ms) (Rule.inter? ms') := by
  cases h with
  | nil => exact .none
  | cons hm hms => exact .some (sim.inter (List.cons_ne_nil _ _) (.cons hm hms))

theorem anyBelow_eq {g g' : Ty} {t t' : Option Ty} (hg : sim.goal g g')
    (ht : Option.Rel sim.found t t') : Ty.anyBelow g t = Ty.anyBelow g' t' := by
  cases ht with
  | none => rfl
  | some ht => exact sim.isSubtype ht hg

theorem couples_synthLam {b b' : Judge (Option Ty)} (hx : x ∈ S)
    (hb : sim.Couples S (Option.Rel sim.found) b b') :
    sim.Couples S (Option.Rel sim.found) (Rule.synthLam x b) (Rule.synthLam x b') := by
  refine Coupled.emit _ _ (.bind (couples_typeOf hx) fun d d' hd => .bind hb fun c c' hc => ?_)
  exact couples_synthesized .lambda (rel_arrow? hd hc)

/-- Either both functions have a function type and their arguments are checked against related
domains, or neither has and both runs end. -/
theorem couples_synthApp {f f' : Judge (Option Ty)} {a a' : Ty → Judge Bool}
    (hf : sim.Couples S (Option.Rel sim.found) f f')
    (ha : ∀ {g g'}, sim.goal g g' → sim.Couples S Eq (a g) (a' g')) :
    sim.Couples S (Option.Rel sim.found) (Rule.synthApp f a) (Rule.synthApp f' a') := by
  refine Coupled.emit _ _ (.bind hf fun t t' ht => ?_)
  cases ht with
  | none => exact .pure .none
  | @some s s' hs =>
    have harrow := sim.found_asArrow? hs
    -- Two function types are left, or two types neither of which is one.
    cases s <;> cases s' <;> cases harrow
    case arrow.arrow.some d c d' c' hparts =>
      refine .bind (ha (sim.goal_of_found hparts.1)) fun b b' hb => ?_
      subst hb
      cases b with
      | false => exact couples_synthesized .application .none
      | true => exact couples_synthesized .application (.some hparts.2)
    all_goals exact .pure .none

theorem couples_synthLet {b b' c c' : Judge (Option Ty)} (hx : sim.writes x)
    (hb : sim.Couples S (Option.Rel sim.found) b b')
    (hc : sim.Couples (x :: S) (Option.Rel sim.found) c c') :
    sim.Couples S (Option.Rel sim.found) (Rule.synthLet x b c) (Rule.synthLet x b' c') := by
  refine Coupled.emit _ _ (.bind hb fun t t' ht => ?_)
  -- From here to the end of the body `x` has related types; afterwards that is forgotten.
  refine .weaken (Q := sim.At (x :: S)) ?_ fun _ _ h => h.mono (List.subset_cons_self x S)
  refine .bind (.assign fun _ _ h => h.bind hx ht) fun _ _ _ => ?_
  cases ht with
  | none => exact couples_synthesized .letIn .none
  | some _ => exact .bind hc fun r r' hr => couples_synthesized .letIn hr

theorem couples_synthInter {m m' : Judge (Option (List Ty))}
    (hm : sim.Couples S (Option.Rel (List.Forall₂ sim.found)) m m') :
    sim.Couples S (Option.Rel sim.found) (Rule.synthInter m) (Rule.synthInter m') := by
  refine Coupled.emit _ _ (.bind hm fun ts ts' hts => ?_)
  cases hts with
  | none => exact .pure .none
  | some hts => exact couples_synthesized .intersect (rel_inter? hts)

theorem couples_synthCons {m m' : Judge (Option Ty)} {k k' : Judge (Option (List Ty))}
    (hm : sim.Couples S (Option.Rel sim.found) m m')
    (hk : sim.Couples S (Option.Rel (List.Forall₂ sim.found)) k k') :
    sim.Couples S (Option.Rel (List.Forall₂ sim.found)) (Rule.synthCons m k)
      (Rule.synthCons m' k') := by
  refine Coupled.bind hm fun t t' ht => ?_
  cases ht with
  | none => exact .pure .none
  | some ht =>
    refine .bind hk fun ts ts' hts => .pure ?_
    cases hts with
    | none => exact .none
    | some hts => exact .some (.cons ht hts)

theorem couples_checkLam {b b' : Ty → Judge Bool} {g g' : Ty} (hx : x ∈ S)
    (hb : ∀ {g g'}, sim.goal g g' → sim.Couples S Eq (b g) (b' g')) (hg : sim.goal g g') :
    sim.Couples S Eq (Rule.checkLam x b g) (Rule.checkLam x b' g') := by
  refine Coupled.emit _ _ ?_
  have harrow := sim.goal_asArrow? hg
  cases g <;> cases g' <;> cases harrow
  case arrow.arrow.some d c d' c' hparts =>
    refine .bind (couples_typeOf hx) fun t t' ht => ?_
    have hbelow : Ty.anyBelow d t = Ty.anyBelow d' t' := anyBelow_eq hparts.1 ht
    simp only [hbelow]
    split
    · exact .bind (hb hparts.2) fun r r' hr => couples_checked .lambda _ _ hr
    · exact couples_checked .lambda _ _ rfl
  all_goals exact couples_checked .lambda _ _ rfl

theorem couples_checkApp {f f' : Ty → Judge Bool} {a a' : Judge (Option Ty)} {g g' : Ty}
    (hf : ∀ {g g'}, sim.goal g g' → sim.Couples S Eq (f g) (f' g'))
    (ha : sim.Couples S (Option.Rel sim.found) a a') (hg : sim.goal g g') :
    sim.Couples S Eq (Rule.checkApp f a g) (Rule.checkApp f' a' g') := by
  refine Coupled.emit _ _ (.bind ha fun t t' ht => ?_)
  cases ht with
  | none => exact couples_checked .application _ _ rfl
  | some ht =>
    exact .bind (hf (sim.goal_arrow ht hg)) fun r r' hr => couples_checked .application _ _ hr

theorem couples_subsume (k : Kind) {m m' : Judge (Option Ty)} {g g' : Ty}
    (hm : sim.Couples S (Option.Rel sim.found) m m') (hg : sim.goal g g') :
    sim.Couples S Eq (Rule.subsume k m g) (Rule.subsume k m' g') :=
  Coupled.emit _ _ (.bind hm fun _ _ ht => couples_checked k g g' (anyBelow_eq hg ht))

/-! ## The judgments -/

/-- Both judgments of an expression keep the simulation at `S`. -/
structure Respected (sim : Simulation) (S : List Name) (e : Expr) : Prop where
  /-- Synthesis finds related types, or none in either run. -/
  synth : sim.Couples S (Option.Rel sim.found) (synth e) (synth e)
  /-- Checking against related goals gives one answer. -/
  check : ∀ {g g'}, sim.goal g g' → sim.Couples S Eq (check e g) (check e g')

namespace Respected

/-- An expression that is checked by synthesis and a subtype test only needs its synthesis. -/
theorem of_synth {e : Expr} (hl : e.kind ≠ .lambda) (ha : e.kind ≠ .application)
    (h : sim.Couples S (Option.Rel sim.found) (Bidirectional.synth e) (Bidirectional.synth e)) :
    sim.Respected S e := by
  refine ⟨h, fun {g g'} hg => ?_⟩
  rw [check_eq_subsume hl ha, check_eq_subsume hl ha]
  exact couples_subsume e.kind h hg

theorem var (hx : x ∈ S) : sim.Respected S (.var x) := by
  refine of_synth nofun nofun ?_
  exact Coupled.emit _ _ (.bind (couples_typeOf hx) fun _ _ ht => couples_synthesized .variable ht)

theorem lam {b : Expr} (hx : x ∈ S) (hb : sim.Respected S b) : sim.Respected S (.lam x b) :=
  ⟨couples_synthLam hx hb.synth, couples_checkLam hx hb.check⟩

theorem app {f a : Expr} (hf : sim.Respected S f) (ha : sim.Respected S a) :
    sim.Respected S (.app f a) :=
  ⟨couples_synthApp hf.synth ha.check, couples_checkApp hf.check ha.synth⟩

theorem unit : sim.Respected S .unit :=
  of_synth nofun nofun (Coupled.emit _ _ (couples_synthesized .unit (.some sim.unit)))

/-- The body of a `let` is judged where its name has related types, be it free or not. -/
theorem letIn {b c : Expr} (hx : sim.writes x) (hb : sim.Respected S b)
    (hc : sim.Respected (x :: S) c) : sim.Respected S (.letIn x b c) :=
  of_synth nofun nofun (couples_synthLet hx hb.synth hc.synth)

theorem synthAll {es : List Expr} (h : ∀ e ∈ es, sim.Respected S e) :
    sim.Couples S (Option.Rel (List.Forall₂ sim.found)) (Bidirectional.synthAll es)
      (Bidirectional.synthAll es) := by
  induction es with
  | nil => exact Coupled.pure (.some .nil)
  | cons e es ih =>
    obtain ⟨he, hes⟩ := List.forall_mem_cons.mp h
    exact couples_synthCons he.synth (ih hes)

theorem inter {es : List Expr} (h : ∀ e ∈ es, sim.Respected S e) : sim.Respected S (.inter es) :=
  of_synth nofun nofun (couples_synthInter (synthAll h))

end Respected

/-- **The judgments keep every simulation**, at any set of names that has the free names of the
expression, if the names of its `let`s may be written. The body of a `let` is judged at a larger
set. -/
theorem respected (sim : Simulation) {e : Expr} (hw : ∀ x ∈ e.letNames, sim.writes x)
    (hr : e.freeNames ⊆ S) : sim.Respected S e := by
  induction e generalizing S with
  | var x => exact .var (hr List.mem_cons_self)
  | lam x b ih =>
    obtain ⟨hx, hb⟩ := List.cons_subset.mp hr
    exact .lam hx (ih hw hb)
  | app f a ihf iha =>
    obtain ⟨hwf, hwa⟩ := List.forall_mem_append.mp hw
    obtain ⟨hrf, hra⟩ := List.append_subset.mp hr
    exact .app (ihf hwf hrf) (iha hwa hra)
  | unit => exact .unit
  | letIn x b c ihb ihc =>
    obtain ⟨hx, hwbc⟩ := List.forall_mem_cons.mp hw
    obtain ⟨hwb, hwc⟩ := List.forall_mem_append.mp hwbc
    obtain ⟨hrb, hrc⟩ := List.append_subset.mp hr
    refine .letIn hx (ihb hwb hrb) (ihc hwc ?_)
    intro y hy
    by_cases hyx : y = x
    · exact hyx ▸ List.mem_cons_self
    · exact List.mem_cons_of_mem x (hrc (List.mem_filter.mpr ⟨hy, by simpa using hyx⟩))
  | inter es ih =>
    apply Respected.inter
    intro e he
    apply ih e he
    · exact fun x hx => hw x (Expr.mem_letNamesAll.mpr ⟨e, he, hx⟩)
    · exact fun x hx => hr (Expr.mem_freeNamesAll.mpr ⟨e, he, hx⟩)

end Simulation

end Bidirectional
