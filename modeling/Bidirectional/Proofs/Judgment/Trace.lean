import Bidirectional.Proofs.Judgment.Failure
import Bidirectional.Proofs.Judgment.Records

/-!
# The trace of a judgment

A judgment comes by each node of its expression at most once. It shows by the entries of the trace:
a node that is synthesized has an entry of synthesis, a lambda or an application that is checked has
an entry of checking, and any other node that is checked has both, checking first and then the
synthesis of the same node. A judgment that succeeds has come by every node. Its trace is then well
bracketed: each entry is closed by an exit of the same mode and kind that tells of success. An
application or an intersection is left without an exit in a failing run only.

Nodes are counted along the rules. In a run that fails each part has been judged once at most, and
the parts that succeeded have been entered as often as they have nodes.

## Main definitions

* `Log.entries`: the number of nodes that are entered according to a log
* `Log.trace`: the records of a log that are at the level of the trace
* `Log.Record.Closes`, `Log.WellBracketed`: entries closed by exits with success, in the manner of
  brackets
* `visits`: the number of nodes that a list of events enters

## Main results

* `Derives.visits_eq`, `Fails.visits_le`: the nodes that a run comes by
* `Derives.wellBracketed`: the trace of a successful run is well bracketed
* `judgments_visit_once`: a node is judged once at most, and exactly once in a run that succeeds
-/

namespace Bidirectional

open Rule (synthesis checking noSynthesis noChecking)

namespace Log

open Classical in
/-- The number of nodes that are entered according to a log: the entries of synthesis, and those of
checking a lambda or an application. Any other node that is checked is entered by the synthesis that
follows. -/
noncomputable def entries (log : List Record) : Nat :=
  log.countP (∃ k, ·.SaysSynthesize k) +
    log.countP (∃ k t, (k = .lambda ∨ k = .application) ∧ ·.SaysCheck k t)

/-- The records of the trace. -/
def trace (log : List Record) : List Record :=
  log.filter fun r => r.level = .trace

/-- The exit `b` tells of the success of what the entry `a` began. -/
inductive Record.Closes (a b : Record) : Prop
  | synth {k : Kind} {t : Ty} (entry : a.SaysSynthesize k) (exit : b.SaysType k t) : Closes a b
  | check {k : Kind} {t : Ty} (entry : a.SaysCheck k t) (exit : b.SaysTrue k t) : Closes a b

/-- Entries and exits in the manner of brackets: every entry is closed by an exit with success, and
what is in between is well bracketed. -/
inductive WellBracketed : List Record → Prop
  | nil : WellBracketed []
  | pair {a b : Record} {l l' : List Record} (closes : a.Closes b) (inner : WellBracketed l)
      (rest : WellBracketed l') : WellBracketed (a :: (l ++ b :: l'))

end Log

/-- A run on `n` nodes enters no node twice, as its log tells. If it succeeds it enters all nodes,
and its trace is well bracketed. -/
structure Run.VisitsOnce {α : Type} (r : Run α) (n : Nat) (succeeded : α → Prop) : Prop where
  /-- At most one entry for each node. -/
  entries_le : Log.entries r.log ≤ n
  /-- In a success, one entry for each node. -/
  entries_eq : succeeded r.answer → Log.entries r.log = n
  /-- In a success, every entry of the trace is closed. -/
  wellBracketed : succeeded r.answer → Log.WellBracketed (Log.trace r.log)

variable {v : Verdict} {q : Question} {G G' : Env} {l l' : List Event} {k : Kind} {g t : Ty}

/-! ## Counting entries -/

/-- The number of nodes that are entered. -/
def visits (l : List Event) : Nat :=
  l.countP Event.isSynthEntry + l.countP Event.isCheckEntry

open Classical in
theorem Run.entries_log {α : Type} (r : Run α) : Log.entries r.log = visits r.events := by
  rw [Log.entries, r.countP_log fun _ => Event.record_entersSynth_iff,
    r.countP_log fun _ => Event.record_entersCheck_iff, visits]

@[simp]
theorem visits_append : visits (l ++ l') = visits l + visits l' := by
  rw [visits, List.countP_append, List.countP_append, Nat.add_add_add_comm]
  rfl

/-- An entry before counts, and so does what is in between; the exit after does not. -/
theorem visits_enclose {a b : Event} (hb : visits [b] = 0) :
    visits (a :: (l ++ [b])) = visits l + visits [a] := by
  rw [← List.singleton_append, visits_append, visits_append, hb, Nat.add_comm]
  rfl

@[simp]
theorem visits_enterSynth : visits (.enterSynth k :: l) = visits l + 1 := by
  rw [← List.singleton_append, visits_append, Nat.add_comm]
  rfl

@[simp]
theorem visits_synthesis : visits (synthesis k l t) = visits l + 1 :=
  visits_enclose rfl

@[simp]
theorem visits_noSynthesis : visits (noSynthesis k l) = visits l + 1 :=
  visits_enclose rfl

theorem visits_checking : visits (checking k g l) = visits l + visits [.enterCheck k g] :=
  visits_enclose rfl

theorem visits_noChecking : visits (noChecking k g l) = visits l + visits [.enterCheck k g] :=
  visits_enclose rfl

/-- A node that is neither a lambda nor an application is not entered by checking alone. -/
theorem visits_enterCheck_eq_zero (hl : k ≠ .lambda) (ha : k ≠ .application) (g : Ty) :
    visits [.enterCheck k g] = 0 := by
  have hentry : Event.isCheckEntry (.enterCheck k g) ≠ true := by
    rw [Ne, Event.isCheckEntry_enterCheck, not_or]
    exact ⟨hl, ha⟩
  rw [visits, List.countP_singleton, List.countP_singleton, if_neg hentry]
  rfl

/-- No node is entered by giving a type to a name. -/
@[simp]
theorem visits_assign (x : Name) (s : Ty) (G : Env) :
    visits (Judge.assign x (some s) G).events = 0 := by
  rw [Judge.assign]
  dsimp only
  split <;> rfl

/-- The number of nodes that a verdict is about. -/
def Verdict.nodes : Verdict → Nat
  | .synth e _ => e.nodes
  | .check e _ => e.nodes
  | .members es _ => Expr.nodesAll es

/-- The number of nodes that a question is about. -/
def Question.nodes : Question → Nat
  | .synth e => e.nodes
  | .check e _ => e.nodes
  | .members es => Expr.nodesAll es

/-- **A successful run enters every node once.** -/
theorem Derives.visits_eq (h : Derives v G l G') : visits l = v.nodes := by
  induction h with
  | var | unit | nil => rfl
  | lam _ _ ih | inter _ _ ih =>
    rw [visits_synthesis, ih]
    rfl
  | app _ _ ihf iha =>
    rw [visits_synthesis, visits_append, ihf, iha]
    rfl
  | letIn _ _ ihb ihc =>
    rw [visits_synthesis, visits_append, visits_append, visits_assign, ihb, ihc]
    rfl
  | cons _ _ ihe ihes =>
    rw [visits_append, ihe, ihes]
    rfl
  | checkLam _ _ _ ih =>
    rw [visits_checking, ih]
    rfl
  | checkApp _ _ iha ihf =>
    rw [visits_checking, visits_append, iha, ihf, Nat.add_comm (Verdict.nodes _)]
    rfl
  | subsume notLam notApp _ _ ih =>
    rw [visits_checking, visits_enterCheck_eq_zero notLam notApp, ih]
    rfl

/-- **A failing run enters no node twice.** -/
theorem Fails.visits_le (h : Fails q G l G') : visits l ≤ q.nodes := by
  induction h with
  | var | interEmpty =>
    rw [visits_noSynthesis]
    exact Nat.le_refl 1
  | lamParam _ body =>
    rw [visits_noSynthesis, body.visits_eq]
    exact Nat.le_refl _
  | lamBody _ ih =>
    rw [visits_noSynthesis]
    exact Nat.succ_le_succ ih
  | appFn _ ih =>
    rw [visits_enterSynth]
    exact Nat.succ_le_succ (Nat.le_add_right_of_le ih)
  | appNotArrow fn =>
    rw [visits_enterSynth, fn.visits_eq]
    exact Nat.succ_le_succ (Nat.le_add_right _ _)
  | appArg fn _ ih =>
    rw [visits_noSynthesis, visits_append, fn.visits_eq]
    exact Nat.succ_le_succ (Nat.add_le_add_left ih _)
  | letBound _ ih =>
    rw [visits_noSynthesis, visits_append]
    exact Nat.succ_le_succ (Nat.le_add_right_of_le ih)
  | letBody bound _ ih =>
    rw [visits_noSynthesis, visits_append, visits_append, visits_assign, bound.visits_eq]
    exact Nat.succ_le_succ (Nat.add_le_add_left ih _)
  | interMembers _ ih =>
    rw [visits_enterSynth]
    exact Nat.succ_le_succ ih
  | first _ ih => exact Nat.le_add_right_of_le ih
  | rest first _ ih =>
    rw [visits_append, first.visits_eq]
    exact Nat.add_le_add_left ih _
  | checkLamGoal | checkLamParam =>
    rw [visits_noChecking]
    exact Nat.succ_le_succ (Nat.zero_le _)
  | checkLamBody _ _ ih =>
    rw [visits_noChecking]
    exact Nat.succ_le_succ ih
  | checkAppArg _ ih =>
    rw [visits_noChecking]
    exact Nat.succ_le_succ (Nat.le_add_left_of_le ih)
  | checkAppFn arg _ ih =>
    rw [visits_noChecking, visits_append, arg.visits_eq, Nat.add_comm (Verdict.nodes _)]
    exact Nat.succ_le_succ (Nat.add_le_add_right ih _)
  | subsume notLam notApp _ ih =>
    rw [visits_noChecking, visits_enterCheck_eq_zero notLam notApp]
    exact ih
  | notBelow notLam notApp found =>
    rw [visits_noChecking, visits_enterCheck_eq_zero notLam notApp, found.visits_eq]
    exact Nat.le_refl _

/-! ## Brackets -/

/-- The records of the trace that are made of a list of events. -/
def traceOf (l : List Event) : List Log.Record :=
  Log.trace (l.map Event.record)

namespace Log.WellBracketed

variable {rs rs' : List Log.Record}

theorem append (h : WellBracketed rs) (h' : WellBracketed rs') : WellBracketed (rs ++ rs') := by
  induction h with
  | nil => exact h'
  | pair closes inner _ _ ih =>
    rw [List.cons_append, List.append_assoc, List.cons_append]
    exact .pair closes inner ih

theorem enclose {a b : Log.Record} (h : WellBracketed rs) (closes : a.Closes b) :
    WellBracketed (a :: (rs ++ [b])) :=
  .pair closes h .nil

end Log.WellBracketed

@[simp]
theorem traceOf_append : traceOf (l ++ l') = traceOf l ++ traceOf l' := by
  rw [traceOf, List.map_append, Log.trace, List.filter_append]
  rfl

/-- What happens to the name of a `let` is not told in the trace. -/
@[simp]
theorem traceOf_assign (x : Name) (s : Ty) (G : Env) :
    traceOf (Judge.assign x (some s) G).events = [] := by
  rw [Judge.assign]
  dsimp only
  split <;> rfl

/-- An entry and an exit of the trace around other events. -/
theorem traceOf_enclose {a b : Event} (ha : a.level = .trace) (hb : b.level = .trace) :
    traceOf (a :: (l ++ [b])) = a.record :: (traceOf l ++ [b.record]) := by
  simp [traceOf, Log.trace, Event.record, ha, hb]

theorem wellBracketed_synthesis (k : Kind) (t : Ty) (h : Log.WellBracketed (traceOf l)) :
    Log.WellBracketed (traceOf (synthesis k l t)) := by
  rw [synthesis, traceOf_enclose rfl rfl]
  exact h.enclose (.synth rfl rfl)

theorem wellBracketed_checking (k : Kind) (g : Ty) (h : Log.WellBracketed (traceOf l)) :
    Log.WellBracketed (traceOf (checking k g l)) := by
  rw [checking, traceOf_enclose rfl rfl]
  exact h.enclose (.check rfl (Event.record_saysTrue k g))

/-- **The trace of a successful run is well bracketed.** -/
theorem Derives.wellBracketed (h : Derives v G l G') : Log.WellBracketed (traceOf l) := by
  induction h with
  | var | unit => exact wellBracketed_synthesis _ _ .nil
  | nil => exact .nil
  | lam _ _ ih | inter _ _ ih => exact wellBracketed_synthesis _ _ ih
  | app _ _ ihf iha =>
    apply wellBracketed_synthesis
    rw [traceOf_append]
    exact ihf.append iha
  | letIn _ _ ihb ihc =>
    apply wellBracketed_synthesis
    rw [traceOf_append, traceOf_append, traceOf_assign, List.append_nil]
    exact ihb.append ihc
  | cons _ _ ihe ihes =>
    rw [traceOf_append]
    exact ihe.append ihes
  | checkLam _ _ _ ih | subsume _ _ _ _ ih => exact wellBracketed_checking _ _ ih
  | checkApp _ _ iha ihf =>
    apply wellBracketed_checking
    rw [traceOf_append]
    exact iha.append ihf

/-! ## Both judgments -/

theorem Run.VisitsOnce.of_cases {α : Type} {r : Run α} {n : Nat} {succeeded : α → Prop}
    (hsucc : succeeded r.answer →
      visits r.events = n ∧ Log.WellBracketed (traceOf r.events))
    (hfail : ¬ succeeded r.answer → visits r.events ≤ n) : r.VisitsOnce n succeeded := by
  rw [← r.entries_log] at hsucc hfail
  refine ⟨?_, fun h => (hsucc h).1, fun h => (hsucc h).2⟩
  by_cases h : succeeded r.answer
  · exact Nat.le_of_eq (hsucc h).1
  · exact hfail h

/-- **A node is judged once at most, and exactly once in a run that succeeds.** The log has no more
entries than there are nodes. In a run that succeeds it has as many, and the trace is well bracketed:
every entry is closed by an exit of the same mode, kind and goal that tells of success. -/
theorem judgments_visit_once (e : Expr) (G : Env) :
    (synth e G).VisitsOnce e.nodes (fun t => t.isSome = true) ∧
      ∀ g, (check e g G).VisitsOnce e.nodes (fun ok => ok = true) := by
  constructor
  · refine .of_cases (fun h => ?_) fun h => ?_
    · obtain ⟨t, ht⟩ := Option.isSome_iff_exists.mp h
      have hder := synth_answer_iff.mp ht
      exact ⟨hder.visits_eq, hder.wellBracketed⟩
    · exact (synth_fails (Option.not_isSome_iff_eq_none.mp h)).visits_le
  · intro g
    refine .of_cases (fun h => ?_) fun h => ?_
    · have hder := check_answer_iff.mp h
      exact ⟨hder.visits_eq, hder.wellBracketed⟩
    · exact (check_fails (eq_false_of_ne_true h)).visits_le

/-- Six nodes: an application and a lambda that are checked, a `let` that is checked by synthesis
and so is entered in both modes, and three more. -/
theorem judgments_visit_once_let :
    (check (.app (.lam "x" (.letIn "y" (.var "x") (.var "y"))) .unit) .unit
        (Env.ofBindings [("x", some .unit)])).answer = true ∧
      Log.entries (check (.app (.lam "x" (.letIn "y" (.var "x") (.var "y"))) .unit) .unit
        (Env.ofBindings [("x", some .unit)])).log = 6 ∧
      Log.WellBracketed (Log.trace (check (.app (.lam "x" (.letIn "y" (.var "x") (.var "y"))) .unit)
        .unit (Env.ofBindings [("x", some .unit)])).log) := by
  have hbound : Derives (.synth (.var "x") .unit) (Env.ofBindings [("x", some .unit)]) _ _ :=
    .var (by decide)
  have hbody : Derives (.check (.letIn "y" (.var "x") (.var "y")) .unit)
      (Env.ofBindings [("x", some .unit)]) _ _ :=
    .subsume nofun nofun (.letIn hbound (.var (by decide))) Ty.isSubtype_unit_unit
  have hfn : Derives (.check (.lam "x" (.letIn "y" (.var "x") (.var "y"))) (.arrow .unit .unit))
      (Env.ofBindings [("x", some .unit)]) _ _ :=
    .checkLam (by decide) Ty.isSubtype_unit_unit hbody
  have hok := congrArg Run.answer (Derives.checkApp .unit hfn).reached
  refine ⟨hok, ?_⟩
  have honce := (judgments_visit_once (.app (.lam "x" (.letIn "y" (.var "x") (.var "y"))) .unit)
    (Env.ofBindings [("x", some .unit)])).2 .unit
  exact ⟨honce.entries_eq hok, honce.wellBracketed hok⟩

end Bidirectional
