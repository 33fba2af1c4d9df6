import Bidirectional.Proofs.Judgment.Failure
import Bidirectional.Proofs.Judgment.Records

/-!
# Failing fast

Once the log of a judgment has told of a failure, it tells of nothing else: nothing more is judged,
nothing succeeds and no name is given another type. What is left to be done is to leave the
expressions around the place of the failure, each of which fails in its turn or is left without a
word. A lambda whose parameter has no type is no exception, although its body is judged: that the
parameter has no type is made known only after the body.

It is shown on the rules for runs that fail. Before the part that fails there are successful parts
only, and after it there are exits without success, and the name of a `let` without a type.

## Main definitions

* `FailureFree`: a list of events without a failure
* `FailFast`: a list of events with nothing but failures after a failure
* `Run.FailsFast`: the log of a run tells of no progress after a failure, and then the run fails

## Main results

* `Derives.failureFree`: a successful run makes no failure known
* `Fails.failFast`: a failing run makes nothing but failures known after the first failure
* `judgments_fail_fast`: the judgments fail fast
-/

namespace Bidirectional

open Rule (synthesis checking noSynthesis noChecking)

/-- No event makes a failure known. -/
def FailureFree (l : List Event) : Prop :=
  ∀ ev ∈ l, ev.isFailure = false

/-- An event after one that makes a failure known makes a failure known. -/
def FailFast (l : List Event) : Prop :=
  l.Pairwise fun ev later => ev.isFailure = true → later.isFailure = true

/-- The log of a run tells of no progress after it has told of a failure, and if it has told of one
the answer is `failed`. Each of its records tells of a failure or of progress, and not of both. -/
structure Run.FailsFast {α : Type} (r : Run α) (failed : α) : Prop where
  /-- Every record is of one of the two classes. -/
  saysProgress_iff : ∀ record ∈ r.log, record.SaysProgress ↔ ¬ record.SaysFailure
  /-- No progress after a failure. -/
  failFast : r.log.Pairwise fun record later => record.SaysFailure → ¬ later.SaysProgress
  /-- The run itself fails. -/
  answer_eq : ∀ record ∈ r.log, record.SaysFailure → r.answer = failed

variable {l l' : List Event} {v : Verdict} {q : Question} {G G' : Env}

/-! ## Runs that succeed -/

namespace FailureFree

theorem append (h : FailureFree l) (h' : FailureFree l') : FailureFree (l ++ l') :=
  List.forall_mem_append.mpr ⟨h, h'⟩

/-- An entry before and an exit after, neither of which is a failure. -/
theorem enclose {a b : Event} (h : FailureFree l) (ha : a.isFailure = false)
    (hb : b.isFailure = false) : FailureFree (a :: (l ++ [b])) := by
  refine List.forall_mem_cons.mpr ⟨ha, h.append ?_⟩
  exact List.forall_mem_singleton.mpr hb

theorem synthesis (k : Kind) (t : Ty) (h : FailureFree l) : FailureFree (synthesis k l t) :=
  h.enclose rfl rfl

theorem checking (k : Kind) (g : Ty) (h : FailureFree l) : FailureFree (checking k g l) :=
  h.enclose rfl rfl

/-- Giving a type to a name is no failure. -/
theorem assign (x : Name) (s : Ty) (G : Env) :
    FailureFree (Judge.assign x (some s) G).events := by
  intro ev hev
  rw [Judge.assign] at hev
  dsimp only at hev
  split at hev
  · rw [List.mem_singleton.mp hev]
    rfl
  · cases hev

end FailureFree

/-- **A successful run makes no failure known.** -/
theorem Derives.failureFree (h : Derives v G l G') : FailureFree l := by
  induction h with
  | var | unit => exact FailureFree.synthesis _ _ nofun
  | nil => exact nofun
  | lam _ _ ih | inter _ _ ih => exact ih.synthesis _ _
  | app _ _ ihf iha => exact (ihf.append iha).synthesis _ _
  | letIn _ _ ihb ihc => exact ((ihb.append (.assign _ _ _)).append ihc).synthesis _ _
  | cons _ _ ihe ihes => exact ihe.append ihes
  | checkLam _ _ _ ih | subsume _ _ _ _ ih => exact ih.checking _ _
  | checkApp _ _ iha ihf => exact (iha.append ihf).checking _ _

/-! ## Runs that fail -/

namespace FailFast

theorem of_failureFree (h : FailureFree l) : FailFast l := by
  refine List.pairwise_of_forall_mem_list fun ev hev later _ hfail => ?_
  rw [h ev hev] at hfail
  cases hfail

/-- What comes before may be anything but failures. -/
theorem append_left (h : FailFast l) (hl' : FailureFree l') : FailFast (l' ++ l) := by
  refine List.pairwise_append.mpr ⟨of_failureFree hl', h, fun ev hev later _ hfail => ?_⟩
  rw [hl' ev hev] at hfail
  cases hfail

/-- What comes after has to be failures. -/
theorem append_right (h : FailFast l) (hl' : ∀ ev ∈ l', ev.isFailure = true) :
    FailFast (l ++ l') := by
  refine List.pairwise_append.mpr ⟨h, ?_, fun _ _ later hmem _ => hl' later hmem⟩
  exact List.pairwise_of_forall_mem_list fun _ _ later hmem _ => hl' later hmem

theorem cons {ev : Event} (h : FailFast l) (hev : ev.isFailure = false) : FailFast (ev :: l) :=
  h.append_left (List.forall_mem_singleton.mpr hev)

/-- An entry before, and an exit after that is a failure. -/
theorem enclose {a b : Event} (h : FailFast l) (ha : a.isFailure = false)
    (hb : b.isFailure = true) : FailFast (a :: (l ++ [b])) :=
  (h.append_right (List.forall_mem_singleton.mpr hb)).cons ha

theorem noSynthesis (k : Kind) (h : FailFast l) : FailFast (noSynthesis k l) :=
  h.enclose rfl rfl

theorem noChecking (k : Kind) (g : Ty) (h : FailFast l) : FailFast (noChecking k g l) :=
  h.enclose rfl rfl

end FailFast

/-- **A failing run makes nothing but failures known after the first failure.** -/
theorem Fails.failFast (h : Fails q G l G') : FailFast l := by
  induction h with
  | var => exact FailFast.noSynthesis _ .nil
  | lamParam _ body => exact (FailFast.of_failureFree body.failureFree).noSynthesis _
  | lamBody _ ih => exact ih.noSynthesis _
  | appFn _ ih => exact ih.cons rfl
  | appNotArrow fn => exact (FailFast.of_failureFree fn.failureFree).cons rfl
  | appArg fn _ ih => exact (ih.append_left fn.failureFree).noSynthesis _
  | letBound _ ih => exact (ih.append_right (List.forall_mem_singleton.mpr rfl)).noSynthesis _
  | letBody bound _ ih =>
    refine (ih.append_left ?_).noSynthesis _
    exact bound.failureFree.append (.assign _ _ _)
  | interMembers _ ih => exact ih.cons rfl
  | interEmpty => exact FailFast.noSynthesis _ .nil
  | first _ ih => exact ih
  | rest first _ ih => exact ih.append_left first.failureFree
  | checkLamGoal | checkLamParam => exact FailFast.noChecking _ _ .nil
  | checkLamBody _ _ ih => exact ih.noChecking _ _
  | checkAppArg _ ih => exact ih.noChecking _ _
  | checkAppFn arg _ ih => exact (ih.append_left arg.failureFree).noChecking _ _
  | subsume _ _ _ ih => exact ih.noChecking _ _
  | notBelow _ _ found =>
    exact (FailFast.of_failureFree found.failureFree).noChecking _ _

/-! ## The log -/

/-- A run fails fast if it makes no failure known unless it fails, and if it fails makes nothing else
known after a failure. -/
theorem Run.FailsFast.of_cases {α : Type} {r : Run α} {failed : α}
    (hsucc : r.answer ≠ failed → FailureFree r.events)
    (hfail : r.answer = failed → FailFast r.events) : r.FailsFast failed := by
  have hevents : FailFast r.events := by
    by_cases h : r.answer = failed
    · exact hfail h
    · exact .of_failureFree (hsucc h)
  refine ⟨List.forall_mem_map.mpr fun ev _ => ?_,
    List.pairwise_map.mpr (List.Pairwise.imp (fun hlater hrecord => ?_) hevents),
    List.forall_mem_map.mpr fun ev hev hrecord => ?_⟩
  · rw [Event.record_saysProgress_iff, Event.record_saysFailure_iff, Bool.not_eq_true]
  · have hfailure := hlater (Event.record_saysFailure_iff.mp hrecord)
    exact (Event.record_saysFailure hfailure).not_saysProgress
  · refine Classical.byContradiction fun h => ?_
    have hfree := hsucc h ev hev
    rw [Event.record_saysFailure_iff.mp hrecord] at hfree
    cases hfree

/-- **The judgments fail fast.** After a record that tells of a failure no record tells that a
judgment begins or succeeds, or that a bound name is given a type, and the answer is no type, or
`false`. -/
theorem judgments_fail_fast (e : Expr) (G : Env) :
    (synth e G).FailsFast none ∧ ∀ g, (check e g G).FailsFast false := by
  constructor
  · refine .of_cases (fun h => ?_) fun h => (synth_fails h).failFast
    obtain ⟨t, ht⟩ := Option.ne_none_iff_exists'.mp h
    exact (synth_answer_iff.mp ht).failureFree
  · intro g
    refine .of_cases (fun h => ?_) fun h => (check_fails h).failFast
    exact (check_answer_iff.mp (eq_true_of_ne_false h)).failureFree

/-- That the parameter `x` has no type is told last, after the failure in the body. -/
example : (synth (.lam "x" (.letIn "y" (.var "z") (.var "y"))) ∅).log.map Log.Record.render =
    ["TRACE synthesize lambda", "TRACE synthesize let", "TRACE synthesize variable",
      "TRACE variable => no type", "DEBUG let y: bound expression has no type",
      "TRACE let => no type", "TRACE lambda => no type"] := by
  decide

end Bidirectional
