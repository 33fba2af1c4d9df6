import Bidirectional.CommandLine.Output

/-!
# Runs of named programs

A request to run programs by their names is all or nothing. The names are looked up first, from left
to right, and the first that the catalogue does not have is the error; then nothing has run, so
nothing is printed and nothing logged. If the catalogue has all of them, each is run in an
environment of its own. What is printed for a program, and what its log shows, depends on the
program alone, however often it was run before and whatever was run before it; how much of the log is
shown makes no difference to what is printed. All programs of the catalogue have the outcome that is
expected of them, so the run as a whole succeeds.

The loop over programs is followed one program at a time. Its tally is put together from the shares
of the programs that have been run, and one more program puts its share at the end.

## Main definitions

* `Catalogue.names`: the names of the programs
* `CommandLine.Tally.ofPrograms`: what is printed, logged and counted for a list of programs
* `CommandLine.blockOf`, `CommandLine.logOf`: what the program of a name prints and logs

## Main results

* `Catalogue.passed`: the programs of the catalogue have the outcome expected
* `CommandLine.select_of_unknown`: the error is the first name that is not in the catalogue
* `CommandLine.select_of_known`: known names select their programs in order
* `CommandLine.Tally.next_ofPrograms`, `CommandLine.Tally.foldl_next`: one step of the loop, and all
* `CommandLine.runAll_eq`: a run of programs in closed form
* `CommandLine.runs_all_or_nothing`: what a run of named programs comes to
-/

namespace Bidirectional

namespace Catalogue

/-- The names of the programs, in order. -/
def names : List Name :=
  programs.map Program.name

variable {x : Name} {p : Program}

theorem find?_eq_none_iff : find? x = none ↔ x ∉ names := by
  simp [find?, names]

theorem exists_find?_eq_some (h : x ∈ names) : ∃ p, find? x = some p := by
  apply Option.ne_none_iff_exists'.mp
  rw [Ne, find?_eq_none_iff]
  exact not_not_intro h

theorem name_of_find?_eq_some (h : find? x = some p) : p.name = x := by
  have hname := List.find?_some h
  rwa [beq_iff_eq] at hname

theorem mem_of_find?_eq_some (h : find? x = some p) : p ∈ programs :=
  List.mem_of_find?_eq_some h

/-- **All programs of the catalogue have the outcome expected.** -/
theorem passed : ∀ p ∈ programs, p.run.passed = true := by
  decide +kernel

end Catalogue

namespace CommandLine

variable {x : Name} {xs before : List Name} {p : Program} {ps : List Program}
  {line : Log.Record → String} {v : Log.Verbosity}

/-! ## Looking names up -/

/-- **The error is the first name that the catalogue does not have.** -/
theorem select_of_unknown (hbefore : ∀ y ∈ before, y ∈ Catalogue.names)
    (hx : x ∉ Catalogue.names) (after : List Name) :
    select (before ++ x :: after) = .error x := by
  induction before with
  | nil => rw [List.nil_append, select, Catalogue.find?_eq_none_iff.mpr hx]
  | cons y before ih =>
    obtain ⟨hy, hbefore⟩ := List.forall_mem_cons.mp hbefore
    obtain ⟨q, hfind⟩ := Catalogue.exists_find?_eq_some hy
    rw [List.cons_append, select, hfind]
    dsimp only
    rw [ih hbefore]
    rfl

/-- **Known names select their programs**, one for each name and in the order of the names. -/
theorem select_of_known (h : ∀ x ∈ xs, x ∈ Catalogue.names) :
    ∃ ps, select xs = .ok ps ∧ xs.map Catalogue.find? = ps.map some := by
  induction xs with
  | nil => exact ⟨[], rfl, rfl⟩
  | cons x xs ih =>
    obtain ⟨hx, hxs⟩ := List.forall_mem_cons.mp h
    obtain ⟨p, hfind⟩ := Catalogue.exists_find?_eq_some hx
    obtain ⟨ps, hselect, hfound⟩ := ih hxs
    refine ⟨p :: ps, ?_, ?_⟩
    · rw [select, hfind]
      dsimp only
      rw [hselect]
      rfl
    · rw [List.map_cons, List.map_cons, hfind, hfound]

/-! ## Running programs -/

/-- The text printed for a program. -/
def blockText (p : Program) : String :=
  unlines (block p)

/-- The lines of the log of a program that are shown. -/
def logLines (line : Log.Record → String) (v : Log.Verbosity) (p : Program) : List String :=
  (v.shown p.log).map line

namespace Tally

/-- The tally of a list of programs: the failures among them, their texts and the lines of their
logs. -/
def ofPrograms (line : Log.Record → String) (v : Log.Verbosity) (ps : List Program) : Tally :=
  ⟨ps.countP fun p => !p.run.passed, String.join (ps.map blockText), ps.flatMap (logLines line v)⟩

/-- **One program further**: its share is put at the end. -/
theorem next_ofPrograms (ps : List Program) (p : Program) :
    (ofPrograms line v ps).next line v p = ofPrograms line v (ps ++ [p]) := by
  have hfailures : (ps ++ [p]).countP (fun p => !p.run.passed) =
      if p.run.passed then ps.countP fun p => !p.run.passed
      else ps.countP (fun p => !p.run.passed) + 1 := by
    rw [List.countP_append, List.countP_singleton]
    cases p.run.passed <;> rfl
  have hstdout : String.join ((ps ++ [p]).map blockText) =
      String.join (ps.map blockText) ++ blockText p := by
    rw [List.map_append, String.join_append, List.map_singleton, String.join_cons, String.join_nil,
      String.append_empty]
  have hstderr : (ps ++ [p]).flatMap (logLines line v) =
      ps.flatMap (logLines line v) ++ logLines line v p := by
    rw [List.flatMap_append, List.flatMap_singleton]
  rw [ofPrograms, ofPrograms, hfailures, hstdout, hstderr]
  rfl

/-- **The loop over programs** puts the shares of all of them at the end. -/
theorem foldl_next (before ps : List Program) :
    ps.foldl (next line v) (ofPrograms line v before) = ofPrograms line v (before ++ ps) := by
  induction ps generalizing before with
  | nil => rw [List.foldl_nil, List.append_nil]
  | cons p ps ih =>
    rw [List.foldl_cons, next_ofPrograms, ih, List.append_assoc, List.singleton_append]

end Tally

/-- **A run of programs in closed form.** -/
theorem runAll_eq (line : Log.Record → String) (v : Log.Verbosity) (ps : List Program) :
    runAll line v ps = (Tally.ofPrograms line v ps).finish ps.length := by
  rw [runAll]
  exact congrArg (Tally.finish · ps.length) (Tally.foldl_next [] ps)

/-- **Programs that have the outcome expected** are run to the end, and all that is printed are
their texts and their logs. -/
theorem runAll_of_passed (h : ∀ p ∈ ps, p.run.passed = true) :
    runAll line v ps = ⟨0, String.join (ps.map blockText), ps.flatMap (logLines line v)⟩ := by
  have hcount : ps.countP (fun p => !p.run.passed) = 0 := by
    rw [List.countP_eq_zero]
    intro p hp
    simp [h p hp]
  rw [runAll_eq, Tally.ofPrograms, Tally.finish, hcount, if_neg (Nat.lt_irrefl 0)]

theorem unlines_append (ls ls' : List String) :
    unlines (ls ++ ls') = unlines ls ++ unlines ls' := by
  rw [unlines, List.map_append, String.join_append]
  rfl

/-- The text of a program that has the outcome expected ends in saying so and in a blank line. -/
theorem blockText_of_passed (h : p.run.passed = true) :
    ∃ s, blockText p = s ++ "PASSED\n\n" := by
  have hsplit : block p = (block p).take 5 ++ ["PASSED", ""] := by
    rw [block, h]
    rfl
  refine ⟨unlines ((block p).take 5), ?_⟩
  rw [blockText, hsplit, unlines_append]
  rfl

/-! ## Runs by name -/

/-- The text printed for the program of a name; there is none for other names. -/
def blockOf (x : Name) : String :=
  (Catalogue.find? x).elim "" blockText

/-- The lines of its log that are shown. -/
def logOf (line : Log.Record → String) (v : Log.Verbosity) (x : Name) : List String :=
  (Catalogue.find? x).elim [] (logLines line v)

theorem runNamed_of_ok (hne : xs ≠ []) (h : select xs = .ok ps) :
    runNamed line v xs = runAll line v ps := by
  cases xs with
  | nil => exact absurd rfl hne
  | cons x xs => rw [runNamed, h]

theorem runNamed_of_error (h : select xs = .error x) : runNamed line v xs = unknown x := by
  cases xs with
  | nil => cases h
  | cons y xs => rw [runNamed, h]

/-- Known names are run to the end. -/
theorem answer_run_of_known (hne : xs ≠ []) (h : ∀ x ∈ xs, x ∈ Catalogue.names) :
    answer line (.run v xs) = ⟨0, String.join (xs.map blockOf), xs.flatMap (logOf line v)⟩ := by
  obtain ⟨ps, hselect, hfound⟩ := select_of_known h
  have hpassed : ∀ p ∈ ps, p.run.passed = true := by
    intro p hp
    have hmem : some p ∈ xs.map Catalogue.find? := by
      rw [hfound]
      exact List.mem_map_of_mem hp
    obtain ⟨x, -, hx⟩ := List.mem_map.mp hmem
    exact Catalogue.passed p (Catalogue.mem_of_find?_eq_some hx)
  have hblocks : xs.map blockOf = ps.map blockText := by
    calc xs.map blockOf = (xs.map Catalogue.find?).map (·.elim "" blockText) := by
          rw [List.map_map]
          rfl
      _ = (ps.map some).map (·.elim "" blockText) := by rw [hfound]
      _ = ps.map blockText := by simp only [List.map_map, Function.comp_def, Option.elim_some]
  have hlogs : xs.flatMap (logOf line v) = ps.flatMap (logLines line v) := by
    calc xs.flatMap (logOf line v)
        = (xs.map Catalogue.find?).flatMap (·.elim [] (logLines line v)) := by
          rw [List.flatMap_map]
          rfl
      _ = (ps.map some).flatMap (·.elim [] (logLines line v)) := by rw [hfound]
      _ = ps.flatMap (logLines line v) := by simp only [List.flatMap_map, Option.elim_some]
  rw [hblocks, hlogs, ← runAll_of_passed hpassed, answer, runNamed_of_ok hne hselect]

/-- The first unknown name ends a run before it begins. -/
theorem answer_run_of_unknown (hbefore : ∀ y ∈ before, y ∈ Catalogue.names)
    (hx : x ∉ Catalogue.names) (after : List Name) :
    answer line (.run v (before ++ x :: after)) =
      ⟨1, "", ["Error: UnknownProgram \x7b name: " ++ Text.quoted x ++ " \x7d"]⟩ := by
  rw [answer, runNamed_of_error (select_of_unknown hbefore hx after), unknown]

/-- A list with an unknown name is cut at the first of them. -/
theorem exists_first_unknown (h : ∃ x ∈ xs, x ∉ Catalogue.names) :
    ∃ before x after, xs = before ++ x :: after ∧ (∀ y ∈ before, y ∈ Catalogue.names) ∧
      x ∉ Catalogue.names := by
  have hsome : (xs.find? (· ∉ Catalogue.names)).isSome = true := by
    rw [List.find?_isSome]
    simpa using h
  obtain ⟨x, hx⟩ := Option.isSome_iff_exists.mp hsome
  obtain ⟨hnew, before, after, hcut, hbefore⟩ := List.find?_eq_some_iff_append.mp hx
  exact ⟨before, x, after, hcut, by simpa using hbefore, by simpa using hnew⟩

/-- **A run of named programs is all or nothing.** If the catalogue does not have all the names, the
first unknown one is reported, and nothing else is printed or logged. If it has all of them, the run
succeeds; what is printed are the texts of the programs in the order of the names, each of them
ending in `PASSED` and a blank line, and what is logged are their logs at the level in effect,
however a record is laid out as a line. Text and log go by the name alone. -/
theorem runs_all_or_nothing (line : Log.Record → String) (v : Log.Verbosity) (xs : List Name)
    (hne : xs ≠ []) :
    ((∃ x ∈ xs, x ∉ Catalogue.names) →
        ∃ before x after, xs = before ++ x :: after ∧ (∀ y ∈ before, y ∈ Catalogue.names) ∧
          x ∉ Catalogue.names ∧
          answer line (.run v xs) =
            ⟨1, "", ["Error: UnknownProgram \x7b name: " ++ Text.quoted x ++ " \x7d"]⟩) ∧
      ((∀ x ∈ xs, x ∈ Catalogue.names) →
        answer line (.run v xs) = ⟨0, String.join (xs.map blockOf), xs.flatMap (logOf line v)⟩ ∧
          ∀ x ∈ xs, ∃ p ∈ Catalogue.programs, p.name = x ∧ blockOf x = blockText p ∧
            logOf line v x = logLines line v p ∧ ∃ s, blockText p = s ++ "PASSED\n\n") := by
  constructor
  · intro h
    obtain ⟨before, x, after, rfl, hbefore, hx⟩ := exists_first_unknown h
    exact ⟨before, x, after, rfl, hbefore, hx, answer_run_of_unknown hbefore hx after⟩
  · intro h
    refine ⟨answer_run_of_known hne h, fun x hx => ?_⟩
    obtain ⟨p, hfind⟩ := Catalogue.exists_find?_eq_some (h x hx)
    have hp := Catalogue.mem_of_find?_eq_some hfind
    refine ⟨p, hp, Catalogue.name_of_find?_eq_some hfind, ?_, ?_,
      blockText_of_passed (Catalogue.passed p hp)⟩
    · rw [blockOf, hfind, Option.elim_some]
    · rw [logOf, hfind, Option.elim_some]

/-- A program with a `let` that is run again after another one prints and logs the same again: its
name is not overwritten, which the log would tell. With unknown names after it nothing is run, and
the first of them is reported. -/
theorem runs_all_or_nothing_repeated :
    (∀ x ∈ ["let-intersection-lambda", "unbound-variable", "let-intersection-lambda"],
        x ∈ Catalogue.names) ∧
      answer Log.Record.render
          (.run .debug ["let-intersection-lambda", "unbound-variable", "let-intersection-lambda"]) =
        ⟨0,
          String.join [blockOf "let-intersection-lambda", blockOf "unbound-variable",
            blockOf "let-intersection-lambda"],
          ["DEBUG let-intersection-lambda: true (expected true)",
            "DEBUG unbound-variable: no type (expected no type)",
            "DEBUG let-intersection-lambda: true (expected true)"]⟩ ∧
      (∃ x ∈ ["let-intersection-lambda", "nope", "neither"], x ∉ Catalogue.names) ∧
      answer Log.Record.render (.run .debug ["let-intersection-lambda", "nope", "neither"]) =
        ⟨1, "", ["Error: UnknownProgram \x7b name: \"nope\" \x7d"]⟩ := by
  have hknown : ∀ x ∈ ["let-intersection-lambda", "unbound-variable", "let-intersection-lambda"],
      x ∈ Catalogue.names := by decide
  have hunknown : ∃ x ∈ ["let-intersection-lambda", "nope", "neither"], x ∉ Catalogue.names := by
    decide
  have hall := ((runs_all_or_nothing Log.Record.render .debug _ (List.cons_ne_nil _ _)).2 hknown).1
  have hnothing :=
    (runs_all_or_nothing Log.Record.render .debug _ (List.cons_ne_nil _ _)).1 hunknown
  have hlogs : ["let-intersection-lambda", "unbound-variable", "let-intersection-lambda"].flatMap
      (logOf Log.Record.render .debug) =
        ["DEBUG let-intersection-lambda: true (expected true)",
          "DEBUG unbound-variable: no type (expected no type)",
          "DEBUG let-intersection-lambda: true (expected true)"] := by
    decide +kernel
  refine ⟨hknown, hlogs ▸ hall, hunknown, ?_⟩
  obtain ⟨before, x, after, hcut, hbefore, hx, hanswer⟩ := hnothing
  have hline : "Error: UnknownProgram \x7b name: " ++ Text.quoted "nope" ++ " \x7d" =
      "Error: UnknownProgram \x7b name: \"nope\" \x7d" := by decide +kernel
  rcases before with _ | ⟨y, _ | ⟨z, before⟩⟩
  · cases hcut
    exact absurd (by decide) hx
  · cases hcut
    rwa [hline] at hanswer
  · obtain ⟨rfl, -⟩ := List.cons.inj (List.cons.inj hcut).2
    exact absurd (hbefore "nope" (by simp)) (by decide)

end CommandLine

end Bidirectional
