import Bidirectional.Judgment.Run
import Bidirectional.Proofs.Ty.Rendering

/-!
# Records of the log

What the log of a judgment says is told by the levels and the texts of its records. The records of
the trace say that a judgment of an expression begins, and with what it ends; those for debugging
say what happened to the name of a `let`.

Some records tell of a failure and all others of progress, and none tells of both, whatever names
and types occur in it. It shows by the last two characters of the text: they are `pe` or `se` in a
record of a failure, and there is no letter in the text of a type. An entry is told by its first
character, `s` or `c`, with which the word for no kind begins.

## Main definitions

* `Log.Record.SaysSynthesize`, `SaysType`, `SaysNoType`, `SaysCheck`, `SaysTrue`, `SaysFalse`: what
  a record of the trace says
* `Log.Record.SaysUntyped`, `SaysOverwrote`: what a record for debugging says
* `Log.Record.SaysFailure`, `SaysProgress`: the two classes of records
* `Event.isFailure`, `Event.isOverwrite`, `Event.isSynthEntry`, `Event.isCheckEntry`: events that
  are recorded so

## Main results

* `Log.Record.SaysFailure.not_saysProgress`: no record tells of a failure and of progress
* `Event.record_saysFailure_iff`, `Event.record_saysProgress_iff`: the records of an event, by class
* `Event.record_saysUntyped_iff`, `Event.record_saysOverwrote_iff`: its records for debugging
* `Event.record_entersSynth_iff`, `Event.record_entersCheck_iff`: its records of entries
* `Run.countP_log`: records are counted by counting events
-/

namespace Bidirectional

namespace Log.Record

variable {r : Record}

/-- The record says that synthesis for an expression of the kind `k` begins. -/
def SaysSynthesize (r : Record) (k : Kind) : Prop :=
  r = ⟨.trace, .judgment, "synthesize " ++ k.render⟩

/-- The record says that the type `t` was synthesized for an expression of the kind `k`. -/
def SaysType (r : Record) (k : Kind) (t : Ty) : Prop :=
  r = ⟨.trace, .judgment, k.render ++ " => " ++ t.render⟩

/-- The record says that no type was synthesized for an expression of the kind `k`. -/
def SaysNoType (r : Record) (k : Kind) : Prop :=
  r = ⟨.trace, .judgment, k.render ++ " => no type"⟩

/-- The record says that checking an expression of the kind `k` against `t` begins. -/
def SaysCheck (r : Record) (k : Kind) (t : Ty) : Prop :=
  r = ⟨.trace, .judgment, "check " ++ k.render ++ " <= " ++ t.render⟩

/-- The record says that an expression of the kind `k` checks against `t`. -/
def SaysTrue (r : Record) (k : Kind) (t : Ty) : Prop :=
  r = ⟨.trace, .judgment, k.render ++ " <= " ++ t.render ++ ": true"⟩

/-- The record says that an expression of the kind `k` does not check against `t`. -/
def SaysFalse (r : Record) (k : Kind) (t : Ty) : Prop :=
  r = ⟨.trace, .judgment, k.render ++ " <= " ++ t.render ++ ": false"⟩

/-- The record says that the bound expression of a `let` has no type. -/
def SaysUntyped (r : Record) : Prop :=
  ∃ x : Name, r = ⟨.debug, .judgment, "let " ++ x ++ ": bound expression has no type"⟩

/-- The record says that a `let` gives a type to a name that was bound already. -/
def SaysOverwrote (r : Record) : Prop :=
  ∃ (x : Name) (t : Ty),
    r = ⟨.debug, .judgment, "let " ++ x ++ ": overwriting binding with " ++ t.render⟩

/-- The record tells of a failure: an exit without a type or with `false`, or a `let` whose bound
expression has no type. -/
def SaysFailure (r : Record) : Prop :=
  (∃ k, r.SaysNoType k) ∨ (∃ k t, r.SaysFalse k t) ∨ r.SaysUntyped

/-- The record tells that a judgment begins or succeeds, or that a name which was bound is given a
type. -/
def SaysProgress (r : Record) : Prop :=
  (∃ k, r.SaysSynthesize k) ∨ (∃ k t, r.SaysCheck k t) ∨ (∃ k t, r.SaysType k t) ∨
    (∃ k t, r.SaysTrue k t) ∨ r.SaysOverwrote

/-! ## How the texts end -/

/-- The last two characters of a text, the last one first. -/
def ending (s : String) : List Char :=
  s.toList.reverse.take 2

/-- How the texts of failures end. -/
def failureEndings : List (List Char) :=
  [['e', 'p'], ['e', 's']]

theorem getLast?_append_word (s : String) {w : String} {c : Char}
    (hw : w.toList.getLast? = some c) : (s ++ w).toList.getLast? = some c := by
  rw [String.toList_append, List.getLast?_append, hw, Option.some_or]

theorem ending_append (s : String) {w : String} (hw : 2 ≤ w.toList.length) :
    ending (s ++ w) = ending w := by
  rw [ending, String.toList_append, List.reverse_append, List.take_append_of_le_length]
  · rfl
  · rwa [List.length_reverse]

/-- A text that ends in a type does not end like a failure: there is no letter in the text of a
type, and if it is empty there is a blank before it. -/
theorem ending_append_render {s : String} (hs : s.toList.getLast? = some ' ') (t : Ty) :
    ending (s ++ t.render) ∉ failureEndings := by
  have hhead : (ending (s ++ t.render)).head? = (Ty.chars t).getLast?.or (some ' ') := by
    rw [ending, List.head?_take, if_neg (by decide), List.head?_reverse, String.toList_append,
      List.getLast?_append, hs]
    rfl
  have hne : (ending (s ++ t.render)).head? ≠ some 'e' := by
    rw [hhead]
    cases hlast : (Ty.chars t).getLast? with
    | none => exact nofun
    | some c =>
      rintro he
      cases he
      have hmem : 'e' ∈ Ty.alphabet := Ty.chars_subset t (List.mem_of_getLast? hlast)
      exact absurd hmem (by decide)
  have hfailures : ∀ w ∈ failureEndings, w.head? = some 'e' := by decide
  exact fun hmem => hne (hfailures _ hmem)

theorem ending_append_kind (s : String) (k : Kind) : ending (s ++ k.render) ∉ failureEndings := by
  have hlen : 2 ≤ k.render.toList.length := by cases k <;> decide
  rw [ending_append s hlen]
  cases k <;> decide

theorem SaysFailure.ending_mem (h : r.SaysFailure) : ending r.message ∈ failureEndings := by
  rcases h with ⟨k, rfl⟩ | ⟨k, t, rfl⟩ | ⟨x, rfl⟩
  all_goals
    dsimp only
    rw [ending_append _ (by decide)]
    decide

theorem SaysProgress.ending_not_mem (h : r.SaysProgress) : ending r.message ∉ failureEndings := by
  rcases h with ⟨k, rfl⟩ | ⟨k, t, rfl⟩ | ⟨k, t, rfl⟩ | ⟨k, t, rfl⟩ | ⟨x, t, rfl⟩
  · exact ending_append_kind _ k
  · exact ending_append_render (getLast?_append_word _ rfl) t
  · exact ending_append_render (getLast?_append_word _ rfl) t
  · dsimp only
    rw [ending_append _ (by decide)]
    decide
  · exact ending_append_render (getLast?_append_word _ rfl) t

/-- **No record tells of a failure and of progress.** -/
theorem SaysFailure.not_saysProgress (h : r.SaysFailure) : ¬ r.SaysProgress :=
  fun h' => h'.ending_not_mem h.ending_mem

end Log.Record

/-! ## How the texts begin -/

/-- The first character of the word for a kind. -/
def Kind.initial : Kind → Char
  | .variable => 'v'
  | .lambda => 'l'
  | .application => 'a'
  | .unit => 'u'
  | .letIn => 'l'
  | .intersect => 'i'

theorem Kind.head?_render (k : Kind) : k.render.toList.head? = some k.initial := by
  cases k <;> decide

/-- The word for a kind does not begin like an entry. -/
theorem Kind.initial_ne (k : Kind) : k.initial ≠ 's' ∧ k.initial ≠ 'c' := by
  cases k <;> decide

theorem Kind.render_inj {k k' : Kind} (h : k.render = k'.render) : k = k' := by
  revert h
  cases k <;> cases k' <;> decide

theorem Kind.blank_not_mem_render (k : Kind) : ' ' ∉ k.render.toList := by
  cases k <;> decide

namespace Event

variable {ev : Event}

/-- The first character of the text of an event. -/
def initial : Event → Char
  | .enterSynth _ => 's'
  | .enterCheck .. => 'c'
  | .leaveSynth k _ => k.initial
  | .leaveCheck k _ _ => k.initial
  | .untyped _ => 'l'
  | .overwrote .. => 'l'

theorem head?_message (ev : Event) : ev.message.toList.head? = some ev.initial := by
  cases ev <;> simp [message, initial, Kind.head?_render]

/-! ## Records of events -/

/-- The event makes a failure known: an exit without a type or with `false`, or a `let` whose bound
expression has no type. -/
def isFailure : Event → Bool
  | .leaveSynth _ none => true
  | .leaveCheck _ _ false => true
  | .untyped _ => true
  | _ => false

/-- The event is that a `let` gives a type to a name that was bound already. -/
def isOverwrite : Event → Bool
  | .overwrote .. => true
  | _ => false

/-- The event is the entry of a node by synthesis. -/
def isSynthEntry : Event → Bool
  | .enterSynth _ => true
  | _ => false

/-- The event is the entry of a node by checking alone. -/
def isCheckEntry : Event → Bool
  | .enterCheck .lambda _ => true
  | .enterCheck .application _ => true
  | _ => false

theorem isCheckEntry_enterCheck {k : Kind} {g : Ty} :
    isCheckEntry (.enterCheck k g) = true ↔ k = .lambda ∨ k = .application := by
  cases k <;> simp [isCheckEntry]

theorem record_saysNoType (k : Kind) : (leaveSynth k none).record.SaysNoType k :=
  congrArg (Log.Record.mk .trace .judgment) String.append_assoc

theorem record_saysTrue (k : Kind) (t : Ty) : (leaveCheck k t true).record.SaysTrue k t :=
  congrArg (Log.Record.mk .trace .judgment) String.append_assoc

theorem record_saysFalse (k : Kind) (t : Ty) : (leaveCheck k t false).record.SaysFalse k t :=
  congrArg (Log.Record.mk .trace .judgment) String.append_assoc

theorem record_saysFailure (h : ev.isFailure = true) : ev.record.SaysFailure := by
  cases ev with
  | leaveSynth k r =>
    cases r with
    | none => exact .inl ⟨k, record_saysNoType k⟩
    | some => cases h
  | leaveCheck k t b =>
    cases b with
    | false => exact .inr (.inl ⟨k, t, record_saysFalse k t⟩)
    | true => cases h
  | untyped x => exact .inr (.inr ⟨x, rfl⟩)
  | enterSynth | enterCheck | overwrote => cases h

theorem record_saysProgress (h : ev.isFailure = false) : ev.record.SaysProgress := by
  cases ev with
  | enterSynth k => exact .inl ⟨k, rfl⟩
  | enterCheck k t => exact .inr (.inl ⟨k, t, rfl⟩)
  | leaveSynth k r =>
    cases r with
    | none => cases h
    | some t => exact .inr (.inr (.inl ⟨k, t, rfl⟩))
  | leaveCheck k t b =>
    cases b with
    | false => cases h
    | true => exact .inr (.inr (.inr (.inl ⟨k, t, record_saysTrue k t⟩)))
  | overwrote x t => exact .inr (.inr (.inr (.inr ⟨x, t, rfl⟩)))
  | untyped => cases h

/-- **An event is recorded as a failure only if it is one.** -/
theorem record_saysFailure_iff : ev.record.SaysFailure ↔ ev.isFailure = true := by
  refine ⟨fun h => ?_, record_saysFailure⟩
  cases hev : ev.isFailure with
  | true => rfl
  | false => exact absurd (record_saysProgress hev) h.not_saysProgress

/-- **An event is recorded as progress only if it is no failure.** -/
theorem record_saysProgress_iff : ev.record.SaysProgress ↔ ev.isFailure = false := by
  refine ⟨fun h => ?_, record_saysProgress⟩
  cases hev : ev.isFailure with
  | true => exact absurd h (record_saysFailure hev).not_saysProgress
  | false => rfl

/-- An event is recorded as a `let` without a type only if it is one. -/
theorem record_saysUntyped_iff : ev.record.SaysUntyped ↔ ∃ x, ev = .untyped x := by
  constructor
  · intro h
    have hfail := record_saysFailure_iff.mp (.inr (.inr h))
    obtain ⟨x, hx⟩ := h
    cases ev with
    | untyped y => exact ⟨y, rfl⟩
    | overwrote => cases hfail
    | enterSynth | leaveSynth | enterCheck | leaveCheck => cases congrArg Log.Record.level hx
  · rintro ⟨x, rfl⟩
    exact ⟨x, rfl⟩

/-- An event is recorded as a name that was bound already only if it is one. -/
theorem record_saysOverwrote_iff : ev.record.SaysOverwrote ↔ ev.isOverwrite = true := by
  constructor
  · intro h
    have hprogress := record_saysProgress_iff.mp (.inr (.inr (.inr (.inr h))))
    obtain ⟨x, t, hx⟩ := h
    cases ev with
    | untyped => cases hprogress
    | overwrote => rfl
    | enterSynth | leaveSynth | enterCheck | leaveCheck => cases congrArg Log.Record.level hx
  · intro h
    cases ev with
    | overwrote x t => exact ⟨x, t, rfl⟩
    | enterSynth | leaveSynth | enterCheck | leaveCheck | untyped => cases h

theorem initial_eq_of_record {r : Log.Record} (h : ev.record = r) {c : Char}
    (hc : r.message.toList.head? = some c) : ev.initial = c := by
  have hev := ev.head?_message
  rw [show ev.message = r.message from congrArg Log.Record.message h, hc] at hev
  exact (Option.some.inj hev).symm

/-- An event is recorded as an entry of synthesis only if it is one. -/
theorem record_entersSynth_iff :
    (∃ k, ev.record.SaysSynthesize k) ↔ ev.isSynthEntry = true := by
  constructor
  · rintro ⟨k, hk⟩
    have hinitial : ev.initial = 's' := initial_eq_of_record hk (by simp)
    cases ev with
    | enterSynth => rfl
    | leaveSynth k' | leaveCheck k' => exact absurd hinitial k'.initial_ne.1
    | enterCheck | untyped | overwrote => cases hinitial
  · intro h
    cases ev with
    | enterSynth k => exact ⟨k, rfl⟩
    | leaveSynth | enterCheck | leaveCheck | untyped | overwrote => cases h

/-- The text of the entry of a check has the kind in it. -/
theorem kind_eq_of_message {k k' : Kind} {t t' : Ty}
    (h : message (.enterCheck k t) = message (.enterCheck k' t')) : k = k' := by
  have hlist := congrArg String.toList h
  simp only [message, String.toList_append, List.append_assoc, List.append_cancel_left_eq] at hlist
  have hlegible := Text.legible_name k.blank_not_mem_render
  exact Kind.render_inj (hlegible k'.blank_not_mem_render rfl rfl hlist).1

/-- An event is recorded as an entry of checking alone only if it is one. -/
theorem record_entersCheck_iff :
    (∃ k t, (k = .lambda ∨ k = .application) ∧ ev.record.SaysCheck k t) ↔
      ev.isCheckEntry = true := by
  constructor
  · rintro ⟨k, t, hkind, hk⟩
    have hinitial : ev.initial = 'c' := initial_eq_of_record hk (by simp)
    cases ev with
    | enterCheck k' t' =>
      obtain rfl : k' = k := kind_eq_of_message (congrArg Log.Record.message hk)
      exact isCheckEntry_enterCheck.mpr hkind
    | leaveSynth k' | leaveCheck k' => exact absurd hinitial k'.initial_ne.2
    | enterSynth | untyped | overwrote => cases hinitial
  · intro h
    cases ev with
    | enterCheck k t => exact ⟨k, t, isCheckEntry_enterCheck.mp h, rfl⟩
    | enterSynth | leaveSynth | leaveCheck | untyped | overwrote => cases h

end Event

/-- Records are counted by counting the events that are recorded so. -/
theorem Run.countP_log {α : Type} (r : Run α) {P : Log.Record → Prop} [DecidablePred P]
    {p : Event → Bool} (h : ∀ ev : Event, P ev.record ↔ p ev = true) :
    r.log.countP (P ·) = r.events.countP p := by
  rw [Run.log, List.countP_map]
  congr 1
  funext ev
  rw [Bool.eq_iff_iff, Function.comp_apply, decide_eq_true_iff, h]

end Bidirectional
