import Bidirectional.Judgment.Basic

/-!
# Rules that succeed

When a rule succeeds, and what its run is then. A rule succeeds only if all its parts do, each in
the environment that the part before it left behind, so the run of the whole is put together from
successful runs of the parts: their events stand in order between an entry and an exit.

## Main definitions

* `Rule.synthesis`, `Rule.checking`: the events of a success, around those of the parts

## Main results

* `Judge.bind_eq_iff`: the runs of a sequence
* `Rule.synthLam_eq_iff` and its neighbours: the successful runs of each rule
-/

namespace Bidirectional

namespace Judge

variable {α β : Type} {G G' : Env} {l : List Event}

/-- A sequence comes to a run through a run of its first part. -/
theorem bind_eq_iff {m : Judge α} {k : α → Judge β} {b : β} :
    (m >>= k) G = ⟨b, G', l⟩ ↔
      ∃ a G₁ l₁ l₂, m G = ⟨a, G₁, l₁⟩ ∧ k a G₁ = ⟨b, G', l₂⟩ ∧ l = l₁ ++ l₂ := by
  rw [bind_apply, Run.mk.injEq]
  constructor
  · rintro ⟨rfl, rfl, rfl⟩
    exact ⟨_, _, _, _, rfl, rfl, rfl⟩
  · rintro ⟨a, G₁, l₁, l₂, hm, hk, rfl⟩
    rw [hm, hk]
    exact ⟨rfl, rfl, rfl⟩

/-- A step that only answers that it is done comes before whatever follows. -/
theorem step_bind_eq_iff {m : Judge Unit} {k : Judge α} {a : α} :
    (m >>= fun _ => k) G = ⟨a, G', l⟩ ↔
      ∃ l₁, k (m G).env = ⟨a, G', l₁⟩ ∧ l = (m G).events ++ l₁ := by
  rw [bind_eq_iff]
  constructor
  · rintro ⟨_, G₁, l₁, l₂, hm, hk, rfl⟩
    rw [hm]
    exact ⟨l₂, hk, rfl⟩
  · rintro ⟨l₁, hk, rfl⟩
    exact ⟨(), (m G).env, (m G).events, l₁, rfl, hk, rfl⟩

theorem emit_bind_eq_iff {e : Event} {k : Judge α} {a : α} :
    (emit e >>= fun _ => k) G = ⟨a, G', l⟩ ↔ ∃ l₁, k G = ⟨a, G', l₁⟩ ∧ l = e :: l₁ :=
  step_bind_eq_iff

theorem assign_bind_eq_iff {x : Name} {t : Option Ty} {k : Judge α} {a : α} :
    (assign x t >>= fun _ => k) G = ⟨a, G', l⟩ ↔
      ∃ l₁, k (G.bind x t) = ⟨a, G', l₁⟩ ∧ l = (assign x t G).events ++ l₁ :=
  step_bind_eq_iff

/-- An event at the end, after which the answer is known. -/
theorem emit_pure_eq_iff {e : Event} {a a' : α} :
    (emit e >>= fun _ => pure a) G = ⟨a', G', l⟩ ↔ a = a' ∧ G = G' ∧ l = [e] := by
  rw [emit_bind_eq_iff]
  constructor
  · rintro ⟨l₁, hpure, rfl⟩
    cases hpure
    exact ⟨rfl, rfl, rfl⟩
  · rintro ⟨rfl, rfl, rfl⟩
    exact ⟨[], rfl, rfl⟩

theorem typeOf_bind (x : Name) (k : Option Ty → Judge α) (G : Env) :
    (typeOf x >>= k) G = k (G.lookup x) G := rfl

end Judge

theorem Ty.anyBelow_eq_true {g : Ty} {r : Option Ty} :
    anyBelow g r = true ↔ ∃ s, r = some s ∧ s.isSubtype g = true := by
  rcases r with _ | s <;> simp

namespace Rule

open Judge

variable {G G' : Env} {l : List Event} {x : Name} {t g : Ty}

/-- The events of a synthesis that finds `t`, with those of the parts in between. -/
def synthesis (k : Kind) (l : List Event) (t : Ty) : List Event :=
  .enterSynth k :: (l ++ [.leaveSynth k (some t)])

/-- The events of a check that succeeds, with those of the parts in between. -/
def checking (k : Kind) (goal : Ty) (l : List Event) : List Event :=
  .enterCheck k goal :: (l ++ [.leaveCheck k goal true])

theorem synthesized_eq_iff {k : Kind} {r r' : Option Ty} :
    synthesized k r G = ⟨r', G', l⟩ ↔ r = r' ∧ G = G' ∧ l = [.leaveSynth k r] :=
  emit_pure_eq_iff

theorem checked_eq_iff {k : Kind} {r r' : Bool} :
    checked k g r G = ⟨r', G', l⟩ ↔ r = r' ∧ G = G' ∧ l = [.leaveCheck k g r] :=
  emit_pure_eq_iff

/-! ## Synthesis -/

theorem synthVar_eq_iff :
    synthVar x G = ⟨some t, G', l⟩ ↔
      G.lookup x = some t ∧ G = G' ∧ l = synthesis .variable [] t := by
  rw [synthVar, emit_bind_eq_iff, typeOf_bind]
  constructor
  · rintro ⟨l₁, hend, rfl⟩
    obtain ⟨hx, hG, rfl⟩ := synthesized_eq_iff.mp hend
    rw [hx]
    exact ⟨rfl, hG, rfl⟩
  · rintro ⟨hx, rfl, rfl⟩
    rw [hx]
    exact ⟨_, rfl, rfl⟩

theorem arrow?_eq_some {d c : Option Ty} :
    arrow? d c = some t ↔ ∃ s u, d = some s ∧ c = some u ∧ t = .arrow s u := by
  rcases d with _ | s <;> rcases c with _ | u <;> simp [arrow?, eq_comm]

theorem synthLam_eq_iff {b : Judge (Option Ty)} :
    synthLam x b G = ⟨some t, G', l⟩ ↔
      ∃ d c l₁, G.lookup x = some d ∧ b G = ⟨some c, G', l₁⟩ ∧ t = .arrow d c ∧
        l = synthesis .lambda l₁ t := by
  rw [synthLam, emit_bind_eq_iff, typeOf_bind]
  constructor
  · rintro ⟨_, hrest, rfl⟩
    obtain ⟨r, _, l₁, _, hb, hend, rfl⟩ := bind_eq_iff.mp hrest
    obtain ⟨hr, rfl, rfl⟩ := synthesized_eq_iff.mp hend
    rw [hr]
    obtain ⟨d, c, hx, rfl, rfl⟩ := arrow?_eq_some.mp hr
    exact ⟨d, c, l₁, hx, hb, rfl, rfl⟩
  · rintro ⟨d, c, l₁, hx, hb, rfl, rfl⟩
    rw [hx]
    exact ⟨_, bind_eq_iff.mpr ⟨_, _, _, _, hb, rfl, rfl⟩, rfl⟩

theorem synthApp_eq_iff {f : Judge (Option Ty)} {a : Ty → Judge Bool} :
    synthApp f a G = ⟨some t, G', l⟩ ↔
      ∃ d G₁ l₁ l₂, f G = ⟨some (.arrow d t), G₁, l₁⟩ ∧ a d G₁ = ⟨true, G', l₂⟩ ∧
        l = synthesis .application (l₁ ++ l₂) t := by
  rw [synthApp, emit_bind_eq_iff]
  constructor
  · rintro ⟨_, hrest, rfl⟩
    obtain ⟨r, G₁, l₁, _, hf, harg, rfl⟩ := bind_eq_iff.mp hrest
    rcases r with _ | (_ | ⟨d, c⟩ | ms)
    case some.arrow =>
      obtain ⟨ok, _, l₂, _, ha, hend, rfl⟩ := bind_eq_iff.mp harg
      obtain ⟨hok, rfl, rfl⟩ := synthesized_eq_iff.mp hend
      cases ok with
      | false => cases hok
      | true =>
        cases hok
        exact ⟨d, G₁, l₁, l₂, hf, ha, by simp [synthesis]⟩
    all_goals cases harg
  · rintro ⟨d, G₁, l₁, l₂, hf, ha, rfl⟩
    refine ⟨l₁ ++ (l₂ ++ [.leaveSynth .application (some t)]), ?_, by simp [synthesis]⟩
    refine bind_eq_iff.mpr ⟨_, _, _, _, hf, ?_, rfl⟩
    exact bind_eq_iff.mpr ⟨_, _, _, _, ha, rfl, rfl⟩

theorem synthUnit_eq_iff :
    synthUnit G = ⟨some t, G', l⟩ ↔ t = .unit ∧ G = G' ∧ l = synthesis .unit [] t := by
  rw [synthUnit, emit_bind_eq_iff]
  constructor
  · rintro ⟨l₁, hend, rfl⟩
    obtain ⟨ht, hG, rfl⟩ := synthesized_eq_iff.mp hend
    cases ht
    exact ⟨rfl, hG, rfl⟩
  · rintro ⟨rfl, rfl, rfl⟩
    exact ⟨_, rfl, rfl⟩

theorem synthLet_eq_iff {b c : Judge (Option Ty)} :
    synthLet x b c G = ⟨some t, G', l⟩ ↔
      ∃ s G₁ l₁ l₂, b G = ⟨some s, G₁, l₁⟩ ∧ c (G₁.declare x s) = ⟨some t, G', l₂⟩ ∧
        l = synthesis .letIn (l₁ ++ (assign x (some s) G₁).events ++ l₂) t := by
  rw [synthLet, emit_bind_eq_iff]
  constructor
  · rintro ⟨_, hrest, rfl⟩
    obtain ⟨r, G₁, l₁, _, hb, hassign, rfl⟩ := bind_eq_iff.mp hrest
    obtain ⟨_, hbody, rfl⟩ := assign_bind_eq_iff.mp hassign
    cases r with
    | none => cases hbody
    | some s =>
      obtain ⟨r, _, l₂, _, hc, hend, rfl⟩ := bind_eq_iff.mp hbody
      obtain ⟨rfl, rfl, rfl⟩ := synthesized_eq_iff.mp hend
      exact ⟨s, G₁, l₁, l₂, hb, hc, by simp [synthesis]⟩
  · rintro ⟨s, G₁, l₁, l₂, hb, hc, rfl⟩
    refine ⟨l₁ ++ ((assign x (some s) G₁).events ++ (l₂ ++ [.leaveSynth .letIn (some t)])), ?_,
      by simp [synthesis]⟩
    refine bind_eq_iff.mpr ⟨_, _, _, _, hb, assign_bind_eq_iff.mpr ⟨_, ?_, rfl⟩, rfl⟩
    exact bind_eq_iff.mpr ⟨_, _, _, _, hc, rfl, rfl⟩

theorem synthInter_eq_iff {m : Judge (Option (List Ty))} :
    synthInter m G = ⟨some t, G', l⟩ ↔
      ∃ ts l₁, m G = ⟨some ts, G', l₁⟩ ∧ ts ≠ [] ∧ t = .inter ts ∧
        l = synthesis .intersect l₁ t := by
  rw [synthInter, emit_bind_eq_iff]
  constructor
  · rintro ⟨_, hrest, rfl⟩
    obtain ⟨r, G₁, l₁, _, hm, hend, rfl⟩ := bind_eq_iff.mp hrest
    cases r with
    | none => cases hend
    | some ts =>
      obtain ⟨hts, rfl, rfl⟩ := synthesized_eq_iff.mp hend
      cases ts with
      | nil => cases hts
      | cons s ts =>
        cases hts
        exact ⟨s :: ts, l₁, hm, List.cons_ne_nil s ts, rfl, rfl⟩
  · rintro ⟨ts, l₁, hm, hne, rfl, rfl⟩
    obtain ⟨s, ts, rfl⟩ := List.exists_cons_of_ne_nil hne
    exact ⟨_, bind_eq_iff.mpr ⟨_, _, _, _, hm, rfl, rfl⟩, rfl⟩

theorem synthCons_eq_iff {m : Judge (Option Ty)} {k : Judge (Option (List Ty))} {ts : List Ty} :
    synthCons m k G = ⟨some ts, G', l⟩ ↔
      ∃ s us G₁ l₁ l₂, m G = ⟨some s, G₁, l₁⟩ ∧ k G₁ = ⟨some us, G', l₂⟩ ∧ ts = s :: us ∧
        l = l₁ ++ l₂ := by
  rw [synthCons, bind_eq_iff]
  constructor
  · rintro ⟨r, G₁, l₁, _, hm, hrest, rfl⟩
    cases r with
    | none => cases hrest
    | some s =>
      obtain ⟨r, _, l₂, _, hk, hend, rfl⟩ := bind_eq_iff.mp hrest
      cases r with
      | none => cases hend
      | some us =>
        cases hend
        exact ⟨s, us, G₁, l₁, l₂, hm, hk, rfl, by simp⟩
  · rintro ⟨s, us, G₁, l₁, l₂, hm, hk, rfl, rfl⟩
    exact ⟨_, _, _, _, hm, bind_eq_iff.mpr ⟨_, _, _, [], hk, rfl, (List.append_nil l₂).symm⟩, rfl⟩

/-! ## Checking -/

theorem checkLam_arrow (x : Name) (b : Ty → Judge Bool) (d c : Ty) :
    checkLam x b (.arrow d c) = emit (.enterCheck .lambda (.arrow d c)) >>= fun _ =>
      typeOf x >>= fun t =>
        if Ty.anyBelow d t then b c >>= checked .lambda (.arrow d c)
        else checked .lambda (.arrow d c) false := rfl

theorem checkLam_eq_iff {b : Ty → Judge Bool} :
    checkLam x b g G = ⟨true, G', l⟩ ↔
      ∃ d c s l₁, g = .arrow d c ∧ G.lookup x = some s ∧ s.isSubtype d = true ∧
        b c G = ⟨true, G', l₁⟩ ∧ l = checking .lambda g l₁ := by
  constructor
  · intro h
    cases g with
    | arrow d c =>
      rw [checkLam_arrow] at h
      obtain ⟨_, hrest, rfl⟩ := emit_bind_eq_iff.mp h
      rw [typeOf_bind] at hrest
      split at hrest
      · rename_i hbelow
        obtain ⟨s, hx, hs⟩ := Ty.anyBelow_eq_true.mp hbelow
        obtain ⟨ok, _, l₁, _, hb, hend, rfl⟩ := bind_eq_iff.mp hrest
        obtain ⟨rfl, rfl, rfl⟩ := checked_eq_iff.mp hend
        exact ⟨d, c, s, l₁, rfl, hx, hs, hb, rfl⟩
      · cases hrest
    | unit | inter => cases h
  · rintro ⟨d, c, s, l₁, rfl, hx, hs, hb, rfl⟩
    rw [checkLam_arrow]
    refine emit_bind_eq_iff.mpr ⟨_, ?_, rfl⟩
    rw [typeOf_bind, if_pos (Ty.anyBelow_eq_true.mpr ⟨s, hx, hs⟩)]
    exact bind_eq_iff.mpr ⟨_, _, _, _, hb, rfl, rfl⟩

theorem checkApp_eq_iff {f : Ty → Judge Bool} {a : Judge (Option Ty)} :
    checkApp f a g G = ⟨true, G', l⟩ ↔
      ∃ s G₁ l₁ l₂, a G = ⟨some s, G₁, l₁⟩ ∧ f (.arrow s g) G₁ = ⟨true, G', l₂⟩ ∧
        l = checking .application g (l₁ ++ l₂) := by
  rw [checkApp, emit_bind_eq_iff]
  constructor
  · rintro ⟨_, hrest, rfl⟩
    obtain ⟨r, G₁, l₁, _, ha, hfn, rfl⟩ := bind_eq_iff.mp hrest
    cases r with
    | none => cases hfn
    | some s =>
      obtain ⟨ok, _, l₂, _, hf, hend, rfl⟩ := bind_eq_iff.mp hfn
      obtain ⟨rfl, rfl, rfl⟩ := checked_eq_iff.mp hend
      exact ⟨s, G₁, l₁, l₂, ha, hf, by simp [checking]⟩
  · rintro ⟨s, G₁, l₁, l₂, ha, hf, rfl⟩
    refine ⟨l₁ ++ (l₂ ++ [.leaveCheck .application g true]), ?_, by simp [checking]⟩
    refine bind_eq_iff.mpr ⟨_, _, _, _, ha, ?_, rfl⟩
    exact bind_eq_iff.mpr ⟨_, _, _, _, hf, rfl, rfl⟩

theorem subsume_eq_iff {k : Kind} {m : Judge (Option Ty)} :
    subsume k m g G = ⟨true, G', l⟩ ↔
      ∃ s l₁, m G = ⟨some s, G', l₁⟩ ∧ s.isSubtype g = true ∧ l = checking k g l₁ := by
  rw [subsume, emit_bind_eq_iff]
  constructor
  · rintro ⟨_, hrest, rfl⟩
    obtain ⟨r, _, l₁, _, hm, hend, rfl⟩ := bind_eq_iff.mp hrest
    obtain ⟨hbelow, rfl, rfl⟩ := checked_eq_iff.mp hend
    rw [hbelow]
    obtain ⟨s, rfl, hs⟩ := Ty.anyBelow_eq_true.mp hbelow
    exact ⟨s, l₁, hm, hs, rfl⟩
  · rintro ⟨s, l₁, hm, hs, rfl⟩
    refine ⟨_, bind_eq_iff.mpr ⟨_, _, _, _, hm, ?_, rfl⟩, rfl⟩
    exact checked_eq_iff.mpr ⟨hs, rfl, by rw [Ty.anyBelow_some, hs]⟩

end Rule

end Bidirectional
