import Bidirectional.Proofs.Env.FiniteMap
import Mathlib.Data.Finset.Card

/-!
# Environments after writes

What an environment holds after any series of writes, each of which binds one name to a type or to
no type. The names bound are the names written, and the last write under a name is what counts; the
writes before it leave no trace. All that an environment answers, and its text, can be told from the
series alone, without the order in which different names were written.

## Main definitions

* `Write`: the two ways of writing
* `Env.afterWrites`: the environment after a series of writes
* `lastValue?`: what the last write under a name wrote
* `Env.names`: the names that an environment binds, in order

## Main results

* `Write.find?_run`: what one write changes
* `Env.find?_afterWrites`: what a series of writes leaves under each name
* `Env.render_eq`: the text of an environment by its names
* `writes_last_wins`: all answers of an environment, by the writes that led to it
-/

namespace Bidirectional

/-- A write to an environment. -/
inductive Write where
  /-- Binds a name to a type or to no type. -/
  | bind (x : Name) (t : Option Ty)
  /-- Binds a name to a type. -/
  | declare (x : Name) (t : Ty)
  deriving DecidableEq

namespace Write

/-- The name that is written. -/
def name : Write → Name
  | .bind x _ | .declare x _ => x

/-- What is written under it, a type or no type. -/
def value : Write → Option Ty
  | .bind _ t => t
  | .declare _ t => some t

/-- Writes to an environment. -/
def run : Write → Env → Env
  | .bind x t, env => env.bind x t
  | .declare x t, env => env.declare x t

/-- A write changes what is found under its name, and nothing else. -/
theorem find?_run (w : Write) (env : Env) (x : Name) :
    (w.run env).find? x = if x = w.name then some w.value else env.find? x := by
  cases w with
  | bind y t => exact env.find?_bind y x t
  | declare y t => exact env.find?_bind y x (some t)

end Write

/-- What the last write under a name wrote, if there is one. -/
def lastValue? (ws : List Write) (x : Name) : Option (Option Ty) :=
  (ws.filter (·.name = x)).getLast?.map Write.value

theorem lastValue?_append_singleton (ws : List Write) (w : Write) (x : Name) :
    lastValue? (ws ++ [w]) x = if x = w.name then some w.value else lastValue? ws x := by
  by_cases h : x = w.name
  · subst h
    simp [lastValue?, List.filter_append]
  · simp [lastValue?, List.filter_append, h, Ne.symm h]

theorem isSome_lastValue? {ws : List Write} {x : Name} :
    (lastValue? ws x).isSome = true ↔ x ∈ ws.map Write.name := by
  simp [lastValue?]

namespace Env

/-! ## Series of writes -/

/-- The environment after a series of writes, first to last. -/
def afterWrites (ws : List Write) : Env :=
  ws.foldl (fun env w => w.run env) empty

theorem afterWrites_append_singleton (ws : List Write) (w : Write) :
    afterWrites (ws ++ [w]) = w.run (afterWrites ws) :=
  List.foldl_concat ..

/-- **Under each name the last write is found.** -/
theorem find?_afterWrites (ws : List Write) (x : Name) :
    (afterWrites ws).find? x = lastValue? ws x := by
  induction ws using List.reverseRecOn with
  | nil => rfl
  | append_singleton ws w ih =>
    rw [afterWrites_append_singleton, Write.find?_run, lastValue?_append_singleton, ih]

theorem isBound_afterWrites {ws : List Write} {x : Name} :
    (afterWrites ws).isBound x = true ↔ x ∈ ws.map Write.name := by
  rw [isBound, find?_afterWrites, isSome_lastValue?]

theorem lookup_afterWrites (ws : List Write) (x : Name) :
    (afterWrites ws).lookup x = (lastValue? ws x).join := by
  rw [lookup, find?_afterWrites]

/-! ## The names of an environment -/

/-- The names that are bound, in ascending order. -/
def names (env : Env) : List Name :=
  env.bindings.map Prod.fst

variable {env : Env} {x : Name}

theorem names_pairwise (env : Env) : env.names.Pairwise (· < ·) :=
  List.pairwise_map.mpr env.sorted

theorem names_nodup (env : Env) : env.names.Nodup :=
  env.names_pairwise.imp String.ne_of_lt

theorem mem_names_iff : x ∈ env.names ↔ env.isBound x = true := by
  rw [isBound_iff, names, List.mem_map]
  simp

theorem length_names (env : Env) : env.names.length = env.size :=
  List.length_map ..

/-- The number of names is that of any list of the names bound, each counted once. -/
theorem size_eq_card {l : List Name} (h : ∀ x, env.isBound x = true ↔ x ∈ l) :
    env.size = l.toFinset.card := by
  have hset : env.names.toFinset = l.toFinset := by
    ext x
    rw [List.mem_toFinset, List.mem_toFinset, mem_names_iff, h]
  rw [← hset, List.toFinset_card_of_nodup env.names_nodup, length_names]

theorem isEmpty_iff : env.isEmpty = true ↔ ∀ x, ¬ env.isBound x = true := by
  rw [isEmpty, List.isEmpty_iff, ← List.map_eq_nil_iff, List.eq_nil_iff_forall_not_mem]
  exact forall_congr' fun x => not_congr mem_names_iff

/-- **The text of an environment by its names**, each with what a lookup gives for it. -/
theorem render_eq (env : Env) :
    env.render =
      "\x7b" ++ ", ".intercalate (env.names.map fun x => renderBinding (x, env.lookup x)) ++
        "\x7d" := by
  have hmap : env.bindings.map renderBinding =
      env.names.map fun x => renderBinding (x, env.lookup x) := by
    rw [names, List.map_map]
    apply List.map_congr_left
    rintro ⟨x, t⟩ hb
    have hlookup : env.lookup x = t := by rw [lookup, mem_bindings_iff.mp hb, Option.join_some]
    rw [Function.comp_apply, hlookup]
  rw [render, hmap]

end Env

/-- **The last write under a name is what counts.** After a series of writes to the empty
environment, the names bound are those written, each with what was last written under it; they are
counted once each, and there is none only if nothing was written. The text lists each of them once,
in ascending order of the code points, with its last type or a question mark. -/
theorem writes_last_wins (ws : List Write) :
    (∀ x, (Env.afterWrites ws).isBound x = true ↔ x ∈ ws.map Write.name) ∧
      (∀ x, (Env.afterWrites ws).lookup x = (lastValue? ws x).join) ∧
      (Env.afterWrites ws).size = (ws.map Write.name).toFinset.card ∧
      ((Env.afterWrites ws).isEmpty = true ↔ ws = []) ∧
      ∃ ns : List Name, ns.Pairwise (· < ·) ∧ (∀ x, x ∈ ns ↔ x ∈ ws.map Write.name) ∧
        (Env.afterWrites ws).render =
          "\x7b" ++
            ", ".intercalate
              (ns.map fun x => x ++ ": " ++ Ty.renderOr "?" (lastValue? ws x).join) ++
            "\x7d" := by
  refine ⟨fun _ => Env.isBound_afterWrites, Env.lookup_afterWrites ws,
    Env.size_eq_card fun _ => Env.isBound_afterWrites, ?_, (Env.afterWrites ws).names,
    Env.names_pairwise _, fun _ => ?_, ?_⟩
  · simp only [Env.isEmpty_iff, Env.isBound_afterWrites]
    rw [← List.eq_nil_iff_forall_not_mem, List.map_eq_nil_iff]
  · rw [Env.mem_names_iff, Env.isBound_afterWrites]
  · simp only [Env.render_eq, Env.lookup_afterWrites, Env.renderBinding]

end Bidirectional
