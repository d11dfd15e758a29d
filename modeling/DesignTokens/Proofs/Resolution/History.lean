import DesignTokens.Proofs.Resolution.Calls
import DesignTokens.Proofs.Sample

/-!
# DesignTokens.Proofs.Resolution.History — answers and the questions before them

A resolver remembers, and should answer as if it did not. It does so as long as everything it keeps
is settled. What it keeps may fail to be settled in one way only: a walk was cut at the limit for
the depth, a later candidate gave a value all the same, and so the state is not marked as truncated.
A walk that starts higher up then takes a state for which it would have had more room.

1. **A document with a fallback** (`Forked`), to show what can happen.
2. **Runs** (`faithful_performAll_iff`, `ask_after_calls`): when the memory stays faithful, and
   that asking for pointers then finds what the plain walks find.
3. **Independence** (`resolve_independent_of_history`), and an answer that does depend on what was
   asked before (`resolve_depends_on_history`).
4. **The plain walk** (`ask_performAll_eq_plain`): if no walk is cut, every answer is that of the
   plain walk.
-/

namespace DesignTokens.Resolution

open Resolver (askedFor answer)

/-! ## A document with a fallback -/

namespace Forked

open Sample (aliasOf home overridePlace place referenceTo)

/-- In the mode `on`, `base` is replaced by `mid`, or else by a value that is written out. -/
def replaced : Override Reference :=
  let entry := (overridePlace.child "$fallback").index 0
  Sample.override "base" [("mode", .string "on")]
    (.mk overridePlace none (some (referenceTo "mid" (overridePlace.child "$ref"))) none
      [.mk entry none none (some ⟨.string "#222222", entry.child "$value", none⟩) []])

/-- An alias `link` of `base`, and an alias `mid` of `deep`. -/
def graph : Graph where
  uri := home
  nodes := [Sample.token "deep" "#111111", aliasOf "mid" "deep", Sample.token "base" "#000000",
    aliasOf "link" "base"]
  edges := [⟨place "mid", place "deep", .aliasTo⟩, ⟨place "link", place "base", .aliasTo⟩,
    ⟨place "base", place "mid", .override⟩]
  roots := [place "deep", place "mid", place "base", place "link"]
  overrides := [replaced]

def environment (maxDepth : Nat) : Environment where
  root := graph
  externals := []
  settings := { context := [("mode", .string "on")], maxDepth }

/-- There are no other documents that could be under a wrong URI. -/
theorem registered (maxDepth : Nat) : (environment maxDepth).Registered :=
  fun _ h => absurd h List.not_mem_nil

end Forked

/-! ## Runs -/

/-- All visits on the walk from a node of the root document are sound. -/
def SoundFrom (env : Environment) (pointer : Pointer) : Prop :=
  ∀ v ∈ visitsFrom env pointer, v.Sound env

variable {env : Environment}

/-- A walk that is not cut keeps only what is settled. -/
theorem soundFrom_of_height_le {pointer : Pointer}
    (h : (plain env pointer).height ≤ env.settings.maxDepth) : SoundFrom env pointer := by
  intro v hv _
  exact Visit.settled_of_uncut (uncut_of_height_lt (Nat.lt_succ_of_le h) v hv)

/-- Whether what a visit finds is not kept, or the visit was not cut. -/
def Visit.isSafe (env : Environment) (v : Visit) : Bool :=
  (v.walk env).value.truncated || !disjoint (v.walk env).touched v.pending ||
    decide ((v.walk env).height < v.room)

/-- A node is sound if all its visits are safe, which can be computed. -/
theorem soundFrom_of_isSafe {pointer : Pointer}
    (h : (visitsFrom env pointer).all (Visit.isSafe env) = true) : SoundFrom env pointer := by
  intro v hv kept
  have safe := List.all_eq_true.1 h v hv
  apply Visit.settled_of_uncut
  simpa [Visit.isSafe, kept.1, kept.2] using safe

/-- Asking for a node of the root document agrees with the survey from there. -/
theorem agrees_ask (registered : env.Registered) (memory : Memory) (pointer : Pointer) :
    Agrees env (survey env (env.settings.maxDepth + 1) [] env.root pointer) memory
      (ask env memory pointer) :=
  agrees_revisit registered _ [] env.has_root pointer memory

/-- From a faithful memory, asking for a node finds what the plain walk finds. -/
theorem ask_eq_plain (registered : env.Registered) {memory : Memory}
    (faithful : memory.Faithful env) {pointer : Pointer} (sound : SoundFrom env pointer) :
    (ask env memory pointer).1 = plain env pointer := by
  have agrees := agrees_ask registered memory pointer
  rw [agrees.same ((agrees.faithful faithful).2 sound), walk_survey]
  rfl

/-- Asking for nodes forgets nothing. -/
theorem subset_askAll (registered : env.Registered) (memory : Memory)
    (pointers : List Pointer) : memory ⊆ askAll env memory pointers := by
  induction pointers generalizing memory with
  | nil => exact List.Subset.refl _
  | cons pointer rest ih =>
    exact List.Subset.trans (agrees_ask registered memory pointer).grows (ih _)

/-- Asking for nodes leaves a faithful memory faithful exactly if all visits on the walks from them
are sound. -/
theorem faithful_askAll_iff (registered : env.Registered) {memory : Memory}
    (faithful : memory.Faithful env) (pointers : List Pointer) :
    (askAll env memory pointers).Faithful env ↔ ∀ p ∈ pointers, SoundFrom env p := by
  induction pointers generalizing memory with
  | nil => exact iff_of_true faithful fun _ hp => absurd hp List.not_mem_nil
  | cons pointer rest ih =>
    have first := (agrees_ask registered memory pointer).faithful faithful
    rw [List.forall_mem_cons]
    constructor
    · intro kept
      -- A memory that is no longer faithful stays so.
      have kept' := kept.subset (subset_askAll registered _ rest)
      exact ⟨first.1 kept', (ih kept').1 kept⟩
    · -- While it is faithful, the next pointer decides.
      intro sound
      exact (ih (first.2 sound.1)).2 sound.2

/-- After any calls, the memory of a resolver that started without one is faithful exactly if all
visits on the walks from the nodes that were asked for are sound. -/
theorem faithful_performAll_iff (registered : env.Registered) {r : Resolver} (henv : r.env = env)
    (fresh : r.memory = []) (calls : List Resolver.Call) :
    (r.performAll calls).memory.Faithful env ↔
      ∀ p ∈ askedFor env.root calls, SoundFrom env p := by
  rw [(r.after_performAll calls).memory, henv, fresh]
  exact faithful_askAll_iff registered (Memory.faithful_nil env) _

/-- After any calls, a resolver that started without memories finds what the plain walk finds, if
all visits on the way are sound. -/
theorem ask_after_calls (registered : env.Registered) {r : Resolver} (henv : r.env = env)
    (fresh : r.memory = []) {calls : List Resolver.Call} {pointer : Pointer}
    (sound : ∀ p ∈ pointer :: askedFor env.root calls, SoundFrom env p) :
    (ask env (r.performAll calls).memory pointer).1 = plain env pointer := by
  obtain ⟨here, before⟩ := List.forall_mem_cons.1 sound
  have faithful := (faithful_performAll_iff registered henv fresh calls).2 before
  exact ask_eq_plain registered faithful here

/-! ## Independence -/

/-- The memory of a resolver holds only what is true wherever it may be used, if and only if all
visits on the walks from the nodes that were asked for are sound: what was kept would have come out
the same with more room. Then an answer is the same after any calls as that of a new resolver. -/
theorem resolve_independent_of_history (registered : env.Registered)
    (calls : List Resolver.Call) :
    (((Resolver.new env).performAll calls).memory.Faithful env ↔
        ∀ p ∈ askedFor env.root calls, ∀ v ∈ visitsFrom env p, v.Kept env → v.Settled env) ∧
      ∀ pointer,
        (∀ p ∈ pointer :: askedFor env.root calls, ∀ v ∈ visitsFrom env p,
          v.Kept env → v.Settled env) →
        (((Resolver.new env).performAll calls).resolve pointer).1 =
          ((Resolver.new env).resolve pointer).1 := by
  -- The walk is the plain one in both resolvers.
  refine ⟨faithful_performAll_iff registered rfl rfl calls, fun pointer sound => ?_⟩
  have after := (Resolver.new env).after_performAll calls
  have hafter : (ask env ((Resolver.new env).performAll calls).memory pointer).1 =
      plain env pointer := ask_after_calls registered rfl rfl sound
  have hnew := ask_eq_plain registered (Memory.faithful_nil env)
    (sound pointer List.mem_cons_self)
  rw [Resolver.resolve_eq_answer _ _ after.transforms, Resolver.resolve_eq_answer _ _ rfl]
  rw [after.env]
  exact congrArg (fun walk => answer env pointer walk.value) (hafter.trans hnew.symm)

/-- With one level, `link` is cut at `mid`, and its state shows it; so it may be asked for again. -/
theorem resolve_link_again :
    (Forked.environment 1).Registered ∧
      (∀ p ∈ Sample.place "link" :: askedFor Forked.graph
          [.node (Sample.place "mid"), .named "#/link"],
        SoundFrom (Forked.environment 1) p) ∧
      (((Resolver.new (Forked.environment 1)).performAll
          [.node (Sample.place "mid"), .named "#/link"]).resolve (Sample.place "link")).1 =
        ((Resolver.new (Forked.environment 1)).resolve (Sample.place "link")).1 := by
  -- The visits are few, so all of them are computed.
  have sound : ∀ p ∈ Sample.place "link" :: askedFor Forked.graph
      [.node (Sample.place "mid"), .named "#/link"], SoundFrom (Forked.environment 1) p := by
    have safe : ((Sample.place "link" :: askedFor Forked.graph
        [.node (Sample.place "mid"), .named "#/link"]).all fun p =>
          (visitsFrom (Forked.environment 1) p).all (Visit.isSafe (Forked.environment 1))) =
        true := by decide
    exact fun p hp => soundFrom_of_isSafe (List.all_eq_true.1 safe p hp)
  exact ⟨Forked.registered 1, sound,
    (resolve_independent_of_history (Forked.registered 1) _).2 _ sound⟩

/-- Answers depend on what was asked before. From `link` on, two levels are not enough for `deep`,
and `base` falls back to its own value; asked for `base` itself, a new resolver reaches `deep`. -/
theorem resolve_depends_on_history :
    ¬ ∀ env : Environment, env.Registered → ∀ calls pointer,
      (((Resolver.new env).performAll calls).resolve pointer).1 =
        ((Resolver.new env).resolve pointer).1 := by
  intro independent
  have same := independent (Forked.environment 2) (Forked.registered 2)
    [.node (Sample.place "link")] (Sample.place "base")
  -- Alone, the token has the value of the override; after the alias it has that of the fallback
  -- list.
  have before : Sample.valueText ((Resolver.new (Forked.environment 2)).resolve
      (Sample.place "base")).1 = some "#111111" := by decide
  have after : Sample.valueText (((Resolver.new (Forked.environment 2)).performAll
      [.node (Sample.place "link")]).resolve (Sample.place "base")).1 = some "#222222" := by decide
  rw [same, before] at after
  exact absurd after (by decide)

/-! ## The plain walk -/

/-- If the plain walks from the nodes that are asked for are not cut, then a resolver finds for a
node, after any calls, exactly what the plain walk from it finds. -/
theorem ask_performAll_eq_plain (registered : env.Registered) (document : Option Document)
    (transforms : List Transform) (calls : List Resolver.Call) (pointer : Pointer)
    (low : ∀ p ∈ pointer :: askedFor env.root calls,
      (plain env p).height ≤ env.settings.maxDepth) :
    let r := ({ env, document, transforms } : Resolver).performAll calls
    (ask env r.memory pointer).1 = plain env pointer ∧
      (r.resolve pointer).1.token = (answer env pointer (plain env pointer).value).token := by
  intro r
  have walk : (ask env r.memory pointer).1 = plain env pointer :=
    ask_after_calls registered rfl rfl fun p hp => soundFrom_of_height_le (low p hp)
  refine ⟨walk, ?_⟩
  have henv : r.env = env := (Resolver.after_performAll _ calls).env
  rw [Resolver.token_resolve, henv, walk]

/-- Three levels are enough for the whole document. -/
theorem ask_forked_eq_plain :
    (Forked.environment 3).Registered ∧
      (∀ p ∈ Sample.place "base" :: askedFor Forked.graph [.node (Sample.place "link"), .all],
        (plain (Forked.environment 3) p).height ≤ 3) ∧
      (ask (Forked.environment 3) (({ env := Forked.environment 3 } : Resolver).performAll
          [.node (Sample.place "link"), .all]).memory (Sample.place "base")).1 =
        plain (Forked.environment 3) (Sample.place "base") := by
  have low : ∀ p ∈ Sample.place "base" :: askedFor Forked.graph
      [.node (Sample.place "link"), .all], (plain (Forked.environment 3) p).height ≤ 3 := by
    decide
  exact ⟨Forked.registered 3, low,
    (ask_performAll_eq_plain (Forked.registered 3) none [] _ _ low).1⟩

end DesignTokens.Resolution
