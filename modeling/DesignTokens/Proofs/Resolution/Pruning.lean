import DesignTokens.Proofs.Resolution.Context
import DesignTokens.Proofs.Sample

/-!
# DesignTokens.Proofs.Resolution.Pruning — only the last override counts

Of the overrides of a token whose conditions hold, the last one is tried, and if it fails, none of
the others. So all but these can be taken out of the documents, and every answer stays the same.

1. **Pruning** (`Graph.pruned`): of the overrides of each token, the last one that applies is left
   (`Graph.overridesFor_pruned`).
2. **Environments** whose documents are pruned (`Environment.pruned`): the same overrides apply.
3. **Answers** (`answers_of_pruned`), after any calls.
-/

namespace DesignTokens

open Resolution

/-! ## Pruning -/

/-- Of the overrides of each token that pass a test, the last one. -/
def lastOverrides (test : Override Reference → Bool) :
    List (Override Reference) → List (Override Reference)
  | [] => []
  | entry :: rest =>
    let later := rest.any fun other =>
      test other && other.token.target.pointer == entry.token.target.pointer
    if test entry && !later then entry :: lastOverrides test rest else lastOverrides test rest

/-- What is left for a token is the last override that passes the test. -/
theorem filter_lastOverrides (test : Override Reference → Bool)
    (overrides : List (Override Reference)) (pointer : Pointer) :
    (lastOverrides test overrides).filter (·.token.target.pointer = pointer) =
      ((overrides.filter (·.token.target.pointer = pointer)).filter test).getLast?.toList := by
  induction overrides with
  -- The same two lists, entry by entry.
  | nil => rfl
  | cons entry rest ih =>
    by_cases here : entry.token.target.pointer = pointer
    · subst here
      cases passes : test entry with
      | false => simpa [lastOverrides, passes] using ih
      | true =>
        -- The entry is left if no later one for the token passes.
        have superseded : (rest.any fun other => test other &&
              other.token.target.pointer == entry.token.target.pointer) =
            !((rest.filter (·.token.target.pointer = entry.token.target.pointer)).filter
              test).isEmpty := by
          rw [Bool.eq_iff_iff]
          simp [List.filter_eq_nil_iff, and_comm]
        cases later : (rest.filter
            (·.token.target.pointer = entry.token.target.pointer)).filter test with
        | nil =>
          rw [later] at ih superseded
          simpa [lastOverrides, passes, superseded, later] using ih
        | cons other others =>
          rw [later] at ih superseded
          simpa [lastOverrides, passes, superseded, later] using ih
    · -- The entry is for another token, whether it is left or not.
      have others : (lastOverrides test (entry :: rest)).filter
            (·.token.target.pointer = pointer) =
          (lastOverrides test rest).filter (·.token.target.pointer = pointer) := by
        simp only [lastOverrides]
        split <;> simp [here]
      simpa [here, others] using ih

/-- A document with the last override of each token that passes a test. -/
def Graph.pruned (g : Graph) (test : Override Reference → Bool) : Graph :=
  { g with overrides := lastOverrides test g.overrides }

/-- What the pruned graph has for a token is the last of its overrides that pass. -/
theorem Graph.overridesFor_pruned (g : Graph) (test : Override Reference → Bool)
    (pointer : Pointer) :
    (g.pruned test).overridesFor pointer =
      ((g.overridesFor pointer).filter test).getLast?.toList :=
  filter_lastOverrides test g.overrides pointer

namespace Resolution

/-! ## Environments -/

/-- What is looked up in a list whose values were changed is the changed value. -/
theorem lookup_map {α β γ : Type} [BEq α] (key : α) (f : β → γ) (entries : List (α × β)) :
    (entries.map fun (name, value) => (name, f value)).lookup key =
      (entries.lookup key).map f := by
  induction entries with
  | nil => rfl
  | cons entry rest ih =>
    obtain ⟨name, value⟩ := entry
    simp only [List.map_cons, List.lookup_cons]
    cases key == name with
    | true => rfl
    | false => exact ih

namespace Environment

/-- An environment in which each token of a document has at most one override, the one that applies
in the context. -/
def pruned (env : Environment) : Environment where
  root := env.root.pruned env.enables
  externals := env.externals.map fun (uri, g) => (uri, g.pruned env.enables)
  settings := env.settings

variable (env : Environment)

/-- The override that applies is the one that is left. -/
theorem override?_pruned (g : Graph) (pointer : Pointer) :
    env.pruned.override? (g.pruned env.enables) pointer = env.override? g pointer := by
  have enables : env.pruned.enables = env.enables := rfl
  rw [override?, override?, Graph.overridesFor_pruned, enables]
  cases last : ((g.overridesFor pointer).filter env.enables).getLast? with
  | none => rfl
  | some entry =>
    have passes : env.enables entry = true := (List.mem_filter.1 (List.mem_of_getLast? last)).2
    simp [passes]

/-- References lead to the pruned documents. -/
theorem follow_pruned (g : Graph) (reference : Reference) :
    env.pruned.follow (g.pruned env.enables) reference =
      (env.follow g reference).map (·.pruned env.enables) := by
  have loaded : ∀ uri, env.pruned.external? uri =
      (env.external? uri).map (·.pruned env.enables) :=
    fun uri => lookup_map uri (fun g : Graph => g.pruned env.enables) env.externals
  have settings : env.pruned.settings = env.settings := rfl
  have root : env.pruned.root.uri = env.root.uri := rfl
  unfold follow
  simp only [loaded, settings, root]
  split
  · -- The reference stays in its document.
    rfl
  · split
    · -- It may not be followed.
      rfl
    · split
      · -- Another document, which is pruned as well.
        rfl
      · cases env.external? reference.target.uri <;> rfl

/-- A pruned environment has the pruned graphs of the environment. -/
theorem mapped_pruned : Mapped (·.pruned env.enables) env env.pruned where
  root := rfl
  maxDepth := rfl
  uri := fun _ => rfl
  node? := fun _ _ => rfl
  follow := env.follow_pruned
  override? := fun g _ => env.override?_pruned g

/-- Pruning changes no answer, since a walk asks for the last override that is enabled. -/
theorem asksAlike_pruned : env.AsksAlike env.pruned where
  uri := rfl
  tokens := rfl
  ask := env.mapped_pruned.ask

/-! ## Answers -/

/-- An override applies if it has conditions, and the context has a value for each of them that is
equal to the one that the condition names, or to an item of it if it is an array. -/
theorem enables_iff (entry : Override Reference) :
    env.enables entry = true ↔
      entry.conditions.value ≠ [] ∧ ∀ condition ∈ entry.conditions.value,
        ∃ actual, env.settings.context.get? condition.1 = some actual ∧
          ∃ allowed ∈ condition.2.items?.getD [condition.2], allowed.same actual = true := by
  rw [enables, Conditions.hold_ofMembers_iff]
  have holds : ∀ named actual : Json, (Condition.ofJson named).holds actual = true ↔
      ∃ allowed ∈ named.items?.getD [named], allowed.same actual = true := by
    intro named actual
    cases named <;> simp [Condition.ofJson, Condition.holds, Json.items?]
  simp only [holds]

end Environment

/-- After any calls, every answer is the same if of the overrides of each token only the last one
that applies in the context is left: in the token, the reports and what transforms make of it. And
an override applies if it has conditions and the context satisfies all of them. -/
theorem answers_of_pruned (env : Environment) (document : Option Document)
    (transforms : List Transform) :
    (∀ calls call, (({ env := env.pruned, document, transforms } : Resolver).performAll
        calls).answers call =
      (({ env, document, transforms } : Resolver).performAll calls).answers call) ∧
    ∀ entry, env.enables entry = true ↔
      entry.conditions.value ≠ [] ∧ ∀ condition ∈ entry.conditions.value,
        ∃ actual, env.settings.context.get? condition.1 = some actual ∧
          ∃ allowed ∈ condition.2.items?.getD [condition.2], allowed.same actual = true := by
  constructor
  · intro calls call
    let r : Resolver := { env, document, transforms }
    have alike : r.env.AsksAlike env.pruned := env.asksAlike_pruned
    exact Resolver.answers_performAll_of_asksAlike alike calls call
  · exact env.enables_iff

/-! ### Two overrides that apply -/

namespace Superseded

open Sample (place valueText)

/-- The override at an index, in the mode `on`, with the value or the reference that it has. -/
def entry (i : Nat) (target : Option String) (value : Option String) : Override Reference :=
  let here := (place "$overrides").index i
  Sample.override "base" [("mode", .string "on")]
    (.mk here none (target.map fun name => Sample.referenceTo name (here.child "$ref"))
      (value.map fun text => ⟨.string text, here.child "$value", none⟩) [])

/-- The first override of `base` would give it a value; the second one leads nowhere. -/
def environment : Environment where
  root := Sample.graph Sample.home [Sample.token "base" "#000000"]
    [entry 0 none (some "#111111"), entry 1 (some "nowhere") none]
  externals := []
  settings := { context := [("mode", .string "on")] }

/-- Both apply, and only the second one is left. It fails, and then `base` keeps its own value. -/
example :
    environment.root.overrides.map environment.enables = [true, true] ∧
      environment.pruned.root.overrides.map Override.pointer = [(place "$overrides").index 1] ∧
      valueText ((Resolver.new environment).resolve (place "base")).1 = some "#000000" ∧
      valueText ((Resolver.new environment.pruned).resolve (place "base")).1 = some "#000000" := by
  decide

end Superseded

end Resolution

end DesignTokens
