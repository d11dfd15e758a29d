import DesignTokens.Proofs.Resolution.Memory
import DesignTokens.Resolution.Resolver

/-!
# DesignTokens.Proofs.Resolution.Calls — a resolver that is asked many times

What a resolver carries from one question to the next is its memory and the outcomes of its
transforms. A sequence of calls of any kind comes down to the pointers that are asked for.

1. **Calls** (`Resolver.Call`), the answers to a call (`Resolver.answers`), and the resolver after
   some calls (`Resolver.performAll`).
2. **What calls leave behind** (`Resolver.After`): the memory after the pointers that were asked
   for, and outcomes that are those of the transforms.
3. **Answers** (`Resolver.token_resolve`, `Resolver.log_resolve`, `Resolver.resolve_eq_answer`):
   what the state of a node becomes.
-/

namespace DesignTokens

open Resolution

/-! ## Calls -/

namespace Resolution

/-- The walk from a node of the root document, from a memory, with the memory that it leaves. -/
def ask (env : Environment) (memory : Memory) (pointer : Pointer) : Walk State × Memory :=
  revisit env (env.settings.maxDepth + 1) [] env.root pointer memory

/-- The memory after some nodes of the root document were asked for. -/
def askAll (env : Environment) (memory : Memory) (pointers : List Pointer) : Memory :=
  pointers.foldl (fun memory pointer => (ask env memory pointer).2) memory

/-- Pointers can be asked for in parts. -/
theorem askAll_append (env : Environment) (memory : Memory) (xs ys : List Pointer) :
    askAll env memory (xs ++ ys) = askAll env (askAll env memory xs) ys :=
  List.foldl_append

end Resolution

namespace Resolver

/-- A question to a resolver: for a node, for the node that a text names, or for all tokens. -/
inductive Call where
  | node (pointer : Pointer)
  | named (text : String)
  | all
deriving Repr

/-- The pointers that a call asks for; a text that is no pointer asks for none. -/
def Call.pointers (g : Graph) : Call → List Pointer
  | .node pointer => [pointer]
  | .named text => (Pointer.parse text).toOption.toList
  | .all => g.tokens

/-- The pointers that some calls ask for, in order. -/
def askedFor (g : Graph) (calls : List Call) : List Pointer :=
  calls.flatMap (Call.pointers g)

/-- The resolver after a call. -/
def perform (r : Resolver) : Call → Resolver
  | .node pointer => (r.resolve pointer).2
  | .named text => (r.resolveText text).2
  | .all => r.resolveAll.2

/-- The resolver after some calls, one after the other. -/
def performAll (r : Resolver) (calls : List Call) : Resolver :=
  calls.foldl perform r

/-- The answers to a call: to a call for all tokens, one for each of them. -/
def answers (r : Resolver) : Call → List Resolution
  | .node pointer => [(r.resolve pointer).1]
  | .named text => [(r.resolveText text).1]
  | .all => r.resolveAll.1.map (·.2)

/-! ## What calls leave behind -/

/-- The outcomes that a resolver keeps are those that its transforms gave for some token, after
some others. -/
def Honest (r : Resolver) : Prop :=
  ∀ entry ∈ r.transformed, ∃ earlier token,
    entry.2 = Transform.runAll r.transforms earlier token r.document

/-- What a resolver has become after some pointers were asked for. -/
structure After (r : Resolver) (pointers : List Pointer) (r' : Resolver) : Prop where
  env : r'.env = r.env
  document : r'.document = r.document
  transforms : r'.transforms = r.transforms
  memory : r'.memory = askAll r.env r.memory pointers
  honest : r.Honest → r'.Honest

namespace After

/-- A resolver that was asked for nothing. -/
theorem refl (r : Resolver) : After r [] r :=
  ⟨rfl, rfl, rfl, rfl, id⟩

/-- Asked for some pointers, and then for others. -/
theorem trans {r r' r'' : Resolver} {xs ys : List Pointer} (h : After r xs r')
    (h' : After r' ys r'') : After r (xs ++ ys) r'' where
  env := h'.env.trans h.env
  document := h'.document.trans h.document
  transforms := h'.transforms.trans h.transforms
  memory := by rw [h'.memory, h.env, h.memory, askAll_append]
  honest := fun hr => h'.honest (h.honest hr)

end After

/-- Transforms leave everything but their outcomes alone. -/
theorem after_transform (r : Resolver) (token : Token) : After r [] (r.transform token).2 := by
  unfold transform
  split
  · exact After.refl r
  · split
    · exact After.refl r
    · -- A new outcome is one of the transforms, and the others were there before.
      refine ⟨rfl, rfl, rfl, rfl, fun honest entry he => ?_⟩
      rcases List.mem_cons.1 he with rfl | he
      · exact ⟨_, _, rfl⟩
      · exact honest entry he

/-- A call for a pointer asks for it. -/
theorem after_resolve (r : Resolver) (pointer : Pointer) :
    After r [pointer] (r.resolve pointer).2 := by
  have walked : After r [pointer] { r with memory := (ask r.env r.memory pointer).2 } :=
    ⟨rfl, rfl, rfl, rfl, id⟩
  unfold resolve
  dsimp only
  split
  · exact walked.trans (after_transform _ _)
  · exact walked

/-- A call for a text asks for the pointer that it is, if it is one. -/
theorem after_resolveText (r : Resolver) (text : String) :
    After r (Call.pointers r.env.root (.named text)) (r.resolveText text).2 := by
  unfold resolveText
  cases h : Pointer.parse text with
  | ok pointer => simpa [Call.pointers, h, Except.toOption] using after_resolve r pointer
  | error e => simpa [Call.pointers, h, Except.toOption] using After.refl r

/-- To resolve some pointers is to ask for them in order. -/
theorem after_resolveEach (r : Resolver) (pointers : List Pointer) :
    After r pointers (r.resolveEach pointers).2 := by
  induction pointers generalizing r with
  | nil => exact After.refl r
  | cons pointer rest ih => exact (after_resolve r pointer).trans (ih (r.resolve pointer).2)

/-- One call. -/
theorem after_perform (r : Resolver) (call : Call) :
    After r (call.pointers r.env.root) (r.perform call) := by
  cases call with
  | node pointer => exact after_resolve r pointer
  | named text => exact after_resolveText r text
  | all => exact after_resolveEach r r.env.root.tokens

/-- Any sequence of calls. -/
theorem after_performAll (r : Resolver) (calls : List Call) :
    After r (askedFor r.env.root calls) (r.performAll calls) := by
  induction calls generalizing r with
  | nil => exact After.refl r
  | cons call rest ih =>
    have first := after_perform r call
    have more := ih (r.perform call)
    rw [first.env] at more
    exact first.trans more

/-! ## Answers -/

/-- The answer for a node with the given state, if there are no transforms. -/
def answer (env : Environment) (pointer : Pointer) (s : State) : Resolution :=
  if s.found then { token := some (s.token env.root.uri pointer), log := s.log, derived := [] }
  else { token := none, log := s.log, derived := [] }

variable (r : Resolver) (pointer : Pointer)

/-- The token of an answer comes from the state of the node. -/
theorem token_resolve :
    (r.resolve pointer).1.token =
      (answer r.env pointer (ask r.env r.memory pointer).1.value).token := by
  unfold resolve answer ask
  dsimp only
  split <;> rfl

/-- If there is a token in an answer, it is made of the state of the node. -/
theorem eq_token_of_resolve {token : Token} (h : (r.resolve pointer).1.token = some token) :
    token = (ask r.env r.memory pointer).1.value.token r.env.root.uri pointer := by
  rw [token_resolve] at h
  unfold answer at h
  split at h
  · exact (Option.some.inj h).symm
  · cases h

/-- The log of an answer is that of the state; all else in it some transforms reported. -/
theorem log_resolve (honest : r.Honest) :
    ∃ more, (r.resolve pointer).1.log = (ask r.env r.memory pointer).1.value.log ++ more ∧
      ∀ d ∈ more, ∃ earlier token,
        d ∈ (Transform.runAll r.transforms earlier token r.document).log := by
  unfold resolve ask
  dsimp only
  split
  · -- Of a token, what the transforms reported comes after the log of its state.
    unfold transform
    dsimp only
    split
    · exact ⟨[], rfl, fun _ hd => absurd hd List.not_mem_nil⟩
    · split
      · next outcome found =>
        -- The transforms ran at an earlier call for this token.
        obtain ⟨front, back, happ, _⟩ := List.lookup_eq_some_iff.1 found
        have kept := honest _ (happ ▸ List.mem_append_right front List.mem_cons_self)
        obtain ⟨earlier, token, houtcome⟩ := kept
        exact ⟨outcome.log, rfl, fun d hd => ⟨earlier, token, houtcome ▸ hd⟩⟩
      · -- The transforms run now.
        exact ⟨_, rfl, fun d hd => ⟨_, _, hd⟩⟩
  · -- What is no token is not transformed.
    exact ⟨[], (List.append_nil _).symm, fun _ hd => absurd hd List.not_mem_nil⟩

/-- Of a resolver that was asked before, the log of an answer is that of the state, with what the
transforms reported. -/
theorem log_performAll (env : Environment) (document : Option Document)
    (transforms : List Transform) (calls : List Call) :
    let r := ({ env, document, transforms } : Resolver).performAll calls
    ∃ more, (r.resolve pointer).1.log = (ask env r.memory pointer).1.value.log ++ more ∧
      ∀ d ∈ more, ∃ earlier token,
        d ∈ (Transform.runAll transforms earlier token document).log := by
  intro r
  have after := after_performAll ({ env, document, transforms } : Resolver) calls
  have honest : r.Honest := after.honest fun _ h => absurd h List.not_mem_nil
  obtain ⟨more, log, reported⟩ := r.log_resolve pointer honest
  rw [after.env] at log
  rw [after.transforms, after.document] at reported
  exact ⟨more, log, reported⟩

/-- Without transforms, the answer is that for the state of the node. -/
theorem resolve_eq_answer (h : r.transforms = []) :
    (r.resolve pointer).1 = answer r.env pointer (ask r.env r.memory pointer).1.value := by
  unfold resolve answer ask
  dsimp only
  split
  · simp [transform, h]
  · rfl

end Resolver

end DesignTokens
