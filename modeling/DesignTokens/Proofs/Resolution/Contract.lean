import DesignTokens.Proofs.Resolution.Calls

/-!
# DesignTokens.Proofs.Resolution.Contract — what holds of every visit

A property of states is proved once for the evaluation of one node, given that it holds of the
levels below. Then it holds of every visit, at any depth, from any memory that was built on the way,
and so of every answer after any calls.

1. **Contracts** (`Contract`): what is asked for before a visit, what holds after it, and what a
   memory may say of a node; and that the evaluation of one node keeps a contract (`Contract.Kept`).
2. **Memories** (`Contract.Meets`): what is remembered is as the contract says.
3. **Visits** (`Contract.Kept.revisit`), **answers** (`Contract.Kept.stored_ask`) and **calls**
   (`Contract.Kept.ask_performAll`).
-/

namespace DesignTokens.Resolution

/-! ## Contracts -/

/-- Conditions for visits and for fallback lists. What holds after a visit must not depend on what
was pending, since it may be remembered. A memory knows a document by its URI alone, so what it says
of a node (`stored`) is a condition of its own. -/
structure Contract where
  pre : List Key → Graph → Pointer → Prop
  post : Graph → Pointer → State → Prop
  preList : List Key → Graph → List (Offer Reference) → Prop
  postList : Graph → List (Offer Reference) → Outcome → Prop
  stored : Key → State → Prop

/-- A state that some walk with a memory evaluates a node to. -/
def EvaluatesTo (env : Environment) (g : Graph) (pointer : Pointer) (s : State) : Prop :=
  ∃ room pending memory,
    ((evaluate (recallDeeper env room pending) env g pointer).run memory).1.value = s

/-- What a memory may say of a node, if the documents have different URIs: whichever of them the key
is about, the state is as it should be there. -/
def StoredAs (env : Environment) (post : Graph → Pointer → State → Prop) (key : Key)
    (s : State) : Prop :=
  ∀ g pointer, env.Has g → Key.of g pointer = key → post g pointer s

theorem storedAs_of_has {env : Environment} {g : Graph} (hg : env.Has g)
    {post : Graph → Pointer → State → Prop} {pointer : Pointer} {s : State}
    (h : post g pointer s) : StoredAs env post (Key.of g pointer) s := by
  intro g' pointer' hg' hkey
  -- A key names one node of one document.
  obtain ⟨rfl, huri⟩ := Key.mk.inj hkey
  obtain rfl := hg'.eq_of_uri_eq hg huri
  exact h

namespace Contract

/-- The levels below a node keep the contract, while some nodes are pending. -/
structure Below {m n : Type → Type} [Monad m] [Monad n] (C : Contract) (B : Bridge m n)
    (pending : List Key) (d : Deeper m) (d' : Deeper n) : Prop where
  visit : ∀ {g pointer}, C.pre pending g pointer →
    B.rel (C.post g pointer) (d.visit g pointer) (d'.visit g pointer)
  fallback : ∀ {g type owner entries}, C.preList pending g entries →
    B.rel (C.postList g entries) (d.fallback g type owner entries)
      (d'.fallback g type owner entries)

/-- Everything keeps the contract if the levels below it do. -/
structure Kept (env : Environment) (C : Contract) : Prop where
  reuse : ∀ {pending g pointer s}, C.pre pending g pointer → C.stored (Key.of g pointer) s →
    C.post g pointer s
  store : ∀ {pending g pointer s}, C.pre pending g pointer → EvaluatesTo env g pointer s →
    C.post g pointer s → C.stored (Key.of g pointer) s
  cycle : ∀ {pending g pointer}, C.pre pending g pointer → Key.of g pointer ∈ pending →
    C.post g pointer (cycleState g pointer)
  cut : ∀ {pending g pointer}, C.pre pending g pointer →
    C.post g pointer (cutState env.settings.maxDepth g pointer)
  cutList : ∀ {pending g entries}, C.preList pending g entries → ∀ owner,
    C.postList g entries (cutOutcome env.settings.maxDepth owner)
  node : ∀ {pending g pointer}, C.pre pending g pointer → Key.of g pointer ∉ pending →
    ∀ {m n : Type → Type} [Monad m] [Monad n] (B : Bridge m n) {d : Deeper m} {d' : Deeper n},
      C.Below B (Key.of g pointer :: pending) d d' →
        B.rel (C.post g pointer) (evaluate d env g pointer) (evaluate d' env g pointer)
  list : ∀ {pending g entries}, C.preList pending g entries → ∀ type owner,
    ∀ {m n : Type → Type} [Monad m] [Monad n] (B : Bridge m n) {d : Deeper m} {d' : Deeper n},
      C.Below B pending d d' →
        B.rel (C.postList g entries) (tryEntries d env g type owner entries)
          (tryEntries d' env g type owner entries)

/-! ## Memories -/

/-- All that was ever kept in the memory is as the contract says. -/
def Meets (C : Contract) (memory : Memory) : Prop :=
  ∀ entry ∈ memory, C.stored entry.1 entry.2.state

variable {C : Contract} {env : Environment} {memory : Memory} {g : Graph} {pointer : Pointer}

/-- An empty memory says nothing. -/
theorem meets_nil (C : Contract) : C.Meets [] :=
  fun _ h => absurd h List.not_mem_nil

/-- What is kept may be said of the node that it is kept for. -/
theorem Meets.keep (meets : C.Meets memory) (pending : List Key) {key : Key} {walk : Walk State}
    (h : C.stored key walk.value) : C.Meets (memory.keep pending key walk) := by
  unfold Memory.keep
  split
  · exact List.forall_mem_cons.2 ⟨h, meets⟩
  · exact meets

/-- What can be used from a memory is as the contract says. -/
theorem Meets.of_usable (meets : C.Meets memory) {room : Nat} {pending : List Key} {key : Key}
    {known : Remembered} (usable : memory.usable? room pending key = some known) :
    C.stored key known.state :=
  meets _ (Memory.usable?_eq_some usable).1

/-- Walks that find what they should and leave a memory as it should be. -/
def bridge (C : Contract) : Bridge Recall Recall where
  rel P x _ := ∀ memory, C.Meets memory →
    P (x.run memory).1.value ∧ C.Meets (x.run memory).2
  rel_imp h imp := fun memory hm => ⟨imp _ (h memory hm).1, (h memory hm).2⟩
  rel_pure hP := fun _ hm => ⟨hP, hm⟩
  rel_bind := by
    intro α β P Q x y f k hx hf memory hm
    obtain ⟨hP, hm'⟩ := hx memory hm
    exact hf _ hP _ hm'

/-! ## Visits -/

private theorem Kept.all (kept : C.Kept env) (room : Nat) :
    (∀ pending g pointer, C.pre pending g pointer → ∀ memory, C.Meets memory →
      C.post g pointer (revisit env room pending g pointer memory).1.value ∧
        C.Meets (revisit env room pending g pointer memory).2) ∧
      ∀ pending g type owner entries, C.preList pending g entries → ∀ memory, C.Meets memory →
        C.postList g entries (retry env room pending g type owner entries memory).1.value ∧
          C.Meets (retry env room pending g type owner entries memory).2 := by
  induction room with
  | zero =>
    constructor
    · -- no room left: a cycle, or a cut
      intro pending g pointer pre memory hm
      rw [revisit_zero]
      refine ⟨?_, hm⟩
      by_cases h : Key.of g pointer ∈ pending
      · rw [visit_of_mem env 0 pending g pointer h]
        exact kept.cycle pre h
      · rw [visit_zero env pending g pointer h]
        exact kept.cut pre
    · intro pending g type owner entries pre memory hm
      rw [retry_zero, fallback_zero]
      exact ⟨kept.cutList pre owner, hm⟩
  | succ room ih =>
    obtain ⟨visits, lists⟩ := ih
    -- The levels below keep the contract, by the induction.
    have below : ∀ pending, C.Below C.bridge pending (recallDeeper env room pending)
        (recallDeeper env room pending) := by
      intro pending
      constructor
      · intro g pointer pre memory hm
        exact visits pending g pointer pre memory hm
      · intro g type owner entries pre memory hm
        exact lists pending g type owner entries pre memory hm
    constructor
    · intro pending g pointer pre memory hm
      cases hu : memory.usable? (room + 1) pending (Key.of g pointer) with
      | some known =>
        -- remembered
        rw [revisit_of_usable env room pending g pointer memory hu]
        exact ⟨kept.reuse pre (hm.of_usable hu), hm⟩
      | none =>
        -- a cycle, or an evaluation that may be kept
        by_cases hp : Key.of g pointer ∈ pending
        · rw [revisit_of_mem env room pending g pointer memory hu hp]
          exact ⟨kept.cycle pre hp, hm⟩
        · rw [revisit_succ env room pending g pointer memory hu hp]
          obtain ⟨post, hm'⟩ := kept.node pre hp C.bridge (below _) memory hm
          exact ⟨post, hm'.keep pending (kept.store pre ⟨_, _, _, rfl⟩ post)⟩
    · intro pending g type owner entries pre memory hm
      rw [retry_succ]
      exact kept.list pre type owner C.bridge (below pending) memory hm

/-- Every visit keeps the contract, and so does what is remembered after it. -/
theorem Kept.revisit (kept : C.Kept env) (room : Nat) {pending : List Key}
    (pre : C.pre pending g pointer) (meets : C.Meets memory) :
    C.post g pointer (revisit env room pending g pointer memory).1.value ∧
      C.Meets (Resolution.revisit env room pending g pointer memory).2 :=
  (kept.all room).1 pending g pointer pre memory meets

/-! ## Calls -/

variable (kept : C.Kept env) (start : ∀ pointer, C.pre [] env.root pointer)

include kept start

/-- After some questions, what is remembered is still as the contract says. -/
theorem Kept.askAll (meets : C.Meets memory) (pointers : List Pointer) :
    C.Meets (askAll env memory pointers) := by
  induction pointers generalizing memory with
  | nil => exact meets
  | cons pointer rest ih => exact ih (kept.revisit _ (start pointer) meets).2

/-- What is found for a node of the root document is as a memory may say of it, since nothing is
pending and there is room for one node at least. -/
theorem Kept.stored_ask (meets : C.Meets memory) (pointer : Pointer) :
    C.stored (Key.of env.root pointer) (ask env memory pointer).1.value := by
  unfold ask
  cases usable : memory.usable? (env.settings.maxDepth + 1) [] (Key.of env.root pointer) with
  | some known =>
    rw [revisit_of_usable env _ [] env.root pointer memory usable]
    exact meets.of_usable usable
  | none =>
    have post := (kept.revisit (env.settings.maxDepth + 1) (start pointer) meets).1
    rw [revisit_succ env _ [] env.root pointer memory usable List.not_mem_nil] at post ⊢
    exact kept.store (start pointer) ⟨_, _, _, rfl⟩ post

/-- After any calls, a resolver that started without memories remembers what the contract says. -/
theorem Kept.meets_performAll {r : Resolver} (henv : r.env = env) (fresh : r.memory = [])
    (calls : List Resolver.Call) : C.Meets (r.performAll calls).memory := by
  rw [(r.after_performAll calls).memory, henv, fresh]
  exact kept.askAll start (meets_nil C) (Resolver.askedFor env.root calls)

/-- After any calls, what a resolver that started without memories finds for a node of the root
document is as the contract says. -/
theorem Kept.ask_performAll {r : Resolver} (henv : r.env = env) (fresh : r.memory = [])
    (calls : List Resolver.Call) (pointer : Pointer) :
    C.post env.root pointer (ask env (r.performAll calls).memory pointer).1.value :=
  (kept.revisit _ (start pointer) (kept.meets_performAll start henv fresh calls)).1

end Contract

end DesignTokens.Resolution
