import DesignTokens.Proofs.Resolution.Calls
import DesignTokens.Proofs.Resolution.Likeness

/-!
# DesignTokens.Proofs.Resolution.Lockstep — resolvers that answer alike

Two resolvers, one for a graph and one for an alike one, are asked the same questions. Their
memories stay alike, and so do their answers.

1. **Visits** (`Likeness.revisit`): an induction on the room, with the rules for one node.
2. **Answers** (`Likeness.Answers`) of resolvers that remember alike (`Likeness.Resolvers`).
3. **Calls** (`Likeness.Resolvers.answers_performAll`).
-/

namespace DesignTokens.Likeness

open Resolution

variable {L : Likeness}

/-! ## Visits -/

section Visits

variable {env env' : Environment} {g g' : Graph}

theorem span_node? (hg : L.Graphs g g') (compared : L.reports = true) (pointer : Pointer) :
    (g.node? pointer).bind (·.span) = (g'.node? pointer).bind (·.span) := by
  rcases optionRel_cases (hg.node? pointer) with ⟨hn, hn'⟩ | ⟨node, node', hn, hn', nodes⟩
  · rw [hn, hn']
  · have span := nodes.span
    rw [span_eq compared, span_eq compared] at span
    rw [hn, hn', Option.bind_some, Option.bind_some, span]

theorem States.cycle (hg : L.Graphs g g') (pointer : Pointer) :
    L.States (cycleState g pointer) (cycleState g' pointer) :=
  .unresolved true fun compared => by rw [span_node? hg compared]

theorem States.cut (hg : L.Graphs g g') (limit : Nat) (pointer : Pointer) :
    L.States (cutState limit g pointer) (cutState limit g' pointer) :=
  have unresolved := States.unresolved (L := L) true fun compared =>
    congrArg ((Fault.tooDeep pointer limit).located pointer) (span_node? hg compared pointer)
  { unresolved with truncated := rfl }

theorem Walks.touching {walk walk' : Walk State} (h : Walks L.States walk walk') (key : Key) :
    Walks L.States (walk.touching key) (walk'.touching key) :=
  ⟨h.value, congrArg (union [key]) h.touched, h.height⟩

/-- Walks that end at a node. -/
theorem Walks.stop {s s' : State} (h : L.States s s') (key : Key) :
    Walks L.States (.touching key (pure s)) (.touching key (pure s')) :=
  ⟨h, rfl, rfl⟩

/-- The same can be used of alike memories. -/
theorem Memories.usable? {memory memory' : Memory} (h : L.Memories memory memory') (room : Nat)
    (pending : List Key) (key : Key) :
    Option.Rel (fun x y => Walks L.States x.walk y.walk)
      (memory.usable? room pending key) (memory'.usable? room pending key) := by
  have found : Option.Rel (fun x y => Walks L.States x.walk y.walk)
      (memory.lookup key) (memory'.lookup key) := by
    induction h with
    | nil => exact .none
    | @cons x y _ _ head _ ih =>
      obtain ⟨name, known⟩ := x
      -- Alike memories have the same keys in the same order, so the same entry is found.
      obtain ⟨name', known'⟩ := y
      obtain rfl : name = name' := head.key
      rw [List.lookup_cons, List.lookup_cons]
      split
      · exact .some ⟨head.state, head.touched, head.height⟩
      · exact ih
  unfold Memory.usable?
  rcases optionRel_cases found with ⟨hx, hy⟩ | ⟨x, y, hx, hy, walks⟩
  · rw [hx, hy]
    exact .none
  · -- Whether an entry may be used depends on what it touched and on its height.
    have touched : x.touched = y.touched := walks.touched
    have height : x.height = y.height := walks.height
    rw [hx, hy]
    simp only [Option.filter_some, touched, height]
    split
    · exact .some walks
    · exact .none

/-- Alike walks are both kept or both not kept. -/
theorem Memories.keep {memory memory' : Memory} (h : L.Memories memory memory')
    (pending : List Key) (key : Key) {walk walk' : Walk State}
    (walks : Walks L.States walk walk') :
    L.Memories (memory.keep pending key walk) (memory'.keep pending key walk') := by
  unfold Memory.keep
  rw [walks.value.truncated, walks.touched]
  split
  · exact .cons ⟨rfl, walks.value, rfl, walks.height⟩ h
  · exact h

theorem key_eq (hg : L.Graphs g g') (pointer : Pointer) : Key.of g pointer = Key.of g' pointer := by
  rw [Key.of, Key.of, hg.uri]

/-- Alike environments and memories give alike walks and alike memories afterwards. -/
private theorem visits (henv : L.Environments env env') (room : Nat) :
    (∀ pending {g g' : Graph} pointer, L.Graphs g g' →
      L.Recalls L.States ⟨fun memory => revisit env room pending g pointer memory⟩
        ⟨fun memory => revisit env' room pending g' pointer memory⟩) ∧
      ∀ pending {g g' : Graph} type owner {entries entries' : List (Offer Reference)},
        L.Graphs g g' → List.Forall₂ (L.Offers L.References) entries entries' →
          L.Recalls L.Outcomes ⟨fun memory => retry env room pending g type owner entries memory⟩
            ⟨fun memory => retry env' room pending g' type owner entries' memory⟩ := by
  induction room with
  | zero =>
    constructor
    · intro pending g g' pointer hg memory memory' memories
      refine ⟨?_, ?_⟩
      · -- Without room, the memory is not asked.
        simp only [revisit_zero]
        by_cases cyclic : Key.of g pointer ∈ pending
        · rw [visit_of_mem env 0 pending g pointer cyclic, key_eq hg,
            visit_of_mem env' 0 pending g' pointer (key_eq hg pointer ▸ cyclic)]
          exact .stop (.cycle hg pointer) _
        · rw [visit_zero env pending g pointer cyclic, key_eq hg,
            visit_zero env' pending g' pointer (key_eq hg pointer ▸ cyclic), henv.settings]
          exact .stop (.cut hg _ pointer) _
      · simpa only [revisit_zero] using memories
    · intro pending g g' type owner entries entries' hg list memory memory' memories
      simp only [retry_zero, fallback_zero, henv.settings]
      exact ⟨⟨.error ⟨rfl, rfl⟩, rfl, rfl⟩, memories⟩
  | succ room ih =>
    obtain ⟨nodes, lists⟩ := ih
    have deepers : ∀ pending,
        L.Deepers (recallDeeper env room pending) (recallDeeper env' room pending) := by
      intro pending
      constructor
      · intro g g' pointer hg
        exact (nodes pending pointer hg).below
      · intro g g' type owner entries entries' hg list
        exact (lists pending type owner hg list).below
    constructor
    · intro pending g g' pointer hg memory memory' memories
      dsimp only
      rcases optionRel_cases (memories.usable? (room + 1) pending (Key.of g pointer)) with
        ⟨none, none'⟩ | ⟨known, known', some, some', walks⟩
      · -- Neither memory has an entry that may be used.
        have keys := key_eq hg pointer
        rw [keys] at none'
        by_cases cyclic : Key.of g pointer ∈ pending
        · rw [revisit_of_mem env room pending g pointer memory none cyclic, keys,
            revisit_of_mem env' room pending g' pointer memory' none' (keys ▸ cyclic)]
          exact ⟨.stop (.cycle hg pointer) _, memories⟩
        · rw [revisit_succ env room pending g pointer memory none cyclic, keys,
            revisit_succ env' room pending g' pointer memory' none' (keys ▸ cyclic)]
          obtain ⟨walks, memories'⟩ :=
            Recalls.evaluate henv (deepers (Key.of g' pointer :: pending)) hg pointer memories
          -- The walk below is alike, and so is what is kept of it.
          exact ⟨walks.touching _, Memories.keep memories' pending _ (walks.touching _)⟩
      · -- Both memories have one.
        rw [key_eq hg pointer] at some'
        rw [revisit_of_usable env room pending g pointer memory some,
          revisit_of_usable env' room pending g' pointer memory' some']
        exact ⟨walks, memories⟩
    · intro pending g g' type owner entries entries' hg list memory memory' memories
      dsimp only
      rw [retry_succ, retry_succ]
      exact Recalls.tryEntries henv (deepers pending) hg type owner list memories

/-- The nodes at one pointer of alike graphs are visited alike. -/
theorem revisit (henv : L.Environments env env') (room : Nat) (pending : List Key)
    (hg : L.Graphs g g') (pointer : Pointer) :
    L.Recalls L.States ⟨fun memory => Resolution.revisit env room pending g pointer memory⟩
      ⟨fun memory => Resolution.revisit env' room pending g' pointer memory⟩ :=
  (visits henv room).1 pending pointer hg

end Visits

/-! ## Answers -/

variable (L) in
/-- Tokens with alike values from the same places, which were found on the same way. -/
structure Tokens (t t' : Token) : Prop where
  pointer : t.pointer = t'.pointer
  uri : t.uri = t'.uri
  type : t.type = t'.type
  value : Option.Rel L.value t.value t'.value
  source : t.source.map L.source = t'.source.map L.source
  applied : t.applied.map L.applied = t'.applied.map L.applied
  warnings : L.log t.warnings = L.log t'.warnings
  trace : t.trace.map L.step = t'.trace.map L.step

variable (L) in
/-- Answers with alike tokens. -/
structure Answers (a a' : Resolution) : Prop where
  token : Option.Rel L.Tokens a.token a'.token
  log : L.log a.log = L.log a'.log
  derived : a.derived = a'.derived

variable (L) in
/-- Resolvers without transforms for alike graphs, with alike memories. -/
structure Resolvers (r r' : Resolver) : Prop where
  environments : L.Environments r.env r'.env
  memories : L.Memories r.memory r'.memory
  plain : r.transforms = []
  plain' : r'.transforms = []

/-- Alike states are answered alike. -/
theorem States.answer {env env' : Environment} (henv : L.Environments env env')
    (pointer : Pointer) {s s' : State} (h : L.States s s') :
    L.Answers (Resolver.answer env pointer s) (Resolver.answer env' pointer s') := by
  unfold Resolver.answer
  rw [h.found]
  split
  · refine ⟨.some ⟨rfl, henv.root.uri, h.type, h.value, h.source, h.applied, ?_, h.trace⟩, h.log,
      rfl⟩
    -- The warnings of a token are read off the log.
    refine log_eq fun compared => ?_
    have logs := h.log
    rw [Likeness.log, Likeness.log, if_pos compared, if_pos compared] at logs
    rw [State.token, State.token, logs]
  · exact ⟨.none, h.log, rfl⟩

namespace Resolvers

variable {r r' : Resolver}

/-- Alike resolvers answer alike and are alike afterwards. -/
theorem resolve (h : L.Resolvers r r') (pointer : Pointer) :
    L.Answers (r.resolve pointer).1 (r'.resolve pointer).1 ∧
      L.Resolvers (r.resolve pointer).2 (r'.resolve pointer).2 := by
  obtain ⟨walks, memories⟩ := revisit h.environments (r'.env.settings.maxDepth + 1) []
    h.environments.root pointer h.memories
  have after := Resolver.after_resolve r pointer
  have after' := Resolver.after_resolve r' pointer
  have asked : L.Memories (ask r.env r.memory pointer).2 (ask r'.env r'.memory pointer).2 := by
    simpa only [ask, h.environments.settings] using memories
  constructor
  · rw [Resolver.resolve_eq_answer r pointer h.plain,
      Resolver.resolve_eq_answer r' pointer h.plain']
    refine States.answer h.environments pointer ?_
    -- The walk, and then what the resolver keeps of it.
    simpa only [ask, h.environments.settings] using walks.value
  · refine ⟨?_, ?_, after.transforms.trans h.plain, after'.transforms.trans h.plain'⟩
    · rw [after.env, after'.env]
      exact h.environments
    · rw [after.memory, after'.memory]
      exact asked

theorem resolveText (h : L.Resolvers r r') (text : String) :
    L.Answers (r.resolveText text).1 (r'.resolveText text).1 ∧
      L.Resolvers (r.resolveText text).2 (r'.resolveText text).2 := by
  unfold Resolver.resolveText
  cases Pointer.parse text with
  | ok pointer => exact h.resolve pointer
  | error fault => exact ⟨⟨.none, rfl, rfl⟩, h⟩

theorem resolveEach (h : L.Resolvers r r') (pointers : List Pointer) :
    List.Forall₂ L.Answers ((r.resolveEach pointers).1.map (·.2))
        ((r'.resolveEach pointers).1.map (·.2)) ∧
      L.Resolvers (r.resolveEach pointers).2 (r'.resolveEach pointers).2 := by
  induction pointers generalizing r r' with
  | nil => exact ⟨.nil, h⟩
  | cons pointer rest ih =>
    obtain ⟨first, next⟩ := h.resolve pointer
    obtain ⟨others, last⟩ := ih next
    exact ⟨.cons first others, last⟩

/-! ## Calls -/

/-- A call that asks both resolvers for the same nodes is answered alike. -/
theorem answers (h : L.Resolvers r r') {call : Resolver.Call}
    (same : call.pointers r.env.root = call.pointers r'.env.root) :
    List.Forall₂ L.Answers (r.answers call) (r'.answers call) ∧
      L.Resolvers (r.perform call) (r'.perform call) := by
  cases call with
  | node pointer =>
    obtain ⟨answer, next⟩ := h.resolve pointer
    exact ⟨.cons answer .nil, next⟩
  | named text =>
    obtain ⟨answer, next⟩ := h.resolveText text
    exact ⟨.cons answer .nil, next⟩
  | all =>
    have tokens : r.env.root.tokens = r'.env.root.tokens := same
    simp only [Resolver.answers, Resolver.perform, Resolver.resolveAll, tokens]
    exact h.resolveEach _

theorem performAll (h : L.Resolvers r r') {calls : List Resolver.Call}
    (same : ∀ call ∈ calls, call.pointers r.env.root = call.pointers r'.env.root) :
    L.Resolvers (r.performAll calls) (r'.performAll calls) := by
  induction calls generalizing r r' with
  | nil => exact h
  | cons call rest ih =>
    rw [List.forall_mem_cons] at same
    refine ih (h.answers same.1).2 ?_
    rw [(r.after_perform call).env, (r'.after_perform call).env]
    exact same.2

/-- After any calls that ask both resolvers for the same nodes, every such call is answered
alike. -/
theorem answers_performAll (h : L.Resolvers r r') {calls : List Resolver.Call}
    {call : Resolver.Call} (same : ∀ c ∈ call :: calls,
      c.pointers r.env.root = c.pointers r'.env.root) :
    List.Forall₂ L.Answers ((r.performAll calls).answers call)
      ((r'.performAll calls).answers call) := by
  rw [List.forall_mem_cons] at same
  refine ((h.performAll same.2).answers ?_).1
  rw [(r.after_performAll calls).env, (r'.after_performAll calls).env]
  exact same.1

end Resolvers

end DesignTokens.Likeness
