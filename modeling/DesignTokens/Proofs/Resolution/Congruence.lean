import DesignTokens.Proofs.Resolution.Calls

/-!
# DesignTokens.Proofs.Resolution.Congruence — environments that no resolution can tell apart

Of the documents that are loaded, a resolution asks its environment where a reference leads, which
override applies to a node, and how many levels it may go down. Environments that answer alike lead
to the same states, walk by walk and call by call. The documents themselves may differ where none of
this shows.

1. **Loaded documents** (`Environment.Loads`): references lead from one to another.
2. **Congruence** (`Environment.Congruent`), and that with images of the documents
   (`Environment.Mapped`).
3. **Evaluation** (`Mapped.evaluate`) and **visits** (`Mapped.ask`): they come out the same.
4. **Calls** (`Resolver.answers_performAll_moved`), with any transforms. It is enough that the nodes
   of the root document are found to be the same (`Environment.AsksAlike`).
-/

namespace DesignTokens.Resolution

/-! ## Loaded documents -/

/-- The root document, or another one that is found under some URI. -/
def Environment.Loads (env : Environment) (g : Graph) : Prop :=
  g = env.root ∨ ∃ uri, env.external? uri = some g

/-- The root document is loaded. -/
theorem Environment.loads_root (env : Environment) : env.Loads env.root :=
  .inl rfl

/-- References lead from loaded documents to loaded documents. -/
theorem Environment.Loads.follow {env : Environment} {g target : Graph} (hg : env.Loads g)
    {reference : Reference} (h : env.follow g reference = .ok target) : env.Loads target := by
  rcases Environment.follow_cases h with ⟨_, rfl⟩ | ⟨_, _, rfl⟩ | ⟨_, _, found⟩
  · exact hg
  · exact env.loads_root
  · exact .inr ⟨_, found⟩

/-! ## Congruence -/

/-- Environments that say the same of every loaded document. -/
structure Environment.Congruent (env env' : Environment) : Prop where
  root : env'.root = env.root
  maxDepth : env'.settings.maxDepth = env.settings.maxDepth
  follow : ∀ g reference, env'.follow g reference = env.follow g reference
  override? : ∀ g, env.Loads g → ∀ pointer, env'.override? g pointer = env.override? g pointer

/-- An environment with the images of the documents of another one: they have the same nodes, the
same override applies to each of them, and references lead to the images of the documents that they
lead to. -/
structure Environment.Mapped (image : Graph → Graph) (env env' : Environment) : Prop where
  root : env'.root = image env.root
  maxDepth : env'.settings.maxDepth = env.settings.maxDepth
  uri : ∀ g, (image g).uri = g.uri
  node? : ∀ g pointer, (image g).node? pointer = g.node? pointer
  follow : ∀ g reference, env'.follow (image g) reference = (env.follow g reference).map image
  override? : ∀ g, env.Loads g → ∀ pointer,
    env'.override? (image g) pointer = env.override? g pointer

/-- Congruent environments have the same documents. -/
theorem Environment.Congruent.mapped {env env' : Environment} (same : env.Congruent env') :
    Environment.Mapped id env env' where
  root := same.root
  maxDepth := same.maxDepth
  uri := fun _ => rfl
  node? := fun _ _ => rfl
  follow := by
    intro g reference
    rw [id, same.follow]
    cases env.follow g reference <;> rfl
  override? := same.override?

/-- Deeper levels in which loaded documents are visited like their images. -/
structure Deeper.Mapped {m : Type → Type} (image : Graph → Graph) (env : Environment)
    (d d' : Deeper m) : Prop where
  visit : ∀ g, env.Loads g → ∀ pointer, d'.visit (image g) pointer = d.visit g pointer
  fallback : ∀ g, env.Loads g → ∀ type owner entries,
    d'.fallback (image g) type owner entries = d.fallback g type owner entries

namespace Environment.Mapped

variable {image : Graph → Graph} {env env' : Environment} (same : Environment.Mapped image env env')

include same

/-! ## Evaluation -/

/-- The image of a document checks a replacement alike. -/
theorem checkReplacement (g : Graph) (node : Graph.Node) (s : State) :
    checkReplacement env' (image g) node s = checkReplacement env g node s := by
  have faults : ∀ reference type, replacementFault? env' (image g) node reference type =
      replacementFault? env g node reference type := by
    intro reference type
    unfold replacementFault?
    rw [same.follow]
    cases env.follow g reference with
    | ok target => simp only [Except.map, same.node?]
    | error fault => rfl
  simp only [Resolution.checkReplacement, faults]

section Evaluation

variable {m : Type → Type} [Monad m] {d d' : Deeper m} (deeper : Deeper.Mapped image env d d')
variable {g : Graph} (loaded : env.Loads g)

include deeper loaded

/-- The image of a document follows a reference alike. -/
theorem deeperFollow (reference : Reference) :
    d'.follow env' (image g) reference = d.follow env g reference := by
  unfold Deeper.follow
  rw [same.follow]
  cases target : env.follow g reference with
  | ok target' => exact deeper.visit target' (loaded.follow target) _
  | error fault => rfl

/-- The image of a document tries an offer alike. -/
theorem tryOffer (type : Option String) (offer : Offer Reference) :
    tryOffer d' env' (image g) type offer = tryOffer d env g type offer := by
  simp only [Resolution.tryOffer, same.deeperFollow deeper loaded, deeper.fallback g loaded,
    valueOutcome, same.uri]

/-- The image of a document tries a fallback list alike. -/
theorem tryEntries (type : Option String) (owner : Pointer) (entries : List (Offer Reference)) :
    tryEntries d' env' (image g) type owner entries = tryEntries d env g type owner entries := by
  simp only [Resolution.tryEntries, same.tryOffer deeper loaded, Payload.throughEntry, same.uri]

/-- The image of a document finishes a state alike. -/
theorem finish (node : Graph.Node) (s : State) :
    finish d' env' (image g) node s = finish d env g node s := by
  simp only [Resolution.finish, applyOverride, same.override? g loaded, same.tryOffer deeper loaded,
    State.replaceBy, same.uri, same.checkReplacement]

/-- A node of a loaded document is evaluated as in the image of the document. -/
theorem evaluate (pointer : Pointer) :
    evaluate d' env' (image g) pointer = evaluate d env g pointer := by
  simp only [Resolution.evaluate, same.node?, same.deeperFollow deeper loaded,
    same.finish deeper loaded, tokenState, aliasState, same.uri]

end Evaluation

/-! ## Visits -/

/-- A document and its image have the same keys, as they have the same URI. -/
theorem keyOf (g : Graph) (pointer : Pointer) : Key.of (image g) pointer = Key.of g pointer := by
  simp only [Key.of, same.uri]

theorem cycleState (g : Graph) (pointer : Pointer) :
    cycleState (image g) pointer = cycleState g pointer := by
  simp only [Resolution.cycleState, same.node?]

theorem cutState (limit : Nat) (g : Graph) (pointer : Pointer) :
    cutState limit (image g) pointer = cutState limit g pointer := by
  simp only [Resolution.cutState, same.node?]

private theorem visits (room : Nat) :
    (∀ pending g pointer memory, env.Loads g →
      revisit env' room pending (image g) pointer memory =
        revisit env room pending g pointer memory) ∧
      ∀ pending g type owner entries memory, env.Loads g →
        retry env' room pending (image g) type owner entries memory =
          retry env room pending g type owner entries memory := by
  induction room with
  | zero =>
    -- No room is left on either side.
    constructor
    · intro pending g pointer memory _
      simp only [revisit, same.maxDepth, same.keyOf, same.cycleState, same.cutState]
    · intro pending g type owner entries memory _
      simp only [retry, same.maxDepth]
  | succ room ih =>
    -- The levels below are the same by the induction, for documents that are loaded.
    obtain ⟨nodes, lists⟩ := ih
    have deeper : ∀ pending, Deeper.Mapped image env (recallDeeper env room pending)
        (recallDeeper env' room pending) := by
      intro pending
      constructor
      · intro g loaded pointer
        simp only [recallDeeper, nodes pending g pointer _ loaded]
      · intro g loaded type owner entries
        simp only [recallDeeper, lists pending g type owner entries _ loaded]
    constructor
    · intro pending g pointer memory loaded
      have key := same.keyOf g pointer
      cases known : memory.usable? (room + 1) pending (Key.of g pointer) with
      | some entry =>
        -- remembered under the same key
        rw [revisit_of_usable env room pending g pointer memory known,
          revisit_of_usable env' room pending (image g) pointer memory (key ▸ known)]
      | none =>
        -- not remembered: a cycle, or an evaluation
        have known' := known
        rw [← key] at known'
        by_cases cyclic : Key.of g pointer ∈ pending
        · rw [revisit_of_mem env room pending g pointer memory known cyclic,
            revisit_of_mem env' room pending (image g) pointer memory known' (key ▸ cyclic),
            key, same.cycleState]
        · rw [revisit_succ env room pending g pointer memory known cyclic,
            revisit_succ env' room pending (image g) pointer memory known' (key ▸ cyclic),
            key, same.evaluate (deeper _) loaded]
    · intro pending g type owner entries memory loaded
      rw [retry_succ, retry_succ, same.tryEntries (deeper pending) loaded]

/-- A node of the root document is found to be the same, from any memory. -/
theorem ask (memory : Memory) (pointer : Pointer) :
    ask env' memory pointer = ask env memory pointer := by
  unfold Resolution.ask
  rw [same.root, same.maxDepth]
  exact (same.visits _).1 [] env.root pointer memory env.loads_root

end Environment.Mapped

/-! ## Calls -/

/-- Environments whose root documents list the same tokens, and in which every node of the root
document is found to be the same, from any memory. -/
structure Environment.AsksAlike (env env' : Environment) : Prop where
  uri : env'.root.uri = env.root.uri
  tokens : env'.root.tokens = env.root.tokens
  ask : ∀ memory pointer, ask env' memory pointer = ask env memory pointer

/-- Environments that do the same ask alike. -/
theorem Environment.Congruent.asksAlike {env env' : Environment} (same : env.Congruent env') :
    env.AsksAlike env' where
  uri := by rw [same.root]
  tokens := by rw [same.root]
  ask := same.mapped.ask

end DesignTokens.Resolution

namespace DesignTokens.Resolver

open Resolution

/-- The resolver in another environment, with all that it remembers. -/
def moved (r : Resolver) (env : Environment) : Resolver :=
  { r with env }

/-- A resolver that was moved transforms a token as before. -/
theorem transform_moved (r : Resolver) (env' : Environment) (token : Token) :
    (r.moved env').transform token =
      ((r.transform token).1, (r.transform token).2.moved env') := by
  unfold transform
  by_cases none : r.transforms.isEmpty
  · simp [moved, none]
  · simp only [moved, none]
    cases r.transformed.lookup token.pointer <;> rfl

section Alike

variable {env' : Environment} {r : Resolver} (alike : r.env.AsksAlike env')

include alike

/-- A resolver that was moved answers as before, if the environments ask alike. -/
theorem resolve_of_asksAlike (pointer : Pointer) :
    (r.moved env').resolve pointer =
      ((r.resolve pointer).1, (r.resolve pointer).2.moved env') := by
  have walk := alike.ask r.memory pointer
  simp only [ask] at walk
  unfold resolve
  simp only [moved, alike.uri, walk]
  split
  · have transformed := transform_moved
      { r with memory := (revisit r.env (r.env.settings.maxDepth + 1) [] r.env.root pointer
        r.memory).2 } env'
    simp only [moved] at transformed
    simp only [transformed]
  · rfl

/-- It answers to a text as before. -/
theorem resolveText_of_asksAlike (text : String) :
    (r.moved env').resolveText text =
      ((r.resolveText text).1, (r.resolveText text).2.moved env') := by
  unfold resolveText
  cases Pointer.parse text with
  | ok pointer => exact resolve_of_asksAlike alike pointer
  | error e => rfl

/-- Some pointers are resolved one after the other as before. -/
theorem resolveEach_of_asksAlike (pointers : List Pointer) :
    (r.moved env').resolveEach pointers =
      ((r.resolveEach pointers).1, (r.resolveEach pointers).2.moved env') := by
  induction pointers generalizing r with
  | nil => rfl
  | cons pointer rest ih =>
    have unchanged : (r.resolve pointer).2.env = r.env := (after_resolve r pointer).env
    have later := ih (r := (r.resolve pointer).2) (by rwa [unchanged])
    simp only [resolveEach, resolve_of_asksAlike alike, later]

/-- All tokens are resolved as before. -/
theorem resolveAll_of_asksAlike :
    (r.moved env').resolveAll = (r.resolveAll.1, r.resolveAll.2.moved env') := by
  have tokens : (r.moved env').env.root.tokens = r.env.root.tokens := alike.tokens
  unfold resolveAll
  rw [tokens]
  exact resolveEach_of_asksAlike alike _

/-- A resolver that was moved gives the same answers to a call. -/
theorem answers_of_asksAlike (call : Call) : (r.moved env').answers call = r.answers call := by
  cases call with
  | node pointer => simp only [answers, resolve_of_asksAlike alike]
  | named text => simp only [answers, resolveText_of_asksAlike alike]
  | all => simp only [answers, resolveAll_of_asksAlike alike]

/-- After any calls, a resolver that was moved is still the other one, moved. -/
theorem performAll_of_asksAlike (calls : List Call) :
    (r.moved env').performAll calls = (r.performAll calls).moved env' := by
  induction calls generalizing r with
  | nil => rfl
  | cons call rest ih =>
    -- One call moves with the resolver, whatever it is.
    have step : (r.moved env').perform call = (r.perform call).moved env' := by
      cases call with
      | node pointer => simp only [perform, resolve_of_asksAlike alike]
      | named text => simp only [perform, resolveText_of_asksAlike alike]
      | all => simp only [perform, resolveAll_of_asksAlike alike]
    have unchanged : (r.perform call).env = r.env := (after_perform r call).env
    have later := ih (r := r.perform call) (by rwa [unchanged])
    simpa only [performAll, List.foldl_cons, step] using later

/-- Where every node is found to be the same, a resolver gives the same answers after the same
calls. -/
theorem answers_performAll_of_asksAlike (calls : List Call) (call : Call) :
    ((r.moved env').performAll calls).answers call = (r.performAll calls).answers call := by
  have unchanged : (r.performAll calls).env = r.env := (r.after_performAll calls).env
  calc ((r.moved env').performAll calls).answers call
      = ((r.performAll calls).moved env').answers call := by
        rw [performAll_of_asksAlike alike]
    _ = (r.performAll calls).answers call :=
        answers_of_asksAlike (by rwa [unchanged]) call

end Alike

variable {env' : Environment} {r : Resolver} (same : r.env.Congruent env')

include same

/-- A resolver answers alike in environments that do the same. -/
theorem resolve_moved (pointer : Pointer) :
    (r.moved env').resolve pointer =
      ((r.resolve pointer).1, (r.resolve pointer).2.moved env') :=
  resolve_of_asksAlike same.asksAlike pointer

/-- In a congruent environment, a resolver gives the same answers after the same calls. -/
theorem answers_performAll_moved (calls : List Call) (call : Call) :
    ((r.moved env').performAll calls).answers call = (r.performAll calls).answers call :=
  answers_performAll_of_asksAlike same.asksAlike calls call

end DesignTokens.Resolver
