import DesignTokens.Proofs.Resolution.Congruence
import DesignTokens.Proofs.Resolution.Limit

/-!
# DesignTokens.Proofs.Resolution.Alone — a document that refers to no other one

Where no reference leads out of the root document, it makes no difference which other documents are
loaded.

1. **Evaluation** (`evaluate_alone`): all references stay inside, and so the other documents are not
   asked for.
2. **Answers** (`asksAlike_alone`): they are the same as in an environment without other documents
   (`Environment.secluded`).
3. **Sizes** (`Graph.listLevels`): what a limit for the depth has to allow for.
-/

namespace DesignTokens

/-- How many fallback lists are inside one another, in the override that has the most. -/
def Graph.listLevels (g : Graph) : Nat :=
  (g.overrides.map (·.offer.listLevels)).max?.getD 0

namespace Resolution

/-- The environment without other documents than the root document. -/
def Environment.secluded (env : Environment) : Environment :=
  { env with externals := [] }

/-! ## Evaluation -/

section Evaluation

variable {m : Type → Type} [Monad m] (d : Deeper m) (env : Environment) (g : Graph)

/-- A reference that stays in the document is followed alike. -/
theorem deeperFollow_alone {r : Reference} (internal : r.target.external = false) :
    d.follow env.secluded g r = d.follow env g r := by
  simp only [Deeper.follow, follow_internal internal]

/-- An offer that stays in the document is tried alike. -/
theorem tryOffer_alone (type : Option String) {offer : Offer Reference}
    (internal : ∀ r, offer.reference = some r → r.target.external = false) :
    tryOffer d env.secluded g type offer = tryOffer d env g type offer := by
  unfold tryOffer
  cases reference : offer.reference with
  | none => rfl
  | some r =>
    simp only [Option.toList_some, List.map_cons, List.map_nil,
      deeperFollow_alone d env g (internal r reference)]

/-- A fallback list that stays in the document is tried alike. -/
theorem tryEntries_alone (type : Option String) (owner : Pointer) {entries : List (Offer Reference)}
    (internal : ∀ e ∈ entries, ∀ r, e.reference = some r → r.target.external = false) :
    tryEntries d env.secluded g type owner entries = tryEntries d env g type owner entries := by
  unfold tryEntries
  congr 2
  refine List.map_congr_left fun e he => ?_
  rw [tryOffer_alone d env g type (internal e he)]

/-- A replacement in the document is checked alike. -/
theorem replacementFault_alone {node : Graph.Node} {r : Reference}
    (internal : r.target.external = false) (type : String) :
    replacementFault? env.secluded g node r type = replacementFault? env g node r type := by
  simp only [replacementFault?, follow_internal internal]

/-- The check of a replacement is the same, if the node has no reference to another document. -/
theorem checkReplacement_alone {node : Graph.Node}
    (internal : ∀ r ∈ node.references, r.target.external = false) (s : State) :
    checkReplacement env.secluded g node s = checkReplacement env g node s := by
  unfold checkReplacement
  cases replacement : node.replacement with
  | none => rfl
  | some r =>
    -- The replacement is one of the references of the node.
    have stays := internal r (by simp [Graph.Node.references, replacement])
    cases s.type with
    | none => rfl
    | some type =>
      dsimp only
      rw [replacementFault_alone env g stays]

/-- Overrides that stay in the document are applied alike. -/
theorem applyOverride_alone (pointer : Pointer) (s : State)
    (internal : ∀ o ∈ g.overrides, ∀ r ∈ o.offer.references, r.target.external = false) :
    applyOverride d env.secluded g pointer s = applyOverride d env g pointer s := by
  -- Which override applies depends on the context only.
  have same : env.secluded.override? g pointer = env.override? g pointer := rfl
  unfold applyOverride
  rw [same]
  cases applies : env.override? g pointer with
  | none => rfl
  | some entry =>
    have here := (Environment.override?_eq_some applies).1
    have stays : ∀ r, entry.offer.reference = some r → r.target.external = false :=
      fun r hr => internal entry here r (mem_references_of_reference hr)
    dsimp only
    rw [tryOffer_alone d env g s.type stays]

variable {g} (alone : g.externalReferences = [])

include alone

/-- A node of a document that refers to no other one is evaluated without the other documents. -/
theorem evaluate_alone (pointer : Pointer) :
    evaluate d env.secluded g pointer = evaluate d env g pointer := by
  obtain ⟨nodes, overrides⟩ := Graph.internal_of_alone alone
  -- Neither the override nor the replacement leads away.
  have finished : ∀ node ∈ g.nodes, ∀ s,
      finish d env.secluded g node s = finish d env g node s := by
    intro node hn s
    simp only [finish, applyOverride_alone d env g node.pointer s overrides,
      checkReplacement_alone env g (nodes node hn)]
  unfold evaluate
  cases found : g.node? pointer with
  | none => rfl
  | some node =>
    have hn := (Graph.node?_eq_some found).1
    cases content : node.content with
    | collection children => simp only [content]
    | token type value => simp only [content, finished node hn]
    | aliasTo type r =>
      have internal := nodes node hn r (by simp [Graph.Node.references, Graph.Node.aliasReference?,
        content])
      simp only [content, finished node hn, deeperFollow_alone d env g internal]

end Evaluation

/-! ## Answers -/

/-- A walk that goes on uses the memory that the first part left. -/
theorem Recall.run_bind {α β : Type} (x : Recall α) (f : α → Recall β) (memory : Memory) :
    (x >>= f).run memory =
      let later := (f (x.run memory).1.value).run (x.run memory).2
      ((x.run memory).1 >>= fun _ => later.1, later.2) :=
  rfl

/-- Walks that give the same, from any memory. -/
def sameBridge : Bridge Recall Recall where
  rel P x y := ∀ memory, P (x.run memory).1.value ∧ y.run memory = x.run memory
  rel_imp h imp := fun memory => ⟨imp _ (h memory).1, (h memory).2⟩
  rel_pure hP := fun _ => ⟨hP, rfl⟩
  rel_bind := by
    intro α β P Q x y f k hx hf memory
    obtain ⟨hP, same⟩ := hx memory
    obtain ⟨hQ, more⟩ := hf _ hP (x.run memory).2
    exact ⟨hQ, by rw [Recall.run_bind, Recall.run_bind, same, more]⟩

section Alone

variable {env : Environment} (alone : env.root.externalReferences = [])

/-- Without other documents, references of the root document lead to itself. -/
theorem follow_secluded (reference : Reference) (target : Graph)
    (h : env.secluded.follow env.root reference = .ok target) : target = env.root := by
  rcases Environment.follow_cases h with ⟨_, rfl⟩ | ⟨_, _, rfl⟩ | ⟨_, _, found⟩
  · rfl
  · rfl
  · cases found

include alone

private theorem alone_all (room : Nat) :
    (∀ pending pointer memory, revisit env.secluded room pending env.root pointer memory =
      revisit env room pending env.root pointer memory) ∧
      ∀ pending type owner entries memory,
        (∀ r ∈ Offer.referencesOf entries, r.target.external = false) →
          retry env.secluded room pending env.root type owner entries memory =
            retry env room pending env.root type owner entries memory := by
  induction room with
  | zero =>
    constructor
    · intro pending pointer memory
      simp only [revisit]
      rfl
    · intro pending type owner entries memory _
      simp only [retry]
      rfl
  | succ room ih =>
    obtain ⟨visits, lists⟩ := ih
    -- The induction gives the same walks with the same memories, so that a bridge can carry them.
    have visit : ∀ pending target pointer, target = env.root →
        sameBridge.rel (fun _ => True) ((recallDeeper env room pending).visit target pointer)
          ((recallDeeper env.secluded room pending).visit target pointer) := by
      rintro pending target pointer rfl memory
      simp only [recallDeeper, Recall.below, visits]
      exact ⟨trivial, trivial⟩
    have fallback : ∀ pending type owner entries,
        (∀ r ∈ Offer.referencesOf entries, r.target.external = false) →
          sameBridge.rel (fun _ => True)
            ((recallDeeper env room pending).fallback env.root type owner entries)
            ((recallDeeper env.secluded room pending).fallback env.root type owner entries) := by
      intro pending type owner entries internal memory
      simp only [recallDeeper, Recall.below, lists _ _ _ _ _ internal]
      exact ⟨trivial, trivial⟩
    constructor
    · intro pending pointer memory
      -- remembered: the same state
      cases usable : memory.usable? (room + 1) pending (Key.of env.root pointer) with
      | some known =>
        rw [revisit_of_usable env _ _ _ _ _ usable, revisit_of_usable env.secluded _ _ _ _ _ usable]
      | none =>
        -- a cycle, or an evaluation by the levels below
        by_cases cyclic : Key.of env.root pointer ∈ pending
        · rw [revisit_of_mem env _ _ _ _ _ usable cyclic,
            revisit_of_mem env.secluded _ _ _ _ _ usable cyclic]
        · have below := sameBridge.evaluate_of_tried env.secluded follow_secluded
            (visit (Key.of env.root pointer :: pending)) _
            (fallback (Key.of env.root pointer :: pending)) pointer fun entry applies _ r hr =>
              (Graph.internal_of_alone alone).2 entry (Environment.override?_eq_some applies).1 r
                (fallback_subset_references entry.offer hr)
          rw [revisit_succ env _ _ _ _ _ usable cyclic,
            revisit_succ env.secluded _ _ _ _ _ usable cyclic, (below memory).2,
            evaluate_alone _ env alone]
    · intro pending type owner entries memory internal
      have below := sameBridge.tryEntries_of_tried env.secluded follow_secluded (visit pending) _
        (fallback pending) type owner entries fun e he _ r hr =>
          internal r (references_subset_of_mem he (fallback_subset_references e hr))
      rw [retry_succ, retry_succ, (below memory).2, tryEntries_alone]
      exact fun e he r hr =>
        internal r (references_subset_of_mem he (mem_references_of_reference hr))

/-- A document that refers to no other one is resolved as if no other one were loaded. -/
theorem asksAlike_alone : env.secluded.AsksAlike env where
  uri := rfl
  tokens := rfl
  ask := fun memory pointer => ((alone_all alone _).1 [] pointer memory).symm

/-- Whatever was asked before, an answer is the one that is given without other documents. -/
theorem resolve_alone (document : Option Document) (transforms : List Transform)
    (calls : List Resolver.Call) (pointer : Pointer) :
    ((({ env, document, transforms } : Resolver).performAll calls).resolve pointer).1 =
      ((({ env := env.secluded, document, transforms } : Resolver).performAll calls).resolve
        pointer).1 := by
  let r : Resolver := { env := env.secluded, document, transforms }
  have alike : r.env.AsksAlike env := asksAlike_alone alone
  exact List.singleton_inj.1
    (Resolver.answers_performAll_of_asksAlike alike calls (.node pointer))

end Alone

/-! ## Sizes -/

/-- Without other documents, the tokens are those of the root document. -/
theorem tokenCount_secluded (env : Environment) :
    env.secluded.tokenCount = env.root.tokens.length := by
  simp [Environment.tokenCount, Environment.documents, Environment.secluded]

/-- Without other documents, the fallback lists are those of the root document. -/
theorem listLevels_secluded (env : Environment) :
    env.secluded.listLevels = env.root.listLevels := by
  simp [Environment.listLevels, Environment.documents, Environment.secluded, Graph.listLevels]

end Resolution

end DesignTokens
