import DesignTokens.Graph.OfTree
import DesignTokens.Proofs.Tree.Places

/-!
# DesignTokens.Proofs.Graph.OfTree — what a graph takes over from its tree

1. **Drafts**: the value and the pending references of a draft.
2. **Nodes** (`Graph.Node.Copies`): every node of a graph is one of the tree, with its references
   resolved.
3. **Overrides** (`draftOffer_every`): what an override offers stays as it is, apart from its
   references.
4. **Graphs** (`Graph.StandsIn`): the values of a graph stand in the document of its tree.
-/

namespace DesignTokens.Graph

/-! ## Drafts -/

namespace Draft

variable {α β : Type}

@[simp] theorem value_pure (a : α) : (pure a : Draft α).value = a :=
  rfl

@[simp] theorem value_bind (x : Draft α) (f : α → Draft β) :
    (x >>= f).value = (f x.value).value :=
  rfl

@[simp] theorem pending_pure (a : α) : (pure a : Draft α).pending = [] :=
  rfl

@[simp] theorem pending_bind (x : Draft α) (f : α → Draft β) :
    (x >>= f).pending = x.pending ++ (f x.value).pending :=
  rfl

@[simp] theorem log_pure (a : α) : (pure a : Draft α).log = [] :=
  rfl

@[simp] theorem log_bind (x : Draft α) (f : α → Draft β) :
    (x >>= f).log = x.log ++ (f x.value).log :=
  rfl

end Draft

/-- A reference is drafted if it can be resolved. -/
theorem value_draftReference (base : Uri) (field : Field String) :
    (draftReference base field).value = (Reference.resolve base field).toOption := by
  unfold draftReference
  split <;> simp_all [Except.toOption]

/-! ## Nodes -/

/-- A node of a graph has the content of a node of the tree, with its reference resolved. -/
def Content.Copies (base : Uri) : Tree.Node → Content → Prop
  | .collection _ _, content => ∃ children, content = .collection children
  | .token _ type value, content => content = .token type value
  | .aliasTo _ type field, content =>
    ∃ reference, Reference.resolve base field = .ok reference ∧ content = .aliasTo type reference

/-- A node of a graph is one of the tree, with its references resolved. -/
structure Node.Copies (base : Uri) (t : Tree.Node) (n : Node) : Prop where
  pointer : n.pointer = t.pointer
  content : Content.Copies base t n.content

variable {base : Uri} {taken : List Pointer} {parent : Option Pointer}

/-- The draft of a node copies what the tree has of it. -/
theorem draftInfo_copies {t : Tree.Node} {content : Content} (h : Content.Copies base t content) :
    Node.Copies base t ((draftInfo base parent t.info).value content) :=
  ⟨rfl, h⟩

mutual

/-- The nodes that are drafted for a node of the tree copy it and those below it. -/
theorem draftNode_copies (taken : List Pointer) (parent : Option Pointer) :
    ∀ t : Tree.Node, ∀ n ∈ (draftNode base taken parent t).value.nodes,
      ∃ t' ∈ t.walk, Node.Copies base t' n
  | .collection info children, n, hn => by
    rw [Tree.Node.walk]
    unfold draftNode at hn
    split at hn
    · simp at hn
    · simp only [Draft.value_bind, Draft.value_pure, List.mem_cons] at hn
      -- the collection itself
      rcases hn with rfl | hn
      · exact ⟨.collection info children, List.mem_cons_self, draftInfo_copies ⟨_, rfl⟩⟩
      · -- a node below it
        obtain ⟨t', ht', copies⟩ :=
          draftNodes_copies (info.pointer :: taken) (some info.pointer) children n hn
        exact ⟨t', List.mem_cons_of_mem _ ht', copies⟩
  | .token info type value, n, hn => by
    unfold draftNode at hn
    split at hn
    · simp at hn
    · simp only [Draft.value_bind, Draft.value_pure, List.mem_singleton] at hn
      subst hn
      exact ⟨.token info type value, by simp [Tree.Node.walk], draftInfo_copies rfl⟩
  | .aliasTo info type field, n, hn => by
    unfold draftNode at hn
    split at hn
    · simp at hn
    · simp only [Draft.value_bind, value_draftReference] at hn
      cases hr : Reference.resolve base field with
      | error e => simp [hr, Except.toOption] at hn
      | ok reference =>
        simp only [hr, Except.toOption, Draft.value_bind, Draft.value_pure,
          List.mem_singleton] at hn
        subst hn
        exact ⟨.aliasTo info type field, by simp [Tree.Node.walk],
          draftInfo_copies ⟨reference, hr, rfl⟩⟩

/-- Each node that is drafted from a list copies a node of the trees in it. -/
theorem draftNodes_copies (taken : List Pointer) (parent : Option Pointer) :
    ∀ ts : List Tree.Node, ∀ n ∈ (draftNodes base taken parent ts).value.nodes,
      ∃ t ∈ Tree.Node.walkList ts, Node.Copies base t n
  | [], n, hn => by simp [draftNodes] at hn
  | t :: rest, n, hn => by
    rw [Tree.Node.walkList]
    simp only [draftNodes, Draft.value_bind, Draft.value_pure, List.mem_append] at hn
    rcases hn with hn | hn
    · obtain ⟨t', ht', copies⟩ := draftNode_copies taken parent t n hn
      exact ⟨t', List.mem_append_left _ ht', copies⟩
    · obtain ⟨t', ht', copies⟩ := draftNodes_copies _ parent rest n hn
      exact ⟨t', List.mem_append_right _ ht', copies⟩

end

/-! ## Overrides -/

section Every

variable {P : Pointer → Option (Field Json) → Prop}

mutual

/-- An offer keeps the pointers and values of all its entries. -/
theorem draftOffer_every (owner : Pointer) (kind : Reference.Kind) :
    ∀ e : Offer (Field String), e.Every (fun o => P o.pointer o.value) →
      (draftOffer base owner kind e).value.Every fun o => P o.pointer o.value
  | .mk pointer span field value entries, h => by
    simp only [draftOffer, Draft.value_bind, Draft.value_pure]
    exact .intro h.here (draftOffers_every owner entries fun e he => h.entry he)

/-- What holds of the offers of a fallback list holds of those that are drafted. -/
theorem draftOffers_every (owner : Pointer) :
    ∀ es : List (Offer (Field String)), (∀ e ∈ es, e.Every fun o => P o.pointer o.value) →
      ∀ o ∈ (draftOffers base owner es).value, o.Every fun o => P o.pointer o.value
  | [], _ => by simp [draftOffers]
  | e :: rest, h => by
    intro o ho
    simp only [draftOffers, Draft.value_bind, Draft.value_pure, List.mem_cons] at ho
    rcases ho with rfl | ho
    · exact draftOffer_every owner .fallback e (h e List.mem_cons_self)
    · exact draftOffers_every owner rest (fun e he => h e (List.mem_cons_of_mem _ he)) o ho

end

/-- An override that is taken over has a token in the same document, and keeps its offer. -/
theorem draftOverride_eq_some {entry : Override (Field String)} {o : Override Reference}
    (h : (draftOverride base entry).value = some o) :
    o.token.target.external = false ∧ o.conditions = entry.conditions ∧
      o.offer = (draftOffer base o.token.target.pointer .override entry.offer).value := by
  simp only [draftOverride, Draft.value_bind] at h
  cases hr : (draftReference base entry.token).value with
  | none => simp [hr] at h
  | some token =>
    simp only [hr] at h
    split at h
    · simp at h
    · next internal =>
      cases h
      exact ⟨by simpa using internal, rfl, rfl⟩

/-- The drafted overrides are those whose drafts are there. -/
theorem mem_draftOverrides {entries : List (Override (Field String))} {o : Override Reference} :
    o ∈ (draftOverrides base entries).value ↔
      ∃ entry ∈ entries, (draftOverride base entry).value = some o := by
  induction entries with
  | nil => simp [draftOverrides]
  | cons entry rest ih => simp [draftOverrides, ih]

end Every

/-! ## Graphs -/

variable {tree : Tree} {g : Graph}

/-- The graph of a tree, if there is one. -/
theorem ofTree_eq_some (h : (ofTree tree).graph = some g) :
    tree.uri.withoutFragment.canAnchor = true ∧
      let draft := draftTree tree.uri.withoutFragment tree
      g = {
        uri := tree.uri.withoutFragment
        nodes := draft.value.1.nodes
        edges := draft.pending.filterMap (·.edge? draft.value.1.nodes)
        roots := draft.value.1.tops
        overrides := draft.value.2 } := by
  unfold ofTree at h
  dsimp only at h
  split at h
  · next anchor =>
    cases h
    exact ⟨anchor, rfl⟩
  · cases h

/-- A graph has the URI of its tree, without a fragment. -/
theorem uri_ofTree (h : (ofTree tree).graph = some g) : g.uri = tree.uri.withoutFragment :=
  congrArg uri (ofTree_eq_some h).2

/-- The values of a graph stand in a document, each under the node, the override or the entry that
it belongs to. -/
structure StandsIn (data : Json) (g : Graph) : Prop where
  tokens : ∀ n ∈ g.nodes, ∀ type field, n.content = .token type (some field) →
    field.StandsUnder data n.pointer
  offers : ∀ o ∈ g.overrides, o.offer.Every fun offer =>
    ∀ field, offer.value = some field → field.StandsUnder data offer.pointer

/-- The values of the graph of a tree stand in the document that the tree was read from. -/
theorem ofTree_standsIn {ctx : Tree.Context} {data : Json} (stands : tree.StandsIn ctx data)
    (h : (ofTree tree).graph = some g) : g.StandsIn data := by
  obtain ⟨_, rfl⟩ := ofTree_eq_some h
  refine ⟨?_, ?_⟩
  · -- The value of a token is copied from the tree, where it stands in the document.
    intro n hn type field hc
    obtain ⟨t, ht, copies⟩ := draftNodes_copies [] none tree.children n hn
    have stand := stands.nodes t ht
    have content := copies.content
    rw [copies.pointer]
    rw [hc] at content
    cases t with
    | collection info children =>
      obtain ⟨_, eq⟩ := content
      cases eq
    | token info type' value =>
      cases content
      exact stand.value
    | aliasTo info type' reference =>
      obtain ⟨_, _, eq⟩ := content
      cases eq
  · -- So are the values of offers.
    intro o ho
    obtain ⟨entry, he, heq⟩ := mem_draftOverrides.1 ho
    obtain ⟨_, _, hoffer⟩ := draftOverride_eq_some heq
    rw [hoffer]
    have values : entry.offer.Every fun offer =>
        ∀ field, offer.value = some field → field.StandsUnder data offer.pointer :=
      (stands.offers entry he).imp fun offer here field hv => here.value hv
    exact draftOffer_every (P := fun pointer value =>
      ∀ field, value = some field → field.StandsUnder data pointer) _ _ _ values

/-- A graph is that of a document, which was read in some way. -/
def IsOf (g : Graph) (d : Document) : Prop :=
  ∃ options tree, (Tree.ofDocument d options).value = some tree ∧ (ofTree tree).graph = some g

/-- The graph of a document that is read with the given options, if it has one. -/
def ofDocument? (d : Document) (options : Tree.Options) : Option Graph :=
  (Tree.ofDocument d options).value.bind fun tree => (ofTree tree).graph

/-- The graph of a document has its URI, without a fragment. -/
theorem IsOf.uri {d : Document} (h : g.IsOf d) : g.uri = d.uri.withoutFragment := by
  obtain ⟨options, tree, htree, hgraph⟩ := h
  rw [uri_ofTree hgraph, Tree.uri_ofDocument htree]

/-- The values of the graph of a document stand in the document. -/
theorem IsOf.standsIn {d : Document} (h : g.IsOf d) (clear : d.data.unambiguous = true) :
    g.StandsIn d.data := by
  obtain ⟨options, tree, htree, hgraph⟩ := h
  exact ofTree_standsIn (Tree.ofDocument_standsIn clear htree) hgraph

end DesignTokens.Graph
