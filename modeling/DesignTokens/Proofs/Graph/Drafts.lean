import DesignTokens.Proofs.Graph.OfTree
import DesignTokens.Proofs.Tree.Likeness
import Mathlib.Data.List.Nodup

/-!
# DesignTokens.Proofs.Graph.Drafts — the graph of a tree, node by node

If no two nodes of a tree have the same pointer, no pointer is taken when a node is drafted. Then a
node of the graph depends on one node of the tree only, apart from its parent and its children; and
it is found wherever that one stands in the tree. So alike trees have alike graphs.

1. **Nodes on their own** (`Graph.plant?`): the nodes of the graph, in order
   (`draftNodes_alone`), and the one at a pointer (`node?_ofTree`).
2. **Alike parts**: references, nodes, offers and overrides.
3. **Alike trees** (`Likeness.Trees`), their graphs (`Likeness.Trees.graph`), and the tokens of
   these, if the nodes stand in the same order (`Likeness.Trees.tokens_eq`).
-/

namespace DesignTokens

/-! ## Nodes on their own -/

namespace Graph

/-- A content without the children of a collection. -/
def Content.alone : Content → Content
  | .collection _ => .collection []
  | content => content

/-- A node without its parent and its children. -/
def Node.alone (n : Node) : Node :=
  { n with parent := none, content := n.content.alone }

/-- The node that a node of a tree becomes on its own: an alias needs a reference. -/
def plant? (base : Uri) : Tree.Node → Option Node
  | .collection info _ => some ((draftInfo base none info).value (.collection []))
  | .token info type value => some ((draftInfo base none info).value (.token type value))
  | .aliasTo info type field =>
    (Reference.resolve base field).toOption.map fun reference =>
      (draftInfo base none info).value (.aliasTo type reference)

variable {base : Uri}

/-- What is compared of a node is drafted alike under every parent. -/
theorem draftInfo_alone (parent : Option Pointer) (info : Tree.NodeInfo) (content : Content) :
    ((draftInfo base parent info).value content).alone =
      (draftInfo base none info).value content.alone :=
  rfl

/-- A node is planted at its own pointer. -/
theorem pointer_plant? {t : Tree.Node} {n : Node} (h : plant? base t = some n) :
    n.pointer = t.pointer := by
  cases t with
  | collection info children =>
    cases h
    rfl
  | token info type value =>
    cases h
    rfl
  | aliasTo info type field =>
    obtain ⟨_, _, rfl⟩ := Option.map_eq_some_iff.1 h
    rfl

mutual

/-- The nodes that are drafted are those that the tree has, one by one, if no pointer is there
twice. -/
theorem draftNode_alone (taken : List Pointer) (parent : Option Pointer) :
    ∀ t : Tree.Node, (∀ s ∈ t.walk, s.pointer ∉ taken) → (t.walk.map Tree.Node.pointer).Nodup →
      (draftNode base taken parent t).value.nodes.map Node.alone = t.walk.filterMap (plant? base)
  | .collection info children, free, nodup => by
    have here : info.pointer ∉ taken := free (.collection info children) (by simp [Tree.Node.walk])
    rw [Tree.Node.walk, List.map_cons, List.nodup_cons] at nodup
    have below := draftNodes_alone (info.pointer :: taken) (some info.pointer) children ?_ nodup.2
    · simp [draftNode, here, Tree.Node.walk, below, plant?, draftInfo_alone, Content.alone]
    · -- Below the collection, no node has its pointer again.
      intro s hs
      rw [List.mem_cons, not_or]
      refine ⟨fun same => nodup.1 (List.mem_map.2 ⟨s, hs, same⟩), ?_⟩
      exact free s (by simp [Tree.Node.walk, hs])
  | .token info type value, free, _ => by
    have here : info.pointer ∉ taken := free (.token info type value) (by simp [Tree.Node.walk])
    simp [draftNode, here, Tree.Node.walk, plant?, draftInfo_alone, Content.alone]
  | .aliasTo info type field, free, _ => by
    have here : info.pointer ∉ taken := free (.aliasTo info type field) (by simp [Tree.Node.walk])
    -- An alias is planted only if its reference can be read.
    cases hr : Reference.resolve base field with
    | error e => simp [draftNode, here, Tree.Node.walk, plant?, value_draftReference, hr,
        Except.toOption]
    | ok reference => simp [draftNode, here, Tree.Node.walk, plant?, value_draftReference, hr,
        Except.toOption, draftInfo_alone, Content.alone]

/-- The nodes of a list are drafted one after the other. -/
theorem draftNodes_alone (taken : List Pointer) (parent : Option Pointer) :
    ∀ ts : List Tree.Node, (∀ s ∈ Tree.Node.walkList ts, s.pointer ∉ taken) →
      ((Tree.Node.walkList ts).map Tree.Node.pointer).Nodup →
      (draftNodes base taken parent ts).value.nodes.map Node.alone =
        (Tree.Node.walkList ts).filterMap (plant? base)
  | [], _, _ => by simp [draftNodes, Tree.Node.walkList]
  | t :: rest, free, nodup => by
    rw [Tree.Node.walkList, List.map_append, List.nodup_append] at nodup
    rw [Tree.Node.walkList] at free ⊢
    obtain ⟨nodup, nodup', apart⟩ := nodup
    -- What the first node drafts is taken for the rest.
    have first := draftNode_alone taken parent t (fun s hs => free s (List.mem_append_left _ hs))
      nodup
    have more := draftNodes_alone
      ((draftNode base taken parent t).value.nodes.map (·.pointer) ++ taken) parent rest ?_ nodup'
    · simp [draftNodes, first, more]
    · intro s hs
      rw [List.mem_append, not_or]
      refine ⟨fun drafted => ?_, free s (List.mem_append_right _ hs)⟩
      -- The nodes that were drafted before are nodes of the first part of the tree.
      obtain ⟨n, hn, same⟩ := List.mem_map.1 drafted
      obtain ⟨t', ht', copies⟩ := draftNode_copies taken parent t n hn
      exact apart _ (List.mem_map_of_mem ht') _ (List.mem_map_of_mem hs)
        (copies.pointer.symm.trans same)

end

/-- Among nodes that are planted, the one at a pointer comes from the one at that pointer in the
tree. -/
theorem lookup?_planted {ts : List Tree.Node} (nodup : (ts.map Tree.Node.pointer).Nodup)
    (pointer : Pointer) :
    lookup? (ts.filterMap (plant? base)) pointer =
      (ts.find? (·.pointer = pointer)).bind (plant? base) := by
  induction ts with
  | nil => rfl
  | cons t rest ih =>
    rw [List.map_cons, List.nodup_cons] at nodup
    have later := ih nodup.2
    by_cases here : t.pointer = pointer
    · -- No later node has this pointer.
      have absent : rest.find? (·.pointer = pointer) = none := by
        rw [List.find?_eq_none]
        intro s hs same
        refine nodup.1 (List.mem_map.2 ⟨s, hs, ?_⟩)
        rw [here]
        simpa using same
      rw [absent] at later
      -- An alias that is not planted leaves no other node of its pointer.
      cases planted : plant? base t with
      | none => simpa [planted, here] using later
      | some n =>
        have same := (pointer_plant? planted).trans here
        simp [planted, here, lookup?, same]
    · cases planted : plant? base t with
      | none => simpa [planted, here] using later
      | some n =>
        -- A node at another pointer is passed over.
        have other : n.pointer ≠ pointer :=
          fun same => here ((pointer_plant? planted).symm.trans same)
        simpa [planted, here, lookup?, other] using later

variable {tree : Tree} {g : Graph}

/-- There is a graph if the URI can be the anchor of references. -/
theorem isSome_ofTree (tree : Tree) :
    (ofTree tree).graph.isSome = tree.uri.withoutFragment.canAnchor := by
  unfold ofTree
  dsimp only
  split
  · next anchor => exact anchor.symm
  · next anchor => simpa using anchor

/-- The nodes of the graph of a tree, each on its own. -/
theorem nodes_ofTree (nodup : (tree.walk.map Tree.Node.pointer).Nodup)
    (h : (ofTree tree).graph = some g) :
    g.nodes.map Node.alone = tree.walk.filterMap (plant? tree.uri.withoutFragment) := by
  obtain ⟨_, rfl⟩ := ofTree_eq_some h
  exact draftNodes_alone [] none tree.children (fun _ _ => List.not_mem_nil) nodup

/-- The node at a pointer of the graph of a tree. -/
theorem node?_ofTree (nodup : (tree.walk.map Tree.Node.pointer).Nodup)
    (h : (ofTree tree).graph = some g) (pointer : Pointer) :
    (g.node? pointer).map Node.alone =
      (tree.walk.find? (·.pointer = pointer)).bind (plant? tree.uri.withoutFragment) := by
  rw [← lookup?_planted nodup, ← nodes_ofTree nodup h, node?, lookup?, lookup?, List.find?_map]
  rfl

/-- The tokens and aliases of the graph of a tree. -/
theorem tokens_ofTree (nodup : (tree.walk.map Tree.Node.pointer).Nodup)
    (h : (ofTree tree).graph = some g) :
    g.tokens = ((tree.walk.filterMap (plant? tree.uri.withoutFragment)).filter
      (!·.isCollection)).map (·.pointer) := by
  have kind : ∀ n : Node, n.alone.isCollection = n.isCollection := by
    intro n
    unfold Node.alone Node.isCollection
    cases n.content <;> rfl
  rw [← nodes_ofTree nodup h, tokens, List.filter_map, List.map_map]
  simp only [Function.comp_def, kind]
  rfl

end Graph

namespace Likeness

open DesignTokens.Graph (plant? draftInfo draftOffer draftOffers draftOverride draftOverrides)

variable {L : Likeness}

/-! ## Alike parts -/

section Parts

variable {base : Uri}

variable (base) in
/-- Alike fields stand for alike references, or for none. -/
theorem Fields.resolve {f f' : Field String} (h : L.Fields f f') :
    Option.Rel L.References (Reference.resolve base f).toOption
      (Reference.resolve base f').toOption := by
  obtain ⟨value, pointer, span⟩ := (L.field_eq_iff).1 h
  unfold Reference.resolve
  rw [value]
  cases Uri.join base f'.value with
  -- The URI is the same, so its fragment can be read in both or in none.
  | error fault => exact .none
  | ok joined =>
    cases hp : Reference.pointerOf joined.fragment with
    | error error =>
      simp only [hp]
      exact .none
    | ok target =>
      simp only [hp]
      exact .some ((L.reference_eq_iff).2 ⟨rfl, rfl, pointer, span⟩)

/-- An optional reference is that of its text, if it can be read. -/
theorem value_draftReference? (source : Pointer) (kind : Reference.Kind) (required : Bool)
    (field : Option (Field String)) :
    (Graph.draftReference? base source kind required field).value =
      field.bind fun f => (Reference.resolve base f).toOption := by
  cases field with
  | none => rfl
  | some f => simp [Graph.draftReference?, Graph.value_draftReference]

/-- Optional references are resolved alike. -/
theorem resolve? {f f' : Option (Field String)} (h : Option.Rel L.Fields f f') :
    Option.Rel L.References (f.bind fun f => (Reference.resolve base f).toOption)
      (f'.bind fun f => (Reference.resolve base f).toOption) := by
  exact optionRel_bind h fun _ _ like => Fields.resolve base like

/-- Nodes of the same place with alike contents. -/
theorem Infos.node {i i' : Tree.NodeInfo} (h : L.Infos i i') {content content' : Graph.Content}
    (like : L.Contents content content') :
    L.Nodes ((draftInfo base none i).value content) ((draftInfo base none i').value content') where
  pointer := h.pointer
  span := h.span
  content := like
  -- Only the replacement depends on what is drafted, and only where it is compared.
  replacement compared := by
    have replaced : ∀ (i : Tree.NodeInfo) (content : Graph.Content),
        ((draftInfo base none i).value content).replacement =
          i.metadata.replacement?.bind fun f => (Reference.resolve base f).toOption :=
      fun i content => value_draftReference? _ _ _ _
    rw [replaced, replaced]
    exact resolve? (h.replacement compared)

/-- Alike nodes of trees become alike nodes of graphs, or none. -/
theorem TreeNodes.plant? {t t' : Tree.Node} (h : L.TreeNodes t t') :
    Option.Rel L.Nodes (plant? base t) (plant? base t') := by
  cases h with
  | collection info => exact .some (info.node .collection)
  | token info htype hvalue => exact .some (info.node (.token (map_field_eq htype) hvalue))
  | aliasTo info htype href =>
    exact optionRel_map (Fields.resolve base href) fun _ _ like => info.node (.aliasTo htype like)

mutual

/-- An offer is drafted like another one, with its fallback list. -/
theorem draftOffer (owner : Pointer) (kind : Reference.Kind) :
    ∀ o o' : Offer (Field String), L.Offers L.Fields o o' →
      L.Offers L.References (draftOffer base owner kind o).value
        (draftOffer base owner kind o').value
  | .mk _ _ _ _ _, .mk _ _ _ _ _, h => by
    simp only [Graph.draftOffer, Graph.Draft.value_bind, Graph.Draft.value_pure,
      value_draftReference?]
    cases h with
    | mk span reference value fallback =>
      exact .mk span (resolve? reference) value (draftOffers owner _ _ fallback)

/-- The entries of fallback lists are drafted alike, one by one. -/
theorem draftOffers (owner : Pointer) :
    ∀ os os' : List (Offer (Field String)), List.Forall₂ (L.Offers L.Fields) os os' →
      List.Forall₂ (L.Offers L.References) (draftOffers base owner os).value
        (draftOffers base owner os').value
  | [], [], _ => .nil
  | o :: rest, o' :: rest', h => by
    cases h with
    | cons head tail =>
      exact .cons (draftOffer owner .fallback o o' head) (draftOffers owner rest rest' tail)

end

/-- Alike overrides of trees are taken over as alike overrides, or not at all. -/
theorem Overrides.draft {o o' : Override (Field String)} (h : L.Overrides L.Fields o o') :
    Option.Rel (L.Overrides L.References) (draftOverride base o).value
      (draftOverride base o').value := by
  unfold Graph.draftOverride
  rw [Graph.Draft.value_bind, Graph.Draft.value_bind, Graph.value_draftReference,
    Graph.value_draftReference]
  rcases optionRel_cases (Fields.resolve base h.token) with
    ⟨hr, hr'⟩ | ⟨r, r', hr, hr', like⟩
  · rw [hr, hr']
    -- An override is dropped if its target cannot be read, or is in another document.
    exact .none
  · have target : r.target = r'.target := ((L.reference_eq_iff).1 like).1
    rw [hr, hr']
    simp only [target]
    split
    · exact .none
    · exact .some ⟨like, h.conditions, draftOffer _ _ _ _ h.offer⟩

variable (base) in
/-- Overrides are drafted alike, one by one. -/
theorem draftOverrides {os os' : List (Override (Field String))}
    (h : List.Forall₂ (L.Overrides L.Fields) os os') :
    List.Forall₂ (L.Overrides L.References) (draftOverrides base os).value
      (draftOverrides base os').value := by
  induction h with
  | nil => exact .nil
  | cons head _ ih => exact List.rel_append (forall₂_toList head.draft) ih

end Parts

/-! ## Alike trees -/

variable (L) in
/-- Trees of one document with alike nodes under each pointer, and alike overrides. -/
structure Trees (tree tree' : Tree) : Prop where
  uri : tree.uri = tree'.uri
  nodup : (tree.walk.map Tree.Node.pointer).Nodup
  nodup' : (tree'.walk.map Tree.Node.pointer).Nodup
  nodes : Matched L.TreeNodes tree.walk tree'.walk
  overrides : List.Forall₂ (L.Overrides L.Fields) tree.overrides tree'.overrides

/-- A node is found by its pointer, if no other has it. -/
theorem find?_pointer {ts : List Tree.Node} (nodup : (ts.map Tree.Node.pointer).Nodup)
    {t : Tree.Node} (ht : t ∈ ts) : ts.find? (·.pointer = t.pointer) = some t := by
  cases found : ts.find? (·.pointer = t.pointer) with
  | none => simpa using List.find?_eq_none.1 found t ht
  | some s =>
    have same : s.pointer = t.pointer := by simpa using List.find?_some found
    rw [List.inj_on_of_nodup_map nodup (List.mem_of_find?_eq_some found) ht same]

/-- Nodes that are alike without their parents and children are alike. -/
theorem nodes_of_alone {n n' : Option Graph.Node}
    (h : Option.Rel L.Nodes (n.map Graph.Node.alone) (n'.map Graph.Node.alone)) :
    Option.Rel L.Nodes n n' := by
  cases n with
  | none =>
    cases n' with
    | none => exact .none
    | some _ => cases h
  | some n =>
    cases n' with
    | none => cases h
    | some n' =>
      cases h with
      | some like =>
        refine .some ⟨like.pointer, like.span, ?_, like.replacement⟩
        have content : L.Contents n.content.alone n'.content.alone := like.content
        -- What is compared of two nodes is of the same kind, so the nodes are.
        generalize n.content = c, n'.content = c' at content
        cases c <;> cases c' <;> cases content
        · exact .collection
        · exact .token ‹_› ‹_›
        · exact .aliasTo ‹_› ‹_›

namespace Trees

variable {tree tree' : Tree} (h : L.Trees tree tree')

include h

/-- At each pointer, both trees have nodes that are alike, or neither has one. -/
theorem find? (pointer : Pointer) :
    Option.Rel L.TreeNodes (tree.walk.find? (·.pointer = pointer))
      (tree'.walk.find? (·.pointer = pointer)) := by
  -- The nodes of one tree are matched with nodes of the other one of the same pointers.
  cases found : tree.walk.find? (·.pointer = pointer) with
  | some t =>
    obtain rfl : t.pointer = pointer := by simpa using List.find?_some found
    obtain ⟨t', ht', like⟩ := h.nodes.left t (List.mem_of_find?_eq_some found)
    rw [like.pointer, find?_pointer h.nodup' ht']
    exact .some like
  | none =>
    cases found' : tree'.walk.find? (·.pointer = pointer) with
    | none => exact .none
    | some t' =>
      obtain rfl : t'.pointer = pointer := by simpa using List.find?_some found'
      obtain ⟨t, ht, like⟩ := h.nodes.right t' (List.mem_of_find?_eq_some found')
      rw [← like.pointer, find?_pointer h.nodup ht] at found
      cases found

/-- Alike trees have alike graphs, or both have none. -/
theorem graph :
    Option.Rel L.Graphs (Graph.ofTree tree).graph (Graph.ofTree tree').graph := by
  have both : (Graph.ofTree tree).graph.isSome = (Graph.ofTree tree').graph.isSome := by
    rw [Graph.isSome_ofTree, Graph.isSome_ofTree, h.uri]
  cases hg : (Graph.ofTree tree).graph with
  | none =>
    cases hg' : (Graph.ofTree tree').graph with
    | none => exact .none
    | some g' => simp [hg, hg'] at both
  | some g =>
    cases hg' : (Graph.ofTree tree').graph with
    | none => simp [hg, hg'] at both
    | some g' =>
      -- The URI, the node at each pointer, and the overrides.
      refine .some ⟨?_, fun pointer => ?_, ?_⟩
      · obtain ⟨_, rfl⟩ := Graph.ofTree_eq_some hg
        obtain ⟨_, rfl⟩ := Graph.ofTree_eq_some hg'
        exact congrArg Uri.withoutFragment h.uri
      · have here := Graph.node?_ofTree h.nodup hg pointer
        have there := Graph.node?_ofTree h.nodup' hg' pointer
        refine nodes_of_alone ?_
        rw [here, there, h.uri]
        exact optionRel_bind (h.find? pointer) fun _ _ like => like.plant?
      · obtain ⟨_, rfl⟩ := Graph.ofTree_eq_some hg
        obtain ⟨_, rfl⟩ := Graph.ofTree_eq_some hg'
        have overrides := draftOverrides tree'.uri.withoutFragment h.overrides
        simpa only [Graph.draftTree, Graph.Draft.value_bind, Graph.Draft.value_pure, h.uri] using
          overrides

/-- The tokens of trees whose nodes are alike one by one are listed in the same order. -/
theorem tokens_eq (ordered : List.Forall₂ L.TreeNodes tree.walk tree'.walk) {g g' : Graph}
    (hg : (Graph.ofTree tree).graph = some g) (hg' : (Graph.ofTree tree').graph = some g') :
    g.tokens = g'.tokens := by
  have nodes : List.Forall₂ L.Nodes (tree.walk.filterMap (Graph.plant? tree'.uri.withoutFragment))
      (tree'.walk.filterMap (Graph.plant? tree'.uri.withoutFragment)) :=
    List.rel_filterMap (fun _ _ like => like.plant?) ordered
  have tokens := List.rel_filter (p := (!·.isCollection)) (q := (!·.isCollection))
    (fun n n' like => by simp only [Nodes.isCollection like]) nodes
  rw [Graph.tokens_ofTree h.nodup hg, Graph.tokens_ofTree h.nodup' hg', h.uri,
    ← List.forall₂_eq_eq_eq, List.forall₂_map_left_iff, List.forall₂_map_right_iff]
  exact tokens.imp fun _ _ like => like.pointer

end Trees

end Likeness

end DesignTokens
