import DesignTokens.Proofs.Graph.Drafts
import DesignTokens.Proofs.Tree.Children

/-!
# DesignTokens.Proofs.Graph.Documents — documents that have alike graphs

1. **Roots** (`Likeness.Roots`): the members of two root objects, from which alike nodes and
   overrides are read.
2. **Graphs** (`Likeness.ofDocument?`) of documents with such roots, and their tokens
   (`Likeness.tokens_ofDocument?`).
-/

namespace DesignTokens

open DesignTokens.Tree

namespace Tree

/-- The tree of a document: one that is nested too deep has none. -/
theorem value_ofDocument (d : Document) (options : Options) :
    (ofDocument d options).value = d.data.members?.bind fun members =>
      if (tooDeep? options.maxNesting members).isSome then none
      else some (readRoot (options.context d) members).value := by
  unfold ofDocument
  cases d.data with
  | object members =>
    dsimp only [Json.members?, Option.bind_some]
    cases tooDeep? options.maxNesting members <;> rfl
  | _ => rfl

/-- The tree below the root is that of its children. -/
theorem walk_readRoot (ctx : Context) (members : Json.Members) :
    (readRoot ctx members).value.walk = childWalk ctx Pointer.root members :=
  walkList_readChildren

/-- The graph of a document is that of the tree of its root. -/
theorem graph_of_ofDocument? {d : Document} {options : Options} {members : Json.Members}
    (object : d.data = .object members) {g : Graph} (h : Graph.ofDocument? d options = some g) :
    (Graph.ofTree (readRoot (options.context d) members).value).graph = some g := by
  rw [Graph.ofDocument?, value_ofDocument, object] at h
  dsimp only [Json.members?, Option.bind_some] at h
  split at h
  · cases h
  · exact h

end Tree

namespace Likeness

variable {L : Likeness}

variable (L) in
/-- Members of root objects that are both nested too deep or both not, and are read alike. -/
structure Roots (ctx ctx' : Context) (limit : Nat) (xs ys : Json.Members) : Prop where
  deep : (tooDeep? limit xs).isSome = (tooDeep? limit ys).isSome
  overrides : Option.Rel L.value (xs.get? "$overrides") (ys.get? "$overrides")
  nodes : Matched L.TreeNodes (childWalk ctx Pointer.root xs) (childWalk ctx' Pointer.root ys)

/-- The trees of alike roots. -/
theorem Roots.trees {ctx ctx' : Context} {limit : Nat} {xs ys : Json.Members}
    (h : L.Roots ctx ctx' limit xs ys) (contexts : L.Contexts ctx ctx')
    (clear : (Json.object xs).unambiguous = true) (clear' : (Json.object ys).unambiguous = true) :
    L.Trees (readRoot ctx xs).value (readRoot ctx' ys).value := by
  refine ⟨contexts.uri, ?_, ?_, ?_, contexts.readOverrides Pointer.root h.overrides⟩
  · rw [walk_readRoot]
    exact nodup_childWalk Pointer.root clear
  · rw [walk_readRoot]
    exact nodup_childWalk Pointer.root clear'
  · rw [walk_readRoot, walk_readRoot]
    exact h.nodes

/-- Documents with alike roots have alike graphs, or both have none. -/
theorem ofDocument? {d d' : Document} {options options' : Options}
    (contexts : L.Contexts (options.context d) (options'.context d'))
    (nesting : options.maxNesting = options'.maxNesting) (clear : d.data.unambiguous = true)
    (clear' : d'.data.unambiguous = true)
    (roots : Option.Rel (L.Roots (options.context d) (options'.context d') options.maxNesting)
      d.data.members? d'.data.members?) :
    Option.Rel L.Graphs (Graph.ofDocument? d options) (Graph.ofDocument? d' options') := by
  unfold Graph.ofDocument?
  rw [value_ofDocument, value_ofDocument]
  -- Either both documents are objects, or none is.
  rcases optionRel_cases roots with ⟨hx, hy⟩ | ⟨xs, ys, hx, hy, like⟩
  · rw [hx, hy]
    exact .none
  · rw [hx, hy, Option.bind_some, Option.bind_some, ← nesting, like.deep]
    -- Both are nested too deeply, or none is.
    split
    · exact .none
    · rw [Json.eq_object_of_members? hx] at clear
      rw [Json.eq_object_of_members? hy] at clear'
      exact (like.trees contexts clear clear').graph

/-- Roots whose nodes are alike one by one list their tokens in the same order. -/
theorem tokens_ofDocument? {d d' : Document} {options options' : Options} {xs ys : Json.Members}
    {limit : Nat} (contexts : L.Contexts (options.context d) (options'.context d'))
    (hx : d.data = .object xs) (hy : d'.data = .object ys) (clear : d.data.unambiguous = true)
    (clear' : d'.data.unambiguous = true)
    (roots : L.Roots (options.context d) (options'.context d') limit xs ys)
    (ordered : List.Forall₂ L.TreeNodes (childWalk (options.context d) Pointer.root xs)
      (childWalk (options'.context d') Pointer.root ys)) {g g' : Graph}
    (hg : Graph.ofDocument? d options = some g) (hg' : Graph.ofDocument? d' options' = some g') :
    g.tokens = g'.tokens := by
  have tree := Tree.graph_of_ofDocument? hx hg
  have tree' := Tree.graph_of_ofDocument? hy hg'
  rw [hx] at clear
  rw [hy] at clear'
  rw [← walk_readRoot, ← walk_readRoot] at ordered
  exact (roots.trees contexts clear clear').tokens_eq ordered tree tree'

end Likeness

end DesignTokens
