import DesignTokens.Proofs.Graph.Links
import Mathlib.Data.List.Nodup

/-!
# DesignTokens.Proofs.Graph.Families — parents and children

A node of a graph has no parent, or it is under a collection of the graph. A collection lists the
nodes under it in document order, and the roots of a graph are its nodes without a parent.

1. **Families** (`Graph.Families`): nodes under a parent, with the families below them.
2. **Drafts** (`draftNodes_families`): nodes are drafted under their parent.
3. **Graphs** (`families_ofTree`): every collection of a graph lists exactly the nodes under it
   (`Families.count_children`, `Families.of_mem_children`).
-/

namespace DesignTokens.Graph

/-! ## Families -/

def childrenOf (parent : Option Pointer) (ns : List Node) : List Pointer :=
  (ns.filter (·.parent = parent)).map (·.pointer)

/-- Nodes of which the tops are under a parent and all others under a collection among them. A
collection lists what is under it. -/
structure Families (parent : Option Pointer) (ns : List Node) (tops : List Pointer) : Prop where
  tops : tops = childrenOf parent ns
  parents : ∀ n ∈ ns, n.parent = parent ∨
    ∃ c ∈ ns, c.isCollection = true ∧ n.parent = some c.pointer
  children : ∀ c ∈ ns, ∀ children, c.content = .collection children →
    children = childrenOf (some c.pointer) ns

section Families

variable {parent other : Option Pointer} {ns ns' : List Node} {tops tops' taken : List Pointer}

/-- The children in a list are those in its parts. -/
theorem childrenOf_append (parent : Option Pointer) (ns ns' : List Node) :
    childrenOf parent (ns ++ ns') = childrenOf parent ns ++ childrenOf parent ns' := by
  simp [childrenOf]

/-- A child is a node under the parent. -/
theorem mem_childrenOf {p : Pointer} :
    p ∈ childrenOf parent ns ↔ ∃ n ∈ ns, n.parent = parent ∧ n.pointer = p := by
  simp [childrenOf, and_assoc]

/-- No nodes make no family. -/
theorem families_nil (parent : Option Pointer) : Families parent [] [] where
  tops := rfl
  parents _ h := absurd h List.not_mem_nil
  children _ h := absurd h List.not_mem_nil

/-- A node that is no collection is a family of its own. -/
theorem families_leaf {n : Node} (leaf : n.isCollection = false) :
    Families n.parent [n] [n.pointer] where
  tops := by simp [childrenOf]
  parents m hm := by
    obtain rfl := List.mem_singleton.1 hm
    exact .inl rfl
  children c hc children content := by
    obtain rfl := List.mem_singleton.1 hc
    simp [Node.isCollection, content] at leaf

/-- Nothing is under a pointer that none of the nodes has, apart from their parent. -/
theorem Families.childrenOf_eq_nil (h : Families parent ns tops) (differ : other ≠ parent)
    (absent : ∀ p, other = some p → p ∉ ns.map (·.pointer)) : childrenOf other ns = [] := by
  rw [childrenOf, List.map_eq_nil_iff, List.filter_eq_nil_iff]
  intro n hn under
  have under : n.parent = other := by simpa using under
  rcases h.parents n hn with top | ⟨c, hc, _, below⟩
  · exact differ (under.symm.trans top)
  · exact absent c.pointer (under.symm.trans below) (List.mem_map_of_mem hc)

/-- Families under one parent side by side. -/
theorem Families.append (h : Families parent ns tops) (h' : Families parent ns' tops')
    (placed : ∀ p, parent = some p → p ∈ taken) (apart : Apart taken (ns.map (·.pointer)))
    (apart' : Apart (ns.map (·.pointer) ++ taken) (ns'.map (·.pointer))) :
    Families parent (ns ++ ns') (tops ++ tops') where
  tops := by rw [childrenOf_append, ← h.tops, ← h'.tops]
  parents n hn := by
    rcases List.mem_append.1 hn with hn | hn
    · -- a node of the first part
      refine (h.parents n hn).imp_right ?_
      rintro ⟨c, hc, under⟩
      exact ⟨c, List.mem_append_left _ hc, under⟩
    · -- a node of the second part
      refine (h'.parents n hn).imp_right ?_
      rintro ⟨c, hc, under⟩
      exact ⟨c, List.mem_append_right _ hc, under⟩
  children c hc children content := by
    rw [childrenOf_append]
    rcases List.mem_append.1 hc with hc | hc
    · -- A collection of the first part has no children in the second: its pointer was taken there.
      have here : c.pointer ∈ ns.map (·.pointer) := List.mem_map_of_mem hc
      have none_there : childrenOf (some c.pointer) ns' = [] := by
        refine h'.childrenOf_eq_nil (fun top => ?_) ?_
        · exact apart.2 _ here (placed _ top.symm)
        · rintro p ⟨⟩ there
          exact apart'.2 _ there (List.mem_append_left _ here)
      rw [none_there, List.append_nil]
      exact h.children c hc children content
    · -- nor the other way round
      have there : c.pointer ∈ ns'.map (·.pointer) := List.mem_map_of_mem hc
      have none_here : childrenOf (some c.pointer) ns = [] := by
        refine h.childrenOf_eq_nil (fun top => ?_) ?_
        · exact apart'.2 _ there (List.mem_append_right _ (placed _ top.symm))
        · rintro p ⟨⟩ here
          exact apart'.2 _ there (List.mem_append_left _ here)
      rw [none_here, List.nil_append]
      exact h'.children c hc children content

/-- A collection above the families that it lists. -/
theorem Families.collection {c : Node} (h : Families (some c.pointer) ns tops)
    (content : c.content = .collection tops) (placed : ∀ p, c.parent = some p → p ∈ taken)
    (free : c.pointer ∉ taken) (apart : Apart (c.pointer :: taken) (ns.map (·.pointer))) :
    Families c.parent (c :: ns) [c.pointer] := by
  -- Nothing below the collection is beside it, and the collection is not below itself.
  have other : c.parent ≠ some c.pointer := fun own => free (placed _ own)
  have none_below : childrenOf c.parent ns = [] := by
    refine h.childrenOf_eq_nil other fun p under here => ?_
    exact apart.2 p here (List.mem_cons_of_mem _ (placed p under))
  have skip : ∀ q, c.parent ≠ some q → childrenOf (some q) (c :: ns) = childrenOf (some q) ns := by
    intro q differ
    simp [childrenOf, differ]
  constructor
  · -- The collection is the only one at the top.
    have first : childrenOf c.parent (c :: ns) = c.pointer :: childrenOf c.parent ns := by
      simp [childrenOf]
    rw [first, none_below]
  · intro n hn
    rcases List.mem_cons.1 hn with rfl | hn
    · exact .inl rfl
    · -- What was at the top is under the collection now.
      have collection : c.isCollection = true := by simp [Node.isCollection, content]
      rcases h.parents n hn with top | ⟨d, hd, under⟩
      · exact .inr ⟨c, List.mem_cons_self, collection, top⟩
      · exact .inr ⟨d, List.mem_cons_of_mem _ hd, under⟩
  · intro d hd children listed
    rcases List.mem_cons.1 hd with rfl | hd
    · -- the children of the collection
      obtain rfl := Content.collection.inj (content.symm.trans listed)
      rw [skip _ other]
      exact h.tops
    · -- the children of a collection below it
      have below : d.pointer ∈ ns.map (·.pointer) := List.mem_map_of_mem hd
      rw [skip _ fun up => apart.2 _ below (List.mem_cons_of_mem _ (placed _ up))]
      exact h.children d hd children listed

end Families

/-! ## Drafts -/

variable {base : Uri}

mutual

/-- A node of a tree is drafted with the families below it, if its parent is taken. -/
theorem draftNode_families (taken : List Pointer) (parent : Option Pointer)
    (placed : ∀ p, parent = some p → p ∈ taken) :
    ∀ t : Tree.Node, Families parent (draftNode base taken parent t).value.nodes
      (draftNode base taken parent t).value.tops
  | .collection info children => by
    unfold draftNode
    split
    · exact families_nil parent
    · next free =>
      have own : info.pointer ∉ taken := by simpa using free
      have below := draftNodes_families (info.pointer :: taken) (some info.pointer)
        (by rintro p ⟨⟩; exact List.mem_cons_self) children
      have apart : Apart (info.pointer :: taken) ((draftNodes base (info.pointer :: taken)
          (some info.pointer) children).value.nodes.map (·.pointer)) :=
        draftNodes_apart _ _ children
      exact Families.collection (c := (draftInfo base parent info).value (.collection _)) below rfl
        placed own apart
  | .token info type value => by
    unfold draftNode
    split
    · exact families_nil parent
    · exact families_leaf (n := (draftInfo base parent info).value (.token type value)) rfl
  | .aliasTo info type field => by
    unfold draftNode
    split
    · exact families_nil parent
    · rw [Draft.value_bind]
      split
      · exact families_nil parent
      · next reference _ =>
        exact families_leaf (n := (draftInfo base parent info).value (.aliasTo type reference)) rfl

/-- The nodes of a list are families beside each other. -/
theorem draftNodes_families (taken : List Pointer) (parent : Option Pointer)
    (placed : ∀ p, parent = some p → p ∈ taken) :
    ∀ ts : List Tree.Node, Families parent (draftNodes base taken parent ts).value.nodes
      (draftNodes base taken parent ts).value.tops
  | [] => families_nil parent
  | t :: rest => by
    have first := draftNode_families taken parent placed t
    have apart : Apart taken ((draftNode base taken parent t).value.nodes.map (·.pointer)) :=
      draftNode_apart taken parent t
    have more := draftNodes_families
      ((draftNode base taken parent t).value.nodes.map (·.pointer) ++ taken) parent
      (fun p under => List.mem_append_right _ (placed p under)) rest
    exact first.append more placed apart (draftNodes_apart _ parent rest)

end

/-! ## Graphs -/

variable {tree : Tree} {g : Graph}

/-- The roots of a graph are its nodes without a parent, with their families. -/
theorem families_ofTree (h : (ofTree tree).graph = some g) : Families none g.nodes g.roots := by
  obtain ⟨_, rfl⟩ := ofTree_eq_some h
  exact draftNodes_families [] none (fun _ under => by cases under) tree.children

/-- The parent of a node is a collection that lists the node exactly once. -/
theorem Families.count_children {roots : List Pointer} {ns : List Node}
    (h : Families none ns roots) (nodup : (ns.map (·.pointer)).Nodup) {n : Node} (hn : n ∈ ns)
    {p : Pointer} (under : n.parent = some p) :
    ∃ c children, lookup? ns p = some c ∧ c.content = .collection children ∧
      children.count n.pointer = 1 := by
  rcases h.parents n hn with top | ⟨c, hc, collection, below⟩
  · -- a node at the top has no parent
    rw [top] at under
    cases under
  · -- A child is listed, and no pointer is listed twice.
    obtain rfl : c.pointer = p := Option.some.inj (below.symm.trans under)
    unfold Node.isCollection at collection
    split at collection
    · next children content =>
      refine ⟨c, children, lookup?_of_mem nodup hc, content, ?_⟩
      have listed : n.pointer ∈ children := by
        rw [h.children c hc children content]
        exact mem_childrenOf.2 ⟨n, hn, under, rfl⟩
      refine List.count_eq_one_of_mem ?_ listed
      rw [h.children c hc children content]
      exact nodup.sublist (List.filter_sublist.map _)
    · cases collection

/-- What a collection lists are nodes of which it is the parent. -/
theorem Families.of_mem_children {roots : List Pointer} {ns : List Node}
    (h : Families none ns roots) (nodup : (ns.map (·.pointer)).Nodup) {c : Node} (hc : c ∈ ns)
    {children : List Pointer} (content : c.content = .collection children) {q : Pointer}
    (listed : q ∈ children) :
    ∃ n, lookup? ns q = some n ∧ n.parent = some c.pointer := by
  rw [h.children c hc children content] at listed
  obtain ⟨n, hn, under, rfl⟩ := mem_childrenOf.1 listed
  exact ⟨n, lookup?_of_mem nodup hn, under⟩

end DesignTokens.Graph
