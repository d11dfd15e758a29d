import DesignTokens.Proofs.Graph.Links

/-!
# DesignTokens.Proofs.Graph.Arena — the nodes of a graph, laid out one by one

A graph is built by adding one node after the other to an arena, with the position of each pointer
in an index. A collection is added before what is below it, and its children are entered at its
position afterwards. That is how the nodes of a tree are drafted.

1. **Arenas** (`Graph.Arena`): nodes, their pointers once more as weights, and the index.
2. **Positions** (`Arena.LinesUp`): the index leads to the node and the weight of a pointer, and to
   nothing else; adding a node of a new pointer keeps that.
3. **Visits** (`Arena.visit`): the nodes of a tree, added one by one.
4. **Drafts** (`visit_eq`, `visitAll_ofTree`): the arena ends up with the nodes of the graph.
-/

namespace DesignTokens.Graph

/-! ## Arenas -/

/-- Enter the children of a collection. -/
def Node.adopt (children : List Pointer) (n : Node) : Node :=
  match n.content with
  | .collection _ => { n with content := .collection children }
  | _ => n

/-- Nodes in the order in which they are added, the weights of the reference graph, which are the
pointers of the nodes, and the position of each pointer. -/
structure Arena where
  nodes : List Node
  weights : List Pointer
  index : List (Pointer × Nat)

namespace Arena

def empty : Arena :=
  ⟨[], [], []⟩

def position? (a : Arena) (p : Pointer) : Option Nat :=
  a.index.lookup p

def add (a : Arena) (n : Node) : Arena :=
  ⟨a.nodes ++ [n], a.weights ++ [n.pointer], (n.pointer, a.nodes.length) :: a.index⟩

def addAll (a : Arena) (ns : List Node) : Arena :=
  ns.foldl add a

/-- Enter the children of the collection at a position. -/
def adopt (a : Arena) (i : Nat) (children : List Pointer) : Arena :=
  { a with nodes := a.nodes.modify i (Node.adopt children) }

variable {a : Arena}

@[simp] theorem addAll_nil (a : Arena) : a.addAll [] = a :=
  rfl

@[simp] theorem addAll_cons (a : Arena) (n : Node) (ns : List Node) :
    a.addAll (n :: ns) = (a.add n).addAll ns :=
  rfl

theorem addAll_append (a : Arena) (ns ns' : List Node) :
    a.addAll (ns ++ ns') = (a.addAll ns).addAll ns' :=
  List.foldl_append

/-- Nodes are added at the end. -/
theorem nodes_addAll (a : Arena) (ns : List Node) : (a.addAll ns).nodes = a.nodes ++ ns := by
  induction ns generalizing a with
  | nil => simp
  | cons n ns ih => simp [ih, add]

/-- With each node its weight is added. -/
theorem weights_addAll (a : Arena) (ns : List Node) :
    (a.addAll ns).weights = a.weights ++ ns.map (·.pointer) := by
  induction ns generalizing a with
  | nil => simp
  | cons n ns ih => simp [ih, add]

/-- A node that is added is found at the end, and hides an earlier one of its pointer. -/
theorem position?_add (a : Arena) (n : Node) (p : Pointer) :
    (a.add n).position? p = if p = n.pointer then some a.nodes.length else a.position? p := by
  unfold position? add
  rw [List.lookup_cons]
  by_cases same : p = n.pointer
  · simp [same]
  · simp [same, beq_eq_false_iff_ne.2 same]

/-- The pointers with a position are those of before and those that are added. -/
theorem isSome_position?_addAll (a : Arena) (ns : List Node) (p : Pointer) :
    ((a.addAll ns).position? p).isSome ↔
      p ∈ ns.map (·.pointer) ∨ (a.position? p).isSome := by
  induction ns generalizing a with
  | nil => simp
  | cons n ns ih =>
    rw [addAll_cons, ih, position?_add, List.map_cons, List.mem_cons]
    by_cases same : p = n.pointer
    · simp [same]
    · simp [same]

/-! ## Positions -/

/-- The index has a pointer at a position if and only if the node at that position has it, and the
weight at that position is the same. -/
structure LinesUp (a : Arena) : Prop where
  nodes : ∀ p i, a.position? p = some i ↔ (a.nodes[i]?).map (·.pointer) = some p
  weights : ∀ p i, a.position? p = some i ↔ a.weights[i]? = some p

/-- An empty arena has nothing to line up. -/
theorem linesUp_empty : empty.LinesUp where
  nodes p i := by simp [empty, position?]
  weights p i := by simp [empty, position?]

/-- A list lines up with an index if what is added to the list is entered at its end. -/
theorem getElem?_push {xs : List Pointer} {position? : Pointer → Option Nat}
    (h : ∀ p i, position? p = some i ↔ xs[i]? = some p) {q : Pointer} (free : position? q = none)
    (p : Pointer) (i : Nat) :
    (if p = q then some xs.length else position? p) = some i ↔ (xs ++ [q])[i]? = some p := by
  have absent : ∀ j : Nat, xs[j]? ≠ some q := by
    intro j there
    rw [(h q j).2 there] at free
    cases free
  -- The new position is beyond all that are in use.
  rcases Nat.lt_trichotomy i xs.length with before | rfl | beyond
  · -- before the new place: as it was
    rw [List.getElem?_append_left before]
    by_cases same : p = q
    · subst same
      simp [absent i, Nat.ne_of_gt before]
    · rw [if_neg same, h]
  · -- at the new place
    rw [List.getElem?_concat_length]
    by_cases same : p = q
    · simp [same]
    · rw [if_neg same, h]
      simp [Ne.symm same]
  · -- beyond it: nothing
    have outside : (xs ++ [q]).length ≤ i := by
      rw [List.length_append]
      exact beyond
    rw [List.getElem?_eq_none outside]
    by_cases same : p = q
    · simp [same, Nat.ne_of_lt beyond]
    · rw [if_neg same, h, List.getElem?_eq_none (Nat.le_of_lt beyond)]

/-- There is a weight for each node. -/
theorem LinesUp.length (h : a.LinesUp) : a.weights.length = a.nodes.length := by
  have same : a.weights = a.nodes.map (·.pointer) := by
    refine List.ext_getElem? fun i => Option.ext fun p => ?_
    rw [List.getElem?_map, ← h.weights, ← h.nodes]
  rw [same, List.length_map]

/-- A node of a new pointer is added where the index has it. -/
theorem LinesUp.add (h : a.LinesUp) {n : Node} (free : a.position? n.pointer = none) :
    (a.add n).LinesUp where
  nodes p i := by
    have index : ∀ p i, a.position? p = some i ↔ (a.nodes.map (·.pointer))[i]? = some p := by
      intro p i
      rw [h.nodes, List.getElem?_map]
    rw [position?_add, ← List.getElem?_map, Arena.add, List.map_append, List.map_singleton]
    rw [← getElem?_push index free, List.length_map]
  weights p i := by
    rw [position?_add, Arena.add, ← getElem?_push h.weights free, h.length]

/-- Nodes whose pointers are new and apart from each other can be added one after the other. -/
theorem LinesUp.addAll (h : a.LinesUp) {ns : List Node} (nodup : (ns.map (·.pointer)).Nodup)
    (free : ∀ n ∈ ns, a.position? n.pointer = none) : (a.addAll ns).LinesUp := by
  induction ns generalizing a with
  -- no node to add
  | nil => exact h
  | cons n ns ih =>
    -- The pointer of the first node is taken now, but none of the others has it.
    obtain ⟨apart, nodup⟩ := List.nodup_cons.1 nodup
    refine ih (h.add (free n List.mem_cons_self)) nodup fun m hm => ?_
    have other : m.pointer ≠ n.pointer := by
      intro same
      exact apart (List.mem_map.2 ⟨m, hm, same⟩)
    rw [position?_add, if_neg other]
    exact free m (List.mem_cons_of_mem _ hm)

/-- Nodes that are added are found by their pointers as in a list. -/
theorem LinesUp.lookup? (h : a.LinesUp) (p : Pointer) :
    Graph.lookup? a.nodes p = (a.position? p).bind (a.nodes[·]?) := by
  cases found : a.position? p with
  | none =>
    -- A node of this pointer would have a position.
    refine List.find?_eq_none.2 fun n hn same => ?_
    -- The first node of this pointer is at its position, since there is only one position.
    obtain ⟨i, hi⟩ := List.mem_iff_getElem?.1 hn
    have here : a.position? p = some i := (h.nodes p i).2 (by simpa [hi] using same)
    rw [found] at here
    cases here
  | some i =>
    obtain ⟨n, hn, rfl⟩ := Option.map_eq_some_iff.1 ((h.nodes p i).1 found)
    cases there : Graph.lookup? a.nodes n.pointer with
    | none => simpa using List.find?_eq_none.1 there n (List.mem_of_getElem? hn)
    | some m =>
      have same : m.pointer = n.pointer := by simpa using List.find?_some there
      obtain ⟨j, hj⟩ := List.mem_iff_getElem?.1 (List.mem_of_find?_eq_some there)
      have here : a.position? n.pointer = some j := (h.nodes _ j).2 (by simp [hj, same])
      obtain rfl : i = j := Option.some.inj (found.symm.trans here)
      exact hj.symm

/-! ## Visits -/

mutual

/-- Add a node and all below it, with the given parent; the pointer of the node is returned if it is
added. -/
def visit (base : Uri) (parent : Option Pointer) : Tree.Node → Arena → Option Pointer × Arena
  | .collection info children, a =>
    if (a.position? info.pointer).isSome then (none, a)
    else
      let node := (draftInfo base parent info).value
      let below := visitAll base (some info.pointer) children (a.add (node (.collection [])))
      (some info.pointer, below.2.adopt a.nodes.length below.1)
  | .token info type value, a =>
    if (a.position? info.pointer).isSome then (none, a)
    else
      let node := (draftInfo base parent info).value
      (some info.pointer, a.add (node (.token type value)))
  | .aliasTo info type field, a =>
    if (a.position? info.pointer).isSome then (none, a)
    else
      match Reference.resolve base field with
      | .error _ => (none, a)
      | .ok reference =>
        let node := (draftInfo base parent info).value
        (some info.pointer, a.add (node (.aliasTo type reference)))

/-- Add the nodes of a list and all below them. -/
def visitAll (base : Uri) (parent : Option Pointer) :
    List Tree.Node → Arena → List Pointer × Arena
  | [], a => ([], a)
  | t :: rest, a =>
    let first := visit base parent t a
    let more := visitAll base parent rest first.2
    (first.1.toList ++ more.1, more.2)

end

/-! ## Drafts -/

variable {base : Uri}

/-- Children that are entered late stand where they would have been entered at once. -/
theorem adopt_addAll (a : Arena) (parent : Option Pointer) (info : Tree.NodeInfo)
    (children : List Pointer) (ns : List Node) :
    let node := (draftInfo base parent info).value
    ((a.add (node (.collection []))).addAll ns).adopt a.nodes.length children =
      a.addAll (node (.collection children) :: ns) := by
  intro node
  -- The index records where the nodes are, and the children of a node do not matter for that.
  have index : ∀ b b' : Arena, b.nodes.length = b'.nodes.length → b.index = b'.index →
      (b.addAll ns).index = (b'.addAll ns).index := by
    induction ns with
    | nil => exact fun _ _ _ same => same
    | cons n ns ih =>
      intro b b' length same
      exact ih _ _ (by simp [Arena.add, length]) (by simp [Arena.add, length, same])
  -- The children are put in their place only when all of them were visited.
  have late : (((a.add (node (.collection []))).addAll ns).adopt a.nodes.length children).nodes =
      a.nodes ++ node (.collection children) :: ns := by
    rw [adopt, nodes_addAll, Arena.add, List.modify_eq_take_drop]
    simp [Node.adopt, node, draftInfo]
  have nodes := late.trans (nodes_addAll a (node (.collection children) :: ns)).symm
  have weights := weights_addAll (a.add (node (.collection []))) ns
  rw [Arena.add] at weights
  -- nodes, weights and index, one after the other
  refine congr (congr (congrArg Arena.mk nodes) ?_) ?_
  · exact weights.trans (weights_addAll (a.add (node (.collection children))) ns).symm
  · exact index (a.add _) (a.add _) (by simp [Arena.add]) rfl

/-- One node is drafted at the top at most. -/
theorem tops_draftNode (taken : List Pointer) (parent : Option Pointer) (t : Tree.Node) :
    (draftNode base taken parent t).value.tops.head?.toList =
      (draftNode base taken parent t).value.tops := by
  cases t with
  | collection info children =>
    unfold draftNode
    split <;> rfl
  | token info type value =>
    unfold draftNode
    split <;> rfl
  | aliasTo info type field =>
    unfold draftNode
    split
    · rfl
    · rw [Draft.value_bind]
      split <;> rfl

mutual

/-- A node of a tree is added with all below it as it is drafted, where the pointers with a position
are taken. -/
theorem visit_eq (taken : List Pointer) (parent : Option Pointer) :
    -- The index of the arena knows the pointers that were taken, on either side.
    ∀ (t : Tree.Node) (a : Arena), (∀ p, p ∈ taken ↔ (a.position? p).isSome) →
      visit base parent t a = ((draftNode base taken parent t).value.tops.head?,
        a.addAll (draftNode base taken parent t).value.nodes)
  | .collection info children, a, same => by
    unfold visit draftNode
    -- A node whose pointer is taken is left out, with all below it.
    by_cases there : info.pointer ∈ taken
    · simp [there, (same _).1 there]
    · have free : ¬(a.position? info.pointer).isSome := fun h => there ((same _).2 h)
      have below := visitAll_eq (info.pointer :: taken) (some info.pointer) children
        (a.add ((draftInfo base parent info).value (.collection []))) ?_
      · simp [there, free, below, adopt_addAll]
      · intro p
        have added := isSome_position?_addAll a
          [(draftInfo base parent info).value (.collection [])] p
        rw [List.mem_cons, same p]
        simpa [draftInfo] using added.symm
  | .token info type value, a, same => by
    unfold visit draftNode
    by_cases there : info.pointer ∈ taken
    · simp [there, (same _).1 there]
    · have free : ¬(a.position? info.pointer).isSome := fun h => there ((same _).2 h)
      simp [there, free]
  | .aliasTo info type field, a, same => by
    unfold visit draftNode
    by_cases there : info.pointer ∈ taken
    · simp [there, (same _).1 there]
    · have free : ¬(a.position? info.pointer).isSome := fun h => there ((same _).2 h)
      -- An alias is left out if its reference cannot be read.
      cases hr : Reference.resolve base field with
      | error fault => simp [there, free, value_draftReference, hr, Except.toOption]
      | ok reference => simp [there, free, value_draftReference, hr, Except.toOption]

/-- Nodes of a list are visited one after the other, as they are drafted. -/
theorem visitAll_eq (taken : List Pointer) (parent : Option Pointer) :
    ∀ (ts : List Tree.Node) (a : Arena), (∀ p, p ∈ taken ↔ (a.position? p).isSome) →
      visitAll base parent ts a = ((draftNodes base taken parent ts).value.tops,
        a.addAll (draftNodes base taken parent ts).value.nodes)
  | [], a, same => rfl
  | t :: rest, a, same => by
    have first := visit_eq taken parent t a same
    have more := visitAll_eq
      ((draftNode base taken parent t).value.nodes.map (·.pointer) ++ taken) parent rest
      (a.addAll (draftNode base taken parent t).value.nodes) ?_
    · simp [visitAll, first, more, draftNodes, addAll_append, tops_draftNode]
    · intro p
      rw [isSome_position?_addAll, List.mem_append, same p]

end

/-- The nodes of a tree end up in an arena that lines up, in the order of the graph. -/
theorem visitAll_ofTree {tree : Tree} {g : Graph} (h : (ofTree tree).graph = some g) :
    visitAll g.uri none tree.children empty = (g.roots, empty.addAll g.nodes) ∧
      (empty.addAll g.nodes).LinesUp := by
  have nodup := nodup_pointers_ofTree h
  obtain ⟨_, rfl⟩ := ofTree_eq_some h
  constructor
  · exact visitAll_eq [] none tree.children empty fun p => by simp [empty, position?]
  · exact linesUp_empty.addAll nodup fun _ _ => rfl

end Arena

end DesignTokens.Graph
