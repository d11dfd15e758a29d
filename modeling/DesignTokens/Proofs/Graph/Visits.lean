import DesignTokens.Proofs.Graph.Drafts

/-!
# DesignTokens.Proofs.Graph.Visits — what becomes of each node of a tree

The nodes of a tree are visited in document order. A node is left out if its pointer is taken, or if
it is an alias whose reference is none; then nothing below it is visited.

1. **Places** (`Tree.Node.at?`): where a node stands in its tree.
2. **Visits** (`Graph.Visit`), each with the fate of its node (`Graph.fateOf`).
3. **Surveys** (`Graph.Surveys`): visits in document order, of every node that is not below one that
   is left out; `survey_surveys` finds one.
4. **Drafts** (`draftNodes_surveyed`): the nodes that are drafted are those that are kept, and each
   visit has its own reports.
-/

namespace DesignTokens

/-! ## Places -/

namespace Tree.Node

def children : Node → List Node
  | .collection _ children => children
  | _ => []

/-- The field for the reference of an alias. -/
def reference? : Node → Option (Field String)
  | .aliasTo _ _ field => some field
  | _ => none

/-- The node at a place below a node of the given parent, with the pointer of its own parent. Each
number of a place is a position among siblings. -/
def at? (parent : Option Pointer) (t : Node) : List Nat → Option (Option Pointer × Node)
  | [] => some (parent, t)
  | i :: place => (t.children[i]?).bind fun child => child.at? (some t.pointer) place

/-- Above a node in a tree there are nodes. -/
theorem isSome_at?_of_append {parent : Option Pointer} {t : Node} {place below : List Nat}
    (h : (t.at? parent (place ++ below)).isSome = true) : (t.at? parent place).isSome = true := by
  induction place generalizing parent t with
  | nil => rfl
  | cons i place ih =>
    simp only [List.cons_append, at?] at h ⊢
    cases child : t.children[i]? with
    | none => simp [child] at h
    | some c =>
      rw [child] at h
      exact ih h

/-- The node at a place among the given nodes and those below them. -/
def atIn? (parent : Option Pointer) (ts : List Node) : List Nat → Option (Option Pointer × Node)
  | [] => none
  | i :: place => (ts[i]?).bind fun t => t.at? parent place

end Tree.Node

/-- The node at a place of a tree, with the pointer of its parent. -/
def Tree.at? (tree : Tree) (place : List Nat) : Option (Option Pointer × Tree.Node) :=
  Tree.Node.atIn? none tree.children place

namespace Graph

/-! ## Visits -/

/-- What becomes of a node that is visited. -/
inductive Fate where
  | kept
  /-- Its pointer is taken. -/
  | duplicate
  /-- It is an alias whose reference is none. -/
  | unresolved
deriving Repr, DecidableEq

/-- The fate of a node where some pointers are taken. -/
def fateOf (base : Uri) (taken : List Pointer) (t : Tree.Node) : Fate :=
  if t.pointer ∈ taken then .duplicate
  else
    match t with
    | .aliasTo _ _ field =>
      match Reference.resolve base field with
      | .ok _ => .kept
      | .error _ => .unresolved
    | _ => .kept

/-- A node with its place, the pointer of its parent, and its fate. -/
structure Visit where
  place : List Nat
  parent : Option Pointer
  node : Tree.Node
  fate : Fate

/-- The visit of the same node at another place. -/
def Visit.move (f : List Nat → List Nat) (v : Visit) : Visit :=
  { v with place := f v.place }

/-- The place of a node below the first one of some nodes. -/
def down (place : List Nat) : List Nat :=
  0 :: place

/-- The place of a node among the nodes after the first one. -/
def across : List Nat → List Nat
  | [] => []
  | i :: place => (i + 1) :: place

/-- The visits of nodes that are kept. -/
def keptVisits (visits : List Visit) : List Visit :=
  visits.filter (·.fate = .kept)

def keptPointers (visits : List Visit) : List Pointer :=
  (keptVisits visits).map (·.node.pointer)

/-- The fate of the node at a place, if it is visited. -/
def fateAt? (visits : List Visit) (place : List Nat) : Option Fate :=
  (visits.find? (·.place = place)).map (·.fate)

/-! ## Surveys -/

/-- The visits of nodes in document order, each at its place. A node is visited if and only if the
one right above it, if there is one, is kept; its pointer is taken by those that were kept
before. -/
structure Surveys (base : Uri) (taken : List Pointer)
    (at? : List Nat → Option (Option Pointer × Tree.Node)) (visits : List Visit) : Prop where
  stand : ∀ v ∈ visits, at? v.place = some (v.parent, v.node)
  sorted : visits.Pairwise (·.place < ·.place)
  fates : ∀ before v after, visits = before ++ v :: after →
    v.fate = fateOf base (keptPointers before ++ taken) v.node
  first : (at? []).isSome = true → (fateAt? visits []).isSome = true
  below : ∀ place i, (at? (place ++ [i])).isSome = true →
    ((fateAt? visits (place ++ [i])).isSome = true ↔
      at? place = none ∨ fateAt? visits place = some .kept)

mutual

/-- The visits of a node and those below it. -/
def surveyNode (base : Uri) (taken : List Pointer) (parent : Option Pointer) :
    Tree.Node → List Visit
  | .collection info children =>
    if info.pointer ∈ taken then [⟨[], parent, .collection info children, .duplicate⟩]
    else ⟨[], parent, .collection info children, .kept⟩ ::
      surveyNodes base (info.pointer :: taken) (some info.pointer) children
  | t => [⟨[], parent, t, fateOf base taken t⟩]

def surveyNodes (base : Uri) (taken : List Pointer) (parent : Option Pointer) :
    List Tree.Node → List Visit
  | [] => []
  | t :: rest =>
    let first := surveyNode base taken parent t
    let more := surveyNodes base (keptPointers first ++ taken) parent rest
    first.map (Visit.move down) ++ more.map (Visit.move across)

end

section Surveys

variable {base : Uri} {taken : List Pointer} {parent : Option Pointer}
  {at? : List Nat → Option (Option Pointer × Tree.Node)} {visits first more : List Visit}

/-- Only which pointers were taken matters, not how often or in which order. -/
theorem fateOf_congr {taken' : List Pointer} (h : ∀ p, p ∈ taken ↔ p ∈ taken') (t : Tree.Node) :
    fateOf base taken t = fateOf base taken' t := by
  simp only [fateOf, h]

@[simp] theorem keptVisits_move (f : List Nat → List Nat) (visits : List Visit) :
    keptVisits (visits.map (Visit.move f)) = (keptVisits visits).map (Visit.move f) := by
  rw [keptVisits, List.filter_map]
  rfl

/-- The visits that are kept are those of both parts. -/
theorem keptVisits_append (first more : List Visit) :
    keptVisits (first ++ more) = keptVisits first ++ keptVisits more :=
  List.filter_append first more

@[simp] theorem keptPointers_append (first more : List Visit) :
    keptPointers (first ++ more) = keptPointers first ++ keptPointers more := by
  simp [keptPointers, keptVisits]

@[simp] theorem keptPointers_move (f : List Nat → List Nat) (visits : List Visit) :
    keptPointers (visits.map (Visit.move f)) = keptPointers visits := by
  simp [keptPointers, Visit.move]

/-- What is visited below the first node. -/
theorem fateAt?_down (first more : List Visit) (place : List Nat) :
    fateAt? (first.map (Visit.move down) ++ more.map (Visit.move across)) (0 :: place) =
      fateAt? first place := by
  have other : (more.map (Visit.move across)).find? (·.place = 0 :: place) = none := by
    simp only [List.find?_eq_none, List.forall_mem_map]
    intro v _ same
    obtain ⟨_ | ⟨i, below⟩, _, _, _⟩ := v <;> simp [Visit.move, across] at same
  simp only [fateAt?, List.find?_append, List.find?_map, other, Option.or_none, Option.map_map]
  simp [Function.comp_def, Visit.move, down]

/-- What is visited among the nodes after the first one. -/
theorem fateAt?_across (first more : List Visit) (i : Nat) (place : List Nat) :
    fateAt? (first.map (Visit.move down) ++ more.map (Visit.move across)) ((i + 1) :: place) =
      fateAt? more (i :: place) := by
  have other : (first.map (Visit.move down)).find? (·.place = (i + 1) :: place) = none := by
    simp [List.find?_eq_none, Visit.move, down]
  have here : ∀ v : Visit, (across v.place = (i + 1) :: place) = (v.place = i :: place) := by
    rintro ⟨_ | ⟨j, below⟩, _, _, _⟩ <;> simp [across]
  simp only [fateAt?, List.find?_append, other, Option.none_or, List.find?_map, Option.map_map]
  simp [Function.comp_def, Visit.move, here]

/-- A property of each visit and those before it holds in two lists one after the other, if it holds
in the second one with the first one before it. -/
theorem forall_split_append {P : List Visit → Visit → Prop}
    (h : ∀ before v after, first = before ++ v :: after → P before v)
    (h' : ∀ before v after, more = before ++ v :: after → P (first ++ before) v) :
    ∀ before v after, first ++ more = before ++ v :: after → P before v := by
  intro before v after split
  -- The split is in the second part, or in the first one.
  rcases List.append_eq_append_iff.1 split with ⟨between, rfl, rest⟩ | ⟨between, split, rest⟩
  · exact h' between v after rest
  · cases between with
    | nil =>
      rw [List.append_nil] at split
      rw [← split, ← List.append_nil first]
      exact h' [] v after rest.symm
    | cons u between =>
      obtain ⟨rfl, _⟩ := List.cons.inj rest
      exact h before v between split

/-- The fates of visits do not depend on their places. -/
theorem fates_move {f : List Nat → List Nat}
    (h : ∀ before v after, visits = before ++ v :: after →
      v.fate = fateOf base (keptPointers before ++ taken) v.node) :
    ∀ before v after, visits.map (Visit.move f) = before ++ v :: after →
      v.fate = fateOf base (keptPointers before ++ taken) v.node := by
  intro before v after split
  obtain ⟨before, rest, rfl, rfl, tail⟩ := List.map_eq_append_iff.1 split
  obtain ⟨v, after, rfl, rfl, rfl⟩ := List.map_eq_cons_iff.1 tail
  rw [keptPointers_move]
  exact h before v after rfl

/-- A node is visited on its own if it is left out or nothing is below it. -/
theorem surveys_alone (base : Uri) (taken : List Pointer) (parent : Option Pointer) (t : Tree.Node)
    (last : fateOf base taken t ≠ .kept ∨ t.children = []) :
    Surveys base taken (t.at? parent) [⟨[], parent, t, fateOf base taken t⟩] where
  stand v hv := by
    obtain rfl := List.mem_singleton.1 hv
    rfl
  sorted := List.pairwise_singleton _ _
  fates before v after split := by
    cases before with
    | nil =>
      obtain ⟨rfl, _⟩ := List.cons.inj split
      rfl
    | cons u before => simp at split
  first _ := by simp [fateAt?]
  below place i stands := by
    have unvisited : fateAt? [⟨[], parent, t, fateOf base taken t⟩] (place ++ [i]) = none := by
      simp [fateAt?]
    rw [unvisited]
    -- Nothing below the node is visited: either the node is not kept, or it has no children.
    constructor
    · intro visited
      cases visited
    rintro (nothing | kept)
    · have above := Tree.Node.isSome_at?_of_append stands
      rw [nothing] at above
      cases above
    · cases place with
      | nil =>
        obtain out | childless := last
        · simp [fateAt?, out] at kept
        · simp [Tree.Node.at?, childless] at stands
      | cons j place => simp [fateAt?] at kept

/-- A node of a list is visited below the list. -/
theorem Surveys.place_eq_cons {ts : List Tree.Node}
    (h : Surveys base taken (Tree.Node.atIn? parent ts) visits) {v : Visit} (hv : v ∈ visits) :
    ∃ i place, v.place = i :: place := by
  have stands := h.stand v hv
  cases hp : v.place with
  | nil =>
    rw [hp] at stands
    cases stands
  | cons i place => exact ⟨i, place, rfl⟩

/-- A list without nodes has no visits. -/
theorem surveys_nil : Surveys base taken (Tree.Node.atIn? parent []) [] where
  stand v hv := absurd hv List.not_mem_nil
  sorted := List.Pairwise.nil
  fates before v after split := by simp at split
  first stands := by cases stands
  below place i stands := by
    cases place <;> simp [Tree.Node.atIn?] at stands

/-- A collection is visited before what is below it. -/
theorem Surveys.collection {info : Tree.NodeInfo} {children : List Tree.Node}
    (h : Surveys base (info.pointer :: taken) (Tree.Node.atIn? (some info.pointer) children) visits)
    (free : info.pointer ∉ taken) :
    Surveys base taken ((Tree.Node.collection info children).at? parent)
      (⟨[], parent, .collection info children, .kept⟩ :: visits) where
  stand v hv := by
    rcases List.mem_cons.1 hv with rfl | hv
    · rfl
    · -- A visit below is one of the children, one level further down.
      have stands := h.stand v hv
      obtain ⟨i, place, hp⟩ := h.place_eq_cons hv
      rw [hp] at stands ⊢
      exact stands
  sorted := by
    refine List.pairwise_cons.2 ⟨fun v hv => ?_, h.sorted⟩
    obtain ⟨i, place, hp⟩ := h.place_eq_cons hv
    rw [hp]
    exact List.nil_lt_cons i place
  fates before v after split := by
    cases before with
    | nil =>
      obtain ⟨rfl, _⟩ := List.cons.inj split
      exact (if_neg free).symm
    | cons u before =>
      obtain ⟨rfl, rest⟩ := List.cons.inj split
      rw [h.fates before v after rest]
      -- The collection itself is taken for all below it.
      refine fateOf_congr (fun p => ?_) v.node
      simp [keptPointers, keptVisits, or_left_comm, Tree.Node.pointer, Tree.Node.info]
  first _ := by simp [fateAt?]
  below place i stands := by
    cases place with
    | nil =>
      -- the children of the collection
      have visited := (h.below [] i stands).2 (.inl rfl)
      simpa [fateAt?, Tree.Node.at?] using visited
    | cons j place =>
      -- The collection is at no place below, so the visits there are those of the children.
      have other : ∀ k below, fateAt? (⟨[], parent, .collection info children, .kept⟩ :: visits)
          (k :: below) = fateAt? visits (k :: below) := fun k below => by simp [fateAt?]
      rw [List.cons_append, other, other]
      exact h.below (j :: place) i stands

/-- In document order, the places below the first node come before those of the rest. -/
theorem Surveys.sorted_cons {t : Tree.Node} {rest : List Tree.Node} {taken' : List Pointer}
    (h : Surveys base taken (t.at? parent) first)
    (h' : Surveys base taken' (Tree.Node.atIn? parent rest) more) :
    (first.map (Visit.move down) ++ more.map (Visit.move across)).Pairwise
      (·.place < ·.place) := by
  refine List.pairwise_append.2 ⟨?_, ?_, ?_⟩
  · -- within the first node
    refine List.pairwise_map.2 (h.sorted.imp fun before => ?_)
    exact List.cons_lt_cons_iff.2 (.inr ⟨rfl, before⟩)
  · -- Within the rest, each place has another index in front.
    refine List.pairwise_map.2 (h'.sorted.imp_of_mem fun hu hv before => ?_)
    obtain ⟨i, place, hp⟩ := h'.place_eq_cons hu
    obtain ⟨j, place', hp'⟩ := h'.place_eq_cons hv
    rw [hp, hp', List.cons_lt_cons_iff] at before
    simp only [Visit.move, hp, hp']
    exact List.cons_lt_cons_iff.2 (before.imp Nat.succ_lt_succ fun ⟨same, below⟩ =>
      ⟨congrArg _ same, below⟩)
  · -- Each place in the first node comes before all of the rest.
    simp only [List.forall_mem_map]
    intro u _ v hv
    obtain ⟨i, place, hp⟩ := h'.place_eq_cons hv
    simp only [Visit.move, hp]
    exact List.cons_lt_cons_iff.2 (.inl (Nat.succ_pos i))

/-- The nodes after the first one are visited where what is kept of it is taken. -/
theorem Surveys.cons {t : Tree.Node} {rest : List Tree.Node}
    (h : Surveys base taken (t.at? parent) first)
    (h' : Surveys base (keptPointers first ++ taken) (Tree.Node.atIn? parent rest) more) :
    Surveys base taken (Tree.Node.atIn? parent (t :: rest))
      (first.map (Visit.move down) ++ more.map (Visit.move across)) where
  stand v hv := by
    -- The first node goes one level down, and the rest one place on.
    rcases List.mem_append.1 hv with hv | hv
    · obtain ⟨u, hu, rfl⟩ := List.mem_map.1 hv
      exact h.stand u hu
    · obtain ⟨u, hu, rfl⟩ := List.mem_map.1 hv
      have stands := h'.stand u hu
      obtain ⟨i, place, hp⟩ := h'.place_eq_cons hu
      have moved : (u.move across).place = (i + 1) :: place := by rw [Visit.move, hp, across]
      rw [hp] at stands
      rw [moved]
      exact stands
  sorted := h.sorted_cons h'
  fates := by
    -- What was kept in the first node is taken for the rest.
    refine forall_split_append (fates_move h.fates) fun before v after split => ?_
    rw [fates_move h'.fates before v after split]
    refine fateOf_congr (fun p => ?_) v.node
    simp [or_left_comm]
  first stands := by cases stands
  below place i stands := by
    cases place with
    | nil =>
      -- The nodes of the list are at its top, and all of them are visited.
      refine ⟨fun _ => .inl rfl, fun _ => ?_⟩
      cases i with
      | zero =>
        rw [List.nil_append, fateAt?_down]
        exact h.first rfl
      | succ i =>
        rw [List.nil_append, fateAt?_across]
        exact (h'.below [] i stands).2 (.inl rfl)
    | cons j place =>
      -- Below a node, the visits are those of the first one or of the rest.
      cases j with
      | zero =>
        rw [List.cons_append, fateAt?_down, fateAt?_down]
        exact h.below place i stands
      | succ j =>
        rw [List.cons_append, fateAt?_across, fateAt?_across]
        exact h'.below (j :: place) i stands

variable (base)

mutual

/-- The nodes of a tree are surveyed in document order. -/
theorem surveyNode_surveys (taken : List Pointer) (parent : Option Pointer) :
    ∀ t : Tree.Node, Surveys base taken (t.at? parent) (surveyNode base taken parent t)
  | .collection info children => by
    unfold surveyNode
    split
    · -- A duplicate is not kept, so nothing below it is visited.
      next there =>
      have duplicate : fateOf base taken (.collection info children) = .duplicate := if_pos there
      have alone := surveys_alone base taken parent (.collection info children)
        (.inl (by simp [duplicate]))
      rwa [duplicate] at alone
    · next free =>
      have below := surveyNodes_surveys (info.pointer :: taken) (some info.pointer) children
      exact below.collection free
  | .token info type value => surveys_alone _ _ _ (.token info type value) (.inr rfl)
  | .aliasTo info type field => surveys_alone _ _ _ (.aliasTo info type field) (.inr rfl)

/-- All nodes of a list that are not below one that is left out are visited. -/
theorem surveyNodes_surveys (taken : List Pointer) (parent : Option Pointer) :
    ∀ ts : List Tree.Node,
      Surveys base taken (Tree.Node.atIn? parent ts) (surveyNodes base taken parent ts)
  | [] => surveys_nil
  | t :: rest => by
    have first := surveyNode_surveys taken parent t
    exact first.cons (surveyNodes_surveys _ parent rest)

end

end Surveys

/-! ## Drafts -/

/-- The reports on a field that is to stand for a reference. -/
def fieldReports (base : Uri) : Option (Field String) → Log
  | none => []
  | some field =>
    match Reference.resolve base field with
    | .ok _ => []
    | .error fault => [(Fault.badReference fault).diagnostic field.pointer field.span]

/-- The report on a node whose pointer is taken. -/
def Visit.duplicateReport (v : Visit) : Diagnostic :=
  (Fault.duplicatePointer v.node.pointer).diagnostic v.node.pointer v.node.span

/-- The reports on a node that is visited: of a node that is kept, its replacement may be none. -/
def Visit.reports (base : Uri) (v : Visit) : Log :=
  match v.fate with
  | .duplicate => [v.duplicateReport]
  | .unresolved => fieldReports base v.node.reference?
  | .kept => fieldReports base v.node.metadata.replacement?

/-- A node that is kept becomes a node of the graph, under the same parent. -/
structure Visit.Grows (base : Uri) (v : Visit) (n : Node) : Prop where
  planted : plant? base v.node = some n.alone
  parent : n.parent = v.parent

section Drafts

variable {base : Uri}

/-- To read a reference is reported as its field is. -/
theorem log_draftReference (field : Field String) :
    (draftReference base field).log = fieldReports base (some field) := by
  unfold draftReference fieldReports
  cases hr : Reference.resolve base field with
  | ok reference => simp only [hr, Draft.log_pure]
  | error fault => simp only [hr, Draft.log_bind, Draft.log_pure, Draft.report, List.append_nil]

/-- So is to read one that may be missing. -/
theorem log_draftReference? (source : Pointer) (kind : Reference.Kind) (required : Bool)
    (field : Option (Field String)) :
    (draftReference? base source kind required field).log = fieldReports base field := by
  cases field with
  | none => rfl
  | some field =>
    rw [draftReference?, Draft.log_bind, Draft.log_bind, log_draftReference]
    cases (draftReference base field).value <;> simp [Draft.await]

/-- The metadata of a node are reported for the replacement. -/
theorem log_draftInfo (parent : Option Pointer) (info : Tree.NodeInfo) :
    (draftInfo base parent info).log = fieldReports base info.metadata.replacement? := by
  rw [draftInfo, Draft.log_bind, log_draftReference?, Draft.log_pure, List.append_nil]

/-- A survey accounts for a draft: each node that is kept is drafted, and each visit has its own
reports. -/
structure Drafts (base : Uri) (visits : List Visit) (draft : Draft Planted) : Prop where
  nodes : List.Forall₂ (Visit.Grows base) (keptVisits visits) draft.value.nodes
  log : draft.log = visits.flatMap (Visit.reports base)

/-- Where the visits are does not matter for what grows from them. -/
theorem grows_move {f : List Nat → List Nat} {visits : List Visit} {ns : List Node}
    (h : List.Forall₂ (Visit.Grows base) (keptVisits visits) ns) :
    List.Forall₂ (Visit.Grows base) (keptVisits (visits.map (Visit.move f))) ns := by
  rw [keptVisits_move, List.forall₂_map_left_iff]
  exact h.imp fun v n grows => ⟨grows.planted, grows.parent⟩

/-- The pointers that are kept are those of the drafted nodes. -/
theorem Drafts.pointers {visits : List Visit} {draft : Draft Planted}
    (h : Drafts base visits draft) :
    keptPointers visits = draft.value.nodes.map (·.pointer) := by
  rw [keptPointers, ← List.forall₂_eq_eq_eq, List.forall₂_map_left_iff, List.forall₂_map_right_iff]
  refine h.nodes.imp fun v n grows => ?_
  exact (pointer_plant? grows.planted).symm

section Leaves

variable (taken : List Pointer) (parent : Option Pointer) (info : Tree.NodeInfo)

/-- A token is drafted unless its pointer is taken. -/
theorem draftToken_surveyed (type : Option (Field String)) (value : Option (Field Json)) :
    Drafts base (surveyNode base taken parent (.token info type value))
      (draftNode base taken parent (.token info type value)) := by
  unfold surveyNode draftNode
  by_cases there : info.pointer ∈ taken
  · -- a duplicate is reported, and nothing is drafted
    have fate : fateOf base taken (.token info type value) = .duplicate := if_pos there
    rw [fate, if_pos (by simpa using there)]
    exact ⟨.nil, rfl⟩
  · -- kept
    have fate : fateOf base taken (.token info type value) = .kept := if_neg there
    rw [fate, if_neg (by simpa using there)]
    constructor
    · exact .cons ⟨rfl, rfl⟩ .nil
    · rw [Draft.log_bind, log_draftInfo, Draft.log_pure, List.flatMap_singleton, List.append_nil]
      rfl

variable {taken} (type field : Field String)

/-- An alias whose reference is none is left out, and its reference is reported. -/
theorem draftAlias_unresolved (free : info.pointer ∉ taken) {fault : Reference.Fault}
    (hr : Reference.resolve base field = .error fault) :
    Drafts base (surveyNode base taken parent (.aliasTo info type field))
      (draftNode base taken parent (.aliasTo info type field)) := by
  have fate : fateOf base taken (.aliasTo info type field) = .unresolved := by
    simp [fateOf, Tree.Node.pointer, Tree.Node.info, free, hr]
  have value : (draftReference base field).value = none := by
    rw [value_draftReference, hr]
    rfl
  unfold surveyNode draftNode
  rw [fate, if_neg (by simpa using free)]
  constructor
  · rw [Draft.value_bind, value]
    exact .nil
  · rw [Draft.log_bind, value, log_draftReference, Draft.log_pure, List.append_nil,
      List.flatMap_singleton]
    rfl

/-- An alias whose reference can be resolved is drafted with it. -/
theorem draftAlias_resolved (free : info.pointer ∉ taken) {reference : Reference}
    (hr : Reference.resolve base field = .ok reference) :
    Drafts base (surveyNode base taken parent (.aliasTo info type field))
      (draftNode base taken parent (.aliasTo info type field)) := by
  have fate : fateOf base taken (.aliasTo info type field) = .kept := by
    simp [fateOf, Tree.Node.pointer, Tree.Node.info, free, hr]
  have value : (draftReference base field).value = some reference := by
    rw [value_draftReference, hr]
    rfl
  have silent : (draftReference base field).log = [] := by
    simp [log_draftReference, fieldReports, hr]
  have planted : plant? base (.aliasTo info type field) =
      some ((draftInfo base none info).value (.aliasTo type reference)) := by
    simp [plant?, hr, Except.toOption]
  unfold surveyNode draftNode
  rw [fate, if_neg (by simpa using free)]
  constructor
  · rw [Draft.value_bind, value]
    exact .cons ⟨planted, rfl⟩ .nil
  · rw [Draft.log_bind, value, silent, Draft.log_bind, log_draftInfo]
    simp [Draft.await, Visit.reports, Tree.Node.metadata, Tree.Node.info]

/-- An alias is drafted unless its pointer is taken or its reference is faulty. -/
theorem draftAlias_surveyed :
    Drafts base (surveyNode base taken parent (.aliasTo info type field))
      (draftNode base taken parent (.aliasTo info type field)) := by
  by_cases there : info.pointer ∈ taken
  · have fate : fateOf base taken (.aliasTo info type field) = .duplicate := if_pos there
    unfold surveyNode draftNode
    rw [fate, if_pos (by simpa using there)]
    exact ⟨.nil, rfl⟩
  · cases hr : Reference.resolve base field with
    | error fault => exact draftAlias_unresolved parent info type field there hr
    | ok reference => exact draftAlias_resolved parent info type field there hr

end Leaves

mutual

/-- A node that is kept is drafted, and what is reported is reported of a visit. -/
theorem draftNode_surveyed (taken : List Pointer) (parent : Option Pointer) :
    ∀ t : Tree.Node,
      Drafts base (surveyNode base taken parent t) (draftNode base taken parent t)
  | .collection info children => by
    unfold surveyNode draftNode
    -- a duplicate, and with it all that is below
    by_cases there : info.pointer ∈ taken
    · rw [if_pos there, if_pos (by simpa using there)]
      exact ⟨.nil, rfl⟩
    · -- A collection is kept, and takes its own pointer.
      rw [if_neg there, if_neg (by simpa using there)]
      have below := draftNodes_surveyed (info.pointer :: taken) (some info.pointer) children
      constructor
      · exact .cons ⟨rfl, rfl⟩ below.nodes
      · rw [Draft.log_bind, log_draftInfo, Draft.log_bind, below.log, Draft.log_pure,
          List.append_nil, List.flatMap_cons]
        rfl
  | .token info type value => draftToken_surveyed taken parent info type value
  | .aliasTo info type field => draftAlias_surveyed parent info type field

/-- The nodes of a list that are kept are drafted. -/
theorem draftNodes_surveyed (taken : List Pointer) (parent : Option Pointer) :
    ∀ ts : List Tree.Node,
      Drafts base (surveyNodes base taken parent ts) (draftNodes base taken parent ts)
  | [] => ⟨.nil, rfl⟩
  | t :: rest => by
    have first := draftNode_surveyed taken parent t
    -- What the first node keeps is taken for the rest.
    have more := draftNodes_surveyed
      (keptPointers (surveyNode base taken parent t) ++ taken) parent rest
    rw [first.pointers] at more
    constructor
    · rw [surveyNodes, keptVisits_append, first.pointers]
      exact List.rel_append (grows_move first.nodes) (grows_move more.nodes)
    · rw [surveyNodes, draftNodes, Draft.log_bind, Draft.log_bind, Draft.log_pure, List.append_nil,
        first.log, more.log, List.flatMap_append, List.flatMap_map, List.flatMap_map,
        first.pointers]
      rfl

end

end Drafts

end Graph

end DesignTokens
