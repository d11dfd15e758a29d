import DesignTokens.Proofs.Graph.Documents

/-!
# DesignTokens.Proofs.Tree.Erasure — what remains of a document without its metadata

Erasing a document leaves its overrides, the names of its nodes, and the types, values and
references of its tokens and aliases. Documents with the same erasure are read as trees that are
alike, wherever their parts stand in the text.

1. **Erasure** of nodes (`Tree.eraseNode`) and of documents (`Tree.erase`).
2. **Members** that are not erased.
3. **Nodes** (`readWalk_of_erased`) and **nesting** (`deepNode?_of_erased`), by induction on the
   value.
4. **Roots** (`roots_of_erased`).
-/

namespace DesignTokens.Tree

/-! ## Erasure -/

mutual

/-- A node without its metadata: a token or an alias keeps its type, value and reference, and a
collection keeps its nodes. -/
def eraseNode : Json → Json
  | .object members =>
    .object (if isTokenLike members then members.filter fun m => tokenKeys.contains m.1
      else eraseChildren members)
  | value => value

/-- The nodes among the members of a collection, without their metadata. -/
def eraseChildren : List (String × Json) → List (String × Json)
  | [] => []
  | (name, value) :: rest =>
    if isReserved name then eraseChildren rest
    else (name, eraseNode value) :: eraseChildren rest

end

/-- The overrides and nodes among the members of the root, without their metadata. -/
def eraseMembers : Json.Members → Json.Members
  | [] => []
  | (name, value) :: rest =>
    if name = "$overrides" then (name, value) :: eraseMembers rest
    else if isReserved name then eraseMembers rest
    else (name, eraseNode value) :: eraseMembers rest

/-- A document without its metadata. -/
def erase : Json → Json
  | .object members => .object (eraseMembers members)
  | value => value

/-! ## Members -/

/-- Each named member is erased for itself. -/
theorem eraseChildren_eq_map (members : Json.Members) :
    eraseChildren members = (named members).map fun m => (m.1, eraseNode m.2) := by
  induction members with
  | nil => rfl
  | cons member rest ih =>
    obtain ⟨name, value⟩ := member
    rw [eraseChildren, named, List.filter_cons]
    cases reserved : isReserved name with
    | true => simpa [named] using ih
    | false => simpa [named] using ih

/-- The nodes among the members of the root are erased as those of a collection. -/
theorem named_eraseMembers (members : Json.Members) :
    named (eraseMembers members) = eraseChildren members := by
  induction members with
  | nil => rfl
  | cons member rest ih =>
    obtain ⟨name, value⟩ := member
    rw [eraseMembers, eraseChildren]
    by_cases overrides : name = "$overrides"
    · -- The overrides are kept as they are, and are no node.
      subst overrides
      have reserved : isReserved "$overrides" = true := by decide
      simpa [named, reserved] using ih
    · cases reserved : isReserved name with
      | true => simpa [overrides] using ih
      | false => simpa [overrides, named, reserved] using ih

/-- The overrides are not erased. -/
theorem get?_eraseMembers (members : Json.Members) :
    (eraseMembers members).get? "$overrides" = members.get? "$overrides" := by
  induction members with
  | nil => rfl
  | cons member rest ih =>
    obtain ⟨name, value⟩ := member
    rw [eraseMembers, Json.Members.get?_cons]
    by_cases overrides : name = "$overrides"
    · simp [overrides, Json.Members.get?_cons]
    · cases reserved : isReserved name with
      | true => simpa [overrides] using ih
      | false => simpa [overrides, Json.Members.get?_cons] using ih

/-- Whatever is left of an object, it is a token or an alias if it was one. -/
def eraseObject (members : Json.Members) : Json.Members :=
  if isTokenLike members then members.filter fun m => tokenKeys.contains m.1
  else eraseChildren members

/-- A reserved name is erased with its member. -/
theorem get?_eraseChildren {key : String} (reserved : isReserved key = true)
    (members : Json.Members) : Json.Members.get? (eraseChildren members) key = none := by
  induction members with
  | nil => rfl
  | cons member rest ih =>
    obtain ⟨name, value⟩ := member
    rw [eraseChildren]
    cases hname : isReserved name with
    | true => simpa using ih
    | false =>
      have other : name ≠ key := by
        rintro rfl
        rw [hname] at reserved
        cases reserved
      simpa [Json.Members.get?_cons, other] using ih

/-- A token or an alias keeps what is under its own keys. -/
theorem get?_eraseObject {members : Json.Members} (tokenLike : isTokenLike members = true)
    {key : String} (h : key ∈ tokenKeys) :
    (eraseObject members).get? key = members.get? key := by
  have kept : tokenKeys.contains key = true := List.contains_iff_mem.2 h
  rw [eraseObject, if_pos tokenLike, Json.Members.get?_filter members tokenKeys.contains,
    if_pos kept]

/-- What is erased of an object does not change what it is read as. -/
theorem isTokenLike_eraseObject (members : Json.Members) :
    isTokenLike (eraseObject members) = isTokenLike members := by
  cases tokenLike : isTokenLike members with
  | true =>
    obtain ⟨key, hkey, has⟩ := List.any_eq_true.1 tokenLike
    refine List.any_eq_true.2 ⟨key, hkey, ?_⟩
    rw [Json.Members.has, get?_eraseObject tokenLike hkey]
    exact has
  | false =>
    have reserved : ∀ key ∈ tokenKeys, isReserved key = true := by decide
    -- All keys that make a token are reserved, so a collection has none of them.
    rw [eraseObject, if_neg (by simp [tokenLike])]
    refine List.any_eq_false.2 fun key hkey => ?_
    simp [Json.Members.has, get?_eraseChildren (reserved key hkey)]

/-- Objects of which the same is left are both tokens or aliases, or both collections. -/
theorem eq_isTokenLike {xs ys : Json.Members} (h : eraseObject xs = eraseObject ys) :
    isTokenLike xs = isTokenLike ys := by
  rw [← isTokenLike_eraseObject xs, h, isTokenLike_eraseObject]

/-- Collections of which the same is left have nodes of the same names, of which the same is
left. -/
theorem forall₂_named {xs ys : Json.Members} (h : eraseChildren xs = eraseChildren ys) :
    List.Forall₂ (fun m m' => m.1 = m'.1 ∧ eraseNode m.2 = eraseNode m'.2)
      (named xs) (named ys) := by
  rw [eraseChildren_eq_map, eraseChildren_eq_map, ← List.forall₂_eq_eq_eq,
    List.forall₂_map_left_iff, List.forall₂_map_right_iff] at h
  exact h.imp fun _ _ same => Prod.mk.inj same

theorem eraseNode_object (members : Json.Members) :
    eraseNode (.object members) = .object (eraseObject members) := by
  rw [eraseNode]
  rfl

/-- What erases alike is an object on both sides or on neither. -/
theorem eraseNode_cases {x y : Json} (h : eraseNode x = eraseNode y) :
    (x.members? = none ∧ y.members? = none) ∨
      ∃ xs ys, x = .object xs ∧ y = .object ys ∧ eraseObject xs = eraseObject ys := by
  cases x with
  | object xs =>
    cases y with
    | object ys =>
      rw [eraseNode_object, eraseNode_object] at h
      exact .inr ⟨xs, ys, rfl, rfl, Json.object.inj h⟩
    | _ => simp [eraseNode] at h
  | _ =>
    cases y with
    | object ys => simp [eraseNode] at h
    | _ => exact .inl ⟨rfl, rfl⟩

/-! ## Nodes -/

/-- Values are compared as they are; reports are not compared. -/
def silent : Likeness :=
  ⟨Eq, Json.respectful_eq, false⟩

variable {ctx ctx' : Context}

/-- Collections of which the same is left have alike nodes, if each of their nodes has. -/
theorem forall₂_childWalk (pointer : Pointer) {xs ys : Json.Members}
    (same : eraseChildren xs = eraseChildren ys)
    (each : ∀ m ∈ xs, ∀ (y : Json) (name : String) (pointer : Pointer),
      eraseNode m.2 = eraseNode y → List.Forall₂ silent.TreeNodes (readWalk ctx name pointer m.2)
        (readWalk ctx' name pointer y)) :
    List.Forall₂ silent.TreeNodes (childWalk ctx pointer xs) (childWalk ctx' pointer ys) := by
  have each' : ∀ m ∈ named xs, ∀ (y : Json) (name : String) (pointer : Pointer),
      eraseNode m.2 = eraseNode y → List.Forall₂ silent.TreeNodes (readWalk ctx name pointer m.2)
        (readWalk ctx' name pointer y) :=
    fun m hm => each m (List.mem_of_mem_filter hm)
  have nodes := forall₂_named same
  unfold childWalk
  generalize named xs = us, named ys = vs at nodes each' ⊢
  induction nodes with
  | nil => exact .nil
  | cons head _ ih =>
    rw [List.forall_mem_cons] at each'
    rw [List.flatMap_cons, List.flatMap_cons, head.1]
    exact List.rel_append (each'.1 _ _ _ head.2) (ih each'.2)

/-- Values of which the same is left as nodes are read as alike nodes. -/
theorem readWalk_of_erased (contexts : silent.Contexts ctx ctx') (x : Json) :
    ∀ (y : Json) (name : String) (pointer : Pointer), eraseNode x = eraseNode y →
      List.Forall₂ silent.TreeNodes (readWalk ctx name pointer x)
        (readWalk ctx' name pointer y) := by
  induction x using Json.induction with
  | object members ih =>
    intro y name pointer same
    rcases eraseNode_cases same with ⟨none, _⟩ | ⟨_, ys, ⟨⟩, rfl, left⟩
    · cases none
    · have kind := eq_isTokenLike left
      rw [readWalk_object, readWalk_object, ← kind]
      split
      · -- A token or an alias: the members it is read from are kept.
        next tokenLike =>
        refine forall₂_toList (contexts.readToken name pointer nofun fun key hkey => ?_)
        rw [← get?_eraseObject tokenLike hkey, left, get?_eraseObject (kind ▸ tokenLike) hkey]
        exact optionRel_refl silent.respectful.refl _
      · -- A collection: the nodes below are those of the named members.
        next collection =>
        rw [eraseObject, eraseObject, if_neg collection, if_neg (kind ▸ collection)] at left
        exact .cons (.collection (contexts.nodeInfo name pointer nofun))
          (forall₂_childWalk pointer left ih)
  | _ =>
    intro y name pointer same
    rcases eraseNode_cases same with ⟨hx, hy⟩ | ⟨_, _, object, _⟩
    · rw [readWalk_plain hx, readWalk_plain hy]
      exact .nil
    · cases object

/-! ## Nesting -/

/-- Collections of which the same is left are nested as deep, if each of their nodes is. -/
theorem deepChild?_of_erased (room : Nat) (pointer : Pointer) {xs ys : Json.Members}
    (same : eraseChildren xs = eraseChildren ys)
    (each : ∀ m ∈ xs, ∀ (y : Json) (room : Nat) (pointer : Pointer), eraseNode m.2 = eraseNode y →
      deepNode? room pointer m.2 = deepNode? room pointer y) :
    deepChild? room pointer xs = deepChild? room pointer ys := by
  have each' : ∀ m ∈ named xs, ∀ (y : Json) (room : Nat) (pointer : Pointer),
      eraseNode m.2 = eraseNode y → deepNode? room pointer m.2 = deepNode? room pointer y :=
    fun m hm => each m (List.mem_of_mem_filter hm)
  have nodes := forall₂_named same
  rw [deepChild?_eq_findSome?, deepChild?_eq_findSome?]
  generalize named xs = us, named ys = vs at nodes each' ⊢
  induction nodes with
  | nil => rfl
  | cons head _ ih =>
    rw [List.forall_mem_cons] at each'
    rw [List.findSome?_cons, List.findSome?_cons, head.1, each'.1 _ _ _ head.2, ih each'.2]

/-- Nodes of which the same is left are nested as deep. -/
theorem deepNode?_of_erased (x : Json) : ∀ (y : Json) (room : Nat) (pointer : Pointer),
    eraseNode x = eraseNode y → deepNode? room pointer x = deepNode? room pointer y := by
  induction x using Json.induction with
  | object members ih =>
    intro y room pointer same
    rcases eraseNode_cases same with ⟨none, _⟩ | ⟨_, ys, ⟨⟩, rfl, left⟩
    · cases none
    · have kind := eq_isTokenLike left
      rw [deepNode?, deepNode?, ← kind]
      split
      · -- A token or an alias has nothing below it.
        rfl
      · split
        · rfl
        · next collection =>
          rw [eraseObject, eraseObject, if_neg collection, if_neg (kind ▸ collection)] at left
          exact deepChild?_of_erased (room - 1) pointer left ih
  | _ =>
    intro y room pointer same
    rcases eraseNode_cases same with ⟨hx, hy⟩ | ⟨_, _, object, _⟩
    · cases y with
      | object _ => cases hy
      | _ => simp [deepNode?]
    · cases object

/-! ## Roots -/

/-- What is left of the root decides what is left of its nodes. -/
theorem eraseChildren_of_eraseMembers {xs ys : Json.Members}
    (same : eraseMembers xs = eraseMembers ys) : eraseChildren xs = eraseChildren ys := by
  rw [← named_eraseMembers, same, named_eraseMembers]

/-- Roots of which the same is left have alike nodes, one by one. -/
theorem childWalk_of_erased (contexts : silent.Contexts ctx ctx') {xs ys : Json.Members}
    (same : eraseMembers xs = eraseMembers ys) :
    List.Forall₂ silent.TreeNodes (childWalk ctx Pointer.root xs)
      (childWalk ctx' Pointer.root ys) :=
  forall₂_childWalk Pointer.root (eraseChildren_of_eraseMembers same) fun m _ =>
    readWalk_of_erased contexts m.2

/-- Roots of which the same is left are read as alike overrides and nodes, and are nested as
deep. -/
theorem roots_of_erased (contexts : silent.Contexts ctx ctx') (limit : Nat) {xs ys : Json.Members}
    (same : eraseMembers xs = eraseMembers ys) : silent.Roots ctx ctx' limit xs ys := by
  have overrides : xs.get? "$overrides" = ys.get? "$overrides" := by
    rw [← get?_eraseMembers, same, get?_eraseMembers]
  refine ⟨?_, ?_, matched_of_forall₂ (childWalk_of_erased contexts same)⟩
  · have deep := deepChild?_of_erased limit Pointer.root (eraseChildren_of_eraseMembers same)
      fun m _ => deepNode?_of_erased m.2
    rw [tooDeep?, tooDeep?, overrides, deep]
  · rw [overrides]
    exact optionRel_refl silent.respectful.refl _

end DesignTokens.Tree
