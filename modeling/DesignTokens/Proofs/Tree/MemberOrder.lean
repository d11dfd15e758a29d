import DesignTokens.Proofs.Graph.Documents

/-!
# DesignTokens.Proofs.Tree.MemberOrder — alike values are read as alike nodes

The members of a collection are its nodes, each of which is read on its own. So alike values are
read as alike nodes, although these may stand in another order, and they are nested too deep for the
same limits.

1. **Nodes** (`Likeness.Contexts.readWalk`), by induction on the value.
2. **Nesting** of nodes (`Respectful.deepNode?`) and of fallback lists (`Respectful.deepFallback?`).
3. **Roots** (`Likeness.Contexts.roots`).
-/

namespace DesignTokens

open DesignTokens.Tree (childWalk isTokenLike)

/-- Alike objects are read as nodes of the same kind. -/
theorem Json.Members.Alike.isTokenLike {V : Json → Json → Prop} {xs ys : Json.Members}
    (h : Json.Members.Alike V xs ys) : isTokenLike xs = isTokenLike ys := by
  have has : xs.has = ys.has := funext fun key => optionRel_isSome (h.get? key)
  rw [Tree.isTokenLike, Tree.isTokenLike, has]

/-! ## Nodes -/

namespace Likeness.Contexts

variable {L : Likeness} {ctx ctx' : Tree.Context}

/-- Alike objects have alike nodes, if their members have. -/
theorem childWalk (pointer : Pointer) {xs ys : Json.Members}
    (alike : Json.Members.Alike L.value xs ys)
    (each : ∀ m ∈ xs, ∀ (y : Json) (name : String) (pointer : Pointer), L.value m.2 y →
      Matched L.TreeNodes (Tree.readWalk ctx name pointer m.2)
        (Tree.readWalk ctx' name pointer y)) :
    Matched L.TreeNodes (childWalk ctx pointer xs) (childWalk ctx' pointer ys) := by
  constructor
  · -- Each named member has an alike one on the other side.
    intro t ht
    obtain ⟨m, hm, ht⟩ := List.mem_flatMap.1 ht
    obtain ⟨hm, free⟩ := List.mem_filter.1 hm
    obtain ⟨y, hy, like⟩ := alike.left m hm
    obtain ⟨t', ht', related⟩ := (each m hm y m.1 (pointer.child m.1) like).left t ht
    exact ⟨t', List.mem_flatMap.2 ⟨(m.1, y), List.mem_filter.2 ⟨hy, free⟩, ht'⟩, related⟩
  · -- And the other way round.
    intro t' ht'
    obtain ⟨m, hm, ht'⟩ := List.mem_flatMap.1 ht'
    obtain ⟨hm, free⟩ := List.mem_filter.1 hm
    obtain ⟨x, hx, like⟩ := alike.right m hm
    obtain ⟨t, ht, related⟩ := (each _ hx m.2 m.1 (pointer.child m.1) like).right t' ht'
    exact ⟨t, List.mem_flatMap.2 ⟨(m.1, x), List.mem_filter.2 ⟨hx, free⟩, ht⟩, related⟩

/-- Alike values are read as alike nodes. -/
theorem readWalk (h : L.Contexts ctx ctx') (x : Json) :
    ∀ (y : Json) (name : String) (pointer : Pointer), L.value x y →
      Matched L.TreeNodes (Tree.readWalk ctx name pointer x)
        (Tree.readWalk ctx' name pointer y) := by
  induction x using Json.induction with
  | object members ih =>
    intro y name pointer like
    rcases optionRel_cases (L.respectful.members? like) with ⟨none, _⟩ | ⟨_, ys, ⟨⟩, hy, alike⟩
    · cases none
    · have deprecated := fun _ : L.reports = true => alike.get? "$deprecated"
      rw [Json.eq_object_of_members? hy, Tree.readWalk_object, Tree.readWalk_object,
        alike.isTokenLike]
      split
      · -- A token or an alias.
        exact matched_of_forall₂ (forall₂_toList
          (h.readToken name pointer deprecated fun key _ => alike.get? key))
      · -- A collection, with all below it.
        exact .cons (.collection (h.nodeInfo name pointer deprecated))
          (childWalk pointer alike ih)
  | _ =>
    intro y name pointer like
    rcases optionRel_cases (L.respectful.members? like) with ⟨hx, hy⟩ | ⟨_, _, object, _⟩
    · rw [Tree.readWalk_plain hx, Tree.readWalk_plain hy]
      exact matched_nil _
    · cases object

end Likeness.Contexts

/-! ## Nesting -/

namespace Tree

variable (room : Nat) (pointer : Pointer)

/-- A node without members is too deep only if no level is left. -/
theorem deepNode?_plain {x : Json} (h : x.members? = none) :
    deepNode? room pointer x = if room = 0 then some pointer else none := by
  cases x <;> simp_all [deepNode?, Json.members?]

/-- What is neither an array nor an object takes one level. -/
theorem deepFallback?_plain {x : Json} (array : x.items? = none) (object : x.members? = none) :
    deepFallback? room pointer x = if room = 0 then some pointer else none := by
  cases x <;> simp_all [deepFallback?, Json.items?, Json.members?]

/-- An object takes a level as a list of one entry does. -/
theorem deepFallback?_object (members : Json.Members) :
    deepFallback? (room + 1) pointer (.object members) =
      deepFallbackMember? room pointer members := by
  simp [deepFallback?]

/-- The fallback list of an entry is the one under its key. -/
theorem deepFallbackMember?_eq_bind (members : Json.Members) :
    deepFallbackMember? room pointer members =
      (members.get? "$fallback").bind (deepFallback? room (pointer.child "$fallback")) := by
  induction members with
  | nil => rfl
  | cons member rest ih =>
    obtain ⟨key, value⟩ := member
    rw [deepFallbackMember?, Json.Members.get?_cons]
    split
    · next here => rw [here, Option.bind_some]
    · exact ih

/-- Items are searched in order. -/
theorem deepItem?_cons (i : Nat) (item : Json) (rest : List Json) :
    deepItem? room pointer i (item :: rest) =
      (item.members?.bind (deepFallbackMember? room (pointer.index i))).or
        (deepItem? room pointer (i + 1) rest) := by
  cases item <;> simp [deepItem?, Json.members?]

end Tree

namespace Json.Respectful

variable {V : Json → Json → Prop} (resp : Respectful V)

/-- Alike objects are nested too deep for the same limits, if their members are. -/
theorem deepChild? (room : Nat) (pointer : Pointer) {xs ys : Members}
    (alike : Members.Alike V xs ys)
    (each : ∀ m ∈ xs, ∀ (y : Json) (room : Nat) (pointer : Pointer), V m.2 y →
      (Tree.deepNode? room pointer m.2).isSome = (Tree.deepNode? room pointer y).isSome) :
    (Tree.deepChild? room pointer xs).isSome = (Tree.deepChild? room pointer ys).isSome := by
  rw [Tree.deepChild?_eq_findSome?, Tree.deepChild?_eq_findSome?, Bool.eq_iff_iff,
    List.findSome?_isSome_iff, List.findSome?_isSome_iff]
  constructor
  · rintro ⟨m, hm, deep⟩
    obtain ⟨hm, free⟩ := List.mem_filter.1 hm
    obtain ⟨y, hy, like⟩ := alike.left m hm
    exact ⟨(m.1, y), List.mem_filter.2 ⟨hy, free⟩, (each m hm y _ _ like).symm.trans deep⟩
  · rintro ⟨m, hm, deep⟩
    obtain ⟨hm, free⟩ := List.mem_filter.1 hm
    obtain ⟨x, hx, like⟩ := alike.right m hm
    exact ⟨(m.1, x), List.mem_filter.2 ⟨hx, free⟩, (each _ hx m.2 _ _ like).trans deep⟩

/-- The fallback lists of alike objects are too deep for the same limits, if those of their members
are. -/
theorem deepFallbackMember? (room : Nat) (pointer : Pointer) {xs ys : Members}
    (alike : Members.Alike V xs ys)
    (each : ∀ m ∈ xs, ∀ (y : Json) (room : Nat) (pointer : Pointer), V m.2 y →
      (Tree.deepFallback? room pointer m.2).isSome = (Tree.deepFallback? room pointer y).isSome) :
    (Tree.deepFallbackMember? room pointer xs).isSome =
      (Tree.deepFallbackMember? room pointer ys).isSome := by
  rw [Tree.deepFallbackMember?_eq_bind, Tree.deepFallbackMember?_eq_bind]
  rcases optionRel_cases (alike.get? "$fallback") with ⟨hx, hy⟩ | ⟨x, y, hx, hy, like⟩
  · rw [hx, hy]
  · rw [hx, hy, Option.bind_some, Option.bind_some]
    exact each _ (Members.mem_of_get? hx) y _ _ like

include resp

/-- Alike nodes are nested too deep for the same limits. -/
theorem deepNode? (x : Json) : ∀ (y : Json) (room : Nat) (pointer : Pointer), V x y →
    (Tree.deepNode? room pointer x).isSome = (Tree.deepNode? room pointer y).isSome := by
  induction x using Json.induction with
  | object members ih =>
    intro y room pointer like
    rcases optionRel_cases (resp.members? like) with ⟨none, _⟩ | ⟨_, ys, ⟨⟩, hy, alike⟩
    · cases none
    · rw [Json.eq_object_of_members? hy, Tree.deepNode?, Tree.deepNode?, alike.isTokenLike]
      split
      · -- Without room both give up at the object itself.
        rfl
      · split
        · -- A token or an alias has nothing below it.
          rfl
        · exact deepChild? (room - 1) pointer alike ih
  | _ =>
    intro y room pointer like
    rcases optionRel_cases (resp.members? like) with ⟨hx, hy⟩ | ⟨_, _, object, _⟩
    · rw [Tree.deepNode?_plain room pointer hx, Tree.deepNode?_plain room pointer hy]
    · cases object

/-- The items of alike arrays hold fallback lists that are too deep for the same limits, if they
are themselves too deep for the same limits. -/
theorem deepItem?_of (room : Nat) (pointer : Pointer) {items items' : List Json}
    (like : List.Forall₂ V items items')
    (each : ∀ x ∈ items, ∀ (y : Json) (room : Nat) (pointer : Pointer), V x y →
      (Tree.deepFallback? room pointer x).isSome = (Tree.deepFallback? room pointer y).isSome)
    (i : Nat) :
    (Tree.deepItem? room pointer i items).isSome =
      (Tree.deepItem? room pointer i items').isSome := by
  induction like generalizing i with
  | nil => rfl
  | cons head _ ih =>
    rw [List.forall_mem_cons] at each
    rw [Tree.deepItem?_cons, Tree.deepItem?_cons, Option.isSome_or, Option.isSome_or,
      ih each.2 (i + 1)]
    rcases optionRel_cases (resp.members? head) with ⟨hx, hy⟩ | ⟨us, vs, hx, hy, _⟩
    · rw [hx, hy]
    · -- The list in an entry has one level less than the entry itself.
      have below := each.1 _ (room + 1) (pointer.index i) head
      rw [Json.eq_object_of_members? hx, Json.eq_object_of_members? hy,
        Tree.deepFallback?_object, Tree.deepFallback?_object] at below
      rw [hx, hy, Option.bind_some, Option.bind_some, below]

/-- Alike values are too deep as fallback lists for the same limits. -/
theorem deepFallback? (x : Json) : ∀ (y : Json) (room : Nat) (pointer : Pointer), V x y →
    (Tree.deepFallback? room pointer x).isSome = (Tree.deepFallback? room pointer y).isSome := by
  induction x using Json.induction with
  | array items ih =>
    intro y room pointer like
    rcases optionRel_cases (resp.items? like) with ⟨none, _⟩ | ⟨_, items', ⟨⟩, hy, alike⟩
    · cases none
    · rw [Json.eq_array_of_items? hy, Tree.deepFallback?, Tree.deepFallback?]
      split
      · -- Without room both give up at the list itself.
        rfl
      · exact resp.deepItem?_of (room - 1) pointer alike ih 0
  | object members ih =>
    intro y room pointer like
    rcases optionRel_cases (resp.members? like) with ⟨none, _⟩ | ⟨_, ys, ⟨⟩, hy, alike⟩
    · cases none
    · rw [Json.eq_object_of_members? hy, Tree.deepFallback?, Tree.deepFallback?]
      split
      · rfl
      · exact deepFallbackMember? (room - 1) pointer alike ih
  | _ =>
    intro y room pointer like
    rcases optionRel_cases (resp.items? like) with ⟨hx, hy⟩ | ⟨_, _, array, _⟩
    · rcases optionRel_cases (resp.members? like) with ⟨hx', hy'⟩ | ⟨_, _, object, _⟩
      · -- A scalar takes one level on both sides.
        rw [Tree.deepFallback?_plain room pointer hx hx',
          Tree.deepFallback?_plain room pointer hy hy']
      · cases object
    · cases array

/-- Alike arrays hold fallback lists that are too deep for the same limits. -/
theorem deepItem? (room : Nat) (pointer : Pointer) {items items' : List Json}
    (like : List.Forall₂ V items items') (i : Nat) :
    (Tree.deepItem? room pointer i items).isSome =
      (Tree.deepItem? room pointer i items').isSome :=
  resp.deepItem?_of room pointer like (fun x _ => resp.deepFallback? x) i

/-- Alike roots are nested too deep for the same limits. -/
theorem tooDeep? (limit : Nat) {xs ys : Members} (alike : Members.Alike V xs ys) :
    (Tree.tooDeep? limit xs).isSome = (Tree.tooDeep? limit ys).isSome := by
  -- The overrides are searched first, on both sides.
  have overrides : List.Forall₂ V (((xs.get? "$overrides").bind Json.items?).getD [])
      (((ys.get? "$overrides").bind Json.items?).getD []) := by
    have lists := optionRel_bind (alike.get? "$overrides") fun _ _ => resp.items?
    rcases optionRel_cases lists with ⟨hx, hy⟩ | ⟨_, _, hx, hy, items⟩
    · rw [hx, hy]
      exact .nil
    · rw [hx, hy]
      exact items
  rw [Tree.tooDeep?, Tree.tooDeep?, Option.isSome_or, Option.isSome_or,
    resp.deepItem? limit _ overrides 0,
    deepChild? limit Pointer.root alike fun m _ => resp.deepNode? m.2]

end Json.Respectful

/-! ## Roots -/

/-- Alike roots are read as alike overrides and nodes, and are nested too deep for the same
limits. -/
theorem Likeness.Contexts.roots {L : Likeness} {ctx ctx' : Tree.Context} (h : L.Contexts ctx ctx')
    (limit : Nat) {xs ys : Json.Members} (alike : Json.Members.Alike L.value xs ys) :
    L.Roots ctx ctx' limit xs ys where
  deep := L.respectful.tooDeep? limit alike
  overrides := alike.get? "$overrides"
  nodes := childWalk Pointer.root alike fun m _ => h.readWalk m.2

end DesignTokens
