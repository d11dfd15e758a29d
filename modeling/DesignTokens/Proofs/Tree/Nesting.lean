import DesignTokens.Proofs.Tree.Entries
import DesignTokens.Proofs.Tree.Listing
import DesignTokens.Proofs.Tree.MemberOrder

/-!
# DesignTokens.Proofs.Tree.Nesting — what is nested too deep

The search for a place that is too deep counts the levels that are left. It finds one exactly if
some member that names a node stands at more levels below the root than the limit, or some fallback
list of an override does below the override.

1. **Depth** of a site (`Site.depth`), and documents that are too deep (`TooDeep`).
2. **Nodes** (`deepNode?_eq_none_iff`).
3. **Fallback lists** (`deepFallback?_eq_none_iff`).
4. **Documents** (`tooDeep?_eq_none_iff`).
-/

namespace DesignTokens.Tree

/-! ## Depth -/

def Site.depth (s : Site) : Nat :=
  s.pointer.segments.length

/-- A member of a collection is one level deeper than the collection. -/
@[simp] theorem Site.depth_child (pointer : Pointer) (name : String) (value : Json) :
    Site.depth ⟨name, pointer.child name, value⟩ = pointer.segments.length + 1 := by
  simp [Site.depth, Pointer.child]

/-- A document has a node, or an override a fallback list, that is deeper than the limit. -/
inductive TooDeep (limit : Nat) (data : Json) : Prop where
  | node {s : Site} (inside : s.IsIn data) (deep : limit < s.depth)
  | list {item : Item} {level : Nat} (mem : item ∈ overrideItems data) (has : item.HasListAt level)
    (deep : limit < level)

/-! ## Nodes -/

mutual

/-- A value is not too deep if a level is left for it, and as many as it takes for what is below
it. -/
theorem deepNode?_eq_none_iff (room : Nat) (pointer : Pointer) : ∀ value,
    deepNode? room pointer value = none ↔
      0 < room ∧ ∀ s ∈ sitesBelow pointer value, s.depth < pointer.segments.length + room
  | .object members => by
    rw [deepNode?, sitesBelow]
    rcases Nat.eq_zero_or_pos room with rfl | left
    · simp
    · rw [if_neg (by omega)]
      split
      · simpa using left
      · rw [deepChild?_eq_none_iff, and_iff_right left]
        -- One level of the room is spent on the object itself.
        exact forall₂_congr fun s _ => by omega
  | .null | .bool _ | .int _ | .double _ | .string _ | .array _ => by
    simp [deepNode?, sitesBelow, Nat.pos_iff_ne_zero]

/-- The members of a collection are not too deep if there are as many levels left as it takes. -/
theorem deepChild?_eq_none_iff (room : Nat) (pointer : Pointer) :
    ∀ members : List (String × Json),
      deepChild? room pointer members = none ↔
        ∀ s ∈ sitesAmong pointer members, s.depth ≤ pointer.segments.length + room
  | [] => by simp [deepChild?, sitesAmong]
  | (name, value) :: rest => by
    have more := deepChild?_eq_none_iff room pointer rest
    rw [deepChild?, sitesAmong]
    split
    · -- A reserved name is no site.
      exact more
    · -- Another one adds its own site and those below it.
      have first := deepNode?_eq_none_iff room (pointer.child name) value
      have length : (pointer.child name).segments.length = pointer.segments.length + 1 := by
        simp [Pointer.child]
      rw [length] at first
      rw [Option.or_eq_none_iff, first, more, List.forall_mem_append, List.forall_mem_cons,
        Site.depth_child]
      refine and_congr_left' (and_congr (by omega) (forall₂_congr fun s _ => by omega))

end

/-! ## Fallback lists -/

/-- The fallback list of an entry with the given members is not too deep, if the lists that are in
its value are not. -/
theorem deepFallbackMember?_eq_none_iff {room : Nat} {pointer : Pointer} {members : Json.Members}
    (each : ∀ m ∈ members, ∀ room pointer,
      deepFallback? room pointer m.2 = none ↔
        0 < room ∧ ∀ e ∈ listed pointer m.2, ∀ level, e.HasListAt level → level < room) :
    deepFallbackMember? room pointer members = none ↔
      ∀ level, Item.HasListAt ⟨pointer, .object members⟩ level → level ≤ room := by
  rw [deepFallbackMember?_eq_bind]
  cases has : members.get? "$fallback" with
  | none =>
    have item : Item.list? ⟨pointer, .object members⟩ = none := has
    simp [Item.not_hasListAt item]
  | some list =>
    have item : Item.list? ⟨pointer, .object members⟩ = some list := has
    rw [Option.bind_some, each _ (Json.Members.mem_of_get? has)]
    constructor
    · rintro ⟨left, below⟩ level h
      rcases (Item.hasListAt_iff item).1 h with rfl | ⟨e, he, k, deeper, rfl⟩
      · exact left
      · rw [Item.entries_of_list? item] at he
        exact below e he k deeper
    · intro h
      refine ⟨h 1 ((Item.hasListAt_iff item).2 (.inl rfl)), fun e he k below => ?_⟩
      rw [← Item.entries_of_list? item] at he
      exact h (k + 1) (.within he below)

/-- The items of an array are not too deep as entries, if the lists that are in them are not. -/
theorem deepItem?_eq_none_iff {room : Nat} {pointer : Pointer} {items : List Json}
    (each : ∀ x ∈ items, ∀ members, x = .object members → ∀ pointer,
      deepFallbackMember? room pointer members = none ↔
        ∀ level, Item.HasListAt ⟨pointer, x⟩ level → level ≤ room) (i : Nat) :
    deepItem? room pointer i items = none ↔
      ∀ e ∈ itemsFrom pointer i items, ∀ level, e.HasListAt level → level ≤ room := by
  induction items generalizing i with
  | nil => simp [deepItem?, itemsFrom]
  | cons item rest ih =>
    rw [List.forall_mem_cons] at each
    rw [deepItem?_cons, Option.or_eq_none_iff, ih each.2 (i + 1), itemsFrom, List.forall_mem_cons]
    refine and_congr_left' ?_
    cases object : item.members? with
    | none =>
      -- What is no object has no list.
      have none : Item.list? ⟨pointer.index i, item⟩ = none := Item.list?_plain object
      simp [Item.not_hasListAt none]
    | some members =>
      rw [Option.bind_some]
      exact each.1 members (Json.eq_object_of_members? object) (pointer.index i)

/-- A value that is neither array nor object takes one level. -/
theorem deepFallback?_plain_eq_none_iff (room : Nat) (pointer : Pointer) {value : Json}
    (array : value.items? = none) (object : value.members? = none) :
    deepFallback? room pointer value = none ↔
      0 < room ∧ ∀ e ∈ listed pointer value, ∀ level, e.HasListAt level → level < room := by
  have none : Item.list? ⟨pointer, value⟩ = none := Item.list?_plain object
  rw [deepFallback?_plain room pointer array object, listed_plain array, List.forall_mem_singleton]
  simp [Item.not_hasListAt none, Nat.pos_iff_ne_zero]

/-- A fallback list is not too deep if a level is left for it, and as many as it takes for the lists
of its entries. -/
theorem deepFallback?_eq_none_iff (value : Json) : ∀ (room : Nat) (pointer : Pointer),
    deepFallback? room pointer value = none ↔
      0 < room ∧ ∀ e ∈ listed pointer value, ∀ level, e.HasListAt level → level < room := by
  induction value using Json.induction with
  | array items ih =>
    intro room pointer
    cases room with
    | zero => simp [deepFallback?]
    | succ room =>
      rw [deepFallback?, if_neg (Nat.succ_ne_zero room), Nat.add_sub_cancel,
        deepItem?_eq_none_iff fun x hx members object => ?_]
      · simp only [listed, Nat.lt_succ_iff, Nat.zero_le, true_and]
      · -- As a list of its own, the object would take the level that the array has taken.
        subst object
        intro place
        have deep := ih _ hx (room + 1) place
        rw [deepFallback?_object] at deep
        simpa [listed, Nat.lt_succ_iff] using deep
  | object members ih =>
    intro room pointer
    cases room with
    | zero => simp [deepFallback?]
    | succ room =>
      rw [deepFallback?_object, deepFallbackMember?_eq_none_iff ih]
      simp only [listed, List.forall_mem_singleton, Nat.lt_succ_iff, Nat.zero_le, true_and]
  | _ => exact fun room pointer => deepFallback?_plain_eq_none_iff room pointer rfl rfl

/-! ## Documents -/

/-- The search finds no place in a document exactly if the document is not too deep. -/
theorem tooDeep?_eq_none_iff (limit : Nat) (members : Json.Members) :
    tooDeep? limit members = none ↔ ¬TooDeep limit (.object members) := by
  rw [tooDeep?, Option.or_eq_none_iff, deepChild?_eq_none_iff,
    deepItem?_eq_none_iff fun x _ xs object pointer => ?lists]
  case lists =>
    subst object
    exact deepFallbackMember?_eq_none_iff fun m _ => deepFallback?_eq_none_iff m.2
  constructor
  · rintro ⟨lists, nodes⟩ (⟨inside, deep⟩ | ⟨mem, has, deep⟩)
    · have shallow := nodes _ (mem_sites_iff.2 inside)
      simp only [Pointer.root, List.length_nil] at shallow
      omega
    · exact absurd (lists _ mem _ has) (Nat.not_le.2 deep)
  · intro shallow
    refine ⟨fun item mem level has => Nat.not_lt.1 fun deep => shallow (.list mem has deep),
      fun s hs => ?_⟩
    have inside : s.IsIn (.object members) := mem_sites_iff.1 hs
    simpa [Pointer.root] using Nat.not_lt.1 fun deep => shallow (.node inside deep)

end DesignTokens.Tree
