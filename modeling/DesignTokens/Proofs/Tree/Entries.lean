import DesignTokens.Proofs.Tree.Likeness

/-!
# DesignTokens.Proofs.Tree.Entries — the entries of fallback lists

An override has a fallback list, and each entry of a fallback list may have one of its own. What the
entries are is said here for values and their places alone, before anything is read.

1. **Lists** (`Tree.itemsFrom`): the items of an array, and what is in a fallback list
   (`Tree.listed`): an array has its items, and anything else stands for itself.
2. **Entries** of an item (`Item.entries`), and of its entries in turn (`Item.HasEntry`).
3. **Overrides** of a document (`Tree.overrideItems`).
-/

namespace DesignTokens.Tree

/-! ## Lists -/

/-- A value of a list, and where it stands. -/
structure Item where
  pointer : Pointer
  value : Json
deriving Repr

def itemsFrom (pointer : Pointer) (i : Nat) : List Json → List Item
  | [] => []
  | value :: rest => ⟨pointer.index i, value⟩ :: itemsFrom pointer (i + 1) rest

/-- What is in a fallback list: a value that is no array is the only entry. -/
def listed (pointer : Pointer) : Json → List Item
  | .array items => itemsFrom pointer 0 items
  | value => [⟨pointer, value⟩]

theorem listed_plain {pointer : Pointer} {value : Json} (array : value.items? = none) :
    listed pointer value = [⟨pointer, value⟩] := by
  cases value <;> first | rfl | cases array

/-! ## Entries -/

namespace Item

/-- The fallback list of an item, if it is an object that has one. -/
def list? (item : Item) : Option Json :=
  item.value.get? "$fallback"

/-- The entries of the fallback list of an item. -/
def entries (item : Item) : List Item :=
  match item.list? with
  | some list => listed (item.pointer.child "$fallback") list
  | none => []

/-- An entry of the fallback list of an item, of the list of one of its entries, and so on. -/
inductive HasEntry : Item → Item → Prop where
  | own {item entry : Item} (mem : entry ∈ item.entries) : HasEntry item entry
  | within {item entry deeper : Item} (mem : entry ∈ item.entries) (h : HasEntry entry deeper) :
    HasEntry item deeper

/-- An entry of a list, or one that is reached from there. -/
def Among (list : List Item) (e : Item) : Prop :=
  e ∈ list ∨ ∃ first ∈ list, first.HasEntry e

/-- The fallback list of an item is at level one, and that of one of its entries one level
deeper. -/
inductive HasListAt : Item → Nat → Prop where
  | own {item : Item} (list : item.list?.isSome) : HasListAt item 1
  | within {item entry : Item} {level : Nat} (mem : entry ∈ item.entries)
    (h : HasListAt entry level) : HasListAt item (level + 1)

variable {item entry : Item} {level : Nat}

/-- The entries of an item are those of its list. -/
theorem entries_of_list? {list : Json} (h : item.list? = some list) :
    item.entries = listed (item.pointer.child "$fallback") list := by
  rw [entries, h]

theorem entries_eq_nil (h : item.list? = none) : item.entries = [] := by
  rw [entries, h]

/-- Only an object has a fallback list. -/
theorem list?_plain (object : item.value.members? = none) : item.list? = none := by
  rw [list?, Json.get?, object, Option.bind_none]

/-- An item without a fallback list has none at any level. -/
theorem not_hasListAt (none : item.list? = none) : ¬item.HasListAt level := by
  intro h
  cases h with
  | own list => simp [none] at list
  | within mem _ => simp [entries_eq_nil none] at mem

/-- An entry of an item is among what its list gives. -/
theorem HasEntry.among {e : Item} (h : item.HasEntry e) : Among item.entries e := by
  cases h with
  | own mem => exact .inl mem
  | within mem has => exact .inr ⟨_, mem, has⟩

/-- From a list of one item, the item is reached and what is reached from its entries. -/
theorem among_singleton {e : Item} (h : Among [item] e) : e = item ∨ Among item.entries e := by
  rcases h with mem | ⟨first, mem, has⟩
  · exact .inl (List.mem_singleton.1 mem)
  · obtain rfl := List.mem_singleton.1 mem
    exact .inr has.among

/-- Without a list there are no entries. -/
theorem not_hasEntry {e : Item} (none : item.list? = none) : ¬item.HasEntry e := by
  intro h
  cases h with
  | own mem => simp [entries_eq_nil none] at mem
  | within mem _ => simp [entries_eq_nil none] at mem

/-- The levels of the lists of an item with a list are one, and one more than those of its
entries. -/
theorem hasListAt_iff {list : Json} (h : item.list? = some list) :
    item.HasListAt level ↔
      level = 1 ∨ ∃ entry ∈ item.entries, ∃ k, entry.HasListAt k ∧ level = k + 1 := by
  constructor
  · intro has
    cases has with
    | own _ => exact .inl rfl
    | within mem has => exact .inr ⟨_, mem, _, has, rfl⟩
  · rintro (rfl | ⟨entry, mem, k, has, rfl⟩)
    · exact .own (by simp [h])
    · exact .within mem has

end Item

/-! ## Overrides -/

/-- The items of the array of overrides, if there is one. -/
def overrideItems (data : Json) : List Item :=
  itemsFrom (Pointer.root.child "$overrides") 0
    (((data.get? "$overrides").bind Json.items?).getD [])

end DesignTokens.Tree
