import DesignTokens.Json.Basic
import DesignTokens.Pointer

/-!
# DesignTokens.Proofs.Json.Place — following a pointer

1. **Steps** (`Json.step?`): from a value to its member or item of a name; items are counted in
   decimals.
2. **Places** (`Json.at?`): the value at a pointer.
3. **Names** (`Json.unambiguous`): if no object has two members of one name, each member is found
   under its name.
-/

namespace DesignTokens

namespace Json

/-! ## Steps -/

/-- The item of the given name, where the items are counted from an index on. -/
def itemNamed? (name : String) (i : Nat) : List Json → Option Json
  | [] => none
  | item :: rest => if toString i = name then some item else itemNamed? name (i + 1) rest

/-- The member or item of the given name. -/
def step? (value : Json) (name : String) : Option Json :=
  match value with
  | .object members => Members.get? members name
  | .array items => itemNamed? name 0 items
  | _ => none

/-- Different indices are written differently. -/
theorem toString_injective {i j : Nat} (h : toString i = toString j) : i = j := by
  have digits : Nat.toDigits 10 i = Nat.toDigits 10 j := by
    rw [← Nat.toList_repr, ← Nat.toList_repr]
    exact congrArg String.toList h
  rw [← Nat.ofDigitChars_ten_toDigits (n := i), digits, Nat.ofDigitChars_ten_toDigits]

/-- An item is found by its index. -/
theorem itemNamed?_toString (i k : Nat) (items : List Json) :
    itemNamed? (toString (i + k)) i items = items[k]? := by
  induction items generalizing i k with
  | nil => simp [itemNamed?]
  | cons item rest ih =>
    cases k with
    | zero => simp [itemNamed?]
    | succ k =>
      -- The index looked for is another one than that of the first item.
      have ne : toString i ≠ toString (i + (k + 1)) := by
        intro h
        have := toString_injective h
        omega
      have same : i + (k + 1) = i + 1 + k := by omega
      simp only [itemNamed?, ne, if_false, List.getElem?_cons_succ]
      rw [same, ih (i + 1) k]

@[simp] theorem step?_object (members : Members) (name : String) :
    (object members).step? name = members.get? name :=
  rfl

@[simp] theorem step?_array (items : List Json) (i : Nat) :
    (array items).step? (toString i) = items[i]? := by
  have := itemNamed?_toString 0 i items
  rwa [Nat.zero_add] at this

/-! ## Places -/

/-- The value at a pointer. -/
def at? (value : Json) (pointer : Pointer) : Option Json :=
  pointer.segments.foldlM step? value

@[simp] theorem at?_root (value : Json) : value.at? Pointer.root = some value :=
  rfl

/-- What is at a child is one step from what is at the pointer. -/
theorem at?_child (value : Json) (pointer : Pointer) (name : String) :
    value.at? (pointer.child name) = (value.at? pointer).bind (·.step? name) := by
  simp [at?, Pointer.child, List.foldlM_append]

variable {data : Json} {pointer : Pointer}

/-- At a child of an object is the member of that name. -/
theorem at?_member {members : Members} (h : data.at? pointer = some (.object members))
    (name : String) : data.at? (pointer.child name) = members.get? name := by
  rw [at?_child, h]
  rfl

/-- At an index of a list is that item. -/
theorem at?_item {items : List Json} (h : data.at? pointer = some (.array items)) (i : Nat) :
    data.at? (pointer.index i) = items[i]? := by
  rw [Pointer.index, at?_child, h]
  exact step?_array items i

/-! ## Names -/

mutual

/-- Whether no object in a value has two members of one name. -/
def unambiguous : Json → Bool
  | .array items => unambiguousItems items
  | .object members => decide (members.map (·.1)).Nodup && unambiguousMembers members
  | _ => true

def unambiguousItems : List Json → Bool
  | [] => true
  | item :: rest => unambiguous item && unambiguousItems rest

def unambiguousMembers : List (String × Json) → Bool
  | [] => true
  | (_, value) :: rest => unambiguous value && unambiguousMembers rest

end

/-- Items are unambiguous if each of them is. -/
theorem unambiguousItems_iff {items : List Json} :
    unambiguousItems items = true ↔ ∀ item ∈ items, item.unambiguous = true := by
  induction items with
  | nil => simp [unambiguousItems]
  | cons item rest ih => simp [unambiguousItems, ih]

theorem unambiguousMembers_iff {members : Members} :
    unambiguousMembers members = true ↔ ∀ member ∈ members, member.2.unambiguous = true := by
  induction members with
  | nil => simp [unambiguousMembers]
  | cons member rest ih => simp [unambiguousMembers, ih]

/-- A list is unambiguous if its items are. -/
theorem unambiguous_array_iff {items : List Json} :
    (array items).unambiguous = true ↔ ∀ item ∈ items, item.unambiguous = true := by
  rw [unambiguous, unambiguousItems_iff]

/-- An object is unambiguous if its names are there once and its values are unambiguous. -/
theorem unambiguous_object_iff {members : Members} :
    (object members).unambiguous = true ↔
      members.names.Nodup ∧ ∀ member ∈ members, member.2.unambiguous = true := by
  rw [unambiguous, Bool.and_eq_true, decide_eq_true_eq, unambiguousMembers_iff, Members.names]

/-- What is found by a name is a member of that name. -/
theorem Members.mem_of_get? {members : Members} {name : String} {value : Json}
    (h : members.get? name = some value) : (name, value) ∈ members := by
  obtain ⟨front, back, happ, _⟩ := List.lookup_eq_some_iff.1 h
  exact happ ▸ List.mem_append_right front List.mem_cons_self

/-- Members of different names are found under their names. -/
theorem Members.get?_of_mem {members : Members} (nodup : members.names.Nodup) {name : String}
    {value : Json} (h : (name, value) ∈ members) : members.get? name = some value := by
  obtain ⟨front, back, rfl⟩ := List.append_of_mem h
  refine List.lookup_eq_some_iff.2 ⟨front, back, rfl, fun member hm => ?_⟩
  -- A member before it would have another name.
  rw [Members.names, List.map_append, List.nodup_append] at nodup
  have ne := nodup.2.2 member.1 (List.mem_map_of_mem hm) name (by simp)
  simpa using fun h => ne h.symm

/-- What is one step from an unambiguous value is unambiguous. -/
theorem unambiguous_step? {value inner : Json} {name : String} (h : value.unambiguous = true)
    (hstep : value.step? name = some inner) : inner.unambiguous = true := by
  cases value with
  | object members =>
    simp only [unambiguous, Bool.and_eq_true] at h
    exact unambiguousMembers_iff.1 h.2 _ (Members.mem_of_get? hstep)
  | array items =>
    -- An item that is found by its index, counted from anywhere, is one of the items.
    have mem : ∀ i, itemNamed? name i items = some inner → inner ∈ items := by
      clear h hstep
      induction items with
      | nil => simp [itemNamed?]
      | cons item rest ih =>
        intro i hi
        simp only [itemNamed?] at hi
        split at hi
        · cases hi
          exact List.mem_cons_self
        · exact List.mem_cons_of_mem _ (ih _ hi)
    exact unambiguousItems_iff.1 h _ (mem 0 hstep)
  -- There is no step from any other value.
  | _ => cases hstep

/-- What is in an unambiguous value is unambiguous, too. -/
theorem unambiguous_at? {inner : Json} (h : data.unambiguous = true)
    (hat : data.at? pointer = some inner) : inner.unambiguous = true := by
  obtain ⟨segments⟩ := pointer
  induction segments generalizing data with
  | nil =>
    cases hat
    exact h
  | cons name rest ih =>
    obtain ⟨value, hstep, hrest⟩ := Option.bind_eq_some_iff.1 hat
    exact ih (unambiguous_step? h hstep) hrest

/-- In an unambiguous value, each member of an object stands under its name. -/
theorem at?_of_mem {members : Members} (h : data.unambiguous = true)
    (hat : data.at? pointer = some (.object members)) {name : String} {value : Json}
    (hmem : (name, value) ∈ members) : data.at? (pointer.child name) = some value := by
  have inner := unambiguous_at? h hat
  simp only [unambiguous, Bool.and_eq_true, decide_eq_true_eq] at inner
  rw [at?_member hat]
  exact Members.get?_of_mem inner.1 hmem

end Json

end DesignTokens
