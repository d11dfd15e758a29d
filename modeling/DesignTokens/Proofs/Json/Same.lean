import DesignTokens.Condition
import DesignTokens.Proofs.Json.Place
import DesignTokens.TokenType
import Mathlib.Data.List.Forall2
import Mathlib.Data.List.Perm.Subperm
import Mathlib.Data.Option.Basic

/-!
# DesignTokens.Proofs.Json.Same — values that count as equal

Two values may differ in the order of members and still count as equal. What the library asks of a
value — its kind, its items, its members, whether a type admits it, whether a condition holds of it
— then has the same answer for both.

1. **Induction** over values (`Json.induction`).
2. **Equality of values** (`Json.same`): an equivalence, as long as no object repeats a name.
3. **Likeness of values** (`Json.Respectful`): a relation that respects what values are made of,
   such as equality (`respectful_eq`) and equality of values (`respectful_equal`).
4. **Types and conditions** (`Respectful.admits_eq`, `Respectful.hold_eq`) cannot tell alike values
   apart.
-/

namespace DesignTokens

/-! ## Options and lists -/

/-- What is related to itself is so where it may be missing. -/
theorem optionRel_refl {α : Type} {R : α → α → Prop} (refl : ∀ a, R a a) (x : Option α) :
    Option.Rel R x x := by
  cases x with
  | none => exact .none
  | some a => exact .some (refl a)

/-- Related options are both empty, or hold related values. -/
theorem optionRel_cases {α β : Type} {R : α → β → Prop} {x : Option α} {y : Option β}
    (h : Option.Rel R x y) :
    (x = none ∧ y = none) ∨ ∃ a b, x = some a ∧ y = some b ∧ R a b := by
  cases h with
  | none => exact .inl ⟨rfl, rfl⟩
  | some h => exact .inr ⟨_, _, rfl, rfl, h⟩

/-- A wider relation. -/
theorem optionRel_imp {α β : Type} {R S : α → β → Prop} (imp : ∀ a b, R a b → S a b) {x : Option α}
    {y : Option β} (h : Option.Rel R x y) : Option.Rel S x y := by
  cases h with
  | none => exact .none
  | some h => exact .some (imp _ _ h)

theorem optionRel_isSome {α β : Type} {R : α → β → Prop} {x : Option α} {y : Option β}
    (h : Option.Rel R x y) : x.isSome = y.isSome := by
  cases h <;> rfl

theorem optionRel_map_eq {α β γ : Type} {R : α → β → Prop} {f : α → γ} {g : β → γ} {x : Option α}
    {y : Option β} (h : Option.Rel R x y) (each : ∀ a b, R a b → f a = g b) :
    x.map f = y.map g := by
  cases h with
  | none => rfl
  | some h => exact congrArg some (each _ _ h)

/-- Functions that respect the relation keep it. -/
theorem optionRel_map {α β γ δ : Type} {R : α → β → Prop} {S : γ → δ → Prop} {f : α → γ} {g : β → δ}
    {x : Option α} {y : Option β} (h : Option.Rel R x y) (each : ∀ a b, R a b → S (f a) (g b)) :
    Option.Rel S (x.map f) (y.map g) := by
  cases h with
  | none => exact .none
  | some h => exact .some (each _ _ h)

/-- So do functions that may give nothing. -/
theorem optionRel_bind {α β γ δ : Type} {R : α → β → Prop} {S : γ → δ → Prop}
    {f : α → Option γ} {g : β → Option δ} {x : Option α} {y : Option β} (h : Option.Rel R x y)
    (each : ∀ a b, R a b → Option.Rel S (f a) (g b)) : Option.Rel S (x.bind f) (y.bind g) := by
  cases h with
  | none => exact .none
  | some h => exact each _ _ h

theorem forall₂_toList {α β : Type} {R : α → β → Prop} {x : Option α} {y : Option β}
    (h : Option.Rel R x y) : List.Forall₂ R x.toList y.toList := by
  cases h with
  | none => exact .nil
  | some h => exact .cons h .nil

/-- Every item of each list has a related one in the other list. -/
structure Matched {α β : Type} (R : α → β → Prop) (xs : List α) (ys : List β) : Prop where
  left : ∀ x ∈ xs, ∃ y ∈ ys, R x y
  right : ∀ y ∈ ys, ∃ x ∈ xs, R x y

/-- Empty lists are matched. -/
theorem matched_nil {α β : Type} (R : α → β → Prop) : Matched R [] [] :=
  ⟨fun _ h => absurd h List.not_mem_nil, fun _ h => absurd h List.not_mem_nil⟩

/-- Two more elements that are related stay matched. -/
theorem Matched.cons {α β : Type} {R : α → β → Prop} {x : α} {y : β} {xs : List α} {ys : List β}
    (head : R x y) (rest : Matched R xs ys) : Matched R (x :: xs) (y :: ys) := by
  constructor
  · rw [List.forall_mem_cons]
    refine ⟨⟨y, List.mem_cons_self, head⟩, fun x hx => ?_⟩
    obtain ⟨y, hy, related⟩ := rest.left x hx
    exact ⟨y, List.mem_cons_of_mem _ hy, related⟩
  · rw [List.forall_mem_cons]
    refine ⟨⟨x, List.mem_cons_self, head⟩, fun y hy => ?_⟩
    obtain ⟨x, hx, related⟩ := rest.right y hy
    exact ⟨x, List.mem_cons_of_mem _ hx, related⟩

/-- Lists that are related one by one are matched. -/
theorem matched_of_forall₂ {α β : Type} {R : α → β → Prop} {xs : List α} {ys : List β}
    (h : List.Forall₂ R xs ys) : Matched R xs ys := by
  induction h with
  | nil => exact matched_nil R
  | cons head _ ih => exact ih.cons head

namespace Json

/-! ## Induction -/

section Induction

variable {P : Json → Prop} (null : P .null) (bool : ∀ b, P (.bool b)) (int : ∀ n, P (.int n))
  (double : ∀ x, P (.double x)) (string : ∀ s, P (.string s))
  (array : ∀ items, (∀ x ∈ items, P x) → P (.array items))
  (object : ∀ members : List (String × Json), (∀ m ∈ members, P m.2) → P (.object members))

include null bool int double string array object

/-- What holds of an array if it holds of its items, and of an object if it holds of its members,
holds of every value. -/
@[elab_as_elim] theorem induction (x : Json) : P x := by
  -- One clause for items, one for members and one for a single member; they only pass on what
  -- holds.
  refine @Json.rec P (fun items => ∀ x ∈ items, P x) (fun members => ∀ m ∈ members, P m.2)
    (fun m => P m.2) null bool int double string array object ?_ ?_ ?_ ?_ ?_ x
  · simp
  · intro first rest hfirst hrest
    exact List.forall_mem_cons.2 ⟨hfirst, hrest⟩
  · simp
  · intro first rest hfirst hrest
    exact List.forall_mem_cons.2 ⟨hfirst, hrest⟩
  · exact fun _ _ h => h

end Induction

theorem eq_array_of_items? {x : Json} {items : List Json} (h : x.items? = some items) :
    x = .array items := by
  cases x <;> simp_all [items?]

theorem eq_object_of_members? {x : Json} {members : Members} (h : x.members? = some members) :
    x = .object members := by
  cases x <;> simp_all [members?]

/-- The first member of the name counts. -/
theorem Members.get?_cons (name : String) (value : Json) (rest : Members) (key : String) :
    Members.get? ((name, value) :: rest) key =
      if name = key then some value else rest.get? key := by
  by_cases h : name = key
  · simp [Members.get?, h]
  · have other : (key == name) = false := beq_false_of_ne fun same => h same.symm
    simp [Members.get?, List.lookup_cons, h, other]

theorem Members.get?_filter (members : Members) (keep : String → Bool) (key : String) :
    Members.get? (members.filter fun m => keep m.1) key =
      if keep key then members.get? key else none := by
  induction members with
  | nil => simp [Members.get?]
  | cons member rest ih =>
    obtain ⟨name, value⟩ := member
    rw [List.filter_cons, Members.get?_cons]
    -- Members of other names are passed over on both sides.
    by_cases here : name = key
    · subst here
      cases kept : keep name with
      | true => simp [Members.get?_cons]
      | false => simpa [kept] using ih
    · cases kept : keep name with
      | true => simpa [Members.get?_cons, here] using ih
      | false => simpa [here] using ih

/-! ## Equality of values -/

/-- Lists of items are the same if they are so one by one. -/
theorem sameItems_iff {xs ys : List Json} :
    sameItems xs ys = true ↔ List.Forall₂ (fun x y => x.same y = true) xs ys := by
  induction xs generalizing ys with
  | nil => cases ys <;> simp [sameItems]
  | cons x rest ih => cases ys <;> simp [sameItems, ih]

/-- Members are the same if each of them is found with the same value. -/
theorem sameMembers_iff {xs ys : Members} :
    sameMembers xs ys = true ↔
      ∀ m ∈ xs, ∃ y, ys.get? m.1 = some y ∧ m.2.same y = true := by
  induction xs with
  | nil => simp [sameMembers]
  | cons m rest ih =>
    obtain ⟨name, x⟩ := m
    rw [List.forall_mem_cons, ← ih, sameMembers, Members.get?]
    cases List.lookup name ys <;> simp

/-- Only a list is the same as a list. -/
theorem same_array_iff {xs : List Json} {y : Json} :
    (array xs).same y = true ↔
      ∃ ys, y = .array ys ∧ List.Forall₂ (fun x y => x.same y = true) xs ys := by
  cases y <;> simp [same, sameItems_iff]

/-- Only an object is the same as an object. -/
theorem same_object_iff {xs : Members} {y : Json} :
    (object xs).same y = true ↔
      ∃ ys : Members, y = .object ys ∧ xs.length = ys.length ∧
        ∀ m ∈ xs, ∃ z, ys.get? m.1 = some z ∧ m.2.same z = true := by
  cases y <;> simp [same, sameMembers_iff]

/-- To be the same is transitive, also between ambiguous values. -/
theorem same_trans {x y z : Json} (hxy : x.same y = true) (hyz : y.same z = true) :
    x.same z = true := by
  induction x using induction generalizing y z with
  | array items ih =>
    obtain ⟨ys, rfl, first⟩ := same_array_iff.1 hxy
    obtain ⟨zs, rfl, second⟩ := same_array_iff.1 hyz
    refine same_array_iff.2 ⟨zs, rfl, ?_⟩
    clear hxy hyz
    -- The induction is on the items that are the same; the values come from the outer one.
    induction first generalizing zs with
    | nil => exact second
    | cons head _ tail =>
      cases second with
      | cons head' rest' =>
        refine .cons (ih _ List.mem_cons_self head head') ?_
        exact tail (fun x hx => ih x (List.mem_cons_of_mem _ hx)) _ rest'
  | object members ih =>
    obtain ⟨ys, rfl, length, first⟩ := same_object_iff.1 hxy
    obtain ⟨zs, rfl, length', second⟩ := same_object_iff.1 hyz
    refine same_object_iff.2 ⟨zs, rfl, length.trans length', fun m hm => ?_⟩
    obtain ⟨y, hy, hmy⟩ := first m hm
    obtain ⟨z, hz, hyz⟩ := second (m.1, y) (Members.mem_of_get? hy)
    exact ⟨z, hz, ih m hm hmy hyz⟩
  | double a =>
    -- Zero has two signs, and both are the same.
    cases y <;> cases z <;> simp_all [same, Double.same]
    rcases hxy with rfl | ⟨h, h'⟩
    · exact hyz
    · rcases hyz with rfl | ⟨_, h''⟩
      · exact .inr ⟨h, h'⟩
      · exact .inr ⟨h, h''⟩
  | _ => cases y <;> cases z <;> simp_all [same]

/-- An object that equals another one has the same names. -/
theorem names_perm_of_same {xs ys : Members} (nodup : xs.names.Nodup)
    (length : xs.length = ys.length)
    (found : ∀ m ∈ xs, ∃ y, ys.get? m.1 = some y ∧ m.2.same y = true) :
    xs.names.Perm ys.names := by
  have sub : xs.names ⊆ ys.names := by
    intro name hname
    obtain ⟨m, hm, rfl⟩ := List.mem_map.1 hname
    obtain ⟨y, hy, _⟩ := found m hm
    exact List.mem_map.2 ⟨(m.1, y), Members.mem_of_get? hy, rfl⟩
  refine (nodup.subperm sub).perm_of_length_le ?_
  simp [Members.names, length]

/-- Between unambiguous values, to be the same is symmetric. -/
theorem same_symm {x y : Json} (hx : x.unambiguous = true) (hy : y.unambiguous = true)
    (hxy : x.same y = true) : y.same x = true := by
  induction x using induction generalizing y with
  | array items ih =>
    obtain ⟨ys, rfl, alike⟩ := same_array_iff.1 hxy
    refine same_array_iff.2 ⟨items, rfl, ?_⟩
    rw [unambiguous_array_iff] at hx hy
    clear hxy
    induction alike with
    | nil => exact .nil
    | cons head _ tail =>
      rw [List.forall_mem_cons] at hx hy ih
      exact .cons (ih.1 hx.1 hy.1 head) (tail ih.2 hx.2 hy.2)
  | object members ih =>
    obtain ⟨ys, rfl, length, found⟩ := same_object_iff.1 hxy
    obtain ⟨nodup, clear⟩ := unambiguous_object_iff.1 hx
    obtain ⟨nodup', clear'⟩ := unambiguous_object_iff.1 hy
    refine same_object_iff.2 ⟨members, rfl, length.symm, fun m hm => ?_⟩
    -- The name is one of the first object, whose member of that name found this one.
    have hname : m.1 ∈ Members.names members :=
      (names_perm_of_same nodup length found).mem_iff.2 (List.mem_map_of_mem hm)
    obtain ⟨m', hm', hnames⟩ := List.mem_map.1 hname
    obtain ⟨y, hy, hmy⟩ := found m' hm'
    rw [hnames, Members.get?_of_mem nodup' hm] at hy
    cases hy
    refine ⟨m'.2, ?_, ih m' hm' (clear m' hm') (clear' m hm) hmy⟩
    rw [← hnames]
    exact Members.get?_of_mem nodup hm'
  | double a =>
    cases y <;> simp_all [same, Double.same]
    rcases hxy with rfl | ⟨h, h'⟩
    · exact .inl rfl
    · exact .inr ⟨h', h⟩
  | _ => cases y <;> simp_all [same]

/-- An unambiguous value is the same as itself. -/
theorem same_refl {x : Json} (hx : x.unambiguous = true) : x.same x = true := by
  induction x using induction with
  | array items ih =>
    rw [unambiguous_array_iff] at hx
    refine same_array_iff.2 ⟨items, rfl, List.forall₂_same.2 fun x hmem => ?_⟩
    exact ih x hmem (hx x hmem)
  | object members ih =>
    obtain ⟨nodup, clear⟩ := unambiguous_object_iff.1 hx
    refine same_object_iff.2 ⟨members, rfl, rfl, fun m hm => ⟨m.2, ?_, ih m hm (clear m hm)⟩⟩
    exact Members.get?_of_mem nodup hm
  | double a => simp [same, Double.same]
  | _ => simp [same]

/-! ## Likeness of values -/

/-- Lists of members that are alike under every name, and member by member in some order. -/
structure Members.Alike (V : Json → Json → Prop) (xs ys : Members) : Prop where
  get? : ∀ name, Option.Rel V (xs.get? name) (ys.get? name)
  left : ∀ m ∈ xs, ∃ y, (m.1, y) ∈ ys ∧ V m.2 y
  right : ∀ m ∈ ys, ∃ x, (m.1, x) ∈ xs ∧ V x m.2

/-- Objects that are alike are both empty, or none is. -/
theorem Members.Alike.isEmpty_eq {V : Json → Json → Prop} {xs ys : Members}
    (h : Members.Alike V xs ys) : xs.isEmpty = ys.isEmpty := by
  cases xs with
  | nil =>
    cases ys with
    | nil => rfl
    | cons m rest =>
      obtain ⟨_, none, _⟩ := h.right m List.mem_cons_self
      exact absurd none List.not_mem_nil
  | cons m rest =>
    cases ys with
    | nil =>
      obtain ⟨_, none, _⟩ := h.left m List.mem_cons_self
      exact absurd none List.not_mem_nil
    | cons _ _ => rfl

/-- A relation between values that respects their kind, their items and their members, and the
values that they equal. -/
structure Respectful (V : Json → Json → Prop) : Prop where
  refl : ∀ x, V x x
  symm : ∀ {x y}, V x y → V y x
  text? : ∀ {x y}, V x y → x.text? = y.text?
  isNumber : ∀ {x y}, V x y → x.isNumber = y.isNumber
  isBool : ∀ {x y}, V x y → x.isBool = y.isBool
  items? : ∀ {x y}, V x y → Option.Rel (List.Forall₂ V) x.items? y.items?
  members? : ∀ {x y}, V x y → Option.Rel (Members.Alike V) x.members? y.members?
  same : ∀ {x y}, V x y → ∀ z, x.same z = y.same z

/-- Equal values are alike. -/
-- An equal value answers every question alike.
theorem respectful_eq : Respectful Eq where
  refl _ := rfl
  symm h := h.symm
  text? h := congrArg text? h
  isNumber h := congrArg Json.isNumber h
  isBool h := congrArg Json.isBool h
  items? := by
    rintro x _ rfl
    exact optionRel_refl (fun items => List.forall₂_same.2 fun _ _ => rfl) _
  members? := by
    rintro x _ rfl
    refine optionRel_refl (fun members => ⟨?_, ?_, ?_⟩) _
    · exact fun name => optionRel_refl (fun _ => rfl) _
    · exact fun m hm => ⟨m.2, hm, rfl⟩
    · exact fun m hm => ⟨m.2, hm, rfl⟩
  same h z := by rw [h]

/-- Values that are identical, or unambiguous and equal but for the order of members. -/
def Equal (x y : Json) : Prop :=
  x = y ∨ (x.unambiguous = true ∧ y.unambiguous = true ∧ x.same y = true)

/-- To be equal is symmetric. -/
theorem Equal.symm {x y : Json} (h : Equal x y) : Equal y x := by
  rcases h with rfl | ⟨hx, hy, same⟩
  · exact .inl rfl
  · exact .inr ⟨hy, hx, same_symm hx hy same⟩

/-- What one of two equal values equals is not told apart by the other. -/
theorem Equal.same_eq {x y : Json} (h : Equal x y) (z : Json) : z.same x = z.same y := by
  rcases h with rfl | ⟨hx, hy, same⟩
  · rfl
  · rw [Bool.eq_iff_iff]
    constructor
    · intro hzx
      exact same_trans hzx same
    · intro hzy
      exact same_trans hzy (same_symm hx hy same)

/-- The members of objects that are the same are alike, by name and one by one. -/
theorem members_alike_of_same {xs ys : Members} (hx : (object xs).unambiguous = true)
    (hy : (object ys).unambiguous = true) (h : (object xs).same (object ys) = true) :
    Members.Alike Equal xs ys := by
  -- What is found in one object for a member of the other, in both directions.
  have half : ∀ {xs ys : Members}, (object xs).unambiguous = true →
      (object ys).unambiguous = true → (object xs).same (object ys) = true →
      ∀ m ∈ xs, ∃ y, ys.get? m.1 = some y ∧ Equal m.2 y := by
    intro xs ys hx hy h m hm
    obtain ⟨_, heq, _, found⟩ := same_object_iff.1 h
    obtain rfl := Json.object.inj heq
    obtain ⟨y, hget, same⟩ := found m hm
    have clear := (unambiguous_object_iff.1 hx).2 m hm
    have clear' := (unambiguous_object_iff.1 hy).2 _ (Members.mem_of_get? hget)
    exact ⟨y, hget, .inr ⟨clear, clear', same⟩⟩
  have there := half hx hy h
  have back := half hy hx (same_symm hx hy h)
  refine ⟨?_, ?_, ?_⟩
  · intro name
    -- found by a name in one object exactly if in the other
    cases hget : xs.get? name with
    | some x =>
      obtain ⟨y, hget', equal⟩ := there (name, x) (Members.mem_of_get? hget)
      rw [hget']
      exact .some equal
    | none =>
      cases hget' : ys.get? name with
      | none => exact .none
      | some y =>
        obtain ⟨x, hx, _⟩ := back (name, y) (Members.mem_of_get? hget')
        rw [hget] at hx
        cases hx
  · -- each member of the first object
    intro m hm
    obtain ⟨y, hget, equal⟩ := there m hm
    exact ⟨y, Members.mem_of_get? hget, equal⟩
  · -- and each of the second
    intro m hm
    obtain ⟨x, hget, equal⟩ := back m hm
    exact ⟨x, Members.mem_of_get? hget, equal.symm⟩

/-- Values that are equal but for the order of members are alike. -/
theorem respectful_equal : Respectful Equal where
  refl _ := .inl rfl
  symm := Equal.symm
  text? := by
    rintro x y (rfl | ⟨_, _, same⟩)
    · rfl
    · cases x <;> cases y <;> simp_all [Json.same, Json.text?]
  isNumber := by
    rintro x y (rfl | ⟨_, _, same⟩)
    · rfl
    · cases x <;> cases y <;> simp_all [Json.same, Json.isNumber]
  isBool := by
    rintro x y (rfl | ⟨_, _, same⟩)
    · rfl
    · cases x <;> cases y <;> simp_all [Json.same, Json.isBool]
  items? := by
    rintro x y (rfl | ⟨hx, hy, same⟩)
    · exact optionRel_refl (fun items => List.forall₂_same.2 fun _ _ => .inl rfl) _
    · -- Lists that are the same are so at each index.
      cases x with
      | array xs =>
        obtain ⟨ys, rfl, alike⟩ := same_array_iff.1 same
        rw [unambiguous_array_iff] at hx hy
        refine .some (List.forall₂_iff_get.2 ⟨alike.length_eq, fun i hi hi' => .inr ⟨?_, ?_, ?_⟩⟩)
        · exact hx _ (List.get_mem xs ⟨i, hi⟩)
        · exact hy _ (List.get_mem ys ⟨i, hi'⟩)
        · exact alike.get hi hi'
      | _ =>
        cases y <;> simp_all [Json.same, Json.items?]
  members? := by
    rintro x y (rfl | ⟨hx, hy, same⟩)
    · refine optionRel_refl (fun members => ⟨?_, ?_, ?_⟩) _
      · exact fun name => optionRel_refl (fun _ => .inl rfl) _
      · exact fun m hm => ⟨m.2, hm, .inl rfl⟩
      · exact fun m hm => ⟨m.2, hm, .inl rfl⟩
    · -- Objects that are the same are matched by name.
      cases x with
      | object xs =>
        obtain ⟨ys, rfl, _⟩ := same_object_iff.1 same
        exact .some (members_alike_of_same hx hy same)
      | _ =>
        cases y <;> simp_all [Json.same, Json.members?]
  same := by
    rintro x y (rfl | ⟨hx, hy, same⟩) z
    · rfl
    · rw [Bool.eq_iff_iff]
      exact ⟨same_trans (same_symm hx hy same), same_trans same⟩

/-! ## Types and conditions -/

namespace Respectful

variable {V : Json → Json → Prop} (resp : Respectful V)

include resp

theorem isString_eq {x y : Json} (h : V x y) : x.isString = y.isString := by
  have text : ∀ z : Json, z.isString = z.text?.isSome := fun z => by cases z <;> rfl
  rw [text, text, resp.text? h]

theorem isArray_eq {x y : Json} (h : V x y) : x.isArray = y.isArray := by
  have array : ∀ z : Json, z.isArray = z.items?.isSome := fun z => by cases z <;> rfl
  rw [array, array, optionRel_isSome (resp.items? h)]

theorem isObject_eq {x y : Json} (h : V x y) : x.isObject = y.isObject := by
  have object : ∀ z : Json, z.isObject = z.members?.isSome := fun z => by cases z <;> rfl
  rw [object, object, optionRel_isSome (resp.members? h)]

/-- A member of a name is alike in both, or missing in both. -/
theorem get? {x y : Json} (h : V x y) (name : String) :
    Option.Rel V (x.get? name) (y.get? name) := by
  rw [Json.get?, Json.get?]
  exact optionRel_bind (resp.members? h) fun _ _ alike => alike.get? name

/-- A condition on a member that respects the relation holds of both or of none. -/
theorem memberIs_eq {x y : Json} (h : V x y) (name : String) {condition : Json → Bool}
    (respects : ∀ {x y}, V x y → condition x = condition y) :
    TokenType.memberIs x name condition = TokenType.memberIs y name condition := by
  rcases optionRel_cases (resp.get? h name) with ⟨hx, hy⟩ | ⟨x', y', hx, hy, alike⟩
  · rw [TokenType.memberIs, TokenType.memberIs, hx, hy]
  · rw [TokenType.memberIs, TokenType.memberIs, hx, hy]
    exact respects alike

/-- Arrays that are alike are as long, and all or not all of their items satisfy a condition. -/
theorem any_items_eq {x y : Json} (h : V x y) (enough : Nat → Bool) {condition : Json → Bool}
    (respects : ∀ {x y}, V x y → condition x = condition y) :
    (x.items?.any fun items => enough items.length && items.all condition) =
      y.items?.any fun items => enough items.length && items.all condition := by
  rcases optionRel_cases (resp.items? h) with ⟨hx, hy⟩ | ⟨xs, ys, hx, hy, alike⟩
  · rw [hx, hy]
  · have all : xs.all condition = ys.all condition := by
      clear hx hy
      induction alike with
      | nil => rfl
      | cons head _ ih => rw [List.all_cons, List.all_cons, respects head, ih]
    rw [hx, hy, Option.any_some, Option.any_some, alike.length_eq, all]

/-- A type admits both of two alike values, or none of them. -/
theorem admits_eq {x y : Json} (h : V x y) (type : String) :
    TokenType.admits type x = TokenType.admits type y := by
  have string : x.isString = y.isString := resp.isString_eq h
  have object : x.isObject = y.isObject := resp.isObject_eq h
  have array : x.isArray = y.isArray := resp.isArray_eq h
  have number : x.isNumber = y.isNumber := resp.isNumber h
  -- What a type asks of a value comes down to questions that the relation respects.
  have colour : TokenType.isColorObject x = TokenType.isColorObject y := by
    simp only [TokenType.isColorObject, resp.memberIs_eq h _ resp.isString_eq,
      resp.memberIs_eq h _ resp.isArray_eq]
  have measure : TokenType.isMeasure x = TokenType.isMeasure y := by
    have shape : ∀ z : Json, TokenType.isMeasure z = (z.text?.any TokenType.isMeasureText ||
        (TokenType.memberIs z "value" Json.isNumber &&
          TokenType.memberIs z "unit" Json.isString)) := by
      intro z
      cases z <;> rfl
    rw [shape, shape, resp.text? h, resp.memberIs_eq h _ resp.isNumber,
      resp.memberIs_eq h _ resp.isString_eq]
  have texts : TokenType.isTextList x = TokenType.isTextList y := by
    have shape : ∀ z : Json, TokenType.isTextList z =
        z.items?.any fun items => (items.length != 0) && items.all Json.isString := by
      intro z
      cases z with
      | array items => cases items <;> rfl
      | _ => rfl
    rw [shape, shape]
    exact resp.any_items_eq h (· != 0) resp.isString_eq
  have numbers : TokenType.isCubicBezier x = TokenType.isCubicBezier y := by
    have shape : ∀ z : Json, TokenType.isCubicBezier z =
        z.items?.any fun items => (items.length == 4) && items.all Json.isNumber := by
      intro z
      cases z <;> rfl
    rw [shape, shape]
    exact resp.any_items_eq h (· == 4) resp.isNumber
  unfold TokenType.admits
  split <;> simp only [string, object, array, number, colour, measure, texts, numbers,
    resp.isBool h]

/-- A condition of a context holds for both or for none. -/
theorem holds_eq {x y : Json} (h : V x y) (actual : Json) :
    (Condition.ofJson x).holds actual = (Condition.ofJson y).holds actual := by
  have shape : ∀ z : Json, (Condition.ofJson z).holds actual =
      match z.items? with
      | some items => items.any (·.same actual)
      | none => z.same actual := by
    intro z
    cases z <;> rfl
  rw [shape, shape]
  rcases optionRel_cases (resp.items? h) with ⟨hx, hy⟩ | ⟨xs, ys, hx, hy, alike⟩
  · rw [hx, hy]
    exact resp.same h actual
  · -- A list of alternatives holds if one of them is the same as what is there.
    rw [hx, hy]
    clear hx hy
    induction alike with
    | nil => rfl
    | cons head _ ih =>
      simp only [List.any_cons, resp.same head] at ih ⊢
      rw [ih]

/-- Conditions hold in the same contexts if their members are alike. -/
theorem hold_eq {xs ys : Members} (alike : Members.Alike V xs ys) (context : Members) :
    (Conditions.ofMembers xs).hold context = (Conditions.ofMembers ys).hold context := by
  -- Each condition of one object is one of the other, so that it is enough to go one way.
  have half : ∀ {xs ys : Members}, (∀ m ∈ xs, ∃ y, (m.1, y) ∈ ys ∧ V m.2 y) →
      (∀ m ∈ ys, ∃ x, (m.1, x) ∈ xs ∧ V x m.2) →
      (Conditions.ofMembers xs).hold context = true →
        (Conditions.ofMembers ys).hold context = true := by
    intro xs ys left right hold
    simp only [Conditions.hold, Conditions.ofMembers, Bool.and_eq_true, Bool.not_eq_true',
      List.isEmpty_eq_false_iff, ne_eq, List.map_eq_nil_iff, List.all_eq_true,
      List.mem_map] at hold ⊢
    obtain ⟨some, all⟩ := hold
    constructor
    · rintro rfl
      obtain ⟨m, hm⟩ := List.exists_mem_of_ne_nil _ some
      obtain ⟨_, none, _⟩ := left m hm
      exact absurd none List.not_mem_nil
    · rintro _ ⟨m, hm, rfl⟩
      obtain ⟨x, hx, like⟩ := right m hm
      have here := all _ ⟨(m.1, x), hx, rfl⟩
      cases hget : Members.get? context m.1 with
      | none => simp [hget] at here
      | some actual => simpa [hget, resp.holds_eq like] using here
  rw [Bool.eq_iff_iff]
  refine ⟨half alike.left alike.right, half ?_ ?_⟩
  · intro m hm
    obtain ⟨x, hx, like⟩ := alike.right m hm
    exact ⟨x, hx, resp.symm like⟩
  · intro m hm
    obtain ⟨y, hy, like⟩ := alike.left m hm
    exact ⟨y, hy, resp.symm like⟩

end Respectful

end Json

end DesignTokens
