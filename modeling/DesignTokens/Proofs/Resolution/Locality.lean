import DesignTokens.Proofs.Resolution.Evaluation
import DesignTokens.Resolution.Walk

/-!
# DesignTokens.Proofs.Resolution.Locality — what a walk depends on

A walk looks at the pending nodes only to ask whether one that it touches is among them, and at the
room only to ask whether some is left. So it comes out the same wherever those answers are the
same.

1. **Keys and walks**: what `union`, `disjoint` and the operations of walks mean.
2. **Heights** (`height_visit_le`): no walk goes down further than the room that it has.
3. **Locality** (`visit_local`): a walk that was not cut is the same with any other room that is
   enough for it, and with other pending nodes that agree on what it touches. Nor does it matter
   what the limit for the depth is (`visit_local_limitedTo`): only a report of a cut names it.
-/

namespace DesignTokens.Resolution

/-! ## Keys and walks -/

@[simp] theorem mem_union {key : Key} {xs ys : List Key} :
    key ∈ union xs ys ↔ key ∈ xs ∨ key ∈ ys := by
  by_cases h : key ∈ xs <;> simp [union, h]

theorem disjoint_iff {xs ys : List Key} : disjoint xs ys = true ↔ ∀ key ∈ xs, key ∉ ys := by
  simp [disjoint]

@[simp] theorem disjoint_nil (xs : List Key) : disjoint xs [] = true :=
  disjoint_iff.2 fun _ _ => List.not_mem_nil

namespace Walk

variable {α β : Type}

@[simp] theorem value_pure (a : α) : (pure a : Walk α).value = a := rfl
@[simp] theorem touched_pure (a : α) : (pure a : Walk α).touched = [] := rfl
@[simp] theorem height_pure (a : α) : (pure a : Walk α).height = 0 := rfl

@[simp] theorem value_bind (x : Walk α) (f : α → Walk β) :
    (x >>= f).value = (f x.value).value := rfl

@[simp] theorem touched_bind (x : Walk α) (f : α → Walk β) :
    (x >>= f).touched = union x.touched (f x.value).touched := rfl

@[simp] theorem height_bind (x : Walk α) (f : α → Walk β) :
    (x >>= f).height = max x.height (f x.value).height := rfl

@[simp] theorem value_touching (key : Key) (x : Walk α) : (x.touching key).value = x.value := rfl
@[simp] theorem height_touching (key : Key) (x : Walk α) : (x.touching key).height = x.height := rfl

@[simp] theorem touched_touching (key : Key) (x : Walk α) :
    (x.touching key).touched = union [key] x.touched := rfl

@[simp] theorem value_below (x : Walk α) : x.below.value = x.value := rfl
@[simp] theorem touched_below (x : Walk α) : x.below.touched = x.touched := rfl
@[simp] theorem height_below (x : Walk α) : x.below.height = x.height + 1 := rfl

end Walk

/-- How the plain recursion goes deeper from a node or a fallback list. -/
def plainDeeper (env : Environment) (room : Nat) (pending : List Key) : Deeper Walk where
  visit := fun g pointer => (visit env room pending g pointer).below
  fallback := fun g type owner entries => (fallback env room pending g type owner entries).below

section Equations

variable (env : Environment) (room : Nat) (pending : List Key) (g : Graph) (pointer : Pointer)

theorem visit_of_mem (h : Key.of g pointer ∈ pending) :
    visit env room pending g pointer =
      .touching (Key.of g pointer) (pure (cycleState g pointer)) := by
  cases room <;> simp [visit, h]

theorem visit_zero (h : Key.of g pointer ∉ pending) :
    visit env 0 pending g pointer =
      .touching (Key.of g pointer) (pure (cutState env.settings.maxDepth g pointer)) := by
  simp [visit, h]

theorem visit_succ (h : Key.of g pointer ∉ pending) :
    visit env (room + 1) pending g pointer =
      .touching (Key.of g pointer)
        (evaluate (plainDeeper env room (Key.of g pointer :: pending)) env g pointer) := by
  simp [visit, h, plainDeeper]

theorem fallback_zero (type : Option String) (owner : Pointer) (entries : List (Offer Reference)) :
    fallback env 0 pending g type owner entries =
      pure (cutOutcome env.settings.maxDepth owner) := by
  simp [fallback]

theorem fallback_succ (type : Option String) (owner : Pointer) (entries : List (Offer Reference)) :
    fallback env (room + 1) pending g type owner entries =
      tryEntries (plainDeeper env room pending) env g type owner entries := by
  simp [fallback, plainDeeper]

/-- A walk touches the node it starts from. -/
theorem mem_touched_visit : Key.of g pointer ∈ (visit env room pending g pointer).touched := by
  by_cases h : Key.of g pointer ∈ pending
  · simp [visit_of_mem env room pending g pointer h]
  · cases room with
    | zero => simp [visit_zero env pending g pointer h]
    | succ room => simp [visit_succ env room pending g pointer h]

end Equations

/-! ## Heights -/

/-- Walks that go down at most so many levels. -/
def heightBridge (limit : Nat) : Bridge Walk Walk where
  rel P x _ := P x.value ∧ x.height ≤ limit
  rel_imp h imp := ⟨imp _ h.1, h.2⟩
  rel_pure hP := ⟨hP, Nat.zero_le _⟩
  rel_bind := by
    intro α β P Q x y f h hx hf
    obtain ⟨hP, hl⟩ := hx
    obtain ⟨hQ, hr⟩ := hf x.value hP
    exact ⟨hQ, Nat.max_le.2 ⟨hl, hr⟩⟩

/-- A walk is no higher than the room it has. -/
private theorem height_le (env : Environment) (room : Nat) :
    (∀ pending g pointer, (visit env room pending g pointer).height ≤ room) ∧
      ∀ pending g type owner entries,
        (fallback env room pending g type owner entries).height ≤ room := by
  induction room with
  | zero =>
    constructor
    · intro pending g pointer
      by_cases h : Key.of g pointer ∈ pending
      · simp [visit_of_mem env 0 pending g pointer h]
      · simp [visit_zero env pending g pointer h]
    · intro pending g type owner entries
      simp [fallback_zero]
  | succ room ih =>
    obtain ⟨visits, lists⟩ := ih
    -- Each step down has one level less than the node it starts from.
    have deeper : ∀ pending, (∀ target pointer, True → (heightBridge (room + 1)).rel (fun _ => True)
        ((plainDeeper env room pending).visit target pointer)
        ((plainDeeper env room pending).visit target pointer)) := by
      intro pending target pointer _
      exact ⟨trivial, Nat.succ_le_succ (visits pending target pointer)⟩
    have fallbacks : ∀ pending g type owner entries,
        (heightBridge (room + 1)).rel (fun _ => True)
          ((plainDeeper env room pending).fallback g type owner entries)
          ((plainDeeper env room pending).fallback g type owner entries) := by
      intro pending g type owner entries
      exact ⟨trivial, Nat.succ_le_succ (lists pending g type owner entries)⟩
    constructor
    · intro pending g pointer
      by_cases h : Key.of g pointer ∈ pending
      · simp [visit_of_mem env (room + 1) pending g pointer h]
      · rw [visit_succ env room pending g pointer h]
        exact ((heightBridge (room + 1)).evaluate_of_deeper env (fun _ _ _ => trivial)
          (deeper _) (fallbacks _ g) pointer).2
    · intro pending g type owner entries
      rw [fallback_succ]
      exact ((heightBridge (room + 1)).tryEntries_of_deeper env (fun _ _ _ => trivial)
        (deeper _) (fallbacks _ g) type owner entries).2

/-- No walk goes down further than the room that it has. -/
theorem height_visit_le (env : Environment) (room : Nat) (pending : List Key) (g : Graph)
    (pointer : Pointer) : (visit env room pending g pointer).height ≤ room :=
  (height_le env room).1 pending g pointer

/-! ## Locality -/

/-- Walks that stay the same with another room and other pending nodes, as long as the room is
enough for both and the pending nodes agree on what is touched. -/
def localBridge (room room' : Nat) (pending pending' : List Key) : Bridge Walk Walk where
  rel P x y := P x.value ∧ (x.height < room → x.height < room' →
    (∀ key ∈ x.touched, key ∈ pending ↔ key ∈ pending') → y = x)
  rel_imp h imp := ⟨imp _ h.1, h.2⟩
  rel_pure hP := ⟨hP, fun _ _ _ => rfl⟩
  rel_bind := by
    intro α β P Q x y f h hx hf
    obtain ⟨hP, same⟩ := hx
    obtain ⟨hQ, more⟩ := hf x.value hP
    refine ⟨hQ, fun hroom hroom' hkeys => ?_⟩
    have hmax := Walk.height_bind x f
    have hy : y = x := by
      refine same (by omega) (by omega) fun key hk => hkeys key ?_
      exact mem_union.2 (.inl hk)
    subst hy
    have hz : h y.value = f y.value := by
      refine more (by omega) (by omega) fun key hk => hkeys key ?_
      exact mem_union.2 (.inr hk)
    change (⟨_, _, _⟩ : Walk β) = ⟨_, _, _⟩
    rw [hz]

/-- The environment with another limit for the depth. -/
def Environment.limitedTo (env : Environment) (limit : Nat) : Environment :=
  { env with settings := { env.settings with maxDepth := limit } }

section Limits

variable {m : Type → Type} [Monad m] (deeper : Deeper m) (env : Environment) (limit : Nat)
  (g : Graph)

/-- How a node is evaluated does not depend on the limit, the levels below it apart. -/
theorem evaluate_limitedTo (pointer : Pointer) :
    evaluate deeper (env.limitedTo limit) g pointer = evaluate deeper env g pointer := rfl

theorem tryEntries_limitedTo (type : Option String) (owner : Pointer)
    (entries : List (Offer Reference)) :
    tryEntries deeper (env.limitedTo limit) g type owner entries =
      tryEntries deeper env g type owner entries := rfl

end Limits

/-- A walk that stays within both limits is the same in both. -/
private theorem local_all (env : Environment) (limit room : Nat) :
    (∀ room' pending pending' g pointer,
      (localBridge room room' pending pending').rel (fun _ => True)
        (visit env room pending g pointer)
        (visit (env.limitedTo limit) room' pending' g pointer)) ∧
      ∀ room' pending pending' g type owner entries,
        (localBridge room room' pending pending').rel (fun _ => True)
          (fallback env room pending g type owner entries)
          (fallback (env.limitedTo limit) room' pending' g type owner entries) := by
  induction room with
  | zero =>
    -- Without room there is nothing to show: such a walk may have been cut.
    exact ⟨fun _ _ _ _ _ => ⟨trivial, fun h => absurd h (Nat.not_lt_zero _)⟩,
      fun _ _ _ _ _ _ _ => ⟨trivial, fun h => absurd h (Nat.not_lt_zero _)⟩⟩
  | succ room ih =>
    obtain ⟨visits, lists⟩ := ih
    have deeper : ∀ room' pending pending' target pointer, True →
        (localBridge (room + 1) (room' + 1) pending pending').rel (fun _ => True)
          ((plainDeeper env room pending).visit target pointer)
          ((plainDeeper (env.limitedTo limit) room' pending').visit target pointer) := by
      intro room' pending pending' target pointer _
      refine ⟨trivial, fun h h' hkeys => ?_⟩
      have same := (visits room' pending pending' target pointer).2 (Nat.lt_of_succ_lt_succ h)
        (Nat.lt_of_succ_lt_succ h') hkeys
      exact congrArg Walk.below same
    have fallbacks : ∀ room' pending pending' g type owner entries,
        (localBridge (room + 1) (room' + 1) pending pending').rel (fun _ => True)
          ((plainDeeper env room pending).fallback g type owner entries)
          ((plainDeeper (env.limitedTo limit) room' pending').fallback g type owner entries) := by
      intro room' pending pending' g type owner entries
      refine ⟨trivial, fun h h' hkeys => ?_⟩
      have same := (lists room' pending pending' g type owner entries).2
        (Nat.lt_of_succ_lt_succ h) (Nat.lt_of_succ_lt_succ h') hkeys
      exact congrArg Walk.below same
    constructor
    · intro room' pending pending' g pointer
      refine ⟨trivial, fun h h' hkeys => ?_⟩
      obtain ⟨room', rfl⟩ : ∃ r, room' = r + 1 := ⟨room' - 1, by omega⟩
      have hkey := hkeys _ (mem_touched_visit env (room + 1) pending g pointer)
      -- The keys it touched are pending in both walks or in neither.
      by_cases hp : Key.of g pointer ∈ pending
      · rw [visit_of_mem env (room + 1) pending g pointer hp,
          visit_of_mem (env.limitedTo limit) (room' + 1) pending' g pointer (hkey.1 hp)]
      · have hp' : Key.of g pointer ∉ pending' := fun hm => hp (hkey.2 hm)
        rw [visit_succ env room pending g pointer hp] at h h' hkeys ⊢
        rw [visit_succ (env.limitedTo limit) room' pending' g pointer hp', evaluate_limitedTo]
        -- Below the node, it is pending itself, in both walks.
        have same := ((localBridge (room + 1) (room' + 1) (Key.of g pointer :: pending)
          (Key.of g pointer :: pending')).evaluate_of_deeper env (fun _ _ _ => trivial)
            (deeper room' _ _) (fallbacks room' _ _ g) pointer).2 h h' ?_
        · rw [same]
        · intro key hk
          have := hkeys key (mem_union.2 (.inr hk))
          simp [this]
    · intro room' pending pending' g type owner entries
      refine ⟨trivial, fun h h' hkeys => ?_⟩
      obtain ⟨room', rfl⟩ : ∃ r, room' = r + 1 := ⟨room' - 1, by omega⟩
      rw [fallback_succ] at h h' hkeys ⊢
      rw [fallback_succ, tryEntries_limitedTo]
      exact ((localBridge (room + 1) (room' + 1) pending pending').tryEntries_of_deeper env
        (fun _ _ _ => trivial) (deeper room' _ _) (fallbacks room' _ _ g)
        type owner entries).2 h h' hkeys

section Uncut

variable {env : Environment} {room room' : Nat} {pending pending' : List Key}
  {g : Graph} {pointer : Pointer}

/-- A walk that was not cut is the same with any limit, with any room that is enough for it, and
with any pending nodes that agree with the given ones on what it touches. -/
theorem visit_local_limitedTo (limit : Nat)
    (uncut : (visit env room pending g pointer).height < room)
    (enough : (visit env room pending g pointer).height < room')
    (agree : ∀ key ∈ (visit env room pending g pointer).touched, key ∈ pending ↔ key ∈ pending') :
    visit (env.limitedTo limit) room' pending' g pointer = visit env room pending g pointer :=
  ((local_all env limit room).1 room' pending pending' g pointer).2 uncut enough agree

/-- A walk that was not cut is the same with any room that is enough for it, and with any pending
nodes that agree with the given ones on what it touches. -/
theorem visit_local (uncut : (visit env room pending g pointer).height < room)
    (enough : (visit env room pending g pointer).height < room')
    (agree : ∀ key ∈ (visit env room pending g pointer).touched, key ∈ pending ↔ key ∈ pending') :
    visit env room' pending' g pointer = visit env room pending g pointer :=
  visit_local_limitedTo env.settings.maxDepth uncut enough agree

end Uncut

end DesignTokens.Resolution
