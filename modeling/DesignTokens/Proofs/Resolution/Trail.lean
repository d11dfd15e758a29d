import DesignTokens.Proofs.Resolution.Limit

/-!
# DesignTokens.Proofs.Resolution.Trail — a walk with one record

A plain walk hands down which nodes are pending, and hands up what was touched and how many levels
it went down. It can also keep one record of all that, which a call changes and the next one finds
changed. Nothing then rules out that a node is left pending, or that a node lies below the deepest
level that was reached from it. Both walks are the same, so that neither happens, and what is known
of the plain walk holds of the other one.

1. **Records** (`Trail`), and computations that change one (`Tour`).
2. **Calls** (`descend`, `descendList`): a node or a fallback list at a depth.
3. **Results** (`Gives`): what a call gives and leaves behind.
4. **Plain walks** (`gives_descend`, `gives_descendList`): each call gives what the plain walk does,
   and restores what is pending.
5. **Locality** (`walk_local`): a walk that stays within the limit is the same at any depth and with
   any pending nodes, as long as it stays within the limit there and touches none of them.
-/

namespace DesignTokens.Resolution

/-! ## Records -/

/-- What is known in the course of a walk: the nodes that are pending, those that were touched, and
the deepest level that was reached. -/
structure Trail where
  pending : List Key
  touched : List Key := []
  deepest : Nat := 0
deriving Repr, DecidableEq

/-- A computation with a record. There is no result where a level would be subtracted from one that
is above it. -/
abbrev Tour := StateT Trail Option

namespace Trail

/-- Touch some nodes, and reach a level. -/
def extend (trail : Trail) (touched : List Key) (level : Nat) : Trail :=
  { trail with touched := union trail.touched touched, deepest := max trail.deepest level }

/-- The record to start with below a node at a depth. The node is pending, and nothing counts that
was touched or reached before. -/
def enter (trail : Trail) (key : Key) (depth : Nat) : Trail :=
  ⟨key :: trail.pending, [], depth⟩

/-- The record after what was below a node, given the one from before and the nodes that count as
touched by it. -/
def leave (inner outer : Trail) (key : Key) (touched : List Key) : Trail :=
  ⟨inner.pending.erase key, union outer.touched touched, max inner.deepest outer.deepest⟩

end Trail

/-- How many levels there are from a depth down to the deepest one, unless that is above. -/
def levels? (deepest depth : Nat) : Option Nat :=
  if depth ≤ deepest then some (deepest - depth) else none

/-! ## Calls -/

mutual

/-- Visit a node at a depth. The state comes with the nodes that were touched on the way to it, and
the number of levels down to the deepest one. -/
def descend (env : Environment) (depth : Nat) (g : Graph) (pointer : Pointer) :
    Tour (Walk State) := do
  let key := Key.of g pointer
  modify (·.extend [key] depth)
  let outer ← get
  if outer.pending.contains key then
    return ⟨cycleState g pointer, [key], 0⟩
  else if _h : env.settings.maxDepth < depth then
    return ⟨cutState env.settings.maxDepth g pointer, [key], 0⟩
  else
    set (outer.enter key depth)
    let deeper : Deeper Tour := {
      visit := fun g pointer => Walk.value <$> descend env (depth + 1) g pointer
      fallback := fun g type owner entries => descendList env (depth + 1) g type owner entries }
    let state ← evaluate deeper env g pointer
    let inner ← get
    let touched := union [key] inner.touched
    let height ← levels? inner.deepest depth
    set (inner.leave outer key touched)
    return ⟨state, touched, height⟩
termination_by env.settings.maxDepth + 1 - depth

def descendList (env : Environment) (depth : Nat) (g : Graph) (type : Option String)
    (owner : Pointer) (entries : List (Offer Reference)) : Tour Outcome := do
  modify (·.extend [] depth)
  if _h : env.settings.maxDepth < depth then
    return cutOutcome env.settings.maxDepth owner
  else
    let deeper : Deeper Tour := {
      visit := fun g pointer => Walk.value <$> descend env (depth + 1) g pointer
      fallback := fun g type owner entries => descendList env (depth + 1) g type owner entries }
    tryEntries deeper env g type owner entries
termination_by env.settings.maxDepth + 1 - depth

end

/-- How a walk with one record goes deeper from a node or a fallback list at a depth. -/
def tourDeeper (env : Environment) (depth : Nat) : Deeper Tour where
  visit := fun g pointer => Walk.value <$> descend env (depth + 1) g pointer
  fallback := fun g type owner entries => descendList env (depth + 1) g type owner entries

section Equations

variable (env : Environment) (depth : Nat) (g : Graph) (pointer : Pointer) (trail : Trail)

/-- A pending node is a cycle, and the trail has touched it. -/
theorem descend_of_mem (h : Key.of g pointer ∈ trail.pending) :
    (descend env depth g pointer).run trail =
      some (⟨cycleState g pointer, [Key.of g pointer], 0⟩,
        trail.extend [Key.of g pointer] depth) := by
  rw [descend]
  simp [Trail.extend, h]

/-- Below the limit's depth the descent is cut. -/
theorem descend_of_lt (h : Key.of g pointer ∉ trail.pending)
    (deep : env.settings.maxDepth < depth) :
    (descend env depth g pointer).run trail =
      some (⟨cutState env.settings.maxDepth g pointer, [Key.of g pointer], 0⟩,
        trail.extend [Key.of g pointer] depth) := by
  rw [descend]
  simp [Trail.extend, h, deep]

/-- Within the limit the node is evaluated, and is no longer pending afterwards. -/
theorem descend_of_le (h : Key.of g pointer ∉ trail.pending) (low : depth ≤ env.settings.maxDepth)
    {state : State} {inner : Trail}
    (below : (evaluate (tourDeeper env depth) env g pointer).run
      (trail.enter (Key.of g pointer) depth) = some (state, inner))
    (reached : depth ≤ inner.deepest) :
    (descend env depth g pointer).run trail =
      some (⟨state, union [Key.of g pointer] inner.touched, inner.deepest - depth⟩,
        inner.leave (trail.extend [Key.of g pointer] depth) (Key.of g pointer)
          (union [Key.of g pointer] inner.touched)) := by
  simp only [tourDeeper, Trail.enter] at below
  rw [descend]
  simp [Trail.extend, Trail.enter, h, Nat.not_lt.2 low, below, levels?, reached]

/-- A list below the limit's depth is cut as well. -/
theorem descendList_of_lt (type : Option String) (owner : Pointer)
    (entries : List (Offer Reference)) (deep : env.settings.maxDepth < depth) :
    (descendList env depth g type owner entries).run trail =
      some (cutOutcome env.settings.maxDepth owner, trail.extend [] depth) := by
  rw [descendList]
  simp [deep]

/-- Within the limit its entries are tried one level further down. -/
theorem descendList_of_le (type : Option String) (owner : Pointer)
    (entries : List (Offer Reference)) (low : depth ≤ env.settings.maxDepth) :
    (descendList env depth g type owner entries).run trail =
      (tryEntries (tourDeeper env depth) env g type owner entries).run
        (trail.extend [] depth) := by
  rw [descendList]
  simp [Nat.not_lt.2 low, tourDeeper]

end Equations

/-! ## Results -/

/-- A call gives a result wherever the given nodes are pending. It leaves them pending, adds some
nodes to those that were touched before, and goes down to a level. -/
def Gives {α : Type} (call : Tour α) (pending : List Key) (result : α) (touched : List Key)
    (level : Nat) : Prop :=
  ∀ trail : Trail, trail.pending = pending →
    call.run trail = some (result, ⟨pending, union trail.touched touched, max trail.deepest level⟩)

/-! ## Plain walks -/

theorem union_nil (xs : List Key) : union xs [] = xs := by
  simp [union]

theorem nil_union (xs : List Key) : union [] xs = xs := by
  simp [union]

/-- Keys may be joined in any grouping. -/
theorem union_assoc (xs ys zs : List Key) :
    union (union xs ys) zs = union xs (union ys zs) := by
  simp only [union, List.append_assoc, List.filter_append, List.filter_filter]
  congr 2
  refine List.filter_congr fun key _ => ?_
  by_cases h : key ∈ xs <;> simp [h]

/-- What was touched already is not added again. -/
theorem union_union_self (xs ys : List Key) : union xs (union xs ys) = union xs ys := by
  have once : union xs xs = xs := by simp [union]
  rw [← union_assoc, once]

/-- A trail that is extended twice is extended once by both. -/
theorem Trail.extend_extend (trail : Trail) (xs ys : List Key) (m n : Nat) :
    (trail.extend xs m).extend ys n = trail.extend (union xs ys) (max m n) := by
  simp only [extend, union_assoc, Nat.max_assoc]

/-- A computation at a depth gives the value of a walk, and adds what the walk touched and how far
it went down to any record that has reached the depth, with the given nodes pending. -/
def tourBridge (depth : Nat) (pending : List Key) : Bridge Tour Walk where
  rel P x y := P y.value ∧ ∀ trail : Trail, trail.pending = pending → depth ≤ trail.deepest →
    x.run trail = some (y.value, trail.extend y.touched (depth + y.height))
  rel_imp h imp := ⟨imp _ h.1, h.2⟩
  rel_pure := by
    intro α P a hP
    refine ⟨hP, fun trail _ reached => ?_⟩
    simp [Trail.extend, union_nil, reached]
  rel_bind := by
    intro α β P Q x y f h hx hf
    obtain ⟨hP, first⟩ := hx
    obtain ⟨hQ, later⟩ := hf y.value hP
    refine ⟨hQ, fun trail same reached => ?_⟩
    have more := later (trail.extend y.touched (depth + y.height)) same
      (Nat.le_trans reached (Nat.le_max_left _ _))
    rw [StateT.run_bind, first trail same reached]
    simp only [Option.bind_eq_bind, Option.bind_some, more, Trail.extend_extend,
      Walk.value_bind, Walk.touched_bind, Walk.height_bind, Nat.add_max_add_left]

/-- A result may be changed after a call. -/
theorem Gives.map {α β : Type} (f : α → β) {call : Tour α} {pending touched : List Key}
    {result : α} {level : Nat} (given : Gives call pending result touched level) :
    Gives (f <$> call) pending (f result) touched level := by
  intro trail same
  rw [StateT.run_map, given trail same]
  rfl

/-- A call one level further down agrees with a walk from there. -/
theorem Gives.agrees {α : Type} {call : Tour α} {pending : List Key} {walk : Walk α} {depth : Nat}
    (given : Gives call pending walk.value walk.touched (depth + 1 + walk.height)) :
    (tourBridge depth pending).rel (fun _ => True) call walk.below := by
  refine ⟨trivial, fun trail same _ => ?_⟩
  have level : depth + 1 + walk.height = depth + walk.below.height := by
    rw [Walk.height_below]
    omega
  rw [given trail same, level, ← same]
  rfl

/-- A node that is pending is not entered, at any depth. -/
theorem gives_of_mem {env : Environment} {depth room : Nat} {pending : List Key} {g : Graph}
    {pointer : Pointer} (cyclic : Key.of g pointer ∈ pending) :
    let walk := visit env room pending g pointer
    Gives (descend env depth g pointer) pending walk walk.touched (depth + walk.height) := by
  rw [visit_of_mem env room pending g pointer cyclic]
  rintro walk trail rfl
  exact descend_of_mem env depth g pointer trail cyclic

/-- A node that is entered gives what it is evaluated to, if the evaluation agrees with a walk. -/
theorem gives_of_evaluate {env : Environment} {depth : Nat} {pending : List Key} {g : Graph}
    {pointer : Pointer} (fresh : Key.of g pointer ∉ pending) (low : depth ≤ env.settings.maxDepth)
    {below : Walk State} (agrees : (tourBridge depth (Key.of g pointer :: pending)).rel
      (fun _ => True) (evaluate (tourDeeper env depth) env g pointer) below) :
    let walk := below.touching (Key.of g pointer)
    Gives (descend env depth g pointer) pending walk walk.touched (depth + walk.height) := by
  intro walk trail same
  subst same
  have evaluated := agrees.2 (trail.enter (Key.of g pointer) depth) rfl (Nat.le_refl depth)
  rw [descend_of_le env depth g pointer trail fresh low evaluated (Nat.le_max_left _ _)]
  -- The node counts as touched before and after, and its depth as reached.
  have touched : union (union trail.touched [Key.of g pointer])
      (union [Key.of g pointer] below.touched) = union trail.touched walk.touched := by
    rw [union_assoc, union_union_self, Walk.touched_touching]
  have deepest : max (depth + below.height) (max trail.deepest depth) =
      max trail.deepest (depth + walk.height) := by
    rw [Walk.height_touching]
    omega
  simp only [Trail.enter, Trail.extend, Trail.leave, nil_union, List.erase_cons_head, touched,
    Nat.max_eq_right (Nat.le_add_right depth below.height), deepest, Nat.add_sub_cancel_left]
  rfl

/-- A fallback list that is tried gives what its entries do, if they agree with a walk. -/
theorem gives_of_tryEntries {env : Environment} {depth : Nat} {pending : List Key} {g : Graph}
    {type : Option String} {owner : Pointer} {entries : List (Offer Reference)}
    (low : depth ≤ env.settings.maxDepth) {list : Walk Outcome}
    (agrees : (tourBridge depth pending).rel (fun _ => True)
      (tryEntries (tourDeeper env depth) env g type owner entries) list) :
    Gives (descendList env depth g type owner entries) pending list.value list.touched
      (depth + list.height) := by
  rintro trail rfl
  have tried := agrees.2 (trail.extend [] depth) rfl (Nat.le_max_right _ _)
  rw [descendList_of_le env depth g trail type owner entries low, tried, Trail.extend_extend,
    nil_union, Nat.max_eq_right (Nat.le_add_right depth list.height)]
  rfl

/-- Every call of the descent gives what the walk of the same room gives. -/
private theorem gives_all (env : Environment) (room : Nat) :
    (∀ depth pending g pointer, env.settings.maxDepth + 1 - depth = room →
      let walk := visit env room pending g pointer
      Gives (descend env depth g pointer) pending walk walk.touched (depth + walk.height)) ∧
    ∀ depth pending g type owner entries, env.settings.maxDepth + 1 - depth = room →
      let list := fallback env room pending g type owner entries
      Gives (descendList env depth g type owner entries) pending list.value list.touched
        (depth + list.height) := by
  -- What is one level further down has one level less of room.
  induction room with
  | zero =>
    -- The depth is beyond the limit, so both are cut unless the node is pending.
    constructor
    · intro depth pending g pointer left
      by_cases cyclic : Key.of g pointer ∈ pending
      · exact gives_of_mem cyclic
      · rw [visit_zero env pending g pointer cyclic]
        rintro walk trail rfl
        exact descend_of_lt env depth g pointer trail cyclic (by omega)
    · intro depth pending g type owner entries left
      rw [fallback_zero]
      rintro list trail rfl
      exact descendList_of_lt env depth g trail type owner entries (by omega)
  | succ room ih =>
    -- One level is left at least, and below it there is one less.
    obtain ⟨visits, lists⟩ := ih
    have visit : ∀ depth pending, env.settings.maxDepth + 1 - depth = room + 1 →
        ∀ target pointer, True → (tourBridge depth pending).rel (fun _ => True)
          ((tourDeeper env depth).visit target pointer)
          ((plainDeeper env room pending).visit target pointer) :=
      fun depth pending left target pointer _ =>
        ((visits (depth + 1) pending target pointer (by omega)).map Walk.value).agrees
    have fallback : ∀ depth pending, env.settings.maxDepth + 1 - depth = room + 1 →
        ∀ g type owner entries, (tourBridge depth pending).rel (fun _ => True)
          ((tourDeeper env depth).fallback g type owner entries)
          ((plainDeeper env room pending).fallback g type owner entries) :=
      fun depth pending left g type owner entries =>
        (lists (depth + 1) pending g type owner entries (by omega)).agrees
    constructor
    · intro depth pending g pointer left
      by_cases cyclic : Key.of g pointer ∈ pending
      · exact gives_of_mem cyclic
      · rw [visit_succ env room pending g pointer cyclic]
        exact gives_of_evaluate cyclic (by omega) ((tourBridge depth _).evaluate_of_deeper env
          (fun _ _ _ => trivial) (visit depth _ left) (fallback depth _ left g) pointer)
    · intro depth pending g type owner entries left
      rw [fallback_succ]
      exact gives_of_tryEntries (by omega) ((tourBridge depth _).tryEntries_of_deeper env
        (fun _ _ _ => trivial) (visit depth _ left) (fallback depth _ left g) type owner entries)

/-- A visit with one record gives what the plain walk does, with the room that is left. -/
theorem gives_descend (env : Environment) (depth : Nat) (pending : List Key) (g : Graph)
    (pointer : Pointer) :
    let walk := visit env (env.settings.maxDepth + 1 - depth) pending g pointer
    Gives (descend env depth g pointer) pending walk walk.touched (depth + walk.height) :=
  (gives_all env _).1 depth pending g pointer rfl

/-- A fallback list is tried with one record as in the plain walk. -/
theorem gives_descendList (env : Environment) (depth : Nat) (pending : List Key) (g : Graph)
    (type : Option String) (owner : Pointer) (entries : List (Offer Reference)) :
    let list := fallback env (env.settings.maxDepth + 1 - depth) pending g type owner entries
    Gives (descendList env depth g type owner entries) pending list.value list.touched
      (depth + list.height) :=
  (gives_all env _).2 depth pending g type owner entries rfl

/-! ## Locality -/

/-- Pending nodes and depth have to do with a walk only through the nodes that it touches and the
levels that it goes down. Every visit at a depth gives the plain walk with the room that is left
there, restores what is pending, adds what the walk touched, and reaches as many levels below its
depth as the walk goes down, so that the deepest level is never above; and so does every fallback
list. If no touched node is pending, the visited one included, and the deepest level is within the
limit, then the walk is the same in state, touched nodes and levels from every depth from which it
is within the limit, with any pending nodes of which it touches none; and it is the same with every
higher limit. -/
theorem walk_local (env : Environment) (g : Graph) (pointer : Pointer) (pending : List Key)
    (depth : Nat) :
    let limit := env.settings.maxDepth
    let walk := visit env (limit + 1 - depth) pending g pointer
    (Gives (descend env depth g pointer) pending walk walk.touched (depth + walk.height) ∧
      ∀ type owner entries,
        let list := fallback env (limit + 1 - depth) pending g type owner entries
        Gives (descendList env depth g type owner entries) pending list.value list.touched
          (depth + list.height)) ∧
    (disjoint walk.touched pending = true → depth + walk.height ≤ limit →
      (∀ pending' depth', disjoint walk.touched pending' = true → depth' + walk.height ≤ limit →
        visit env (limit + 1 - depth') pending' g pointer = walk) ∧
      ∀ limit', limit ≤ limit' →
        visit (env.limitedTo limit') (limit' + 1 - depth) pending g pointer = walk) := by
  intro limit walk
  refine ⟨⟨gives_descend env depth pending g pointer, gives_descendList env depth pending g⟩, ?_⟩
  -- What was touched is pending in neither, so locality applies.
  intro apart within
  have uncut : walk.height < limit + 1 - depth := by omega
  constructor
  · intro pending' depth' apart' within'
    have enough : walk.height < limit + 1 - depth' := by omega
    refine visit_local uncut enough fun key hk => ?_
    exact iff_of_false (disjoint_iff.1 apart key hk) (disjoint_iff.1 apart' key hk)
  · intro limit' higher
    have enough : walk.height < limit' + 1 - depth := by omega
    exact visit_local_limitedTo limit' uncut enough fun _ _ => Iff.rfl

/-- Two tokens that replace each other, with two lists around each reference: the walk is the same
two levels further down while another node is pending, but not if a node that it touches is, nor
four levels further down, where it would be cut. -/
theorem entwined_walk_local :
    let env := Entwined.environment 8
    let keys := [Key.of env.root (Sample.place "a"), ⟨Sample.place "b", Sample.other⟩]
    let walk := visit env 9 [] env.root (Sample.place "a")
    let busy := [Key.of env.root (Sample.place "c")]
    walk.touched = keys ∧ walk.height = 6 ∧ disjoint walk.touched busy = true ∧
      visit env 7 busy env.root (Sample.place "a") = walk ∧
      visit (env.limitedTo 40) 41 [] env.root (Sample.place "a") = walk ∧
      (descend env 2 env.root (Sample.place "a")).run ⟨busy, [], 0⟩ =
        some (walk, ⟨busy, keys, 8⟩) ∧
      (visit env 7 keys.tail env.root (Sample.place "a")).value.source ≠ walk.value.source ∧
      (visit env 5 busy env.root (Sample.place "a")).value.truncated = true := by
  intro env keys walk busy
  have touched : walk.touched = keys := by decide
  have height : walk.height = 6 := by decide
  have apart : disjoint walk.touched busy = true := by decide
  have same := (walk_local env env.root (Sample.place "a") [] 0).2 (disjoint_nil _)
    (by decide)
  have lower := same.1 busy 2 apart (by decide)
  have higher := same.2 40 (by decide)
  have given := (walk_local env env.root (Sample.place "a") busy 2).1.1 ⟨busy, [], 0⟩ rfl
  -- The general equality, with the numbers of this walk filled in.
  rw [lower, nil_union] at given
  refine ⟨touched, height, apart, lower, higher, ?_, by decide, by decide⟩
  rw [given]
  change some (walk, Trail.mk busy walk.touched (max 0 (2 + walk.height))) = _
  rw [touched, height]
  rfl

end DesignTokens.Resolution
