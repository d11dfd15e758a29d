import DesignTokens.Graph.Cycles
import DesignTokens.Proofs.Graph.Closure

/-!
# DesignTokens.Proofs.Graph.Cycles — every node that depends on itself is in a cycle

1. **Finishing order** (`mem_finishAll`): every node is finished at some time.
2. **Spreading** (`spread_reaches`): all is reached that can be reached along fresh nodes.
3. **Parts** (`mem_parts`): nodes that can be reached from each other come into one part, whatever
   the order is in which the parts are started.
4. **Cycles** (`getElem?_cycles`): the components that are cycles, each with its place as its
   number.
5. **Members** (`exists_cycleOf?_of_mem`): a member of a cycle has a cycle; so has every node that
   depends on itself (`isSome_cycleOf_of_depends`).
-/

namespace DesignTokens.Graph

variable {next : Pointer → List Pointer} {fresh stack finished reached : List Pointer}
  {p q : Pointer}

/-! ## Finishing order -/

/-- The search loses no node: what was on the stack or finished is finished, and what was fresh is
still fresh or finished. -/
theorem finish_spec (next : Pointer → List Pointer) (fresh stack finished : List Pointer) :
    (∀ p ∈ stack ++ finished, p ∈ (finish next fresh stack finished).2) ∧
      ∀ p ∈ fresh, p ∈ (finish next fresh stack finished).1 ∨
        p ∈ (finish next fresh stack finished).2 := by
  fun_induction finish next fresh stack finished with
  -- nothing on the stack
  | case1 fresh finished => exact ⟨fun p hp => hp, fun p hp => .inl hp⟩
  | case2 fresh finished p rest hp fresher ih =>
    -- A fresh node: it stays on the stack.
    obtain ⟨done, left⟩ := ih
    refine ⟨fun q hq => done q ?_, fun q hq => ?_⟩
    · -- What was on the stack or finished stays so; the new neighbours come in front.
      rcases List.mem_append.1 hq with hq | hq
      · exact List.mem_append_left _ (List.mem_append_right _ hq)
      · exact List.mem_append_right _ hq
    · -- Of the fresh nodes, only this one is taken.
      by_cases h : q = p
      · subst h
        exact .inr (done q (by simp))
      · exact left q ((List.mem_erase_of_ne h).2 hq)
  | case3 fresh finished p rest hp hf ih =>
    -- A node that is finished already.
    obtain ⟨done, left⟩ := ih
    refine ⟨fun q hq => ?_, left⟩
    rcases List.mem_cons.1 hq with rfl | hq
    · exact done q (List.mem_append_right _ (by simpa using hf))
    · exact done q hq
  | case4 fresh finished p rest hp hf ih =>
    -- A node whose neighbours are done: it is finished now.
    obtain ⟨done, left⟩ := ih
    refine ⟨fun q hq => done q ?_, left⟩
    simp only [List.cons_append, List.mem_cons, List.mem_append] at hq ⊢
    rcases hq with rfl | hq | hq
    · exact .inr (.inl rfl)
    · exact .inl hq
    · exact .inr (.inr hq)

/-- Every start is finished in the end, if it was fresh. -/
theorem mem_finishAll {starts : List Pointer}
    (h : p ∈ finished ∨ p ∈ starts ∧ p ∈ fresh) : p ∈ finishAll next starts fresh finished := by
  induction starts generalizing fresh finished with
  | nil =>
    -- no start left
    rcases h with h | ⟨h, _⟩
    · exact h
    · exact absurd h List.not_mem_nil
  | cons start rest ih =>
    unfold finishAll
    split
    · -- A start that is fresh: all that is reached from it is finished next.
      obtain ⟨done, left⟩ := finish_spec next fresh [start] finished
      refine ih ?_
      rcases h with h | ⟨hs, hf⟩
      · exact .inl (done p (List.mem_append_right _ h))
      · rcases List.mem_cons.1 hs with rfl | hs
        · exact .inl (done p (by simp))
        · rcases left p hf with hf | hf
          · exact .inr ⟨hs, hf⟩
          · exact .inl hf
    · -- A start that was reached before.
      next stale =>
      refine ih ?_
      rcases h with h | ⟨hs, hf⟩
      · exact .inl h
      · rcases List.mem_cons.1 hs with rfl | hs
        · exact absurd (by simpa using hf) stale
        · exact .inr ⟨hs, hf⟩

/-! ## Spreading -/

/-- Spreading takes nodes from the fresh ones and puts them to the reached ones. -/
theorem spread_moves (next : Pointer → List Pointer) (fresh stack reached : List Pointer) :
    (spread next fresh stack reached).1.Sublist fresh ∧
      reached ⊆ (spread next fresh stack reached).2 ∧
      ∀ p ∈ fresh, p ∈ (spread next fresh stack reached).1 ∨
        p ∈ (spread next fresh stack reached).2 := by
  fun_induction spread next fresh stack reached with
  -- nothing left to do
  | case1 fresh reached => exact ⟨List.Sublist.refl _, List.Subset.refl _, fun p hp => .inl hp⟩
  | case2 fresh reached p rest hp ih =>
    -- A fresh node goes from one side to the other.
    obtain ⟨sub, grows, left⟩ := ih
    refine ⟨sub.trans List.erase_sublist, fun q hq => grows (List.mem_cons_of_mem p hq), ?_⟩
    intro q hq
    by_cases h : q = p
    · subst h
      exact .inr (grows List.mem_cons_self)
    · exact left q ((List.mem_erase_of_ne h).2 hq)
  -- Other nodes change nothing.
  | case3 fresh reached p rest hp ih => exact ih

/-- What was fresh and is reached is no longer fresh. -/
theorem spread_disjoint (nodup : fresh.Nodup) (apart : ∀ p ∈ reached, p ∉ fresh) :
    ∀ p ∈ (spread next fresh stack reached).2, p ∉ (spread next fresh stack reached).1 := by
  fun_induction spread next fresh stack reached with
  | case1 fresh reached => exact apart
  | case2 fresh reached p rest hp ih =>
    refine ih (nodup.erase p) fun q hq => ?_
    rcases List.mem_cons.1 hq with rfl | hq
    · exact nodup.not_mem_erase
    · exact fun h => apart q hq (List.mem_of_mem_erase h)
  | case3 fresh reached p rest hp ih => exact ih nodup apart

/-- The neighbours of what is reached, among some nodes, are reached as well or wait on the
stack. -/
def Waiting (next : Pointer → List Pointer) (all reached stack : List Pointer) : Prop :=
  ∀ p ∈ reached, ∀ q ∈ next p, q ∈ all → q ∈ reached ∨ q ∈ stack

/-- The neighbours of a node that is reached are put on the stack. -/
theorem Waiting.take {all : List Pointer} {rest : List Pointer}
    (waiting : Waiting next all reached (p :: rest)) :
    Waiting next all (p :: reached) (next p ++ rest) := by
  intro r hr q hq ha
  rcases List.mem_cons.1 hr with rfl | hr
  · exact .inr (List.mem_append_left _ hq)
  · rcases waiting r hr q hq ha with h | h
    · exact .inl (List.mem_cons_of_mem p h)
    · rcases List.mem_cons.1 h with rfl | h
      · exact .inl List.mem_cons_self
      · exact .inr (List.mem_append_right _ h)

/-- A node that is reached need not wait. -/
theorem Waiting.skip {all : List Pointer} {rest : List Pointer}
    (waiting : Waiting next all reached (p :: rest)) (met : p ∈ all → p ∈ reached) :
    Waiting next all reached rest := by
  intro r hr q hq ha
  rcases waiting r hr q hq ha with h | h
  · exact .inl h
  · rcases List.mem_cons.1 h with rfl | h
    · exact .inl (met ha)
    · exact .inr h

/-- All that the stack holds and that the reached nodes lead to is reached, if it was fresh. -/
theorem spread_closed {all : List Pointer} (kept : ∀ p ∈ all, p ∈ fresh ∨ p ∈ reached)
    (waiting : Waiting next all reached stack) :
    (∀ p ∈ stack, p ∈ all → p ∈ (spread next fresh stack reached).2) ∧
      ∀ p ∈ (spread next fresh stack reached).2, ∀ q ∈ next p, q ∈ all →
        q ∈ (spread next fresh stack reached).2 := by
  fun_induction spread next fresh stack reached with
  | case1 fresh reached =>
    refine ⟨fun p hp => absurd hp List.not_mem_nil, fun p hp q hq ha => ?_⟩
    exact (waiting p hp q hq ha).resolve_right List.not_mem_nil
  | case2 fresh reached p rest hp ih =>
    -- A fresh node: it is reached now, so nothing is lost.
    have still : ∀ q ∈ all, q ∈ fresh.erase p ∨ q ∈ p :: reached := by
      intro q hq
      by_cases h : q = p
      · exact .inr (h ▸ List.mem_cons_self)
      · exact (kept q hq).imp (List.mem_erase_of_ne h).2 (List.mem_cons_of_mem p)
    have grows := (spread_moves next (fresh.erase p) (next p ++ rest) (p :: reached)).2.1
    obtain ⟨done, closed⟩ := ih still waiting.take
    refine ⟨fun q hq ha => ?_, closed⟩
    rcases List.mem_cons.1 hq with rfl | hq
    · exact grows List.mem_cons_self
    · exact done q (List.mem_append_right _ hq) ha
  | case3 fresh reached p rest hp ih =>
    -- A node that is not fresh: if it matters at all, it was reached before.
    have met : p ∈ all → p ∈ reached := fun ha =>
      (kept p ha).resolve_left fun unmet => hp (by simpa using unmet)
    obtain ⟨done, closed⟩ := ih kept (waiting.skip met)
    refine ⟨fun q hq ha => ?_, closed⟩
    rcases List.mem_cons.1 hq with rfl | hq
    · exact (spread_moves next fresh rest reached).2.1 (met ha)
    · exact done q hq ha

/-- From a stack, all is reached that can be reached along fresh nodes. -/
theorem spread_reaches (next : Pointer → List Pointer) (fresh stack : List Pointer) :
    (∀ p ∈ stack, p ∈ fresh → p ∈ (spread next fresh stack []).2) ∧
      ∀ p ∈ (spread next fresh stack []).2, ∀ q ∈ next p, q ∈ fresh →
        q ∈ (spread next fresh stack []).2 :=
  spread_closed (fun _ h => .inl h) fun _ h => absurd h List.not_mem_nil

/-- What is reached is no longer fresh. -/
theorem spread_apart (nodup : fresh.Nodup) (hp : p ∈ (spread next fresh stack []).2) :
    p ∉ (spread next fresh stack []).1 :=
  spread_disjoint nodup (fun _ h => absurd h List.not_mem_nil) p hp

/-- A fresh start is itself reached. -/
theorem start_not_left (nodup : fresh.Nodup) (hp : p ∈ fresh) :
    p ∉ (spread next fresh [p] []).1 :=
  spread_apart nodup ((spread_reaches next fresh [p]).1 p List.mem_cons_self hp)

/-! ## Parts -/

/-- Each of two nodes can be reached from the other. -/
def Mutual (next : Pointer → List Pointer) (p q : Pointer) : Prop :=
  Relation.ReflTransGen (fun p q => q ∈ next p) p q ∧
    Relation.ReflTransGen (fun p q => q ∈ next p) q p

/-- Nodes that can be reached from each other are so over a third one, too. -/
theorem Mutual.trans {r : Pointer} (h : Mutual next p q) (h' : Mutual next q r) :
    Mutual next p r :=
  ⟨h.1.trans h'.1, h'.2.trans h.2⟩

/-- To be mutual is symmetric. -/
theorem Mutual.symm (h : Mutual next p q) : Mutual next q p :=
  ⟨h.2, h.1⟩

/-- With a node, all nodes that it can reach and that can reach it. -/
def Whole (next : Pointer → List Pointer) (nodes : List Pointer) : Prop :=
  ∀ p ∈ nodes, ∀ q, Mutual next p q → q ∈ nodes

/-- A part has all nodes that are mutual with one of it, if those were fresh. -/
theorem whole_spread (whole : Whole next fresh) (hp : p ∈ (spread next fresh stack []).2)
    (hf : p ∈ fresh) (h : Mutual next p q) : q ∈ (spread next fresh stack []).2 := by
  have closed := (spread_reaches next fresh stack).2
  obtain ⟨there, back⟩ := h
  -- Every node on the way is mutual with the first one, and so it was fresh.
  induction there with
  | refl => exact hp
  | @tail b c hpb hbc ih =>
    have mutual_b : Mutual next p b := ⟨hpb, .head hbc back⟩
    have mutual_c : Mutual next p c := ⟨hpb.tail hbc, back⟩
    exact closed b (ih mutual_b.2) c hbc (whole p hf c mutual_c)

/-- What is left over after a part is whole again. -/
theorem whole_left (nodup : fresh.Nodup) (whole : Whole next fresh) :
    Whole next (spread next fresh stack []).1 := by
  obtain ⟨sub, _, left⟩ := spread_moves next fresh stack []
  intro p hp q h
  have hf := sub.subset hp
  rcases left q (whole p hf q h) with hq | hq
  · exact hq
  · have hp' := whole_spread whole hq (whole p hf q h) h.symm
    exact absurd hp (spread_apart nodup hp')

/-- Every fresh node that is started from comes into some part, with all nodes that are mutual with
it. -/
theorem mem_parts {starts : List Pointer} (nodup : fresh.Nodup) (whole : Whole next fresh)
    (hs : p ∈ starts) (hf : p ∈ fresh) :
    ∃ part ∈ parts next starts fresh, p ∈ part ∧ ∀ q, Mutual next p q → q ∈ part := by
  induction starts generalizing fresh with
  | nil => exact absurd hs List.not_mem_nil
  | cons start rest ih =>
    unfold parts
    split
    · next hstart =>
      obtain ⟨sub, _, left⟩ := spread_moves next fresh [start] []
      -- `p` is still fresh when the first part is complete.
      rcases left p hf with hp | hp
      · have ne : p ≠ start := by
          rintro rfl
          exact start_not_left nodup hf hp
        have hrest : p ∈ rest := (List.mem_cons.1 hs).resolve_left ne
        obtain ⟨part, hpart, mem⟩ :=
          ih (nodup.sublist sub) (whole_left nodup whole) hrest hp
        exact ⟨part, List.mem_cons_of_mem _ hpart, mem⟩
      · -- `p` is in the first part, and so is every node that is mutual with it.
        exact ⟨_, List.mem_cons_self, hp, fun q h => whole_spread whole hp hf h⟩
    · -- The start is not fresh, so it is not `p`.
      next hstart =>
      refine ih nodup whole ?_ hf
      rcases List.mem_cons.1 hs with rfl | h
      · exact absurd (by simpa using hf) hstart
      · exact h

/-! ## Cycles -/

variable {g : Graph}

/-- Every node is in a component, with all nodes that are mutual with it. -/
theorem mem_components (joined : g.Joined) (nodup : g.pointers.Nodup) (hp : p ∈ g.pointers) :
    ∃ component ∈ g.components, p ∈ component ∧
      ∀ q, Mutual (g.step .outward) p q → q ∈ component := by
  refine mem_parts nodup ?_ (mem_finishAll (.inr ⟨hp, hp⟩)) hp
  intro a ha b h
  rcases Relation.ReflTransGen.cases_tail h.1 with rfl | ⟨c, _, hcb⟩
  · exact ha
  · exact (joined.of_leads hcb).2

/-- A component is a cycle if it has a node that depends on itself. -/
theorem exists_cycle? {component : List Pointer} (id : Nat) (hp : p ∈ component)
    (here : p ∈ g.pointers) (whole : ∀ q, Mutual (g.step .outward) p q → q ∈ component)
    (h : g.Depends p p) : ∃ cycle, g.cycle? id component = some cycle ∧ p ∈ cycle.members := by
  match component with
  | [] => exact absurd hp List.not_mem_nil
  | [a] =>
    obtain rfl := List.mem_singleton.1 hp
    -- The first step on the way back leads to the node itself: there is no other one.
    obtain ⟨b, step, back⟩ := Relation.TransGen.head'_iff.1 h
    have same := List.mem_singleton.1 (whole b ⟨.single step, back⟩)
    subst same
    have loop : b ∈ g.step .outward b := step
    exact ⟨⟨id, [b], true⟩, by simp [cycle?, loop], List.mem_singleton.2 rfl⟩
  | a :: b :: rest =>
    -- Two nodes or more are a cycle.
    exact ⟨_, rfl, List.mem_filter.2 ⟨here, by simpa using hp⟩⟩

/-- Only the number of a cycle depends on the number it is given. -/
theorem cycle?_eq_map (g : Graph) (id : Nat) (component : List Pointer) :
    g.cycle? id component = (g.cycle? 0 component).map fun cycle => { cycle with id } := by
  match component with
  | [] => rfl
  | [p] =>
    by_cases loop : p ∈ g.step .outward p
    · simp [cycle?, loop]
    · simp [cycle?, loop]
  | _ :: _ :: _ => rfl

/-- The cycles that are collected are numbered on from those found before. -/
theorem collect_eq (g : Graph) (found : List Cycle) (components : List (List Pointer)) :
    g.collect found components =
      found ++ (components.filterMap (g.cycle? 0)).mapIdx fun i cycle =>
        { cycle with id := found.length + i } := by
  induction components generalizing found with
  | nil => simp [collect]
  | cons component rest ih =>
    rw [collect, ih, cycle?_eq_map]
    cases h : g.cycle? 0 component with
    | none => simp [h]
    | some cycle => simp [h, Nat.add_comm, Nat.add_left_comm]

/-- The cycles are the components that are cycles, each with its place as its number. -/
theorem getElem?_cycles (g : Graph) (i : Nat) :
    g.cycles[i]? = (g.components.filterMap (g.cycle? 0))[i]?.map fun cycle =>
      { cycle with id := i } := by
  simp [cycles, collect_eq]

/-- The number of a cycle is its place in the list. -/
theorem id_of_getElem?_cycles {i : Nat} {cycle : Cycle} (h : g.cycles[i]? = some cycle) :
    cycle.id = i := by
  rw [getElem?_cycles] at h
  obtain ⟨_, _, rfl⟩ := Option.map_eq_some_iff.1 h
  rfl

/-- A component that is a cycle is among the cycles, with its place as its number. -/
theorem exists_getElem?_cycles {component : List Pointer} {cycle : Cycle}
    (mem : component ∈ g.components) (h : g.cycle? 0 component = some cycle) :
    ∃ i, g.cycles[i]? = some { cycle with id := i } := by
  obtain ⟨i, hi⟩ := List.mem_iff_getElem?.1 (List.mem_filterMap.2 ⟨component, mem, h⟩)
  exact ⟨i, by rw [getElem?_cycles, hi, Option.map_some]⟩

/-! ## Members -/

variable {cycles : List Cycle} {id : Nat}

/-- Each member of a cycle is entered with the number of the cycle. -/
theorem mem_membership :
    (p, id) ∈ membership cycles ↔ ∃ cycle ∈ cycles, p ∈ cycle.members ∧ cycle.id = id := by
  simp [membership]

/-- A node is cyclic if a cycle has it. -/
theorem isCyclic_iff : isCyclic cycles p = true ↔ ∃ cycle ∈ cycles, p ∈ cycle.members := by
  rw [isCyclic, List.lookup_isSome_iff]
  constructor
  · rintro ⟨⟨q, id⟩, entry, same⟩
    obtain rfl : p = q := by simpa using same
    obtain ⟨cycle, mem, member, _⟩ := mem_membership.1 entry
    exact ⟨cycle, mem, member⟩
  · rintro ⟨cycle, mem, member⟩
    exact ⟨(p, cycle.id), mem_membership.2 ⟨cycle, mem, member, rfl⟩, by simp⟩

/-- A member of a cycle has a cycle, and is a member of it. -/
theorem exists_cycleOf?_of_mem {cycle : Cycle} (mem : cycle ∈ g.cycles)
    (member : p ∈ cycle.members) :
    ∃ i found, cycleOf? g.cycles p = some (i, found) ∧ g.cycles[i]? = some found ∧
      p ∈ found.members := by
  obtain ⟨i, entered⟩ := Option.isSome_iff_exists.1 (isCyclic_iff.2 ⟨cycle, mem, member⟩)
  obtain ⟨before, after, split, _⟩ := List.lookup_eq_some_iff.1 entered
  obtain ⟨found, hfound, here, rfl⟩ := mem_membership.1 (split ▸ List.mem_append_cons_self)
  obtain ⟨place, at_place⟩ := List.mem_iff_getElem?.1 hfound
  rw [id_of_getElem?_cycles at_place] at entered
  exact ⟨place, found, by simp [cycleOf?, entered, at_place], at_place, here⟩

/-- A node that depends on itself is a member of a cycle. -/
theorem exists_mem_of_depends (joined : g.Joined) (nodup : g.pointers.Nodup) (h : g.Depends p p) :
    ∃ cycle ∈ g.cycles, p ∈ cycle.members := by
  have here := (joined.of_depends h).1
  obtain ⟨component, hcomponent, hp, whole⟩ := mem_components joined nodup here
  obtain ⟨cycle, hcycle, member⟩ := exists_cycle? 0 hp here whole h
  obtain ⟨i, hi⟩ := exists_getElem?_cycles hcomponent hcycle
  exact ⟨_, List.mem_of_getElem? hi, member⟩

/-- A node that depends on itself is in a cycle. -/
theorem isSome_cycleOf_of_depends (joined : g.Joined) (nodup : g.pointers.Nodup)
    (h : g.Depends p p) : (cycleOf? g.cycles p).isSome = true := by
  obtain ⟨cycle, mem, member⟩ := exists_mem_of_depends joined nodup h
  obtain ⟨_, _, found, _⟩ := exists_cycleOf?_of_mem mem member
  rw [found, Option.isSome_some]

end DesignTokens.Graph
