import DesignTokens.Proofs.Graph.Cycles
import DesignTokens.Proofs.Graph.Dependencies
import DesignTokens.Proofs.Graph.Finishing
import Mathlib.Data.List.Pairwise

/-!
# DesignTokens.Proofs.Graph.Components — the cycles are the groups of nodes that reach each other

1. **Spreading** (`spread_induct`): what is reached from the stack is reached along fresh nodes.
2. **Parts** (`mutual_of_mem_parts`): from the latest node of a settled order, only nodes are
   reached that lead back to it; so each part has only nodes that are mutual.
3. **Components** (`mem_component_iff`): a node is in one component with those it is mutual with.
4. **Cycles** (`cycles_exact`).
-/

namespace DesignTokens.Graph

variable {next back : Pointer → List Pointer} {fresh stack reached starts : List Pointer}
  {p q : Pointer}

/-! ## Spreading -/

/-- What holds of the fresh nodes on the stack, and of the fresh nodes one step from one of which it
holds, holds of all that is reached. -/
theorem spread_induct {P : Pointer → Prop} (here : ∀ p ∈ stack, p ∈ fresh → P p)
    (step : ∀ p, P p → ∀ q ∈ next p, q ∈ fresh → P q) (before : ∀ p ∈ reached, P p) :
    ∀ p ∈ (spread next fresh stack reached).2, P p := by
  -- The conditions are on fresh nodes only, so they stay when one is taken.
  fun_induction spread next fresh stack reached with
  -- nothing left to do
  | case1 fresh reached => exact before
  | case2 fresh reached p rest hp ih =>
    -- a fresh node: it is reached now, and its neighbours are on the stack
    have top : P p := here p List.mem_cons_self (by simpa using hp)
    refine ih ?_ (fun a ha b hb unmet => step a ha b hb (List.mem_of_mem_erase unmet)) ?_
    · intro a ha unmet
      rcases List.mem_append.1 ha with ha | ha
      · exact step p top a ha (List.mem_of_mem_erase unmet)
      · exact here a (List.mem_cons_of_mem p ha) (List.mem_of_mem_erase unmet)
    · intro a ha
      rcases List.mem_cons.1 ha with rfl | ha
      · exact top
      · exact before a ha
  | case3 fresh reached p rest hp ih =>
    -- a node that is not fresh any more
    exact ih (fun a ha => here a (List.mem_cons_of_mem p ha)) step before

/-- What is reached was fresh. -/
theorem spread_subset : (spread next fresh stack []).2 ⊆ fresh := by
  intro p hp
  exact spread_induct (fun _ _ h => h) (fun _ _ _ _ h => h) (fun _ h => absurd h List.not_mem_nil)
    p hp

/-- Nothing is reached twice. -/
theorem nodup_spread (nodup : fresh.Nodup) (once : reached.Nodup)
    (apart : ∀ p ∈ reached, p ∉ fresh) : (spread next fresh stack reached).2.Nodup := by
  fun_induction spread next fresh stack reached with
  | case1 fresh reached => exact once
  | case2 fresh reached p rest hp ih =>
    have hp : p ∈ fresh := by simpa using hp
    refine ih (nodup.erase p) (List.nodup_cons.2 ⟨fun mem => apart p mem hp, once⟩) ?_
    intro q hq
    -- What is reached is not fresh, the new node included.
    rcases List.mem_cons.1 hq with rfl | hq
    · exact nodup.not_mem_erase
    · exact fun unmet => apart q hq (List.mem_of_mem_erase unmet)
  | case3 fresh reached p rest hp ih => exact ih nodup once apart

/-! ## Parts -/

/-- A path can be gone back, by steps the other way. -/
theorem Path.reverse (turn : ∀ a b, b ∈ next a ↔ a ∈ back b) (h : Path back p q) :
    Path next q p := by
  induction h with
  | refl => exact .refl
  | tail _ step ih => exact .head ((turn _ _).2 step) ih

/-- Where the start is the latest node of a settled order against the steps, and all fresh nodes are
in this order, only nodes are reached that lead back to the start. -/
theorem mutual_of_mem_spread {start : Pointer} {earlier : List Pointer}
    (turn : ∀ a b, b ∈ next a ↔ a ∈ back b) (settled : Settled back (start :: earlier))
    (sub : fresh ⊆ start :: earlier) (hp : p ∈ (spread next fresh [start] []).2) :
    Mutual next start p := by
  have ways : ∀ p ∈ (spread next fresh [start] []).2,
      Path next start p ∧ PathIn back (start :: earlier) p start := by
    refine spread_induct ?_ ?_ fun _ h => absurd h List.not_mem_nil
    · -- the start
      intro a ha _
      obtain rfl := List.mem_singleton.1 ha
      exact ⟨.refl, .refl⟩
    · -- a neighbour of what was reached, before which nothing is cut off
      rintro a ⟨there, home⟩ b hb unmet
      exact ⟨there.tail hb, .head ⟨sub unmet, (turn a b).1 hb⟩ home⟩
  obtain ⟨there, home⟩ := ways p hp
  exact ⟨there, (settled.1 p home.cut).reverse turn⟩

/-- The nodes of one part are mutual, if the parts are started in a settled order against the
steps. -/
theorem mutual_of_mem_parts (turn : ∀ a b, b ∈ next a ↔ a ∈ back b) (nodup : fresh.Nodup)
    (settled : Settled back starts) (sub : fresh ⊆ starts) :
    ∀ part ∈ parts next starts fresh, ∀ p ∈ part, ∀ q ∈ part, Mutual next p q := by
  induction starts generalizing fresh with
  | nil => exact fun part h => absurd h List.not_mem_nil
  | cons start rest ih =>
    unfold parts
    split
    · next hstart =>
      obtain ⟨kept, _, _⟩ := spread_moves next fresh [start] []
      -- Two nodes of the first part can both be reached from its start, and back.
      intro part hpart p hp q hq
      rcases List.mem_cons.1 hpart with rfl | hpart
      · exact (mutual_of_mem_spread turn settled sub hp).symm.trans
          (mutual_of_mem_spread turn settled sub hq)
      · -- The start itself was reached.
        refine ih (nodup.sublist kept) settled.2 ?_ part hpart p hp q hq
        intro a ha
        refine (List.mem_cons.1 (sub (kept.subset ha))).resolve_left ?_
        rintro rfl
        exact start_not_left nodup (kept.subset ha) ha
    · next stale =>
      -- The start is in an earlier part.
      refine ih nodup settled.2 fun a ha => ?_
      refine (List.mem_cons.1 (sub ha)).resolve_left ?_
      rintro rfl
      exact stale (by simpa using ha)

/-- The parts have fresh nodes, no node in two parts or in one part twice. -/
theorem parts_apart (next : Pointer → List Pointer) (starts : List Pointer) (nodup : fresh.Nodup) :
    (∀ part ∈ parts next starts fresh, part.Nodup ∧ part ⊆ fresh) ∧
      (parts next starts fresh).Pairwise List.Disjoint := by
  induction starts generalizing fresh with
  | nil => exact ⟨fun part h => absurd h List.not_mem_nil, List.Pairwise.nil⟩
  | cons start rest ih =>
    unfold parts
    split
    · obtain ⟨kept, _, _⟩ := spread_moves next fresh [start] []
      obtain ⟨later, disjoint⟩ := ih (nodup.sublist kept)
      constructor
      · -- Each part holds what is fresh, and holds it once.
        intro part hpart
        rcases List.mem_cons.1 hpart with rfl | hpart
        · exact ⟨nodup_spread nodup List.nodup_nil fun _ h => absurd h List.not_mem_nil,
            spread_subset⟩
        · obtain ⟨once, sub⟩ := later part hpart
          exact ⟨once, fun a ha => kept.subset (sub ha)⟩
      · -- What the first part takes is not fresh any more, so no later part has it.
        refine List.pairwise_cons.2 ⟨fun part hpart a ha here => ?_, disjoint⟩
        exact spread_apart nodup ha ((later part hpart).2 here)
    · exact ih nodup

/-! ## Components -/

variable {g : Graph} {component component' : List Pointer}

/-- The finishing order against the references has every node, and is settled. -/
theorem settled_order (nodup : g.pointers.Nodup) :
    Settled (g.step .inward) (finishAll (g.step .inward) g.pointers g.pointers []) ∧
      g.pointers ⊆ finishAll (g.step .inward) g.pointers g.pointers [] :=
  ⟨settled_finishAll nodup (fun _ h => absurd h List.not_mem_nil) trivial,
    fun _ hp => mem_finishAll (.inr ⟨hp, hp⟩)⟩

/-- No node is in two components. -/
theorem disjoint_components (nodup : g.pointers.Nodup) : g.components.Pairwise List.Disjoint :=
  (parts_apart _ _ nodup).2

/-- A component has each of its nodes once. -/
theorem nodup_of_mem_components (nodup : g.pointers.Nodup) (h : component ∈ g.components) :
    component.Nodup ∧ component ⊆ g.pointers :=
  (parts_apart _ _ nodup).1 component h

/-- Two components that have a node in common are one. -/
theorem eq_of_mem_components (nodup : g.pointers.Nodup) (h : component ∈ g.components)
    (h' : component' ∈ g.components) (hp : p ∈ component) (hp' : p ∈ component') :
    component = component' := by
  have symmetric : Std.Symm (@List.Disjoint Pointer) := ⟨fun _ _ h p hp hp' => h hp' hp⟩
  by_contra ne
  exact (disjoint_components nodup).forall h h' ne hp hp'

/-- A node is in one component with the nodes that it is mutual with. -/
theorem mem_component_iff (joined : g.Joined) (nodup : g.pointers.Nodup)
    (h : component ∈ g.components) (hp : p ∈ component) :
    q ∈ component ↔ Mutual (g.step .outward) p q := by
  obtain ⟨settled, all⟩ := settled_order nodup
  constructor
  · exact mutual_of_mem_parts (fun _ _ => mem_step_inward.symm) nodup settled all component h p hp q
  · intro both
    have here := (nodup_of_mem_components nodup h).2 hp
    obtain ⟨whole, hwhole, mem, all⟩ := mem_components joined nodup here
    exact eq_of_mem_components nodup hwhole h mem hp ▸ all q both

/-! ## Cycles -/

variable {cycle cycle' : Cycle} {i j : Nat}

/-- The cycle that a component is. -/
structure Cycle.Of (g : Graph) (component : List Pointer) (cycle : Cycle) : Prop where
  mem_iff : ∀ p, p ∈ cycle.members ↔ p ∈ component
  sublist : cycle.members.Sublist g.pointers
  self_iff : cycle.selfReferential = true ↔ ∃ p, cycle.members = [p] ∧ g.Leads p p
  loops : (∃ p, component = [p] ∧ g.Leads p p) ∨ ∃ p ∈ component, ∃ q ∈ component, p ≠ q

/-- A component that makes a cycle makes one of just its nodes. -/
theorem Cycle.Of.of_cycle? (once : component.Nodup) (sub : component ⊆ g.pointers) {id : Nat}
    (h : g.cycle? id component = some cycle) : Cycle.Of g component cycle := by
  match component with
  | [] => cases h
  | [p] =>
    -- A node on its own is a cycle only if it refers to itself.
    have here : p ∈ g.pointers := sub List.mem_cons_self
    by_cases loop : p ∈ g.step .outward p
    · obtain rfl : (⟨id, [p], true⟩ : Cycle) = cycle := by simpa [cycle?, loop] using h
      exact ⟨fun _ => Iff.rfl, List.singleton_sublist.2 here, by simpa [Leads] using loop,
        .inl ⟨p, rfl, loop⟩⟩
    · simp [cycle?, loop] at h
  | p :: q :: rest =>
    -- Two nodes that depend on each other are always one.
    have ne : p ≠ q := by
      rintro rfl
      exact (List.nodup_cons.1 once).1 List.mem_cons_self
    obtain rfl : (⟨id, g.pointers.filter (p :: q :: rest).contains, false⟩ : Cycle) = cycle :=
      Option.some.inj h
    have mem_iff : ∀ a, a ∈ g.pointers.filter (p :: q :: rest).contains ↔ a ∈ p :: q :: rest := by
      intro a
      rw [List.mem_filter, List.contains_iff_mem, and_iff_right_of_imp fun mem => sub mem]
    refine ⟨mem_iff, List.filter_sublist, ?_, .inr ⟨p, by simp, q, by simp, ne⟩⟩
    refine iff_of_false Bool.false_ne_true ?_
    rintro ⟨a, single, _⟩
    simp only at single
    have hp := (mem_iff p).2 (by simp)
    have hq := (mem_iff q).2 (by simp)
    rw [single, List.mem_singleton] at hp hq
    exact ne (hp.trans hq.symm)

/-- Every cycle of a graph comes from a component. -/
theorem exists_component (nodup : g.pointers.Nodup) (h : g.cycles[i]? = some cycle) :
    ∃ component ∈ g.components, Cycle.Of g component cycle := by
  rw [getElem?_cycles] at h
  obtain ⟨raw, hraw, rfl⟩ := Option.map_eq_some_iff.1 h
  obtain ⟨component, mem, of⟩ := List.mem_filterMap.1 (List.mem_of_getElem? hraw)
  obtain ⟨once, sub⟩ := nodup_of_mem_components nodup mem
  obtain ⟨mem_iff, sublist, self_iff, loops⟩ := Cycle.Of.of_cycle? once sub of
  exact ⟨component, mem, mem_iff, sublist, self_iff, loops⟩

/-- A cycle has a member. -/
theorem Cycle.Of.members_ne_nil (of : Cycle.Of g component cycle) : cycle.members ≠ [] := by
  rcases of.loops with ⟨p, rfl, _⟩ | ⟨p, hp, _⟩
  · exact List.ne_nil_of_mem ((of.mem_iff p).2 List.mem_cons_self)
  · exact List.ne_nil_of_mem ((of.mem_iff p).2 hp)

/-- A node of a component that is a cycle depends on itself. -/
theorem Cycle.Of.depends (of : Cycle.Of g component cycle)
    (both : ∀ p ∈ component, ∀ q ∈ component, Mutual (g.step .outward) p q)
    (hp : p ∈ component) : g.Depends p p := by
  -- a node that refers to itself
  rcases of.loops with ⟨a, rfl, loop⟩ | ⟨a, ha, b, hb, ne⟩
  · obtain rfl := List.mem_singleton.1 hp
    exact .single loop
  · -- One of the two is another node, and the way there and back is not empty.
    have other : ∃ c ∈ component, p ≠ c := by
      by_cases same : p = a
      · exact ⟨b, hb, same ▸ ne⟩
      · exact ⟨a, ha, same⟩
    obtain ⟨c, hc, apart⟩ := other
    obtain ⟨there, home⟩ := both p hp c hc
    have depends := (Relation.reflTransGen_iff_eq_or_transGen.1 there).resolve_left apart.symm
    exact depends.trans_left home

/-- No node is a member of two cycles. -/
theorem disjoint_cycles (nodup : g.pointers.Nodup) :
    g.cycles.Pairwise fun c d => c.members.Disjoint d.members := by
  -- The places of the cycles do not matter for their members.
  have members : g.cycles.map (·.members) =
      (g.components.filterMap (g.cycle? 0)).map (·.members) :=
    List.ext_getElem? fun i => by simp [getElem?_cycles, Function.comp_def]
  -- The members of a cycle are those of its component, and components share none.
  have kept : ∀ {component cycle}, component ∈ g.components →
      g.cycle? 0 component = some cycle → ∀ p ∈ cycle.members, p ∈ component := by
    intro component cycle mem of p hp
    obtain ⟨once, sub⟩ := nodup_of_mem_components nodup mem
    exact ((Cycle.Of.of_cycle? once sub of).mem_iff p).1 hp
  rw [← List.pairwise_map, members, List.pairwise_map, List.pairwise_filterMap]
  refine (disjoint_components nodup).imp_of_mem fun hc hd apart c of d of' p hp hp' => ?_
  exact apart (kept hc of p hp) (kept hd of' p hp')

/-- Two cycles that have a member in common are one. -/
theorem eq_of_mem_members (nodup : g.pointers.Nodup) (h : g.cycles[i]? = some cycle)
    (h' : g.cycles[j]? = some cycle') (hp : p ∈ cycle.members) (hp' : p ∈ cycle'.members) :
    i = j := by
  have apart := List.pairwise_iff_getElem.1 (disjoint_cycles nodup)
  obtain ⟨hi, rfl⟩ := List.getElem?_eq_some_iff.1 h
  obtain ⟨hj, rfl⟩ := List.getElem?_eq_some_iff.1 h'
  rcases Nat.lt_trichotomy i j with lt | same | gt
  · exact absurd hp' (apart i j hi hj lt hp)
  · exact same
  · exact absurd hp (apart j i hj hi gt hp')

/-- The cycle of a node is the one that it is a member of. -/
theorem cycleOf?_eq_some_iff (nodup : g.pointers.Nodup) :
    cycleOf? g.cycles p = some (i, cycle) ↔ g.cycles[i]? = some cycle ∧ p ∈ cycle.members := by
  constructor
  · intro h
    -- The first place that is entered for `p` is that of a cycle that has `p`.
    obtain ⟨id, entered, _⟩ := Option.bind_eq_some_iff.1 h
    obtain ⟨c, hc, member⟩ := isCyclic_iff.1 (Option.isSome_iff_exists.2 ⟨id, entered⟩)
    obtain ⟨k, found, hfound, at_k, here⟩ := exists_cycleOf?_of_mem hc member
    cases h.symm.trans hfound
    exact ⟨at_k, here⟩
  · -- Only one cycle has `p`, so there is only one place.
    rintro ⟨at_i, member⟩
    obtain ⟨k, found, hfound, at_k, member'⟩ :=
      exists_cycleOf?_of_mem (List.mem_of_getElem? at_i) member
    obtain rfl := eq_of_mem_members nodup at_i at_k member member'
    obtain rfl := Option.some.inj (at_i.symm.trans at_k)
    exact hfound

/-- The members of cycles are the nodes that depend on themselves. -/
theorem isCyclic_iff_depends (joined : g.Joined) (nodup : g.pointers.Nodup) :
    isCyclic g.cycles p = true ↔ g.Depends p p := by
  rw [isCyclic_iff]
  constructor
  · rintro ⟨cycle, mem, member⟩
    obtain ⟨i, at_i⟩ := List.mem_iff_getElem?.1 mem
    obtain ⟨component, hcomponent, of⟩ := exists_component nodup at_i
    exact of.depends (fun a ha b hb => (mem_component_iff joined nodup hcomponent ha).1 hb)
      ((of.mem_iff p).1 member)
  · exact exists_mem_of_depends joined nodup

/-- A node is in the cycle of another one if each can be reached from the other. -/
theorem mem_members_iff (joined : g.Joined) (nodup : g.pointers.Nodup)
    (h : g.cycles[i]? = some cycle) (hp : p ∈ cycle.members) :
    q ∈ cycle.members ↔ g.Reaches p q ∧ g.Reaches q p := by
  obtain ⟨component, hcomponent, of⟩ := exists_component nodup h
  rw [of.mem_iff, mem_component_iff joined nodup hcomponent ((of.mem_iff p).1 hp)]
  rfl

/-- The analysis of a document finds exactly the reference cycles. A node is cyclic if references
lead from it back to it; two cyclic nodes have the same cycle if each can be reached from the other.
No node is a member of two cycles; the members are in document order, each once; the number of a
cycle is its place; and a cycle is self-referential if it is one node that refers to itself. -/
theorem cycles_exact {tree : Tree} {g : Graph} (built : (ofTree tree).graph = some g) :
    (∀ p, isCyclic g.cycles p = true ↔ g.Depends p p) ∧
      (∀ p q, isCyclic g.cycles p = true → isCyclic g.cycles q = true →
        ∃ found, cycleOf? g.cycles p = some found ∧
          (cycleOf? g.cycles q = some found ↔ g.Reaches p q ∧ g.Reaches q p)) ∧
      (∀ p i cycle, cycleOf? g.cycles p = some (i, cycle) ↔
        g.cycles[i]? = some cycle ∧ p ∈ cycle.members) ∧
      g.cycles.Pairwise (fun c d => c.members.Disjoint d.members) ∧
      ∀ (i : Nat) (cycle : Cycle), g.cycles[i]? = some cycle →
        cycle.id = i ∧ cycle.members ≠ [] ∧ cycle.members.Nodup ∧ cycle.members.Sublist g.pointers ∧
          (cycle.selfReferential = true ↔ ∃ p, cycle.members = [p] ∧ g.Leads p p) := by
  have joined := joined_ofTree built
  have nodup := nodup_pointers_ofTree built
  refine ⟨fun p => isCyclic_iff_depends joined nodup, fun p q hp _ => ?_,
    fun p i cycle => cycleOf?_eq_some_iff nodup, disjoint_cycles nodup, fun i cycle at_i => ?_⟩
  · -- Two nodes are in the same cycle exactly if they lead to each other.
    obtain ⟨cycle, mem, member⟩ := isCyclic_iff.1 hp
    obtain ⟨i, found, hfound, at_i, here⟩ := exists_cycleOf?_of_mem mem member
    refine ⟨(i, found), hfound, ?_⟩
    rw [cycleOf?_eq_some_iff nodup, ← mem_members_iff joined nodup at_i here]
    exact and_iff_right at_i
  · -- Each cycle comes from a component.
    obtain ⟨component, _, of⟩ := exists_component nodup at_i
    exact ⟨id_of_getElem?_cycles at_i, of.members_ne_nil, nodup.sublist of.sublist, of.sublist,
      of.self_iff⟩

/-- Where two nodes lead to each other and a third one to itself, there are two cycles. The node
from which references lead to both of them is in none. -/
theorem ringed_cycles_exact :
    ∃ g, (ofTree Ringed.tree).graph = some g ∧
      isCyclic g.cycles (Sample.place "first") = true ∧
      isCyclic g.cycles (Sample.place "alone") = true ∧
      isCyclic g.cycles (Sample.place "entry") = false ∧
      cycleOf? g.cycles (Sample.place "first") = cycleOf? g.cycles (Sample.place "second") ∧
      cycleOf? g.cycles (Sample.place "first") ≠ cycleOf? g.cycles (Sample.place "alone") := by
  obtain ⟨g, built, pointers, plain, second, alone, first, entry⟩ := Ringed.exists_graph
  obtain ⟨cyclic, same, _⟩ := cycles_exact built
  have there : g.Leads (Sample.place "first") (Sample.place "second") := by simp [Leads, first]
  have home : g.Leads (Sample.place "second") (Sample.place "first") := by simp [Leads, second]
  have loop : g.Leads (Sample.place "alone") (Sample.place "alone") := by simp [Leads, alone]
  have hfirst := (cyclic _).2 (.tail (.single there) home)
  have hsecond := (cyclic _).2 (.tail (.single home) there)
  have halone := (cyclic _).2 (.single loop)
  -- No reference leads to `entry`, and from `alone` none leads away.
  have steps : ∀ a b, g.Leads a b →
      b ≠ Sample.place "entry" ∧ (a = Sample.place "alone" → b = Sample.place "alone") := by
    intro a b h
    have ha := ((joined_ofTree built).of_leads h).1
    simp only [pointers, List.mem_cons, List.not_mem_nil, or_false] at ha
    rcases ha with rfl | rfl | rfl | rfl | rfl <;>
      simp only [Leads, plain, second, alone, first, entry, List.mem_cons, List.not_mem_nil,
        or_false] at h
    · subst h
      simp
    · subst h
      simp
    · subst h
      simp
    · rcases h with rfl | rfl | rfl <;> simp
  refine ⟨g, built, hfirst, halone, ?_, ?_, ?_⟩
  · -- No reference leads to `entry`, so it does not depend on itself.
    rw [← Bool.not_eq_true, cyclic]
    intro h
    obtain ⟨b, _, last⟩ := Relation.TransGen.tail'_iff.1 h
    exact (steps b _ last).1 rfl
  · -- `first` and `second` lead to each other.
    obtain ⟨found, hfound, iff⟩ := same _ _ hfirst hsecond
    rw [hfound, iff.2 ⟨.single there, .single home⟩]
  · -- What can be reached from `alone` is `alone`.
    obtain ⟨found, hfound, iff⟩ := same _ _ halone hfirst
    intro equal
    have reach := (iff.1 (equal.trans hfound)).1
    have stays : ∀ b, g.Reaches (Sample.place "alone") b → b = Sample.place "alone" := by
      intro b reach
      induction reach with
      | refl => rfl
      | tail _ step ih => exact (steps _ _ step).2 ih
    exact absurd (stays _ reach) (by simp)

end DesignTokens.Graph
