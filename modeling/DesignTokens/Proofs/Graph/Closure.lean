import DesignTokens.Proofs.Graph.Rounds

/-!
# DesignTokens.Proofs.Graph.Closure — the closure has what can be reached, at its distance

1. **Steps** (`Graph.Leads`), and paths of them (`Graph.Reaches`, `Graph.Depends`).
2. **Closures** (`mem_closure_iff`): the other nodes that can be reached, each at its distance, each
   once (`nodup_closure`), the nearest first (`pairwise_closure`).
-/

namespace DesignTokens.Graph

/-! ## Steps -/

/-- A reference leads from the first node to the second. -/
def Leads (g : Graph) (p q : Pointer) : Prop :=
  q ∈ g.step .outward p

/-- References lead from the first node to the second, in any number of steps. -/
abbrev Reaches (g : Graph) : Pointer → Pointer → Prop :=
  Relation.ReflTransGen g.Leads

/-- References lead from the first node to the second, in at least one step. -/
abbrev Depends (g : Graph) : Pointer → Pointer → Prop :=
  Relation.TransGen g.Leads

/-- Edges lead from nodes to nodes. -/
def Joined (g : Graph) : Prop :=
  ∀ e ∈ g.edges, e.source ∈ g.pointers ∧ e.target ∈ g.pointers

variable {g : Graph} {p q : Pointer} {direction : Direction} {limit : Option Nat} {k : Nat}

/-- A node leads to another one if there is an edge between them. -/
theorem leads_iff : g.Leads p q ↔ ∃ e ∈ g.edges, e.source = p ∧ e.target = q := by
  simp [Leads, step, outgoing, and_assoc]

/-- A step against the references goes back along one of them. -/
theorem mem_step_inward : q ∈ g.step .inward p ↔ p ∈ g.step .outward q := by
  simp [step, outgoing, incoming, and_left_comm, and_comm]

/-- The ends of an edge are nodes. -/
theorem Joined.of_leads (joined : g.Joined) (h : g.Leads p q) :
    p ∈ g.pointers ∧ q ∈ g.pointers := by
  obtain ⟨e, he, rfl, rfl⟩ := leads_iff.1 h
  exact joined e he

/-- A step leads from a node to a node, whichever way it goes. -/
theorem Joined.of_step (joined : g.Joined) (h : q ∈ g.step direction p) :
    p ∈ g.pointers ∧ q ∈ g.pointers := by
  cases direction with
  | outward => exact joined.of_leads h
  | inward => exact (joined.of_leads (mem_step_inward.1 h)).symm

/-- Only nodes depend on others, and only on nodes. -/
theorem Joined.of_depends (joined : g.Joined) (h : g.Depends p q) :
    p ∈ g.pointers ∧ q ∈ g.pointers := by
  induction h with
  | single step => exact joined.of_leads step
  | tail _ step ih => exact ⟨ih.1, (joined.of_leads step).2⟩

/-- What has a distance from another node is a node. -/
theorem Joined.of_distance (joined : g.Joined) (h : Distance (g.step direction) p k q)
    (ne : q ≠ p) : q ∈ g.pointers := by
  obtain ⟨n, rfl⟩ := Nat.exists_eq_add_of_le' (h.pos_iff.2 ne)
  obtain ⟨_, _, step⟩ := h.pred
  exact (joined.of_step step).2

/-! ## Closures -/

/-- The search visits the start first, and then what the rounds find. -/
theorem search_start {next : Pointer → List Pointer} {nodes : List Pointer} (nodup : nodes.Nodup)
    (hp : p ∈ nodes) :
    search next limit nodes [(p, 0)] =
      (p, 0) :: rounds next limit (nodes.erase p) (next p) 1 := by
  have within : ¬ limit.any (· < 0) = true := by simp
  rw [search, if_neg within, dif_pos (List.contains_iff_mem.2 hp), List.nil_append,
    search_eq_rounds (nodup.erase p)]

/-- A pointer without a node has an empty closure. -/
theorem closure_of_not_mem (hp : p ∉ g.pointers) : g.closure p direction limit = [] :=
  if_neg (mt List.contains_iff_mem.1 hp)

/-- The rounds never come back to the start, and the nodes that they find are in order already. -/
theorem closure_eq_rounds (nodup : g.pointers.Nodup) (hp : p ∈ g.pointers) :
    g.closure p direction limit =
      rounds (g.step direction) limit (g.pointers.erase p) (g.step direction p) 1 := by
  obtain ⟨_, unmet⟩ :=
    nodup_rounds (g.step direction) limit (g.pointers.erase p) (g.step direction p) 1
  obtain ⟨ordered, _⟩ :=
    pairwise_rounds (g.step direction) limit (g.pointers.erase p) (g.step direction p) 1
  -- The start is taken out of what is left, so no round comes back to it.
  have others : ∀ x ∈ rounds (g.step direction) limit (g.pointers.erase p) (g.step direction p) 1,
      x.1 ≠ p := by
    intro x hx same
    exact nodup.not_mem_erase (same ▸ unmet x.1 (List.mem_map_of_mem hx))
  simp only [closure, List.contains_iff_mem, if_pos hp, search_start nodup hp]
  -- The start is the only entry that is dropped, and the rounds come in order of their distance.
  rw [List.filter_cons_of_neg (by simp), List.filter_eq_self.2 (by simpa using others)]
  exact List.mergeSort_of_pairwise (by simpa using ordered)

/-- The closure of a node has all other nodes that can be reached from it, up to the limit, each at
its distance. -/
theorem mem_closure_iff (joined : g.Joined) (nodup : g.pointers.Nodup) :
    (q, k) ∈ g.closure p direction limit ↔
      q ≠ p ∧ (∀ max ∈ limit, k ≤ max) ∧ Distance (g.step direction) p k q := by
  have inside : ∀ a, ∀ b ∈ g.step direction a, a ∈ g.pointers ∧ b ∈ g.pointers :=
    fun _ _ h => joined.of_step h
  by_cases hp : p ∈ g.pointers
  · rw [closure_eq_rounds nodup hp, mem_rounds_iff inside hp (round_one nodup)]
    -- Within the rounds, a positive distance is the same as another node.
    constructor
    · rintro ⟨far, below, distance⟩
      exact ⟨distance.pos_iff.1 far, below, distance⟩
    · rintro ⟨ne, below, distance⟩
      exact ⟨distance.pos_iff.2 ne, below, distance⟩
  · -- No reference leads away from what is no node.
    rw [closure_of_not_mem hp]
    refine iff_of_false List.not_mem_nil ?_
    rintro ⟨ne, _, distance⟩
    rcases Relation.ReflTransGen.cases_head (exists_way_iff.1 ⟨k, distance.way⟩) with same | first
    · exact ne same.symm
    · obtain ⟨b, step, _⟩ := first
      exact hp (inside p b step).1

/-- The closure has each node once. -/
theorem nodup_closure (nodup : g.pointers.Nodup) (p : Pointer) (direction : Direction)
    (limit : Option Nat) : ((g.closure p direction limit).map (·.1)).Nodup := by
  by_cases hp : p ∈ g.pointers
  · rw [closure_eq_rounds nodup hp]
    exact (nodup_rounds _ _ _ _ _).1
  · rw [closure_of_not_mem hp]
    exact List.nodup_nil

/-- The closure has the nearest nodes first. -/
theorem pairwise_closure (nodup : g.pointers.Nodup) (p : Pointer) (direction : Direction)
    (limit : Option Nat) : (g.closure p direction limit).Pairwise (·.2 ≤ ·.2) := by
  by_cases hp : p ∈ g.pointers
  · rw [closure_eq_rounds nodup hp]
    exact (pairwise_rounds _ _ _ _ _).1
  · rw [closure_of_not_mem hp]
    exact List.Pairwise.nil

/-- What can be reached from a node by a path, and is not the node itself, is in its closure. -/
theorem mem_closure_of_reaches (joined : g.Joined) (nodup : g.pointers.Nodup)
    (h : g.Reaches p q) (ne : q ≠ p) : q ∈ (g.closure p .outward none).map (·.1) := by
  obtain ⟨k, distance⟩ := exists_distance (exists_way_iff.2 h)
  have mem : (q, k) ∈ g.closure p .outward none :=
    (mem_closure_iff joined nodup).2 ⟨ne, by simp, distance⟩
  exact List.mem_map_of_mem mem

end DesignTokens.Graph
