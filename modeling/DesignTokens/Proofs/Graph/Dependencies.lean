import DesignTokens.Proofs.Graph.Links
import DesignTokens.Proofs.Graph.Representation

/-!
# DesignTokens.Proofs.Graph.Dependencies — what a node of a document depends on, and how far away

In the graph of a document, the closure of a node has exactly the other nodes that can be reached
from it, each once and at its distance (`closure_exact`). Looked at from the other end, the distance
is the same.
-/

namespace DesignTokens.Graph

/-- In the graph of a document, the closure of a node has each other node that can be reached from
it, along the references or against them, exactly once and with the length of the shortest ways to
it; those farther away than the limit are left out. The nearest come first. A node is in the closure
of another along the references just as that one is in its closure against them. -/
theorem closure_exact {tree : Tree} {g : Graph} (built : (ofTree tree).graph = some g)
    (p : Pointer) (direction : Direction) (limit : Option Nat) :
    (p ∉ g.pointers → g.closure p direction limit = []) ∧
      (∀ q k, (q, k) ∈ g.closure p direction limit ↔
        q ∈ g.pointers ∧ q ≠ p ∧ 1 ≤ k ∧ (∀ max ∈ limit, k ≤ max) ∧
          Distance (g.step direction) p k q) ∧
      ((g.closure p direction limit).map (·.1)).Nodup ∧
      (g.closure p direction limit).Pairwise (·.2 ≤ ·.2) ∧
      ∀ q k, p ≠ q →
        ((q, k) ∈ g.closure p .outward limit ↔ (p, k) ∈ g.closure q .inward limit) := by
  have joined := joined_ofTree built
  have nodup := nodup_pointers_ofTree built
  refine ⟨closure_of_not_mem, fun q k => ?_, nodup_closure nodup p direction limit,
    pairwise_closure nodup p direction limit, fun q k ne => ?_⟩
  · -- The closure has the nodes at a distance, within the limit, other than the start.
    rw [mem_closure_iff joined nodup]
    constructor
    · rintro ⟨ne, below, distance⟩
      exact ⟨joined.of_distance distance ne, ne, distance.pos_iff.2 ne, below, distance⟩
    · rintro ⟨_, ne, _, below, distance⟩
      exact ⟨ne, below, distance⟩
  · -- Each way can be gone back by the same number of steps, so both closures have it.
    rw [mem_closure_iff joined nodup, mem_closure_iff joined nodup]
    constructor
    · rintro ⟨_, below, distance⟩
      exact ⟨ne, below, distance.reverse fun _ _ => mem_step_inward.symm⟩
    · rintro ⟨_, below, distance⟩
      exact ⟨ne.symm, below, distance.reverse fun _ _ => mem_step_inward⟩

/-! ### Two ways round -/

namespace Ringed

open Sample (place treeAlias treeToken)

def ref (name : String) : Field String :=
  Sample.text ("#/" ++ name)

/-- `first` and `second` lead to each other, `alone` to itself and `plain` nowhere. From `entry`,
there are two references to `first`, and one to `alone`. -/
def tree : Tree :=
  Sample.tree
    [treeToken "plain" "#000000", treeAlias "second" "first", treeAlias "alone" "alone",
     treeAlias "first" "second", treeAlias "entry" "first"]
    [{ token := ref "entry"
       conditions := ⟨[], Pointer.root, none⟩
       offer := .mk Pointer.root none (some (ref "alone")) none
        [.mk Pointer.root none (some (ref "first")) none []] }]

/-- The graph, with the nodes one step from each node. -/
theorem exists_graph : ∃ g, (ofTree tree).graph = some g ∧
    g.pointers = [place "plain", place "second", place "alone", place "first", place "entry"] ∧
    g.step .outward (place "plain") = [] ∧
    g.step .outward (place "second") = [place "first"] ∧
    g.step .outward (place "alone") = [place "alone"] ∧
    g.step .outward (place "first") = [place "second"] ∧
    g.step .outward (place "entry") = [place "first", place "alone", place "first"] := by
  have steps : (ofTree tree).graph.map (fun g => (g.pointers,
      ["plain", "second", "alone", "first", "entry"].map (g.step .outward ∘ place))) =
        some ([place "plain", place "second", place "alone", place "first", place "entry"],
          [[], [place "first"], [place "alone"], [place "second"],
            [place "first", place "alone", place "first"]]) := by decide +kernel
  obtain ⟨g, built, same⟩ := Option.map_eq_some_iff.1 steps
  exact ⟨g, built, by simpa using same⟩

end Ringed

/-- From `entry`, the closure goes round the cycle once: `second` is two steps away, and `entry` is
two steps from `second` against the references. -/
theorem ringed_closure_exact :
    ∃ g, (ofTree Ringed.tree).graph = some g ∧
      g.closure (Sample.place "entry") .outward none =
        [(Sample.place "first", 1), (Sample.place "alone", 1), (Sample.place "second", 2)] ∧
      Distance (g.step .outward) (Sample.place "entry") 2 (Sample.place "second") ∧
      (Sample.place "entry", 2) ∈ g.closure (Sample.place "second") .inward none := by
  obtain ⟨g, built, pointers, _, second, alone, first, entry⟩ := Ringed.exists_graph
  -- The search goes round by round.
  have visited : search (g.step .outward) none g.pointers [(Sample.place "entry", 0)] =
      [(Sample.place "entry", 0), (Sample.place "first", 1), (Sample.place "alone", 1),
        (Sample.place "second", 2)] := by
    simp [search, pointers, entry, first, alone, second]
  -- Without the start, and in this order.
  have closure : g.closure (Sample.place "entry") .outward none =
      [(Sample.place "first", 1), (Sample.place "alone", 1), (Sample.place "second", 2)] := by
    have here : g.pointers.contains (Sample.place "entry") = true := by simp [pointers]
    simp only [Graph.closure, here, if_true, visited]
    exact List.mergeSort_of_pairwise (by decide)
  obtain ⟨_, exactly, _, _, turned⟩ := closure_exact built (Sample.place "entry") .outward none
  have mem : (Sample.place "second", 2) ∈ g.closure (Sample.place "entry") .outward none := by
    simp [closure]
  obtain ⟨_, ne, _, _, distance⟩ := (exactly _ _).1 mem
  exact ⟨g, built, closure, distance, (turned _ _ ne.symm).1 mem⟩

end DesignTokens.Graph
