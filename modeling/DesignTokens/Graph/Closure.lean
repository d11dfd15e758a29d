import DesignTokens.Graph.Basic

/-!
# DesignTokens.Graph.Closure — what a node depends on

The nodes that can be reached from a node along the references, or against them, each at the length
of the shortest way to it (`Graph.closure`). The search is breadth first (`Graph.search`).
-/

namespace DesignTokens.Graph

/-- Along the references, or against them. -/
inductive Direction where
  | outward
  | inward
deriving Repr, DecidableEq, Inhabited

/-- The nodes one step from a node. -/
def step (g : Graph) : Direction → Pointer → List Pointer
  | .outward, pointer => (g.outgoing pointer).map (·.1)
  | .inward, pointer => (g.incoming pointer).map (·.1)

/-- Taking a fresh node away leaves fewer. -/
theorem length_erase_lt {fresh : List Pointer} {p : Pointer} (h : fresh.contains p = true) :
    (fresh.erase p).length < fresh.length := by
  have mem : p ∈ fresh := by simpa using h
  rw [List.length_erase_of_mem mem]
  have := List.length_pos_of_mem mem
  omega

/-- A breadth-first search, that goes on from the front of the queue. A node may wait in the queue
more than once. It is visited, with its depth, when it first comes to the front within the limit;
the nodes one step from it are then put at the back. -/
def search (next : Pointer → List Pointer) (limit : Option Nat) (fresh : List Pointer)
    (queue : List (Pointer × Nat)) : List (Pointer × Nat) :=
  match queue with
  | [] => []
  | (p, depth) :: rest =>
    if limit.any (· < depth) then search next limit fresh rest
    else if _h : fresh.contains p then
      (p, depth) :: search next limit (fresh.erase p) (rest ++ (next p).map (·, depth + 1))
    else search next limit fresh rest
termination_by (fresh.length, queue.length)
decreasing_by
  · exact Prod.Lex.right _ (Nat.lt_succ_self _)
  · exact Prod.Lex.left _ _ (length_erase_lt _h)
  · exact Prod.Lex.right _ (Nat.lt_succ_self _)

/-- The other nodes that can be reached from a node, with the length of the shortest way, which is
at most the limit if there is one, the nearest first. A pointer without a node reaches nothing. -/
def closure (g : Graph) (start : Pointer) (direction : Direction) (limit : Option Nat) :
    List (Pointer × Nat) :=
  if g.pointers.contains start then
    let visited := search (g.step direction) limit g.pointers [(start, 0)]
    (visited.filter (·.1 ≠ start)).mergeSort fun x y => x.2 ≤ y.2
  else []

end DesignTokens.Graph
