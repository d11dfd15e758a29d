import DesignTokens.Graph.Closure

/-!
# DesignTokens.Graph.Cycles — nodes that depend on themselves

The nodes of a graph fall into components: two nodes are in one component if each can be reached
from the other. A component with more than one node, or with a node that refers to itself, is a
cycle.

1. **Finishing order** (`Graph.finish`): a depth-first search that lists a node after all that it
   leads to.
2. **Components** (`Graph.components`): the finishing order against the references is cut into the
   parts that can be reached along the references.
3. **Cycles** (`Graph.cycles`), numbered in the order of the components, and the cycle of a node
   (`Graph.cycleOf?`), found by its entry among the members (`Graph.membership`).
-/

namespace DesignTokens.Graph

/-! ## Finishing order -/

/-- A depth-first search, that goes on from the top of the stack. A fresh node stays on the stack,
below the fresh nodes that it leads to; a node that is met again is finished, if it is not yet.
Gives the nodes that are still fresh and the finished ones, the latest first. -/
def finish (next : Pointer → List Pointer) (fresh stack finished : List Pointer) :
    List Pointer × List Pointer :=
  match stack with
  | [] => (fresh, finished)
  | p :: rest =>
    if _h : fresh.contains p then
      -- The node stays on the stack until all it leads to is finished.
      let fresher := fresh.erase p
      finish next fresher (((next p).filter fresher.contains).reverse ++ p :: rest) finished
    else if finished.contains p then finish next fresh rest finished
    else finish next fresh rest (p :: finished)
termination_by (fresh.length, stack.length)
decreasing_by
  · exact Prod.Lex.left _ _ (length_erase_lt _h)
  · exact Prod.Lex.right _ (Nat.lt_succ_self _)
  · exact Prod.Lex.right _ (Nat.lt_succ_self _)

/-- The finishing order of a search from each of the starts, the latest first. -/
def finishAll (next : Pointer → List Pointer) :
    List Pointer → List Pointer → List Pointer → List Pointer
  | [], _, finished => finished
  | start :: rest, fresh, finished =>
    if fresh.contains start then
      let (fresh, finished) := finish next fresh [start] finished
      finishAll next rest fresh finished
    else finishAll next rest fresh finished

/-! ## Components -/

/-- The fresh nodes that can be reached from the stack along fresh nodes. Gives the nodes that are
still fresh and those that were reached. -/
def spread (next : Pointer → List Pointer) (fresh stack reached : List Pointer) :
    List Pointer × List Pointer :=
  match stack with
  | [] => (fresh, reached)
  | p :: rest =>
    if _h : fresh.contains p then spread next (fresh.erase p) (next p ++ rest) (p :: reached)
    else spread next fresh rest reached
termination_by (fresh.length, stack.length)
decreasing_by
  · exact Prod.Lex.left _ _ (length_erase_lt _h)
  · exact Prod.Lex.right _ (Nat.lt_succ_self _)

/-- The parts that can be reached from each of the starts along nodes of no earlier part. -/
def parts (next : Pointer → List Pointer) : List Pointer → List Pointer → List (List Pointer)
  | [], _ => []
  | start :: rest, fresh =>
    if fresh.contains start then
      let (fresh, reached) := spread next fresh [start] []
      reached :: parts next rest fresh
    else parts next rest fresh

def components (g : Graph) : List (List Pointer) :=
  let order := finishAll (g.step .inward) g.pointers g.pointers []
  parts (g.step .outward) order g.pointers

/-! ## Cycles -/

/-- A cycle: its number, its members in document order, and whether it is a node that refers to
itself. -/
structure Cycle where
  id : Nat
  members : List Pointer
  selfReferential : Bool
deriving Repr, DecidableEq, Inhabited

/-- The cycle with the given number that a component is, if it is one. -/
def cycle? (g : Graph) (id : Nat) (component : List Pointer) : Option Cycle :=
  let loops := fun p => (g.step .outward p).contains p
  match component with
  | [] => none
  | [p] => if loops p then some ⟨id, [p], true⟩ else none
  | _ => some ⟨id, g.pointers.filter component.contains, false⟩

/-- The cycles among the components, after those that were found before. Each has the number of
cycles before it. -/
def collect (g : Graph) (found : List Cycle) : List (List Pointer) → List Cycle
  | [] => found
  | component :: rest => g.collect (found ++ (g.cycle? found.length component).toList) rest

def cycles (g : Graph) : List Cycle :=
  g.collect [] g.components

/-- The numbers of the cycles by their members. What is entered later comes first: it replaces an
earlier entry for the same node. -/
def membership (cycles : List Cycle) : List (Pointer × Nat) :=
  cycles.foldl (fun entries cycle => cycle.members.map (·, cycle.id) ++ entries) []

def isCyclic (cycles : List Cycle) (pointer : Pointer) : Bool :=
  ((membership cycles).lookup pointer).isSome

/-- The cycle that a node is a member of, with its number. -/
def cycleOf? (cycles : List Cycle) (pointer : Pointer) : Option (Nat × Cycle) := do
  let id ← (membership cycles).lookup pointer
  let cycle ← cycles[id]?
  return (id, cycle)

end DesignTokens.Graph
