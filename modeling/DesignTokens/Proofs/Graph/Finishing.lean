import DesignTokens.Graph.Cycles
import Mathlib.Data.List.Basic
import Mathlib.Logic.Relation

/-!
# DesignTokens.Proofs.Graph.Finishing — what a depth-first search finishes last

A node is open from when the search first meets it until it is finished, and waits on the stack in
this time. It leads to all that is above it, and so to all that is finished before it and leads back
to it.

1. **Paths** (`Path`), and those inside a list (`PathIn`): all their nodes but the last are in it.
2. **Settled orders** (`Settled`): a node leads to each node that was finished before it, if a path
   of nodes that were finished before leads back from there.
3. **The search** (`Searching`): what holds of the stack, with one lemma for each kind of step.
4. **Results** (`settled_finishAll`): the finishing order is settled.
-/

namespace DesignTokens.Graph

variable {next : Pointer → List Pointer} {fresh rest finished nodes earlier : List Pointer}
  {p q u w z : Pointer}

/-! ## Paths -/

/-- A path of steps from the first node to the second. -/
abbrev Path (next : Pointer → List Pointer) : Pointer → Pointer → Prop :=
  Relation.ReflTransGen fun a b => b ∈ next a

/-- A path whose nodes are in the list, except for the last one. -/
abbrev PathIn (next : Pointer → List Pointer) (nodes : List Pointer) :
    Pointer → Pointer → Prop :=
  Relation.ReflTransGen fun a b => a ∈ nodes ∧ b ∈ next a

/-- A path through one more node does without it, or leads to it without it. -/
theorem PathIn.cons (h : PathIn next (p :: nodes) u z) :
    PathIn next nodes u z ∨ PathIn next nodes u p := by
  induction h with
  -- Either no step was from `p`, or the path ends in one that comes from `p`.
  | refl => exact .inl .refl
  | @tail a b _ step ih =>
    obtain ⟨mem, hb⟩ := step
    rcases ih with ih | ih
    · -- This step is from `p`, to which the path leads.
      rcases List.mem_cons.1 mem with rfl | mem
      · exact .inr ih
      · exact .inl (ih.tail ⟨mem, hb⟩)
    · exact .inr ih

/-- A path to a node goes through it only at its end, when it is cut there. -/
theorem PathIn.cut (h : PathIn next (p :: nodes) u p) : PathIn next nodes u p :=
  h.cons.elim id id

/-! ## Settled orders -/

/-- Each node of a finishing order, the latest first, leads to all nodes from which a path of nodes
that were finished earlier leads to it. -/
def Settled (next : Pointer → List Pointer) : List Pointer → Prop
  | [] => True
  | p :: earlier =>
    (∀ u, PathIn next earlier u p → Path next p u) ∧ Settled next earlier

/-! ## The search -/

/-- An element that is not above a node of the stack is this node or below it. -/
theorem split_append {pushed above below : List Pointer}
    (h : pushed ++ p :: rest = above ++ w :: below) (out : w ∉ pushed) (first : w ∉ above) :
    (w = p ∧ above = pushed) ∨
      w ≠ p ∧ ∃ between, above = pushed ++ p :: between ∧ rest = between ++ w :: below := by
  -- The cut is before or after the end of what was pushed.
  rcases List.append_eq_append_iff.1 h with ⟨between, rfl, cut⟩ | ⟨between, rfl, cut⟩
  · cases between with
    | nil =>
      obtain ⟨rfl, rfl⟩ := List.cons.inj cut
      exact .inl ⟨rfl, List.append_nil _⟩
    | cons a between =>
      obtain ⟨rfl, rfl⟩ := List.cons.inj cut
      refine .inr ⟨?_, between, rfl, rfl⟩
      rintro rfl
      exact first (by simp)
  · cases between with
    | nil =>
      obtain ⟨rfl, rfl⟩ := List.cons.inj cut
      exact .inl ⟨rfl, (List.append_nil _).symm⟩
    | cons a between =>
      obtain ⟨rfl, rfl⟩ := List.cons.inj cut
      exact absurd (by simp) out

/-- A node that the search has met and not finished. -/
structure Open (fresh finished : List Pointer) (p : Pointer) : Prop where
  met : p ∉ fresh
  unfinished : p ∉ finished

/-- What a search keeps true. What is above an open node is what it leads to, with all fresh nodes
that are one step from it. -/
structure Searching (next : Pointer → List Pointer) (fresh stack finished : List Pointer) :
    Prop where
  nodup : fresh.Nodup
  closed : ∀ u ∈ finished, ∀ v ∈ next u, v ∉ fresh
  leads : ∀ above w below, stack = above ++ w :: below → w ∉ above → Open fresh finished w →
    ∀ a ∈ above, Path next w a
  waiting : ∀ above w below, stack = above ++ w :: below → w ∉ above → Open fresh finished w →
    ∀ v ∈ next w, v ∈ fresh → v ∈ above
  back : ∀ z ∈ stack, Open fresh finished z → ∀ u, PathIn next finished u z → Path next z u
  settled : Settled next finished

namespace Searching

/-- A search starts with one fresh node. -/
theorem start (nodup : fresh.Nodup) (closed : ∀ u ∈ finished, ∀ v ∈ next u, v ∉ fresh)
    (settled : Settled next finished) (hp : p ∈ fresh) : Searching next fresh [p] finished := by
  -- The only node on the stack is fresh, so nothing on the stack is open.
  have none : ∀ above w below, [p] = above ++ w :: below → ¬ Open fresh finished w := by
    intro above w below split isOpen
    have here : w ∈ [p] := by simp [split]
    exact isOpen.met (List.mem_singleton.1 here ▸ hp)
  exact {
    nodup
    closed
    leads := fun above w below split _ isOpen => absurd isOpen (none above w below split)
    waiting := fun above w below split _ isOpen => absurd isOpen (none above w below split)
    back := fun z hz isOpen => absurd (List.mem_singleton.1 hz ▸ hp) isOpen.met
    settled }

section Steps

variable (h : Searching next fresh (p :: rest) finished)

include h

/-- An open node below the top leads to it. -/
theorem leads_top (hz : z ∈ rest) (ne : z ≠ p) (isOpen : Open fresh finished z) :
    Path next z p := by
  obtain ⟨above, below, split, first⟩ := List.eq_append_cons_of_mem hz
  refine h.leads (p :: above) z below (by rw [split, List.cons_append]) ?_ isOpen p
    List.mem_cons_self
  exact List.not_mem_cons_of_ne_of_not_mem ne first

/-- A fresh node becomes open, below the fresh nodes that are one step from it. -/
theorem visit (hp : p ∈ fresh) :
    Searching next (fresh.erase p)
      (((next p).filter (fresh.erase p).contains).reverse ++ p :: rest) finished := by
  generalize hpushed : ((next p).filter (fresh.erase p).contains).reverse = pushed
  have mem_pushed : ∀ a, a ∈ pushed ↔ a ∈ next p ∧ a ∈ fresh.erase p := by simp [← hpushed]
  -- The visit makes no other node open, and pushes only nodes that are not open.
  have still : ∀ {w}, w ≠ p → Open (fresh.erase p) finished w → Open fresh finished w :=
    fun ne isOpen => ⟨fun mem => isOpen.met ((List.mem_erase_of_ne ne).2 mem), isOpen.unfinished⟩
  have out : ∀ {w}, Open (fresh.erase p) finished w → w ∉ pushed :=
    fun isOpen mem => isOpen.met ((mem_pushed _).1 mem).2
  refine ⟨h.nodup.erase p, fun u hu v hv mem => h.closed u hu v hv (List.mem_of_mem_erase mem),
    ?_, ?_, ?_, h.settled⟩
  · -- What is above an open node can be reached from it: the new node is, and so is what it pushed.
    intro above w below split first isOpen a ha
    obtain ⟨rfl, rfl⟩ | ⟨ne, between, rfl, rfl⟩ := split_append split (out isOpen) first
    · exact .single ((mem_pushed a).1 ha).1
    · have before := h.leads (p :: between) w below rfl
        (fun mem => first (List.mem_append_right _ mem)) (still ne isOpen)
      rcases List.mem_append.1 ha with ha | ha
      · exact (before p List.mem_cons_self).tail ((mem_pushed a).1 ha).1
      · exact before a ha
  · -- The fresh neighbours of an open node are above it.
    intro above w below split first isOpen v hv unmet
    obtain ⟨rfl, rfl⟩ | ⟨ne, between, rfl, rfl⟩ := split_append split (out isOpen) first
    · exact (mem_pushed v).2 ⟨hv, unmet⟩
    · have before := h.waiting (p :: between) w below rfl
        (fun mem => first (List.mem_append_right _ mem)) (still ne isOpen)
      exact List.mem_append_right _ (before v hv (List.mem_of_mem_erase unmet))
  · -- Paths among finished nodes lead back to where they did before.
    intro z hz isOpen u path
    by_cases same : z = p
    · subst same
      -- No finished node is one step from a node that was fresh until now.
      rcases Relation.ReflTransGen.cases_tail path with rfl | ⟨a, _, finishedStep⟩
      · exact .refl
      · exact absurd hp (h.closed a finishedStep.1 z finishedStep.2)
    · refine h.back z ?_ (still same isOpen) u path
      rcases List.mem_append.1 hz with hz | hz
      · exact absurd hz (out isOpen)
      · exact hz

/-- A node that is finished already is passed over. -/
theorem pass (hp : p ∉ fresh) (done : p ∈ finished) : Searching next fresh rest finished := by
  -- The finished node is not open, so all that is asked of open nodes stays as it is.
  have other : ∀ {w}, Open fresh finished w → w ≠ p := by
    rintro w isOpen rfl
    exact isOpen.unfinished done
  refine ⟨h.nodup, h.closed, ?_, ?_, ?_, h.settled⟩
  · intro above w below split first isOpen a ha
    exact h.leads (p :: above) w below (by rw [split, List.cons_append])
      (List.not_mem_cons_of_ne_of_not_mem (other isOpen) first) isOpen a (List.mem_cons_of_mem p ha)
  · intro above w below split first isOpen v hv unmet
    have mem := h.waiting (p :: above) w below (by rw [split, List.cons_append])
      (List.not_mem_cons_of_ne_of_not_mem (other isOpen) first) isOpen v hv unmet
    exact (List.mem_cons.1 mem).resolve_left fun same => hp (same ▸ unmet)
  · exact fun z hz => h.back z (List.mem_cons_of_mem p hz)

/-- An open node on the top is finished: nothing that it leads to is fresh any more. -/
theorem close (hp : p ∉ fresh) (unfinished : p ∉ finished) :
    Searching next fresh rest (p :: finished) := by
  -- What is open now was open before, and is another node.
  have before : ∀ {w}, Open fresh (p :: finished) w → w ≠ p ∧ Open fresh finished w := by
    intro w isOpen
    obtain ⟨ne, unfinished⟩ := List.ne_and_not_mem_of_not_mem_cons isOpen.unfinished
    exact ⟨ne, isOpen.met, unfinished⟩
  -- At the top of the stack, all that is finished and leads to `p` comes from `p`.
  have top := h.back p List.mem_cons_self ⟨hp, unfinished⟩
  refine ⟨h.nodup, ?_, ?_, ?_, ?_, top, h.settled⟩
  · -- The new node has no fresh neighbours: they would be above it.
    intro u hu v hv unmet
    rcases List.mem_cons.1 hu with rfl | hu
    · have above := h.waiting [] u rest rfl List.not_mem_nil ⟨hp, unfinished⟩ v hv unmet
      exact absurd above List.not_mem_nil
    · exact h.closed u hu v hv unmet
  · intro above w below split first isOpen a ha
    obtain ⟨ne, isOpen⟩ := before isOpen
    exact h.leads (p :: above) w below (by rw [split, List.cons_append])
      (List.not_mem_cons_of_ne_of_not_mem ne first) isOpen a (List.mem_cons_of_mem p ha)
  · intro above w below split first isOpen v hv unmet
    obtain ⟨ne, isOpen⟩ := before isOpen
    have mem := h.waiting (p :: above) w below (by rw [split, List.cons_append])
      (List.not_mem_cons_of_ne_of_not_mem ne first) isOpen v hv unmet
    exact (List.mem_cons.1 mem).resolve_left fun same => hp (same ▸ unmet)
  · -- A path through the new node comes from below it on the stack.
    intro z hz isOpen u path
    obtain ⟨ne, isOpen⟩ := before isOpen
    rcases path.cons with path | path
    · exact h.back z (List.mem_cons_of_mem p hz) isOpen u path
    · exact (h.leads_top hz ne isOpen).trans (top u path)

end Steps

/-! ## Results -/

/-- A whole search keeps what its steps keep. -/
theorem finish {stack : List Pointer} (h : Searching next fresh stack finished) :
    Searching next (Graph.finish next fresh stack finished).1 []
      (Graph.finish next fresh stack finished).2 := by
  fun_induction Graph.finish next fresh stack finished with
  | case1 fresh finished => exact h
  | case2 fresh finished p rest hp fresher ih => exact ih (h.visit (by simpa using hp))
  | case3 fresh finished p rest hp hf ih =>
    exact ih (h.pass (by simpa using hp) (by simpa using hf))
  | case4 fresh finished p rest hp hf ih =>
    exact ih (h.close (by simpa using hp) (by simpa using hf))

end Searching

/-- The finishing order of a search from any starts is settled. -/
theorem settled_finishAll {starts : List Pointer} (nodup : fresh.Nodup)
    (closed : ∀ u ∈ finished, ∀ v ∈ next u, v ∉ fresh) (settled : Settled next finished) :
    Settled next (finishAll next starts fresh finished) := by
  induction starts generalizing fresh finished with
  | nil => exact settled
  | cons start rest ih =>
    unfold finishAll
    split
    · -- A search from a fresh start, which leaves nothing open.
      next unmet =>
      have after := (Searching.start nodup closed settled (by simpa using unmet)).finish
      exact ih after.nodup after.closed after.settled
    · -- A start that is finished already.
      exact ih nodup closed settled

end DesignTokens.Graph
