import DesignTokens.Pointer
import Mathlib.Data.Nat.Find
import Mathlib.Logic.Relation

/-!
# DesignTokens.Proofs.Graph.Distance — how far one node is from another

1. **Ways** (`Way`), with their length.
2. **Distances** (`Distance`): the length of a shortest way.
3. **Turning round** (`Distance.reverse`): against the steps, the way back is as long.
-/

namespace DesignTokens.Graph

/-- A way of the given length from a start to a node. -/
inductive Way (next : Pointer → List Pointer) (start : Pointer) : Nat → Pointer → Prop where
  | here : Way next start 0 start
  | step {n : Nat} {p q : Pointer} : Way next start n p → q ∈ next p → Way next start (n + 1) q

/-- The length of the shortest ways from a start to a node. -/
structure Distance (next : Pointer → List Pointer) (start : Pointer) (n : Nat) (p : Pointer) :
    Prop where
  way : Way next start n p
  least : ∀ m, Way next start m p → n ≤ m

variable {next back : Pointer → List Pointer} {start p q : Pointer} {m n : Nat}

/-! ## Ways -/

/-- Only the start is no steps away. -/
theorem Way.zero_iff : Way next start 0 p ↔ p = start := by
  constructor
  · rintro ⟨⟩
    rfl
  · rintro rfl
    exact .here

/-- The last step of a way comes from a node that is one step less away. -/
theorem Way.succ_iff : Way next start (n + 1) q ↔ ∃ p, Way next start n p ∧ q ∈ next p := by
  constructor
  · rintro ⟨⟩
    exact ⟨_, ‹_›, ‹_›⟩
  · rintro ⟨p, way, h⟩
    exact .step way h

/-- A node can be reached exactly if there is a way to it. -/
theorem exists_way_iff :
    (∃ n, Way next start n p) ↔ Relation.ReflTransGen (fun p q => q ∈ next p) start p := by
  constructor
  · rintro ⟨n, way⟩
    induction way with
    | here => exact .refl
    | step _ h ih => exact ih.tail h
  · intro reach
    induction reach with
    | refl => exact ⟨0, .here⟩
    | tail _ h ih =>
      obtain ⟨n, way⟩ := ih
      exact ⟨n + 1, way.step h⟩

/-- A step before a way makes it longer by one. -/
theorem Way.head (h : p ∈ next start) (way : Way next p n q) : Way next start (n + 1) q := by
  induction way with
  | here => exact .step .here h
  | step _ later ih => exact .step ih later

/-- A way can be gone back. -/
theorem Way.reverse (turn : ∀ a b, b ∈ next a → a ∈ back b) (way : Way next start n p) :
    Way back p n start := by
  induction way with
  | here => exact .here
  | step _ h ih => exact ih.head (turn _ _ h)

/-- The start is the only node that a way without steps leads to. -/
theorem Way.pos_iff : (∀ n, Way next start n p → 1 ≤ n) ↔ p ≠ start := by
  constructor
  · rintro far rfl
    exact Nat.not_succ_le_zero 0 (far 0 .here)
  · intro ne n way
    refine Nat.pos_of_ne_zero ?_
    rintro rfl
    exact ne (Way.zero_iff.1 way)

/-! ## Distances -/

/-- Of the ways to a node, one is shortest. -/
theorem exists_distance (h : ∃ n, Way next start n p) : ∃ n, Distance next start n p := by
  classical
  exact ⟨Nat.find h, Nat.find_spec h, fun _ way => Nat.find_min' h way⟩

/-- Only the start has no distance from it. -/
theorem Distance.pos_iff (h : Distance next start n p) : 1 ≤ n ↔ p ≠ start := by
  rw [← Way.pos_iff]
  exact ⟨fun far m way => Nat.le_trans far (h.least m way), fun far => far n h.way⟩

/-- One step before its end, a shortest way is a shortest one. -/
theorem Distance.pred (h : Distance next start (n + 1) q) :
    ∃ p, Distance next start n p ∧ q ∈ next p := by
  obtain ⟨p, way, step⟩ := Way.succ_iff.1 h.way
  exact ⟨p, ⟨way, fun m shorter => Nat.le_of_succ_le_succ (h.least _ (shorter.step step))⟩, step⟩

/-- A shortest way goes through nodes at all smaller distances. -/
theorem Distance.exists_of_le (h : Distance next start n p) (le : m ≤ n) :
    ∃ q, Distance next start m q := by
  induction n generalizing p with
  | zero => exact ⟨p, by rwa [Nat.le_zero.1 le]⟩
  | succ n ih =>
    rcases Nat.le_succ_iff.1 le with le | rfl
    · obtain ⟨before, distance, _⟩ := h.pred
      exact ih distance le
    · exact ⟨p, h⟩

/-- A shortest way is shortest in both directions. -/
theorem Distance.reverse (turn : ∀ a b, b ∈ next a ↔ a ∈ back b) (h : Distance next start n p) :
    Distance back p n start where
  way := h.way.reverse fun a b => (turn a b).1
  least m way := h.least m (way.reverse fun a b => (turn b a).2)

end DesignTokens.Graph
