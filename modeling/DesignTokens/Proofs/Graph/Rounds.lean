import DesignTokens.Graph.Closure
import DesignTokens.Proofs.Graph.Distance
import DesignTokens.Proofs.Lists

/-!
# DesignTokens.Proofs.Graph.Rounds — a breadth-first search goes round by round

1. **Rounds** (`rounds`): each round takes all candidates at once, and the next one starts from the
   nodes one step away.
2. **The queue** (`search_eq_rounds`): while the queue is at one depth, what is put at its back is
   for the next depth. So the search visits what the rounds find, in the same order.
3. **Distances** (`Round`): before each round, the fresh nodes are those at this distance or more,
   and the candidates lead to it. So each round finds the nodes at its own distance
   (`mem_rounds_iff`), each of them once and after all nearer ones.
-/

namespace DesignTokens.Graph

variable {next : Pointer → List Pointer} {fresh candidates found nodes : List Pointer}
  {start p q : Pointer} {limit : Option Nat} {depth k : Nat}

/-! ## Rounds -/

/-- The candidates that are fresh, each once, in order of their first occurrence. -/
def freshOnce (fresh candidates : List Pointer) : List Pointer :=
  (candidates.filter fresh.contains).eraseDups

/-- The fresh nodes that were not found. -/
def without (fresh found : List Pointer) : List Pointer :=
  fresh.filter fun p => !found.contains p

/-- A round finds the fresh ones among the candidates. -/
theorem mem_freshOnce : p ∈ freshOnce fresh candidates ↔ p ∈ candidates ∧ p ∈ fresh := by
  simp [freshOnce]

/-- What is left after a round was fresh and was not found. -/
theorem mem_without : p ∈ without fresh found ↔ p ∈ fresh ∧ p ∉ found := by
  simp [without]

/-- Removing the fresh candidates leaves fewer fresh nodes, if there is one. -/
theorem length_without_freshOnce_lt (h : freshOnce fresh candidates ≠ []) :
    (without fresh (freshOnce fresh candidates)).length < fresh.length := by
  obtain ⟨p, mem⟩ := List.exists_mem_of_ne_nil _ h
  refine List.length_filter_lt_length_iff_exists.2 ⟨p, (mem_freshOnce.1 mem).2, ?_⟩
  simpa using mem

/-- The fresh nodes that are found round by round, with the number of the round; this round starts
from the candidates. -/
def rounds (next : Pointer → List Pointer) (limit : Option Nat) (fresh candidates : List Pointer)
    (depth : Nat) : List (Pointer × Nat) :=
  if limit.any (· < depth) then []
  else
    let found := freshOnce fresh candidates
    -- Without a new node in this round there is none in the next.
    if _h : found = [] then []
    else
      found.map (·, depth) ++
        rounds next limit (without fresh found) (found.flatMap next) (depth + 1)
termination_by fresh.length
decreasing_by exact length_without_freshOnce_lt _h

/-! ## The queue -/

/-- A fresh candidate is found, and no later candidate finds it again. -/
theorem freshOnce_cons (h : p ∈ fresh) (nodup : fresh.Nodup) :
    freshOnce fresh (p :: candidates) = p :: freshOnce (fresh.erase p) candidates := by
  have rest : (candidates.filter fresh.contains).filter (fun q => !q == p) =
      candidates.filter (fresh.erase p).contains := by
    rw [List.filter_filter]
    refine List.filter_congr fun q _ => ?_
    rw [Bool.eq_iff_iff]
    simp [nodup.mem_erase_iff]
  simp [freshOnce, h, List.eraseDups_cons, ← rest]

/-- To take out what was found is to take out one after the other. -/
theorem without_cons (nodup : fresh.Nodup) :
    without fresh (p :: found) = without (fresh.erase p) found := by
  rw [without, without, nodup.erase_eq_filter, List.filter_filter]
  refine List.filter_congr fun q _ => ?_
  rw [Bool.eq_iff_iff]
  simp [and_comm]

/-- Nothing is visited that is farther away than the limit. -/
theorem search_beyond (beyond : limit.any (· < depth) = true) (candidates : List Pointer) :
    search next limit fresh (candidates.map (·, depth)) = [] := by
  induction candidates with
  | nil => simp [search]
  | cons p rest ih =>
    rw [List.map_cons, search, if_pos beyond]
    exact ih

/-- When all of one depth have come to the front, the fresh ones of them are visited, and the queue
has what is one step from them. -/
theorem search_append (next : Pointer → List Pointer) (within : ¬ limit.any (· < depth) = true)
    (nodup : fresh.Nodup) (candidates later : List Pointer) :
    search next limit fresh (candidates.map (·, depth) ++ later.map (·, depth + 1)) =
      (freshOnce fresh candidates).map (·, depth) ++
        search next limit (without fresh (freshOnce fresh candidates))
          ((later ++ (freshOnce fresh candidates).flatMap next).map (·, depth + 1)) := by
  induction candidates generalizing fresh later with
  | nil => simp [freshOnce, without]
  | cons p rest ih =>
    rw [List.map_cons, List.cons_append, search, if_neg within]
    by_cases unmet : p ∈ fresh
    · -- A candidate that is found puts its neighbours at the end of the queue, after those of the
      -- next round.
      have queue : rest.map (·, depth) ++ later.map (·, depth + 1) ++ (next p).map (·, depth + 1) =
          rest.map (·, depth) ++ (later ++ next p).map (·, depth + 1) := by
        rw [List.map_append, List.append_assoc]
      rw [dif_pos (List.contains_iff_mem.2 unmet), queue, ih (nodup.erase p),
        freshOnce_cons unmet nodup, without_cons nodup]
      simp
    · -- A candidate that is not fresh is passed over.
      have same : freshOnce fresh (p :: rest) = freshOnce fresh rest := by
        simp [freshOnce, unmet]
      rw [dif_neg (mt List.contains_iff_mem.1 unmet), ih nodup, same]

/-- With a queue that is at one depth, the search visits what the rounds find. -/
theorem search_eq_rounds (nodup : fresh.Nodup) :
    search next limit fresh (candidates.map (·, depth)) =
      rounds next limit fresh candidates depth := by
  fun_induction rounds next limit fresh candidates depth with
  | case1 fresh candidates depth beyond => exact search_beyond beyond candidates
  | case2 fresh candidates depth within found none =>
    -- The last round found nothing, so nothing is left on the queue.
    have visited := search_append next within nodup candidates []
    rw [List.map_nil, List.append_nil] at visited
    rw [visited]
    simp [found, none, search]
  | case3 fresh candidates depth within found some ih =>
    -- One round was searched; the next one follows from the induction.
    have visited := search_append next within nodup candidates []
    rw [List.map_nil, List.append_nil] at visited
    rw [visited, List.nil_append]
    exact congrArg _ (ih (nodup.filter _))

/-! ## Distances -/

/-- Before the round for a distance, what is fresh is not nearer to the start, and is a candidate
if a way of this length leads to it. -/
structure Round (next : Pointer → List Pointer) (nodes : List Pointer) (start : Pointer)
    (depth : Nat) (fresh candidates : List Pointer) : Prop where
  mem_fresh_iff : ∀ p, p ∈ fresh ↔ p ∈ nodes ∧ ∀ n, Way next start n p → depth ≤ n
  mem_candidates_iff : ∀ p ∈ fresh, p ∈ candidates ↔ Way next start depth p

namespace Round

variable (h : Round next nodes start depth fresh candidates)

include h

/-- A round finds the nodes at its distance. -/
theorem mem_found_iff :
    p ∈ freshOnce fresh candidates ↔ p ∈ nodes ∧ Distance next start depth p := by
  rw [mem_freshOnce]
  constructor
  · rintro ⟨candidate, unmet⟩
    obtain ⟨node, least⟩ := (h.mem_fresh_iff p).1 unmet
    exact ⟨node, (h.mem_candidates_iff p unmet).1 candidate, least⟩
  · rintro ⟨node, distance⟩
    have unmet := (h.mem_fresh_iff p).2 ⟨node, distance.least⟩
    exact ⟨(h.mem_candidates_iff p unmet).2 distance.way, unmet⟩

/-- One round prepares the next. -/
theorem succ (inside : ∀ p, ∀ q ∈ next p, p ∈ nodes) :
    Round next nodes start (depth + 1) (without fresh (freshOnce fresh candidates))
      ((freshOnce fresh candidates).flatMap next) := by
  -- A node is fresh still if it is farther away than this round.
  have mem_fresh_iff : ∀ p, p ∈ without fresh (freshOnce fresh candidates) ↔
      p ∈ nodes ∧ ∀ n, Way next start n p → depth + 1 ≤ n := by
    intro p
    rw [mem_without, h.mem_found_iff, h.mem_fresh_iff]
    constructor
    · rintro ⟨⟨node, least⟩, unfound⟩
      refine ⟨node, fun n way => Nat.lt_of_le_of_ne (least n way) ?_⟩
      rintro rfl
      exact unfound ⟨node, way, least⟩
    · rintro ⟨node, farther⟩
      exact ⟨⟨node, fun n way => Nat.le_of_succ_le (farther n way)⟩,
        fun found => Nat.not_succ_le_self depth (farther depth found.2.way)⟩
  refine ⟨mem_fresh_iff, fun q unmet => ?_⟩
  obtain ⟨_, farther⟩ := (mem_fresh_iff q).1 unmet
  rw [List.mem_flatMap, Way.succ_iff]
  constructor
  · rintro ⟨p, found, step⟩
    exact ⟨p, (h.mem_found_iff.1 found).2.way, step⟩
  · rintro ⟨p, way, step⟩
    -- A shorter way to the node before would give one to this node.
    refine ⟨p, h.mem_found_iff.2 ⟨inside p q step, way, fun n shorter => ?_⟩, step⟩
    exact Nat.le_of_succ_le_succ (farther _ (shorter.step step))

end Round

/-- Before the first round, all nodes but the start are fresh. -/
theorem round_one (nodup : nodes.Nodup) :
    Round next nodes start 1 (nodes.erase start) (next start) where
  mem_fresh_iff := by
    intro p
    rw [nodup.mem_erase_iff, Way.pos_iff, and_comm]
  mem_candidates_iff := by
    intro p _
    simp [Way.succ_iff, Way.zero_iff]

/-- From one round on, the nodes at its distance and above are found, up to the limit, each at its
own distance. -/
theorem mem_rounds_iff (inside : ∀ p, ∀ q ∈ next p, p ∈ nodes ∧ q ∈ nodes) (known : start ∈ nodes)
    (h : Round next nodes start depth fresh candidates) :
    (p, k) ∈ rounds next limit fresh candidates depth ↔
      depth ≤ k ∧ (∀ max ∈ limit, k ≤ max) ∧ Distance next start k p := by
  have node : ∀ {n q}, Way next start n q → q ∈ nodes := by
    intro n q way
    cases way with
    | here => exact known
    | step _ h => exact (inside _ _ h).2
  fun_induction rounds next limit fresh candidates depth with
  | case1 fresh candidates depth beyond =>
    -- beyond the limit
    obtain ⟨max, hmax, beyond⟩ := (Option.any_eq_true _ _).1 beyond
    refine iff_of_false List.not_mem_nil fun h => ?_
    have below := h.2.1 max hmax
    have above : max < depth := by simpa using beyond
    omega
  | case2 fresh candidates depth beyond found none =>
    -- A node farther away would have one at this distance before it.
    refine iff_of_false List.not_mem_nil ?_
    rintro ⟨le, _, distance⟩
    obtain ⟨q, here⟩ := distance.exists_of_le le
    have mem : q ∈ found := h.mem_found_iff.2 ⟨node here.way, here⟩
    rw [none] at mem
    exact absurd mem List.not_mem_nil
  | case3 fresh candidates depth beyond found some ih =>
    -- found in this round
    have here : (p, k) ∈ found.map (fun q => (q, depth)) ↔
        depth = k ∧ Distance next start k p := by
      rw [List.mem_map]
      constructor
      · rintro ⟨q, mem, same⟩
        cases same
        exact ⟨rfl, (h.mem_found_iff.1 mem).2⟩
      · rintro ⟨rfl, distance⟩
        exact ⟨p, h.mem_found_iff.2 ⟨node distance.way, distance⟩, rfl⟩
    have within : ∀ max ∈ limit, depth ≤ max := by
      rintro max rfl
      simpa using beyond
    -- found in a later one
    have later : (p, k) ∈ rounds next limit (without fresh found) (found.flatMap next) (depth + 1) ↔
        depth + 1 ≤ k ∧ (∀ max ∈ limit, k ≤ max) ∧ Distance next start k p :=
      ih (h.succ fun p q hq => (inside p q hq).1)
    rw [List.mem_append, here, later]
    constructor
    · rintro (⟨rfl, distance⟩ | ⟨le, below, distance⟩)
      · exact ⟨Nat.le_refl _, within, distance⟩
      · exact ⟨Nat.le_of_succ_le le, below, distance⟩
    · rintro ⟨le, below, distance⟩
      rcases Nat.eq_or_lt_of_le le with same | lt
      · exact .inl ⟨same, distance⟩
      · exact .inr ⟨lt, below, distance⟩

/-- What is found is fresh, and found once. -/
theorem nodup_rounds (next : Pointer → List Pointer) (limit : Option Nat)
    (fresh candidates : List Pointer) (depth : Nat) :
    ((rounds next limit fresh candidates depth).map (·.1)).Nodup ∧
      ∀ p ∈ (rounds next limit fresh candidates depth).map (·.1), p ∈ fresh := by
  fun_induction rounds next limit fresh candidates depth with
  | case1 fresh candidates depth beyond => simp
  | case2 fresh candidates depth beyond found none => simp
  | case3 fresh candidates depth beyond found some ih =>
    obtain ⟨nodup, unmet⟩ := ih
    have first : (found.map (fun p => (p, depth))).map (·.1) = found := by
      simp [Function.comp_def]
    rw [List.map_append, first]
    constructor
    · -- What is found later was fresh after this round, so it was not found here.
      refine List.nodup_append.2 ⟨nodup_eraseDups _, nodup, ?_⟩
      rintro p hp q hq rfl
      exact (mem_without.1 (unmet p hq)).2 hp
    · intro p hp
      rcases List.mem_append.1 hp with hp | hp
      · exact (mem_freshOnce.1 hp).2
      · exact (mem_without.1 (unmet p hp)).1

/-- The nearer nodes are found before those that are farther away. -/
theorem pairwise_rounds (next : Pointer → List Pointer) (limit : Option Nat)
    (fresh candidates : List Pointer) (depth : Nat) :
    (rounds next limit fresh candidates depth).Pairwise (·.2 ≤ ·.2) ∧
      ∀ x ∈ rounds next limit fresh candidates depth, depth ≤ x.2 := by
  fun_induction rounds next limit fresh candidates depth with
  | case1 fresh candidates depth beyond => simp
  | case2 fresh candidates depth beyond found none => simp
  | case3 fresh candidates depth beyond found some ih =>
    obtain ⟨ordered, above⟩ := ih
    have here : ∀ x ∈ found.map (fun p => (p, depth)), x.2 = depth := by simp
    constructor
    · -- All of this round are at the same depth, and all later ones farther away.
      refine List.pairwise_append.2 ⟨?_, ordered, ?_⟩
      · refine List.pairwise_of_forall_mem_list fun x hx y hy => ?_
        rw [here x hx, here y hy]
      · intro x hx y hy
        rw [here x hx]
        exact Nat.le_of_succ_le (above y hy)
    · intro x hx
      rcases List.mem_append.1 hx with hx | hx
      · exact Nat.le_of_eq (here x hx).symm
      · exact Nat.le_of_succ_le (above x hx)

end DesignTokens.Graph
