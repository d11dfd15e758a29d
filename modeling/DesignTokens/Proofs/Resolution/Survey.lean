import DesignTokens.Proofs.Resolution.Locality

/-!
# DesignTokens.Proofs.Resolution.Survey — the visits on a walk

A walk visits many nodes on its way, each with its own room and its own pending nodes. What one of
these visits finds may be of use elsewhere, if it would not come out differently there.

1. **Visits** (`Visit`): when what was found is kept (`Visit.Kept`), when one more level of room
   would have made no difference (`Visit.Settled`), and that the one implies the other
   (`Visit.Sound`).
2. **Settled visits** (`Visit.settled_iff`): what is kept holds wherever it could be used exactly if
   the visit is settled; a visit that was not cut is settled (`Visit.settled_of_uncut`).
3. **Surveys** (`survey`): a walk together with the visits on it.
-/

namespace DesignTokens.Resolution

/-! ## Visits -/

/-- A visit of a node that is not pending, while some room is left. -/
structure Visit where
  room : Nat
  pending : List Key
  graph : Graph
  pointer : Pointer

namespace Visit

variable (env : Environment) (v : Visit)

/-- The walk from the node. -/
def walk : Walk State :=
  visit env v.room v.pending v.graph v.pointer

/-- What the visit finds is not marked as truncated, and depends on nothing that is pending. -/
def Kept : Prop :=
  (v.walk env).value.truncated = false ∧ disjoint (v.walk env).touched v.pending = true

/-- One more level of room would make no difference. -/
def Settled : Prop :=
  visit env (v.room + 1) v.pending v.graph v.pointer = v.walk env

/-- What is kept of the visit, if anything is, does not depend on how much room there was. -/
def Sound : Prop :=
  v.Kept env → v.Settled env

variable {env v}

/-! ## Settled visits -/

/-- A visit that did not use up its room is settled. -/
theorem settled_of_uncut (h : (v.walk env).height < v.room) : v.Settled env :=
  visit_local h (Nat.lt_succ_of_lt h) fun _ _ => Iff.rfl

/-- What is kept of a visit is what every visit finds that could use it, with enough room and
pending nodes that were not touched, if and only if the visit is settled. -/
theorem settled_iff (h : v.Kept env) :
    v.Settled env ↔
      ∀ room pending, (v.walk env).height < room → disjoint (v.walk env).touched pending = true →
        visit env room pending v.graph v.pointer = v.walk env := by
  have apart := disjoint_iff.1 h.2
  have low : (v.walk env).height < v.room + 1 :=
    Nat.lt_succ_of_le (height_visit_le env v.room v.pending v.graph v.pointer)
  constructor
  · intro settled room pending hroom hpending
    have apart' := disjoint_iff.1 hpending
    unfold Settled at settled
    rw [← settled] at apart apart' low hroom ⊢
    -- With one more level the walk is not cut, so that locality applies to it.
    refine visit_local low hroom fun key hk => ?_
    exact iff_of_false (apart key hk) (apart' key hk)
  · intro agree
    exact agree (v.room + 1) v.pending low h.2

end Visit

/-! ## Surveys -/

/-- A walk with the visits on it. -/
structure Survey (α : Type) where
  walk : Walk α
  visits : List Visit

namespace Survey

variable {α : Type}

instance : Monad Survey where
  pure x := ⟨pure x, []⟩
  bind x f :=
    let y := f x.walk.value
    ⟨do let _ ← x.walk; y.walk, x.visits ++ y.visits⟩

def below (x : Survey α) : Survey α :=
  { x with walk := x.walk.below }

/-- A survey that starts with a visit. -/
def startingWith (v : Visit) (x : Survey State) : Survey State :=
  ⟨x.walk.touching (Key.of v.graph v.pointer), v :: x.visits⟩

end Survey

mutual

/-- The walk from a node with the visits on it, while some nodes are pending further up. -/
def survey (env : Environment) :
    (room : Nat) → (pending : List Key) → (g : Graph) → (pointer : Pointer) → Survey State
  | 0, pending, g, pointer => ⟨visit env 0 pending g pointer, []⟩
  | room + 1, pending, g, pointer =>
    let key := Key.of g pointer
    if pending.contains key then ⟨visit env (room + 1) pending g pointer, []⟩
    else
      .startingWith ⟨room + 1, pending, g, pointer⟩ <|
        evaluate
          { visit := fun g pointer => (survey env room (key :: pending) g pointer).below
            fallback := fun g type owner entries =>
              (surveyFallback env room (key :: pending) g type owner entries).below }
          env g pointer

def surveyFallback (env : Environment) :
    (room : Nat) → (pending : List Key) → (g : Graph) → (type : Option String) →
      (owner : Pointer) → (entries : List (Offer Reference)) → Survey Outcome
  | 0, pending, g, type, owner, entries => ⟨fallback env 0 pending g type owner entries, []⟩
  | room + 1, pending, g, type, owner, entries =>
    tryEntries
      { visit := fun g pointer => (survey env room pending g pointer).below
        fallback := fun g type owner entries =>
          (surveyFallback env room pending g type owner entries).below }
      env g type owner entries

end

/-- How a survey goes deeper from a node or a fallback list. -/
def surveyDeeper (env : Environment) (room : Nat) (pending : List Key) : Deeper Survey where
  visit := fun g pointer => (survey env room pending g pointer).below
  fallback := fun g type owner entries =>
    (surveyFallback env room pending g type owner entries).below

/-- The visits on the walk from a node of the root document. -/
def visitsFrom (env : Environment) (pointer : Pointer) : List Visit :=
  (survey env (env.settings.maxDepth + 1) [] env.root pointer).visits

section Equations

variable (env : Environment) (room : Nat) (pending : List Key) (g : Graph) (pointer : Pointer)

theorem survey_of_mem (h : Key.of g pointer ∈ pending) :
    survey env room pending g pointer = ⟨visit env room pending g pointer, []⟩ := by
  cases room <;> simp [survey, h]

theorem survey_zero :
    survey env 0 pending g pointer = ⟨visit env 0 pending g pointer, []⟩ := by
  simp [survey]

theorem survey_succ (h : Key.of g pointer ∉ pending) :
    survey env (room + 1) pending g pointer =
      .startingWith ⟨room + 1, pending, g, pointer⟩
        (evaluate (surveyDeeper env room (Key.of g pointer :: pending)) env g pointer) := by
  simp [survey, h, surveyDeeper]

theorem surveyFallback_zero (type : Option String) (owner : Pointer)
    (entries : List (Offer Reference)) :
    surveyFallback env 0 pending g type owner entries =
      ⟨fallback env 0 pending g type owner entries, []⟩ := by
  simp [surveyFallback]

theorem surveyFallback_succ (type : Option String) (owner : Pointer)
    (entries : List (Offer Reference)) :
    surveyFallback env (room + 1) pending g type owner entries =
      tryEntries (surveyDeeper env room pending) env g type owner entries := by
  simp [surveyFallback, surveyDeeper]

end Equations

/-! ### The walk of a survey -/

/-- Surveys whose walk is the given one. -/
def surveyBridge : Bridge Survey Walk where
  rel P x y := P x.walk.value ∧ x.walk = y
  rel_imp h imp := ⟨imp _ h.1, h.2⟩
  rel_pure hP := ⟨hP, rfl⟩
  rel_bind := by
    rintro α β P Q x y f h ⟨hP, rfl⟩ hf
    obtain ⟨hQ, same⟩ := hf x.walk.value hP
    refine ⟨hQ, ?_⟩
    change (⟨_, _, _⟩ : Walk β) = ⟨_, _, _⟩
    rw [same]

private theorem walk_all (env : Environment) (room : Nat) :
    (∀ pending g pointer,
      (survey env room pending g pointer).walk = visit env room pending g pointer) ∧
      ∀ pending g type owner entries,
        (surveyFallback env room pending g type owner entries).walk =
          fallback env room pending g type owner entries := by
  induction room with
  | zero =>
    -- Without room, both stop at the same places.
    constructor
    · intro pending g pointer
      rw [survey_zero]
    · intro pending g type owner entries
      rw [surveyFallback_zero]
  | succ room ih =>
    obtain ⟨visits, lists⟩ := ih
    have deeper : ∀ pending target pointer, True → surveyBridge.rel (fun _ => True)
        ((surveyDeeper env room pending).visit target pointer)
        ((plainDeeper env room pending).visit target pointer) := by
      intro pending target pointer _
      exact ⟨trivial, congrArg Walk.below (visits pending target pointer)⟩
    have fallbacks : ∀ pending g type owner entries, surveyBridge.rel (fun _ => True)
        ((surveyDeeper env room pending).fallback g type owner entries)
        ((plainDeeper env room pending).fallback g type owner entries) := by
      intro pending g type owner entries
      exact ⟨trivial, congrArg Walk.below (lists pending g type owner entries)⟩
    constructor
    · intro pending g pointer
      -- A pending node is a cycle in both.
      by_cases h : Key.of g pointer ∈ pending
      · rw [survey_of_mem env (room + 1) pending g pointer h]
      · -- Below the node, both walk the same.
        rw [survey_succ env room pending g pointer h, visit_succ env room pending g pointer h]
        exact congrArg (Walk.touching _) (surveyBridge.evaluate_of_deeper env
          (fun _ _ _ => trivial) (deeper _) (fallbacks _ g) pointer).2
    · intro pending g type owner entries
      rw [surveyFallback_succ, fallback_succ]
      exact (surveyBridge.tryEntries_of_deeper env (fun _ _ _ => trivial)
        (deeper _) (fallbacks _ g) type owner entries).2

/-- The walk of a survey is the plain one. -/
theorem walk_survey (env : Environment) (room : Nat) (pending : List Key) (g : Graph)
    (pointer : Pointer) :
    (survey env room pending g pointer).walk = visit env room pending g pointer :=
  (walk_all env room).1 pending g pointer

/-- The visits of a list change nothing of the list either. -/
theorem walk_surveyFallback (env : Environment) (room : Nat) (pending : List Key) (g : Graph)
    (type : Option String) (owner : Pointer) (entries : List (Offer Reference)) :
    (surveyFallback env room pending g type owner entries).walk =
      fallback env room pending g type owner entries :=
  (walk_all env room).2 pending g type owner entries

/-! ### Walks that are not cut -/

/-- Surveys on which no visit is cut, unless they use up the room themselves. -/
def uncutBridge (env : Environment) (room : Nat) : Bridge Survey Survey where
  rel P x _ := P x.walk.value ∧
    (x.walk.height < room → ∀ v ∈ x.visits, (v.walk env).height < v.room)
  rel_imp h imp := ⟨imp _ h.1, h.2⟩
  rel_pure hP := ⟨hP, fun _ _ hv => absurd hv List.not_mem_nil⟩
  rel_bind := by
    intro α β P Q x y f h hx hf
    obtain ⟨hP, left⟩ := hx
    obtain ⟨hQ, right⟩ := hf x.walk.value hP
    refine ⟨hQ, fun hroom v hv => ?_⟩
    have hmax : max x.walk.height (f x.walk.value).walk.height < room := hroom
    rcases List.mem_append.1 hv with hv | hv
    · exact left (by omega) v hv
    · exact right (by omega) v hv

/-- If a walk stays below its limit, so does every visit in it. -/
private theorem uncut_all (env : Environment) (room : Nat) :
    (∀ pending g pointer, (visit env room pending g pointer).height < room →
      ∀ v ∈ (survey env room pending g pointer).visits, (v.walk env).height < v.room) ∧
      ∀ pending g type owner entries,
        (fallback env room pending g type owner entries).height < room →
          ∀ v ∈ (surveyFallback env room pending g type owner entries).visits,
            (v.walk env).height < v.room := by
  induction room with
  | zero => exact ⟨fun _ _ _ h => absurd h (Nat.not_lt_zero _),
      fun _ _ _ _ _ h => absurd h (Nat.not_lt_zero _)⟩
  | succ room ih =>
    obtain ⟨visits, lists⟩ := ih
    have deeper : ∀ pending target pointer, True →
        (uncutBridge env (room + 1)).rel (fun _ => True)
          ((surveyDeeper env room pending).visit target pointer)
          ((surveyDeeper env room pending).visit target pointer) := by
      intro pending target pointer _
      refine ⟨trivial, fun h => visits pending target pointer ?_⟩
      rw [← walk_survey]
      exact Nat.lt_of_succ_lt_succ h
    have fallbacks : ∀ pending g type owner entries,
        (uncutBridge env (room + 1)).rel (fun _ => True)
          ((surveyDeeper env room pending).fallback g type owner entries)
          ((surveyDeeper env room pending).fallback g type owner entries) := by
      intro pending g type owner entries
      refine ⟨trivial, fun h => lists pending g type owner entries ?_⟩
      rw [← walk_surveyFallback]
      exact Nat.lt_of_succ_lt_succ h
    constructor
    · intro pending g pointer h
      -- A pending node is not visited again.
      by_cases hp : Key.of g pointer ∈ pending
      · rw [survey_of_mem env (room + 1) pending g pointer hp]
        exact fun _ hv => absurd hv List.not_mem_nil
      · have below := ((uncutBridge env (room + 1)).evaluate_of_deeper env
          (fun _ _ _ => trivial) (deeper _)
          (fallbacks (Key.of g pointer :: pending) g) pointer).2
        intro v hv
        rw [survey_succ env room pending g pointer hp] at hv
        -- The visit is the node itself, or is below it.
        rcases List.mem_cons.1 hv with rfl | hv
        · exact h
        · rw [← walk_survey, survey_succ env room pending g pointer hp] at h
          exact below h v hv
    · intro pending g type owner entries h
      rw [← walk_surveyFallback, surveyFallback_succ] at h
      rw [surveyFallback_succ]
      exact ((uncutBridge env (room + 1)).tryEntries_of_deeper env (fun _ _ _ => trivial)
        (deeper _) (fallbacks _ g) type owner entries).2 h

/-- On a walk that does not use up its room, no visit does. -/
theorem uncut_of_height_lt {env : Environment} {room : Nat} {pending : List Key} {g : Graph}
    {pointer : Pointer} (h : (visit env room pending g pointer).height < room) :
    ∀ v ∈ (survey env room pending g pointer).visits, (v.walk env).height < v.room :=
  (uncut_all env room).1 pending g pointer h

end DesignTokens.Resolution
