import DesignTokens.Proofs.Resolution.Survey
import DesignTokens.Resolution.Memory

/-!
# DesignTokens.Proofs.Resolution.Memory — remembering changes nothing

The recursion that remembers finds the same as the plain one, as long as what it remembers is what
the plain one finds wherever it may be used.

1. **Documents** (`Environment.Registered`, `Environment.Has`): a key names one node of one
   document.
2. **Faithful memories** (`Memory.Faithful`).
3. **Visits** (`agrees_revisit`): a visit leaves a faithful memory faithful exactly if all visits on
   its way are sound, and then finds what the plain visit finds.
-/

namespace DesignTokens.Resolution

/-! ## Documents -/

namespace Environment

/-- Every other document is found under its own URI. -/
def Registered (env : Environment) : Prop :=
  ∀ entry ∈ env.externals, entry.2.uri = entry.1

/-- A document that references of the root document can lead to. -/
def Has (env : Environment) (g : Graph) : Prop :=
  g = env.root ∨ (g.uri ≠ env.root.uri ∧ env.external? g.uri = some g)

theorem has_root (env : Environment) : env.Has env.root :=
  .inl rfl

variable {env : Environment} {g h : Graph}

/-- The documents of an environment have different URIs. -/
theorem Has.eq_of_uri_eq (hg : env.Has g) (hh : env.Has h) (same : g.uri = h.uri) : g = h := by
  rcases hg with rfl | ⟨ne, found⟩
  · rcases hh with rfl | ⟨ne, _⟩
    · rfl
    · exact absurd same.symm ne
  · rcases hh with rfl | ⟨_, found'⟩
    · exact absurd same ne
    · rw [same, found'] at found
      exact (Option.some.inj found).symm

/-- A document found under a URI has that URI. -/
theorem uri_of_external? (registered : env.Registered) {uri : Uri}
    (found : env.external? uri = some g) : g.uri = uri := by
  obtain ⟨front, back, happ, _⟩ := List.lookup_eq_some_iff.1 found
  exact registered (uri, g) (by simp [happ])

/-- A reference leads to its own document, to the root document, or to another one with the URI of
its target. -/
theorem follow_cases {reference : Reference} {target : Graph}
    (h : env.follow g reference = .ok target) :
    (reference.target.external = false ∧ target = g) ∨
      (reference.target.external = true ∧ reference.target.uri = env.root.uri ∧
        target = env.root) ∨
      (reference.target.external = true ∧ reference.target.uri ≠ env.root.uri ∧
        env.external? reference.target.uri = some target) := by
  simp only [Environment.follow] at h
  split at h
  · next internal =>
    -- Within the document it stands in.
    cases h
    exact .inl ⟨by simpa using internal, rfl⟩
  · next external =>
    -- Into another one, which may not be asked for, or is the root, or is loaded or not.
    have external : reference.target.external = true := by simpa using external
    split at h
    · cases h
    · split at h
      · next root =>
        cases h
        exact .inr (.inl ⟨external, root, rfl⟩)
      · next other =>
        split at h
        · next found =>
          cases h
          exact .inr (.inr ⟨external, other, found⟩)
        · cases h

/-- References lead from documents of an environment to documents of it. -/
theorem Has.follow (registered : env.Registered) (hg : env.Has g) {reference : Reference}
    {target : Graph} (h : env.follow g reference = .ok target) : env.Has target := by
  rcases follow_cases h with ⟨_, rfl⟩ | ⟨_, _, rfl⟩ | ⟨_, other, found⟩
  · exact hg
  · exact has_root env
  · have huri := uri_of_external? registered found
    exact .inr ⟨by rwa [huri], by rwa [huri]⟩

end Environment

/-! ## Faithful memories -/

namespace Remembered

/-- The walk that gave what is remembered. -/
def walk (known : Remembered) : Walk State :=
  ⟨known.state, known.touched, known.height⟩

/-- Wherever it may be used, the plain recursion finds the same. -/
def Faithful (env : Environment) (key : Key) (known : Remembered) : Prop :=
  ∀ g pointer, env.Has g → Key.of g pointer = key →
    ∀ room pending, known.height < room → disjoint known.touched pending = true →
      visit env room pending g pointer = known.walk

end Remembered

namespace Memory

/-- All that was ever kept in the memory is what the plain recursion finds wherever it may be
used. -/
def Faithful (env : Environment) (memory : Memory) : Prop :=
  ∀ entry ∈ memory, entry.2.Faithful env entry.1

theorem faithful_nil (env : Environment) : Faithful env [] :=
  fun _ h => absurd h List.not_mem_nil

variable {env : Environment} {memory : Memory} {g : Graph} {pointer : Pointer} {room : Nat}
  {pending : List Key}

theorem Faithful.subset {memory' : Memory} (faithful : Faithful env memory')
    (h : memory ⊆ memory') : memory.Faithful env :=
  fun entry he => faithful entry (h he)

/-- What is used of a memory is in it, fits the room, and touched nothing that is pending. -/
theorem usable?_eq_some {key : Key} {known : Remembered}
    (h : memory.usable? room pending key = some known) :
    (key, known) ∈ memory ∧ known.height < room ∧ disjoint known.touched pending = true := by
  obtain ⟨found, usable⟩ := Option.filter_eq_some_iff.1 h
  simp only [Bool.and_eq_true, decide_eq_true_eq] at usable
  obtain ⟨front, back, happ, _⟩ := List.lookup_eq_some_iff.1 found
  exact ⟨happ ▸ List.mem_append_right front List.mem_cons_self, usable⟩

/-- What can be used of a faithful memory is what the plain recursion finds. -/
theorem Faithful.visit_eq (faithful : memory.Faithful env) (hg : env.Has g) {known : Remembered}
    (h : memory.usable? room pending (Key.of g pointer) = some known) :
    visit env room pending g pointer = known.walk := by
  obtain ⟨found, low, apart⟩ := usable?_eq_some h
  exact faithful _ found g pointer hg rfl room pending low apart

/-- Keeping a state forgets none. -/
theorem subset_keep (key : Key) (walk : Walk State) : memory ⊆ memory.keep pending key walk := by
  unfold Memory.keep
  split
  · exact List.subset_cons_self _ _
  · exact List.Subset.refl _

/-- What a visit finds may be remembered if and only if the visit is settled. -/
theorem faithful_iff_settled (hg : env.Has g) (v : Visit) (hv : v.graph = g) (kept : v.Kept env) :
    Remembered.Faithful env (Key.of g v.pointer)
        ⟨(v.walk env).value, (v.walk env).touched, (v.walk env).height⟩ ↔ v.Settled env := by
  subst hv
  rw [Visit.settled_iff kept]
  constructor
  · intro faithful
    exact faithful v.graph v.pointer hg rfl
  · intro agree g' pointer' hg' hkey
    -- A key names one node of one document.
    obtain ⟨rfl, huri⟩ := Key.mk.inj hkey
    obtain rfl := hg'.eq_of_uri_eq hg huri
    exact agree

/-- Keeping what a visit finds leaves a memory faithful if and only if the visit is sound. -/
theorem faithful_keep_iff (faithful : memory.Faithful env) (hg : env.Has g) :
    (memory.keep pending (Key.of g pointer) (visit env room pending g pointer)).Faithful env ↔
      Visit.Sound env ⟨room, pending, g, pointer⟩ := by
  have kept_iff : Visit.Kept env ⟨room, pending, g, pointer⟩ ↔
      (!(visit env room pending g pointer).value.truncated &&
        disjoint (visit env room pending g pointer).touched pending) = true := by
    simp [Visit.Kept, Visit.walk]
  unfold Memory.keep
  split
  · next h =>
    -- The entry is kept, so the visit must be settled, and the entries before are faithful anyhow.
    have same := faithful_iff_settled hg ⟨room, pending, g, pointer⟩ rfl (kept_iff.2 h)
    constructor
    · intro all _
      exact same.1 (all _ List.mem_cons_self)
    · intro sound entry he
      rcases List.mem_cons.1 he with rfl | he
      · exact same.2 (sound (kept_iff.2 h))
      · exact faithful entry he
  · -- Nothing is kept.
    next h => exact iff_of_true faithful fun kept => absurd (kept_iff.1 kept) h

end Memory

/-! ## Visits -/

namespace Recall

variable {α β : Type} (memory : Memory)

@[simp] theorem value_pure (a : α) : ((pure a : Recall α).run memory).1.value = a := rfl
@[simp] theorem memory_pure (a : α) : ((pure a : Recall α).run memory).2 = memory := rfl

@[simp] theorem value_bind (x : Recall α) (f : α → Recall β) :
    ((x >>= f).run memory).1.value =
      ((f (x.run memory).1.value).run (x.run memory).2).1.value := rfl

@[simp] theorem memory_bind (x : Recall α) (f : α → Recall β) :
    ((x >>= f).run memory).2 = ((f (x.run memory).1.value).run (x.run memory).2).2 := rfl

end Recall

/-- How the recursion that remembers goes deeper from a node or a fallback list. -/
def recallDeeper (env : Environment) (room : Nat) (pending : List Key) : Deeper Recall where
  visit := fun g pointer => .below ⟨fun memory => revisit env room pending g pointer memory⟩
  fallback := fun g type owner entries =>
    .below ⟨fun memory => retry env room pending g type owner entries memory⟩

section Equations

variable (env : Environment) (room : Nat) (pending : List Key) (g : Graph) (pointer : Pointer)
  (memory : Memory)

theorem revisit_zero :
    revisit env 0 pending g pointer memory = (visit env 0 pending g pointer, memory) := by
  simp [revisit, visit]

theorem revisit_of_usable {known : Remembered}
    (h : memory.usable? (room + 1) pending (Key.of g pointer) = some known) :
    revisit env (room + 1) pending g pointer memory = (known.walk, memory) := by
  simp [revisit, h, Remembered.walk]

/-- A pending node that the memory does not know is reported as a cycle. -/
theorem revisit_of_mem (h : memory.usable? (room + 1) pending (Key.of g pointer) = none)
    (hp : Key.of g pointer ∈ pending) :
    revisit env (room + 1) pending g pointer memory =
      (.touching (Key.of g pointer) (pure (cycleState g pointer)), memory) := by
  simp [revisit, h, hp]

/-- A node that is neither known nor pending is evaluated, and the state may be kept. -/
theorem revisit_succ (h : memory.usable? (room + 1) pending (Key.of g pointer) = none)
    (hp : Key.of g pointer ∉ pending) :
    revisit env (room + 1) pending g pointer memory =
      Memory.keeping pending (Key.of g pointer)
        ((evaluate (recallDeeper env room (Key.of g pointer :: pending)) env g pointer).run
          memory) := by
  simp [revisit, h, hp, recallDeeper]

theorem retry_zero (type : Option String) (owner : Pointer) (entries : List (Offer Reference)) :
    retry env 0 pending g type owner entries memory =
      (fallback env 0 pending g type owner entries, memory) := by
  simp [retry, fallback]

theorem retry_succ (type : Option String) (owner : Pointer) (entries : List (Offer Reference)) :
    retry env (room + 1) pending g type owner entries memory =
      (tryEntries (recallDeeper env room pending) env g type owner entries).run memory := by
  simp [retry, recallDeeper]

end Equations

/-- What a walk that remembers gives agrees with a survey: it forgets nothing, it leaves a faithful
memory faithful exactly if all visits of the survey are sound, and then it finds the same. -/
structure Agrees {α : Type} (env : Environment) (x : Survey α) (memory : Memory)
    (result : Walk α × Memory) : Prop where
  grows : memory ⊆ result.2
  faithful : memory.Faithful env → (result.2.Faithful env ↔ ∀ v ∈ x.visits, v.Sound env)
  same : result.2.Faithful env → result.1 = x.walk

namespace Agrees

variable {α β : Type} {env : Environment} {memory : Memory}

/-- Nothing is kept, so all visits have to be sound already. -/
theorem of_unchanged {x : Survey α} {walk : Walk α}
    (sound : memory.Faithful env → ∀ v ∈ x.visits, v.Sound env)
    (same : memory.Faithful env → walk = x.walk) : Agrees env x memory (walk, memory) where
  grows := List.Subset.refl _
  faithful := fun hm => iff_of_true hm (sound hm)
  same := same

/-- A step down on both sides. -/
theorem below {x : Survey α} {result : Walk α × Memory} (h : Agrees env x memory result) :
    Agrees env x.below memory (result.1.below, result.2) where
  grows := h.grows
  faithful := h.faithful
  same := fun hm => congrArg Walk.below (h.same hm)

/-- One walk after another: as long as the memory is faithful, both go on with the same value. -/
theorem bind {x : Survey α} {y : Recall α} {f : α → Survey β} {k : α → Recall β}
    (first : Agrees env x memory (y.run memory))
    (next : Agrees env (f (y.run memory).1.value) (y.run memory).2
      ((k (y.run memory).1.value).run (y.run memory).2)) :
    Agrees env (x >>= f) memory ((y >>= k).run memory) := by
  refine ⟨List.Subset.trans first.grows next.grows, fun hm => ⟨?_, ?_⟩, ?_⟩
  · -- A faithful memory at the end: the visits of both parts are sound.
    intro kept v hv
    have kept' := Memory.Faithful.subset kept next.grows
    rcases List.mem_append.1 hv with hv | hv
    · exact (first.faithful hm).1 kept' v hv
    · rw [← first.same kept'] at hv
      exact (next.faithful kept').1 kept v hv
  · -- Sound visits: each part keeps its memory faithful.
    intro all
    have kept' := (first.faithful hm).2 fun v hv => all v (List.mem_append_left _ hv)
    refine (next.faithful kept').2 fun v hv => all v (List.mem_append_right _ ?_)
    rwa [first.same kept'] at hv
  · -- The values: the second part runs on the value of the first.
    intro kept
    have same := first.same (Memory.Faithful.subset kept next.grows)
    have same' := next.same kept
    rw [same] at same'
    change (⟨_, _, _⟩ : Walk β) = ⟨_, _, _⟩
    rw [same, same']

end Agrees

/-- Walks that agree with a survey, whatever is remembered. -/
def memoryBridge (env : Environment) : Bridge Survey Recall where
  rel P x y := P x.walk.value ∧
    ∀ memory, P (y.run memory).1.value ∧ Agrees env x memory (y.run memory)
  rel_imp h imp := ⟨imp _ h.1, fun memory => ⟨imp _ (h.2 memory).1, (h.2 memory).2⟩⟩
  rel_pure hP := ⟨hP, fun _ => ⟨hP, .of_unchanged (fun _ _ hv => absurd hv List.not_mem_nil)
    fun _ => rfl⟩⟩
  rel_bind := by
    intro α β P Q x y f k hx hf
    obtain ⟨hP, first⟩ := hx
    refine ⟨(hf x.walk.value hP).1, fun memory => ?_⟩
    obtain ⟨hP', agrees⟩ := first memory
    obtain ⟨hQ, next⟩ := (hf _ hP').2 (y.run memory).2
    exact ⟨hQ, agrees.bind next⟩

section Known

variable {env : Environment} {memory : Memory} {room : Nat} {pending : List Key} {g : Graph}
  {pointer : Pointer}

/-- A visit that is answered from the memory. -/
theorem Agrees.of_usable (hg : env.Has g) {known : Remembered}
    (h : memory.usable? room pending (Key.of g pointer) = some known) :
    Agrees env (survey env room pending g pointer) memory (known.walk, memory) := by
  refine .of_unchanged (fun hm => ?_) fun hm => ?_
  · -- There was room enough, so that no visit below was cut.
    have low : (visit env room pending g pointer).height < room := by
      rw [hm.visit_eq hg h]
      exact (Memory.usable?_eq_some h).2.1
    exact fun v hv _ => Visit.settled_of_uncut (uncut_of_height_lt low v hv)
  · rw [walk_survey, hm.visit_eq hg h]

/-- A visit whose walk is kept, given that the levels below agree. -/
theorem Agrees.keeping (hg : env.Has g) (hp : Key.of g pointer ∉ pending)
    (below : Agrees env (evaluate (surveyDeeper env room (Key.of g pointer :: pending)) env g
      pointer) memory
      ((evaluate (recallDeeper env room (Key.of g pointer :: pending)) env g pointer).run memory)) :
    Agrees env (survey env (room + 1) pending g pointer) memory
      (Memory.keeping pending (Key.of g pointer)
        ((evaluate (recallDeeper env room (Key.of g pointer :: pending)) env g pointer).run
          memory)) := by
  generalize (evaluate (recallDeeper env room (Key.of g pointer :: pending)) env g pointer).run
    memory = result at below ⊢
  have walk_eq : result.2.Faithful env →
      result.1.touching (Key.of g pointer) = visit env (room + 1) pending g pointer := by
    intro kept
    rw [below.same kept, ← walk_survey, survey_succ env room pending g pointer hp]
    rfl
  have grows : result.2 ⊆ (Memory.keeping pending (Key.of g pointer) result).2 :=
    Memory.subset_keep _ _
  refine ⟨List.Subset.trans below.grows grows, fun hm => ?_, fun kept => ?_⟩
  · rw [survey_succ env room pending g pointer hp]
    constructor
    · -- The node itself is visited as well, and kept with the memory from below.
      intro kept v hv
      have kept' := Memory.Faithful.subset kept grows
      rcases List.mem_cons.1 hv with rfl | hv
      · unfold Memory.keeping at kept
        rw [walk_eq kept'] at kept
        exact (Memory.faithful_keep_iff kept' hg).1 kept
      · exact (below.faithful hm).1 kept' v hv
    · intro all
      have kept' := (below.faithful hm).2 fun v hv => all v (List.mem_cons_of_mem _ hv)
      unfold Memory.keeping
      rw [walk_eq kept']
      exact (Memory.faithful_keep_iff kept' hg).2 (all _ List.mem_cons_self)
  · rw [walk_survey]
    exact walk_eq (Memory.Faithful.subset kept grows)

end Known

/-- Walking with a memory agrees with listing the visits of the walk without one. -/
private theorem memory_all {env : Environment} (registered : env.Registered) (room : Nat) :
    (∀ pending g pointer, env.Has g → ∀ memory,
      Agrees env (survey env room pending g pointer) memory
        (revisit env room pending g pointer memory)) ∧
      ∀ pending g type owner entries, env.Has g → ∀ memory,
        Agrees env (surveyFallback env room pending g type owner entries) memory
          (retry env room pending g type owner entries memory) := by
  induction room with
  | zero =>
    constructor
    · -- Without room, no memory is asked and none is kept.
      intro pending g pointer _ memory
      rw [survey_zero, revisit_zero]
      exact .of_unchanged (fun _ _ hv => absurd hv List.not_mem_nil) fun _ => rfl
    · intro pending g type owner entries _ memory
      rw [surveyFallback_zero, retry_zero]
      exact .of_unchanged (fun _ _ hv => absurd hv List.not_mem_nil) fun _ => rfl
  | succ room ih =>
    obtain ⟨visits, lists⟩ := ih
    have deeper : ∀ pending target pointer, env.Has target → (memoryBridge env).rel (fun _ => True)
        ((surveyDeeper env room pending).visit target pointer)
        ((recallDeeper env room pending).visit target pointer) := by
      intro pending target pointer ht
      exact ⟨trivial, fun memory => ⟨trivial, (visits pending target pointer ht memory).below⟩⟩
    have fallbacks : ∀ pending g type owner entries, env.Has g →
        (memoryBridge env).rel (fun _ => True)
          ((surveyDeeper env room pending).fallback g type owner entries)
          ((recallDeeper env room pending).fallback g type owner entries) := by
      intro pending g type owner entries hg
      exact ⟨trivial, fun memory =>
        ⟨trivial, (lists pending g type owner entries hg memory).below⟩⟩
    constructor
    · intro pending g pointer hg memory
      cases hu : memory.usable? (room + 1) pending (Key.of g pointer) with
      | some known =>
        -- The state is known and may be used.
        rw [revisit_of_usable env room pending g pointer memory hu]
        exact .of_usable hg hu
      | none =>
        by_cases hp : Key.of g pointer ∈ pending
        · -- The node is pending: a cycle.
          rw [revisit_of_mem env room pending g pointer memory hu hp,
            survey_of_mem env (room + 1) pending g pointer hp,
            visit_of_mem env (room + 1) pending g pointer hp]
          exact .of_unchanged (fun _ _ hv => absurd hv List.not_mem_nil) fun _ => rfl
        · -- The node is evaluated, and its state is kept.
          rw [revisit_succ env room pending g pointer memory hu hp]
          have below := (memoryBridge env).evaluate_of_deeper env
            (fun _ _ h => hg.follow registered h) (deeper (Key.of g pointer :: pending))
            (fun type owner entries => fallbacks _ g type owner entries hg) pointer
          exact .keeping hg hp (below.2 memory).2
    · intro pending g type owner entries hg memory
      rw [retry_succ, surveyFallback_succ]
      have below := (memoryBridge env).tryEntries_of_deeper env
        (fun _ _ h => hg.follow registered h) (deeper pending)
        (fun type owner entries => fallbacks _ g type owner entries hg) type owner entries
      exact (below.2 memory).2

/-- A visit forgets nothing. It leaves a faithful memory faithful exactly if all visits on its way
are sound, and then it finds what the plain visit finds. -/
theorem agrees_revisit {env : Environment} (registered : env.Registered) (room : Nat)
    (pending : List Key) {g : Graph} (hg : env.Has g) (pointer : Pointer) (memory : Memory) :
    Agrees env (survey env room pending g pointer) memory
      (revisit env room pending g pointer memory) :=
  (memory_all registered room).1 pending g pointer hg memory

end DesignTokens.Resolution
