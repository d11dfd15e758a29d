import DesignTokens.Proofs.Resolution.History

/-!
# DesignTokens.Proofs.Resolution.Chain — aliases of aliases

Where no override applies, a token is resolved by going from alias to alias. The way ends at the
first node that is met again, is too far away, or is no alias; or at a reference that leads to no
document.

1. **Calm environments** (`Environment.Calm`): no override applies.
2. **Memory** (`Environment.Calm.ask_eq_plain`): whatever is kept is settled, so that a resolver
   finds what the plain walk finds.
3. **Chains**: where the references lead, one after the other (`station?`), and how this ends
   (`ending?`).
4. **Walks** (`comes_of_station`): a walk gives what its chain ends with.
5. **Answers** (`resolve_along_chain`), after any calls.
-/

namespace DesignTokens.Resolution

/-! ## Calm environments -/

/-- No override of a document applies in the context. -/
def Environment.Calm (env : Environment) : Prop :=
  ∀ g, env.Has g → ∀ entry ∈ g.overrides, env.enables entry = false

section Calm

variable {env : Environment} {g : Graph}

/-- In a calm environment, no override is in force anywhere. -/
theorem Environment.Calm.override?_eq_none (calm : env.Calm) (hg : env.Has g) (pointer : Pointer) :
    env.override? g pointer = none := by
  have none : (g.overridesFor pointer).filter env.enables = [] := by
    rw [List.filter_eq_nil_iff]
    intro entry he
    simp [calm g hg entry (List.mem_of_mem_filter he)]
  rw [Environment.override?, none, List.getLast?_nil]

variable {m : Type → Type} [Monad m] {pointer : Pointer}

/-- Without an override, the state stays as it is. -/
theorem applyOverride_of_none (d : Deeper m) (none : env.override? g pointer = none) (s : State) :
    applyOverride d env g pointer s = pure s := by
  rw [applyOverride, none]

/-- Where no override applies, a node is evaluated alike if its reference is followed alike. -/
theorem evaluate_of_follow {d d' : Deeper m} (none : ∀ pointer, env.override? g pointer = none)
    (follow : ∀ node type reference, g.node? pointer = some node →
      node.content = .aliasTo type reference →
        d.follow env g reference = d'.follow env g reference) :
    evaluate d env g pointer = evaluate d' env g pointer := by
  -- Only aliases look at deeper levels, if no override does.
  have finished : ∀ node s, finish d env g node s = finish d' env g node s := by
    intro node s
    simp only [finish, applyOverride_of_none _ (none _)]
  unfold evaluate
  cases found : g.node? pointer with
  | none => rfl
  | some node =>
    cases content : node.content with
    | collection children => simp only [content]
    | token type value => simp only [content, finished]
    | aliasTo type reference =>
      simp only [content, follow node type reference found content, finished]

/-- Without an override, a state is finished by the check of its replacement. -/
theorem value_finish_of_calm (d : Deeper Walk) {node : Graph.Node}
    (none : env.override? g node.pointer = none) (s : State) :
    (finish d env g node s).value = checkReplacement env g node s := by
  rw [finish, applyOverride_of_none d none]
  rfl

/-- Where no override applies, an alias has the state of its target, for the alias. -/
theorem value_evaluate_alias (d : Deeper Walk) (none : ∀ pointer, env.override? g pointer = none)
    {node : Graph.Node} (found : g.node? pointer = some node) {type : Field String}
    {reference : Reference} (content : node.content = .aliasTo type reference) :
    (evaluate d env g pointer).value = checkReplacement env g node
      (aliasState g node type reference (d.follow env g reference).value) := by
  simp only [evaluate, found, content, Walk.value_bind, value_finish_of_calm d (none _)]

end Calm

/-! ## Memory -/

namespace Environment.Calm

variable {env : Environment} (calm : env.Calm) (registered : env.Registered)

include calm registered

/-- A visit that is not marked as truncated would come out the same with one more level of room. -/
theorem settled (room : Nat) {g : Graph} (hg : env.Has g) (pending : List Key) (pointer : Pointer)
    (whole : (visit env room pending g pointer).value.truncated = false) :
    visit env (room + 1) pending g pointer = visit env room pending g pointer := by
  -- The induction is on the room; what is found without a cut is found with more room as well.
  induction room generalizing g pending pointer with
  | zero =>
    -- A cycle is found without room as well; a cut marks the state as truncated.
    by_cases cyclic : Key.of g pointer ∈ pending
    · rw [visit_of_mem env 0 pending g pointer cyclic, visit_of_mem env 1 pending g pointer cyclic]
    · rw [visit_zero env pending g pointer cyclic] at whole
      cases whole
  | succ room ih =>
    -- a cycle, which needs no room
    by_cases cyclic : Key.of g pointer ∈ pending
    · rw [visit_of_mem env (room + 1) pending g pointer cyclic,
        visit_of_mem env (room + 2) pending g pointer cyclic]
    · have none := calm.override?_eq_none hg
      rw [visit_succ env room pending g pointer cyclic] at whole ⊢
      rw [visit_succ env (room + 1) pending g pointer cyclic]
      refine congrArg (Walk.touching _) (evaluate_of_follow none ?_)
      intro node type reference found content
      -- The state of an alias is truncated exactly if that of its target is.
      rw [Walk.value_touching, value_evaluate_alias _ none found content,
        truncated_checkReplacement] at whole
      unfold Deeper.follow at whole ⊢
      cases target : env.follow g reference with
      | error fault => rfl
      | ok target =>
        simp only [target] at whole
        exact congrArg Walk.below (ih (hg.follow registered target) _ _ whole)

end Environment.Calm

/-- Surveys on which all visits are sound. -/
def soundBridge (env : Environment) : Bridge Survey Survey where
  rel P x _ := P x.walk.value ∧ ∀ v ∈ x.visits, v.Sound env
  rel_imp h imp := ⟨imp _ h.1, h.2⟩
  rel_pure hP := ⟨hP, fun _ hv => absurd hv List.not_mem_nil⟩
  rel_bind := by
    intro α β P Q x y f h hx hf
    obtain ⟨hP, left⟩ := hx
    obtain ⟨hQ, right⟩ := hf x.walk.value hP
    exact ⟨hQ, List.forall_mem_append.2 ⟨left, right⟩⟩

namespace Environment.Calm

variable {env : Environment} (calm : env.Calm) (registered : env.Registered)

include calm registered

/-- All visits on a walk are sound. -/
theorem sound (room : Nat) {g : Graph} (hg : env.Has g) (pending : List Key) (pointer : Pointer) :
    ∀ v ∈ (survey env room pending g pointer).visits, v.Sound env := by
  induction room generalizing g pending pointer with
  | zero =>
    rw [survey_zero]
    exact fun _ hv => absurd hv List.not_mem_nil
  | succ room ih =>
    by_cases cyclic : Key.of g pointer ∈ pending
    · rw [survey_of_mem env (room + 1) pending g pointer cyclic]
      exact fun _ hv => absurd hv List.not_mem_nil
    · rw [survey_succ env room pending g pointer cyclic]
      -- Either the node itself is visited, and its state is settled,
      refine List.forall_mem_cons.2 ⟨?_, ?_⟩
      · intro kept
        exact calm.settled registered (room + 1) hg pending pointer kept.1
      · -- No fallback list is tried, as no override applies.
        -- or a node below it.
        have below : (soundBridge env).rel (fun _ => True)
            (evaluate (surveyDeeper env room (Key.of g pointer :: pending)) env g pointer)
            (evaluate (surveyDeeper env room (Key.of g pointer :: pending)) env g pointer) := by
          refine (soundBridge env).evaluate_of_tried env (fun _ _ h => hg.follow registered h)
            (fun target p ht => ⟨trivial, ih ht _ p⟩) (fun _ => False)
            (fun _ _ _ untried => untried.elim) pointer ?_
          intro entry applies
          rw [calm.override?_eq_none hg] at applies
          cases applies
        exact below.2

/-- After any calls, a resolver finds what the plain walk finds. -/
theorem ask_eq_plain {r : Resolver} (henv : r.env = env) (fresh : r.memory = [])
    (calls : List Resolver.Call) (pointer : Pointer) :
    (ask env (r.performAll calls).memory pointer).1 = plain env pointer :=
  ask_after_calls registered henv fresh fun p _ => calm.sound registered _ env.has_root [] p

end Environment.Calm

/-! ## Chains -/

/-- Where the reference of an alias leads: to a node of a document, which need not exist, or
nowhere. -/
inductive Station where
  | node (g : Graph) (pointer : Pointer)
  | refused (fault : Fault) (reference : Reference)

namespace Station

/-- The node of a document that a station stands for. -/
def key? : Station → Option Key
  | .node g pointer => some (Key.of g pointer)
  | .refused _ _ => none

/-- The step from an alias to its target. -/
def step? : Station → Option Step
  | .node g pointer => do
    let node ← g.node? pointer
    let _ ← node.aliasReference?
    return ⟨pointer, g.uri, .aliasTo, node.span⟩
  | .refused _ _ => none

/-- Where the reference leads, if the station is an alias. -/
def next? (env : Environment) : Station → Option Station
  | .node g pointer => do
    let node ← g.node? pointer
    let reference ← node.aliasReference?
    match env.follow g reference with
    | .ok target => return .node target reference.target.pointer
    | .error fault => return .refused fault reference
  | .refused _ _ => none

end Station

/-- How a chain of aliases ends. -/
inductive Ending where
  | refused (fault : Fault) (reference : Reference)
  | cycle (g : Graph) (pointer : Pointer)
  | tooDeep (limit : Nat) (g : Graph) (pointer : Pointer)
  | unknown (g : Graph) (pointer : Pointer)
  | collection (g : Graph) (node : Graph.Node)
  | token (g : Graph) (node : Graph.Node) (value : Option (Field Json))

namespace Ending

/-- The code of what is reported at the end of a chain, if something is. -/
def code? : Ending → Option Code
  | .refused _ _ => some .externalReference
  | .cycle _ _ => some .cycleDetected
  | .tooDeep _ _ _ => some .maxDepthExceeded
  | .unknown _ _ => some .unknownPointer
  | .collection _ _ => some .invalidNodeKind
  | .token _ _ none => some .missingBaseValue
  | .token _ _ (some _) => none

/-- What is reported at the end of a chain. -/
def log : Ending → Log
  | .refused fault reference => [fault.atReference reference]
  | .cycle g pointer => [(Fault.cycle pointer).located pointer ((g.node? pointer).bind (·.span))]
  | .tooDeep limit g pointer =>
    [(Fault.tooDeep pointer limit).located pointer ((g.node? pointer).bind (·.span))]
  | .unknown g pointer => [(Fault.unknownPointer pointer g.uri).located pointer none]
  | .collection _ node => [(Fault.collection node.pointer).located node.pointer node.span]
  | .token _ node none => [(Fault.missingValue node.pointer).located node.pointer node.span]
  | .token _ _ (some _) => []

/-- The value that a chain leads to. -/
def value : Ending → Option Json
  | .token _ _ value => value.map (·.value)
  | _ => none

/-- Where the value that a chain leads to is written. -/
def source : Ending → Option Source
  | .token g _ value => value.map (.ofField g.uri)
  | _ => none

/-- The step for the token at the end of a chain. -/
def trace : Ending → List Step
  | .token g node _ => [⟨node.pointer, g.uri, .token, node.span⟩]
  | _ => []

end Ending

section Chain

variable (env : Environment) (start : Pointer)

/-- Where the references lead from a node of the root document, after so many of them. -/
def station? : Nat → Option Station
  | 0 => some (.node env.root start)
  | i + 1 => (station? i).bind (Station.next? env)

/-- The nodes of the first stations, the latest first. -/
def met : Nat → List Key
  | 0 => []
  | i + 1 => ((station? env start i).bind Station.key?).toList ++ met i

/-- How the chain ends at a station, if it does: what counts first stands first. -/
def ending? (i : Nat) : Option Ending :=
  (station? env start i).bind fun
    | .refused fault reference => some (.refused fault reference)
    | .node g pointer =>
      -- A node that is met again is a cycle, however far away it is.
      if Key.of g pointer ∈ met env start i then some (.cycle g pointer)
      else if env.settings.maxDepth < i then some (.tooDeep env.settings.maxDepth g pointer)
      else match g.node? pointer with
        | none => some (.unknown g pointer)
        | some node =>
          match node.content with
          | .collection _ => some (.collection g node)
          | .token _ value => some (.token g node value)
          | .aliasTo _ _ => none

/-- A report beside the way along a chain up to its last station: a type that does not fit, or what
the check of the replacement of a node on the way found. -/
def Aside (last : Nat) (d : Diagnostic) : Prop :=
  d.code = .targetTypeMismatch ∨ ∃ i ≤ last, ∃ g pointer node reference type fault,
    station? env start i = some (.node g pointer) ∧ g.node? pointer = some node ∧
      node.replacement = some reference ∧ replacementFault? env g node reference type = some fault ∧
      d = fault.atReference reference

/-- The state of a station is what the chain ends with further on. -/
structure Comes (i : Nat) (s : State) (last : Nat) (ending : Ending) : Prop where
  le : i ≤ last
  going : ∀ j, i ≤ j → j < last → ending? env start j = none
  ends : ending? env start last = some ending
  value : s.value = ending.value
  source : s.source = ending.source
  applied : s.applied = []
  trace : ∃ steps, s.trace = steps ++ ending.trace ∧
    steps.map some = (List.range' i (last - i)).map fun j =>
      (station? env start j).bind Station.step?
  log : ∃ asides, s.log = ending.log ++ asides ∧ ∀ d ∈ asides, Aside env start last d

end Chain

/-! ## Walks -/

namespace Comes

variable {env : Environment} {start : Pointer} {i last : Nat} {s : State} {ending : Ending}

/-- The chain ends here. -/
theorem here (ends : ending? env start i = some ending) (value : s.value = ending.value)
    (source : s.source = ending.source) (applied : s.applied = []) (trace : s.trace = ending.trace)
    (log : s.log = ending.log) : Comes env start i s i ending where
  le := Nat.le_refl i
  going := fun j hij hji => absurd hij (Nat.not_le_of_lt hji)
  ends := ends
  value := value
  source := source
  applied := applied
  trace := ⟨[], trace, by simp⟩
  log := ⟨[], by simp [log], by simp⟩

/-- The check of a replacement adds reports beside the way. -/
theorem check (h : Comes env start i s last ending) {g : Graph} {pointer : Pointer}
    (station : station? env start i = some (.node g pointer)) {node : Graph.Node}
    (found : g.node? pointer = some node) :
    Comes env start i (checkReplacement env g node s) last ending := by
  -- The check adds to the log, and to nothing else.
  obtain ⟨asides, log, beside⟩ := h.log
  obtain ⟨checks, checked, known⟩ := log_checkReplacement env g node s
  refine { h with
    value := ?_, source := ?_, applied := ?_, trace := ?_, log := ⟨asides ++ checks, ?_, ?_⟩ }
  · rw [value_checkReplacement, h.value]
  · rw [source_checkReplacement, h.source]
  · rw [applied_checkReplacement, h.applied]
  · rw [trace_checkReplacement]
    exact h.trace
  · rw [checked, log, List.append_assoc]
  · refine List.forall_mem_append.2 ⟨beside, fun d hd => .inr ?_⟩
    obtain ⟨reference, type, fault, named, hfault, rfl⟩ := known d hd
    exact ⟨i, h.le, g, pointer, node, reference, type, fault, station, found, named, hfault, rfl⟩

/-- An alias comes to what its target comes to. -/
theorem aliasTo (h : Comes env start (i + 1) s last ending) {g : Graph} {pointer : Pointer}
    (station : station? env start i = some (.node g pointer)) {node : Graph.Node}
    (found : g.node? pointer = some node) {type : Field String} {reference : Reference}
    (content : node.content = .aliasTo type reference) (going : ending? env start i = none) :
    Comes env start i (aliasState g node type reference s) last ending where
  le := Nat.le_of_succ_le h.le
  going := by
    intro j hij hj
    rcases Nat.eq_or_lt_of_le hij with rfl | hij
    · exact going
    · exact h.going j hij hj
  ends := h.ends
  value := h.value
  source := h.source
  applied := h.applied
  -- One step comes in front, that of this station.
  trace := by
    obtain ⟨steps, trace, eachStep⟩ := h.trace
    have step : (station? env start i).bind Station.step? =
        some ⟨node.pointer, g.uri, .aliasTo, node.span⟩ := by
      simp [station, Station.step?, found, Graph.Node.aliasReference?, content,
        (Graph.node?_eq_some found).2]
    have split : last - i = last - (i + 1) + 1 := by have := h.le; omega
    refine ⟨⟨node.pointer, g.uri, .aliasTo, node.span⟩ :: steps, ?_, ?_⟩
    · simp [aliasState, trace]
    · rw [split, List.range'_succ, List.map_cons, List.map_cons, eachStep, step]
  -- The only other report of an alias is that on its type.
  log := by
    obtain ⟨asides, log, beside⟩ := h.log
    refine ⟨asides ++ (aliasTypeFault? node type reference s).toList, ?_, ?_⟩
    · simp [aliasState, log]
    · refine List.forall_mem_append.2 ⟨beside, fun d hd => .inl ?_⟩
      exact code_of_aliasTypeFault (Option.mem_toList.1 hd)

end Comes

section Walk

variable {env : Environment} {start : Pointer} {i : Nat} {g : Graph} {pointer : Pointer}
variable (station : station? env start i = some (.node g pointer))

include station

/-- At the next station, this node was met as well. -/
theorem met_succ : met env start (i + 1) = Key.of g pointer :: met env start i := by
  simp [met, station, Station.key?]

/-- The station after an alias. -/
theorem station?_succ {node : Graph.Node} (found : g.node? pointer = some node)
    {type : Field String} {reference : Reference}
    (content : node.content = .aliasTo type reference) :
    station? env start (i + 1) = some (match env.follow g reference with
      | .ok target => .node target reference.target.pointer
      | .error fault => .refused fault reference) := by
  have refers : node.aliasReference? = some reference := by
    simp [Graph.Node.aliasReference?, content]
  cases target : env.follow g reference <;>
    simp [station?, station, Station.next?, found, refers, target]

/-- At a node that was met, the chain ends in a cycle. -/
theorem comes_of_mem (cyclic : Key.of g pointer ∈ met env start i) (room : Nat) :
    Comes env start i (visit env room (met env start i) g pointer).value i (.cycle g pointer) := by
  rw [visit_of_mem env room _ g pointer cyclic]
  exact .here (by simp [ending?, station, cyclic]) rfl rfl rfl rfl rfl

/-- An alias is followed to the next station. -/
theorem comes_of_follow {node : Graph.Node} (found : g.node? pointer = some node)
    {type : Field String} {reference : Reference}
    (content : node.content = .aliasTo type reference) {d : Deeper Walk}
    (below : ∀ target, env.follow g reference = .ok target →
      station? env start (i + 1) = some (.node target reference.target.pointer) →
        ∃ last ending, Comes env start (i + 1) (d.visit target reference.target.pointer).value
          last ending) :
    ∃ last ending, Comes env start (i + 1) (d.follow env g reference).value last ending := by
  have next := station?_succ station found content
  unfold Deeper.follow
  -- The reference leads to the next station,
  cases target : env.follow g reference with
  | ok target' =>
    rw [target] at next
    exact below target' target next
  | error fault =>
    -- or it is refused there.
    rw [target] at next
    exact ⟨i + 1, .refused fault reference,
      .here (by simp [ending?, next]) rfl rfl rfl rfl rfl⟩

/-- A node that is not met again, and not too far away, is evaluated to what the chain ends with,
if it is followed to that. -/
theorem comes_of_evaluate (fresh : Key.of g pointer ∉ met env start i)
    (near : ¬ env.settings.maxDepth < i) (none : ∀ pointer, env.override? g pointer = none)
    {d : Deeper Walk}
    (below : ∀ reference target, env.follow g reference = .ok target →
      station? env start (i + 1) = some (.node target reference.target.pointer) →
        ∃ last ending, Comes env start (i + 1) (d.visit target reference.target.pointer).value
          last ending) :
    ∃ last ending, Comes env start i (evaluate d env g pointer).value last ending := by
  cases found : g.node? pointer with
  | none =>
    -- no node of this pointer: the chain ends here
    refine ⟨i, .unknown g pointer, .here ?_ ?_ ?_ ?_ ?_ ?_⟩
    · simp [ending?, station, fresh, near, found]
    all_goals simp [evaluate, found, State.unresolved, Ending.value, Ending.source, Ending.trace,
      Ending.log]
  | some node =>
    obtain ⟨_, rfl⟩ := Graph.node?_eq_some found
    cases content : node.content with
    | collection children =>
      -- so it does at a collection
      refine ⟨i, .collection g node, .here ?_ ?_ ?_ ?_ ?_ ?_⟩
      · simp [ending?, station, fresh, near, found, content]
      all_goals simp [evaluate, found, content, State.unresolved, Ending.value, Ending.source,
        Ending.trace, Ending.log]
    | token type value =>
      -- and at a token
      have ends : ending? env start i = some (.token g node value) := by
        simp [ending?, station, fresh, near, found, content]
      refine ⟨i, .token g node value, ?_⟩
      simp only [evaluate, found, content, value_finish_of_calm _ (none _)]
      refine Comes.check (.here ends rfl rfl rfl rfl ?_) station found
      cases value <;> rfl
    | aliasTo type reference =>
      -- It goes on at an alias.
      have going : ending? env start i = Option.none := by
        simp [ending?, station, fresh, near, found, content]
      obtain ⟨last, ending, comes⟩ := comes_of_follow station found content (below reference)
      rw [value_evaluate_alias _ none found content]
      exact ⟨last, ending, (comes.aliasTo station found content going).check station found⟩

/-- With the nodes met so far pending, a visit of a station comes to what the chain ends with. The
levels that are left and the station add up to the limit. -/
theorem comes_of_station (calm : env.Calm) (registered : env.Registered) (hg : env.Has g)
    {room : Nat} (level : i + room = env.settings.maxDepth + 1) :
    ∃ last ending,
      Comes env start i (visit env room (met env start i) g pointer).value last ending := by
  -- The chain goes on by one station where the walk goes down by one level.
  induction room generalizing i g pointer with
  | zero =>
    -- no room left
    by_cases cyclic : Key.of g pointer ∈ met env start i
    · exact ⟨_, _, comes_of_mem station cyclic 0⟩
    · have far : env.settings.maxDepth < i := by omega
      rw [visit_zero env _ g pointer cyclic]
      exact ⟨i, .tooDeep env.settings.maxDepth g pointer,
        .here (by simp [ending?, station, cyclic, far]) rfl rfl rfl rfl rfl⟩
  | succ room ih =>
    -- The chain has come round, or goes on below this node.
    by_cases cyclic : Key.of g pointer ∈ met env start i
    · exact ⟨_, _, comes_of_mem station cyclic (room + 1)⟩
    · rw [visit_succ env room _ g pointer cyclic, Walk.value_touching]
      refine comes_of_evaluate station cyclic (by omega) (calm.override?_eq_none hg) ?_
      intro reference target follow next
      -- Below the node, it is the latest one that was met.
      rw [← met_succ station]
      exact ih next (hg.follow registered follow) (by omega)

end Walk

/-! ## Answers -/

/-- A reference that leads nowhere is one to a document that is not there. -/
theorem code_of_refused {env : Environment} {start : Pointer} {i : Nat} {fault : Fault}
    {reference : Reference} (h : station? env start i = some (.refused fault reference)) :
    fault.code = .externalReference := by
  -- The chain does not start at a refusal, so a reference was followed just before.
  cases i with
  | zero => cases h
  | succ i =>
    obtain ⟨before, _, next⟩ := Option.bind_eq_some_iff.1 h
    cases before with
    | refused fault' reference' => cases next
    | node g pointer =>
      simp only [Station.next?, Option.bind_eq_bind, Option.bind_eq_some_iff] at next
      obtain ⟨node, _, reference', _, next⟩ := next
      cases target : env.follow g reference' with
      | ok target =>
        rw [target] at next
        cases next
      | error fault' =>
        rw [target] at next
        cases next
        exact code_of_follow target

/-- At the end of a chain there is one report, with the code for the way in which it ends, or
none. -/
theorem codes_of_ending {env : Environment} {start : Pointer} {i : Nat} {ending : Ending}
    (ends : ending? env start i = some ending) : ending.log.codes = ending.code?.toList := by
  cases ending with
  | refused fault reference =>
    -- A refusal is reported with its own code; all other endings have theirs.
    obtain ⟨station, here, ends⟩ := Option.bind_eq_some_iff.1 ends
    cases station with
    | refused fault' reference' =>
      cases ends
      exact congrArg (fun code => [code]) (code_of_refused here)
    | node g pointer => grind
  | token g node value => cases value <;> rfl
  | _ => rfl

/-- The type of a token or an alias is the one that it declares. -/
theorem type_plain {env : Environment} (calm : env.Calm) {pointer : Pointer} {node : Graph.Node}
    (found : env.root.node? pointer = some node) (valued : node.isCollection = false) :
    (plain env pointer).value.type = node.type.map (·.value) ∧
      (plain env pointer).value.found = true := by
  have none := calm.override?_eq_none env.has_root
  rw [plain, visit_succ env _ [] env.root pointer List.not_mem_nil, Walk.value_touching]
  rcases Graph.Node.content_cases valued with ⟨type, value, content⟩ | ⟨type, reference, content⟩
  · simp only [evaluate, found, content, value_finish_of_calm _ (none _), type_checkReplacement,
      found_checkReplacement]
    simp [tokenState, Graph.Node.type, content]
  · rw [value_evaluate_alias _ none found content, type_checkReplacement, found_checkReplacement]
    simp [aliasState, Graph.Node.type, content]

/-- Where no override applies, a token or an alias is resolved along the chain of references that
starts there, whatever was asked before. The value is that of the token which the chain ends with,
if it ends with one; the trace has a step for each alias on the way, then one for that token; the
type is the declared one. What is reported is why the chain ends, if there is no value, and what is
found beside the way; all else some transforms reported. -/
theorem resolve_along_chain {env : Environment} (registered : env.Registered) (calm : env.Calm)
    {pointer : Pointer} {node : Graph.Node} (found : env.root.node? pointer = some node)
    (valued : node.isCollection = false) (document : Option Document)
    (transforms : List Transform) (calls : List Resolver.Call) :
    let answer := ((({ env, document, transforms } : Resolver).performAll calls).resolve pointer).1
    ∃ i ending token, (∀ j < i, ending? env pointer j = none) ∧
      ending? env pointer i = some ending ∧ answer.token = some token ∧
      token.value = ending.value ∧ token.source = ending.source ∧
      token.type = node.type.map (·.value) ∧ token.applied = [] ∧
      (∃ steps, token.trace = steps ++ ending.trace ∧
        steps.map some = (List.range i).map fun j =>
          (station? env pointer j).bind Station.step?) ∧
      ending.log.codes = ending.code?.toList ∧
      ∃ asides more, answer.log = ending.log ++ asides ++ more ∧
        (∀ d ∈ asides, Aside env pointer i d) ∧
        ∀ d ∈ more, ∃ earlier token,
          d ∈ (Transform.runAll transforms earlier token document).log := by
  intro answer
  let r := ({ env, document, transforms } : Resolver)
  have henv : (r.performAll calls).env = env := (r.after_performAll calls).env
  -- In a calm environment, the walk is the plain one, whatever was asked before.
  have walk : (ask env (r.performAll calls).memory pointer).1 = plain env pointer :=
    calm.ask_eq_plain registered rfl rfl calls pointer
  have started : station? env pointer 0 = some (.node env.root pointer) := rfl
  obtain ⟨i, ending, comes⟩ := comes_of_station started calm registered env.has_root
    (Nat.zero_add (env.settings.maxDepth + 1))
  change Comes env pointer 0 (plain env pointer).value i ending at comes
  obtain ⟨type, isFound⟩ := type_plain calm found valued
  have given : answer.token = some ((plain env pointer).value.token env.root.uri pointer) := by
    rw [Resolver.token_resolve, henv, walk, Resolver.answer, if_pos isFound]
  obtain ⟨more, log, fromTransforms⟩ :=
    Resolver.log_performAll pointer env document transforms calls
  rw [walk] at log
  -- What the theorem says of the answer is what the chain comes to.
  obtain ⟨steps, trace, eachStep⟩ := comes.trace
  obtain ⟨asides, reported, beside⟩ := comes.log
  refine ⟨i, ending, _, fun j hj => comes.going j (Nat.zero_le j) hj, comes.ends, given,
    comes.value, comes.source, type, comes.applied, ⟨steps, trace, ?_⟩, codes_of_ending comes.ends,
    asides, more, ?_, beside, fromTransforms⟩
  · rw [eachStep, Nat.sub_zero, List.range_eq_range']
  · rw [← reported]
    exact log

/-! ### Aliases in a circle -/

namespace Roundabout

open Sample (aliasOf home linkTo other place)

/-- The alias `entry` leads to `first`, which is replaced in the mode `off`, and from there to
`second` in the other document. -/
def root : Graph where
  uri := home
  nodes := [aliasOf "entry" "first", linkTo "first" other "second"]
  edges := [⟨place "entry", place "first", .aliasTo⟩]
  roots := [place "entry", place "first"]
  overrides := [Sample.override "first" [("mode", .string "off")] Forked.replaced.offer]

/-- The alias `second` leads back to `first`. -/
def back : Graph :=
  Sample.graph other [linkTo "second" home "first"] []

/-- The documents in the mode `on`; two levels are enough for the aliases. -/
def environment : Environment where
  root := root
  externals := [(other, back)]
  settings := { context := [("mode", .string "on")], maxDepth := 2 }

/-- Each document of the example is under its own URI. -/
theorem registered : environment.Registered := by
  intro entry h
  obtain rfl := List.mem_singleton.1 h
  rfl

/-- The example has no override that could apply. -/
theorem calm : environment.Calm := by
  have here : ∀ entry ∈ root.overrides, environment.enables entry = false := by decide
  rintro g (rfl | ⟨_, found⟩) entry he
  · exact here entry he
  · obtain ⟨front, rest, happ, _⟩ := List.lookup_eq_some_iff.1 found
    have mem : (g.uri, g) ∈ environment.externals :=
      happ ▸ List.mem_append_right front List.mem_cons_self
    obtain ⟨_, rfl⟩ := Prod.mk.inj (List.mem_singleton.1 mem)
    exact absurd he List.not_mem_nil

/-- The answer for `entry`, after the other alias and all tokens were asked for. -/
def answer : Resolution :=
  ((({ env := environment } : Resolver).performAll [.named "#/first", .all]).resolve
    (place "entry")).1

end Roundabout

/-- From `entry` the chain comes to `first`, to `second` and to `first` again. This is a cycle, also
where the limit is exceeded. -/
theorem roundabout_resolved :
    Roundabout.environment.Registered ∧ Roundabout.environment.Calm ∧
      (∃ i ending token,
        (∀ j < i, ending? Roundabout.environment (Sample.place "entry") j = none) ∧
        ending? Roundabout.environment (Sample.place "entry") i = some ending ∧
        Roundabout.answer.token = some token ∧ token.value = ending.value ∧
        token.type = some "color") ∧
      ((List.range 4).map fun i =>
        (ending? Roundabout.environment (Sample.place "entry") i).bind Ending.code?) =
          [none, none, none, some .cycleDetected] ∧
      Roundabout.answer.log.codes = [.cycleDetected] ∧
      (Roundabout.answer.token.map fun token => token.trace.map (·.pointer)) =
        some [Sample.place "entry", Sample.place "first", Sample.place "second"] := by
  have found : Roundabout.environment.root.node? (Sample.place "entry") =
      some (Sample.aliasOf "entry" "first") := by rfl
  obtain ⟨i, ending, token, going, ends, given, value, _, type, _⟩ :=
    resolve_along_chain Roundabout.registered Roundabout.calm found rfl none []
      [.named "#/first", .all]
  exact ⟨Roundabout.registered, Roundabout.calm,
    ⟨i, ending, token, going, ends, given, value, type⟩, by decide, by decide, by decide⟩

end DesignTokens.Resolution
