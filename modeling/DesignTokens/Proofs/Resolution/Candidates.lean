import DesignTokens.Proofs.Resolution.Reports

/-!
# DesignTokens.Proofs.Resolution.Candidates — the first usable value of an override

An override offers references and values in fallback lists inside one another. What it comes to is
one search through all of them in the order in which they are written: the first one that is usable
gives the value, and nothing is left of those before it.

1. **Leaves** (`Offer.leaves`): the references and values of an override, with the fallback entries
   around them.
2. **Searches** (`firstFound`): the first success, from memory to memory.
3. **Candidates** (`gives_tryOffer`): an override is tried as its leaves are searched, as far down
   as the limit for the depth allows.
4. **Nodes** (`state_of_first_leaf`): what a node with an override is evaluated to.
-/

namespace DesignTokens

/-! ## Leaves -/

namespace Offer

open Resolution

/-- A reference or a value that is written out. -/
inductive Leaf.Content where
  | reference (reference : Reference)
  | value (field : Field Json)

/-- A reference or a value of an override, with the entries of fallback lists around it, the
outermost first. -/
structure Leaf where
  entries : List (Offer Reference)
  content : Leaf.Content

namespace Leaf

/-- In how many fallback lists a leaf is. -/
def level (leaf : Leaf) : Nat :=
  leaf.entries.length

/-- A leaf of an entry, as a leaf of a list with that entry. -/
def inside (entry : Offer Reference) (leaf : Leaf) : Leaf :=
  { leaf with entries := entry :: leaf.entries }

/-- Inside of an entry, a leaf is one level further down. -/
theorem level_inside (entry : Offer Reference) (leaf : Leaf) :
    (leaf.inside entry).level = leaf.level + 1 :=
  List.length_cons

/-- What a leaf gives for a node of a type that is evaluated at a depth: nothing if it is not
usable. A reference is followed from below the lists around it, and is usable if its target has a
value; a value is usable unless the type does not admit it. -/
def find (env : Environment) (depth : Nat) (pending : List Key) (g : Graph) (type : Option String)
    (leaf : Leaf) (memory : Memory) : Option Payload × Memory :=
  match leaf.content with
  | .reference reference =>
    let room := env.settings.maxDepth - (depth + leaf.level)
    let followed := ((recallDeeper env room pending).follow env g reference).run memory
    let target := followed.1.value
    (target.value.map fun value => {
      value, source := target.source, type := target.type, trace := target.trace
      applied := target.applied
      log := target.log ++ (overrideTypeFault? type reference target.type).toList
      truncated := target.truncated }, followed.2)
  | .value field =>
    (if type.all fun type => TokenType.admits type field.value then
      some { value := field.value, source := some (.ofField g.uri field) }
    else none, memory)

/-- From within an entry, a leaf is found one level further down. -/
theorem find_inside (env : Environment) (depth : Nat) (pending : List Key) (g : Graph)
    (type : Option String) (entry : Offer Reference) (leaf : Leaf) :
    (leaf.inside entry).find env depth pending g type =
      leaf.find env (depth + 1) pending g type := by
  have level : depth + (leaf.inside entry).level = depth + 1 + leaf.level := by
    rw [leaf.level_inside entry]
    omega
  funext memory
  simp only [find, level]
  rfl

/-- What a leaf gives, through the entries around it. -/
def through (g : Graph) (leaf : Leaf) (p : Payload) : Payload :=
  leaf.entries.foldr (fun entry p => p.throughEntry g entry) p

def steps (uri : Uri) (leaf : Leaf) : List Step :=
  leaf.entries.map fun entry => ⟨entry.pointer, uri, .fallback, entry.span⟩

/-- The entries around a leaf, as they contribute to a value from a source. -/
def applied (source : Option Source) (leaf : Leaf) : List Applied :=
  leaf.entries.map fun entry => ⟨entry.pointer, .fallback, source⟩

/-- The entries around a leaf stand in front of what it gives. -/
theorem through_eq (g : Graph) (leaf : Leaf) (p : Payload) :
    leaf.through g p = { p with
      trace := leaf.steps g.uri ++ p.trace, applied := leaf.applied p.source ++ p.applied } := by
  obtain ⟨entries, content⟩ := leaf
  simp only [through, steps, applied]
  induction entries with
  | nil => rfl
  | cons entry rest ih =>
    rw [List.foldr_cons, ih]
    rfl

end Leaf

mutual

/-- The references and values of an offer, in the order in which they are tried. -/
def leaves : Offer Reference → List Leaf
  | .mk _ _ reference value fallback =>
    reference.toList.map (fun reference => ⟨[], .reference reference⟩) ++
      value.toList.map (fun field => ⟨[], .value field⟩) ++ leavesOf fallback

/-- The references and values of a list of entries. -/
def leavesOf : List (Offer Reference) → List Leaf
  | [] => []
  | entry :: rest => (leaves entry).map (Leaf.inside entry) ++ leavesOf rest

end

/-- The leaves of an offer are its reference, its value, and those of its fallback list, in this
order. -/
theorem leaves_eq (offer : Offer Reference) :
    offer.leaves = offer.reference.toList.map (fun reference => ⟨[], .reference reference⟩) ++
      offer.value.toList.map (fun field => ⟨[], .value field⟩) ++ leavesOf offer.fallback := by
  cases offer
  simp [leaves, reference, value, fallback]

/-- The leaves of a list are inside of it. -/
theorem level_pos_of_mem_leavesOf {entries : List (Offer Reference)} {leaf : Leaf}
    (h : leaf ∈ leavesOf entries) : 0 < leaf.level := by
  induction entries with
  | nil => simp [leavesOf] at h
  | cons entry rest ih =>
    rw [leavesOf] at h
    -- a leaf of the first entry, or of the rest
    rcases List.mem_append.1 h with h | h
    · obtain ⟨inner, _, rfl⟩ := List.mem_map.1 h
      rw [inner.level_inside entry]
      exact Nat.succ_pos _
    · exact ih h

end Offer

namespace Resolution

/-! ## Searches -/

section Search

variable {α β : Type}

/-- The first success, with the memory that is left then. -/
def firstFound (find : α → Memory → Option β × Memory) :
    List α → Memory → Option (α × β) × Memory
  | [], memory => (none, memory)
  | a :: rest, memory =>
    match find a memory with
    | (some b, memory) => (some (a, b), memory)
    | (none, memory) => firstFound find rest memory

/-- Go on with another search unless there was a success. -/
def orElse (found : Option β × Memory) (next : Memory → Option β × Memory) : Option β × Memory :=
  match found with
  | (some b, memory) => (some b, memory)
  | (none, memory) => next memory

/-- What is found first in two lists is found in the first one, or else in the second. -/
theorem firstFound_append (find : α → Memory → Option β × Memory) (xs ys : List α)
    (memory : Memory) :
    firstFound find (xs ++ ys) memory =
      orElse (firstFound find xs memory) (firstFound find ys) := by
  induction xs generalizing memory with
  | nil => rfl
  | cons x rest ih =>
    simp only [List.cons_append, firstFound]
    rcases find x memory with ⟨_ | b, memory'⟩
    · exact ih memory'
    · rfl

/-- It does not matter how three searches are put together. -/
theorem orElse_assoc (found : Option β × Memory) (next last : Memory → Option β × Memory) :
    orElse (orElse found next) last = orElse found fun memory => orElse (next memory) last := by
  rcases found with ⟨_ | b, memory⟩ <;> rfl

end Search

section Leaves

variable (env : Environment) (depth : Nat) (pending : List Key) (g : Graph) (type : Option String)

/-- The leaves that can be reached from a depth. -/
def reachable (leaves : List Offer.Leaf) : List Offer.Leaf :=
  leaves.filter fun leaf => depth + leaf.level ≤ env.settings.maxDepth

/-- What the first usable one of some leaves gives, through the entries around it. -/
def search (leaves : List Offer.Leaf) (memory : Memory) : Option Payload × Memory :=
  let found := firstFound (Offer.Leaf.find env depth pending g type) (reachable env depth leaves)
    memory
  (found.1.map fun (leaf, payload) => leaf.through g payload, found.2)

/-- Leaves are searched in order. -/
theorem search_append (xs ys : List Offer.Leaf) (memory : Memory) :
    search env depth pending g type (xs ++ ys) memory =
      orElse (search env depth pending g type xs memory)
        (search env depth pending g type ys) := by
  simp only [search, reachable, List.filter_append, firstFound_append]
  rcases firstFound _ _ memory with ⟨_ | found, memory'⟩ <;> rfl

/-- The leaves of an entry can be reached if they can be one level further down. -/
theorem reachable_inside (entry : Offer Reference) (leaves : List Offer.Leaf) :
    reachable env depth (leaves.map (Offer.Leaf.inside entry)) =
      (reachable env (depth + 1) leaves).map (Offer.Leaf.inside entry) := by
  simp only [reachable, List.filter_map]
  congr 1
  refine List.filter_congr fun leaf _ => decide_eq_decide.2 ?_
  rw [leaf.level_inside entry]
  omega

/-- The leaves of an entry are searched one level further down. -/
theorem search_inside (entry : Offer Reference) (leaves : List Offer.Leaf) (memory : Memory) :
    search env depth pending g type (leaves.map (Offer.Leaf.inside entry)) memory =
      ((search env (depth + 1) pending g type leaves memory).1.map (·.throughEntry g entry),
        (search env (depth + 1) pending g type leaves memory).2) := by
  simp only [search, reachable_inside]
  induction reachable env (depth + 1) leaves generalizing memory with
  | nil => rfl
  | cons leaf rest ih =>
    simp only [List.map_cons, firstFound, leaf.find_inside]
    rcases leaf.find env (depth + 1) pending g type memory with ⟨_ | payload, memory'⟩
    · exact ih memory'
    · rfl

end Leaves

/-! ## Candidates -/

namespace Recall

/-- What a candidate gives, and the memory that it leaves. -/
def gives (x : Recall Outcome) (memory : Memory) : Option Payload × Memory :=
  ((x.run memory).1.value.toOption, (x.run memory).2)

/-- The first usable outcome is that of the first computation, or else one of the rest. -/
theorem gives_cons (c : Recall Outcome) (cs : List (Recall Outcome)) (memory : Memory) :
    (firstUsable (c :: cs)).gives memory =
      orElse (c.gives memory) (firstUsable cs).gives := by
  simp only [gives, firstUsable, value_bind, memory_bind]
  cases (c.run memory).1.value with
  | ok payload => rfl
  | error failure =>
    simp only [value_bind, memory_bind, value_pure, memory_pure, Except.toOption, orElse, gives]
    cases ((firstUsable cs).run (c.run memory).2).1.value <;> rfl

/-- Computations are tried in order. -/
theorem gives_append (xs ys : List (Recall Outcome)) (memory : Memory) :
    (firstUsable (xs ++ ys)).gives memory =
      orElse ((firstUsable xs).gives memory) (firstUsable ys).gives := by
  induction xs generalizing memory with
  | nil => rfl
  | cons c rest ih => rw [List.cons_append, gives_cons, gives_cons, orElse_assoc, funext ih]

/-- A single computation gives what it gives. -/
theorem gives_single (c : Recall Outcome) : (firstUsable [c]).gives = c.gives := by
  funext memory
  rw [gives_cons]
  rcases c.gives memory with ⟨_ | payload, memory'⟩ <;> rfl

end Recall

section Offers

variable {env : Environment} {depth : Nat} {pending : List Key} {g : Graph} {type : Option String}

/-- A leaf outside of all lists is searched by itself. -/
theorem search_single (reached : depth ≤ env.settings.maxDepth) (content : Offer.Leaf.Content) :
    search env depth pending g type [⟨[], content⟩] =
      Offer.Leaf.find env depth pending g type ⟨[], content⟩ := by
  funext memory
  have reachable : reachable env depth [⟨[], content⟩] = [⟨[], content⟩] := by
    simp [Resolution.reachable, Offer.Leaf.level, reached]
  simp only [search, reachable, firstFound]
  rcases Offer.Leaf.find env depth pending g type ⟨[], content⟩ memory with ⟨_ | payload, memory'⟩
    <;> rfl

/-- No leaf of a list is reached without room. -/
theorem search_leavesOf_of_full (full : depth = env.settings.maxDepth)
    (entries : List (Offer Reference)) (memory : Memory) :
    search env depth pending g type (Offer.leavesOf entries) memory = (none, memory) := by
  have none : reachable env depth (Offer.leavesOf entries) = [] := by
    refine List.filter_eq_nil_iff.2 fun leaf hl => ?_
    have := Offer.level_pos_of_mem_leavesOf hl
    simp only [decide_eq_true_eq]
    omega
  rw [search, none]
  rfl

/-- A reference gives what the leaf for it gives. -/
theorem gives_reference {room : Nat} (level : room + depth = env.settings.maxDepth)
    (reference : Reference) (memory : Memory) :
    (((recallDeeper env room pending).follow env g reference >>= fun target =>
        pure (targetOutcome type reference target)) : Recall Outcome).gives memory =
      search env depth pending g type [⟨[], .reference reference⟩] memory := by
  have below : env.settings.maxDepth - (depth + Offer.Leaf.level ⟨[], .reference reference⟩) =
      room := by
    simp only [Offer.Leaf.level, List.length_nil]
    omega
  rw [search_single (by omega)]
  simp only [Offer.Leaf.find, below, Recall.gives, Recall.value_bind, Recall.memory_bind,
    Recall.value_pure, Recall.memory_pure, targetOutcome]
  cases (((recallDeeper env room pending).follow env g reference).run memory).1.value.value <;> rfl

/-- A value gives what the leaf for it gives. -/
theorem gives_value (reached : depth ≤ env.settings.maxDepth) (field : Field Json)
    (memory : Memory) :
    (pure (valueOutcome g type field) : Recall Outcome).gives memory =
      search env depth pending g type [⟨[], .value field⟩] memory := by
  rw [search_single reached]
  simp only [Offer.Leaf.find, Recall.gives, Recall.value_pure, Recall.memory_pure, valueOutcome]
  cases type with
  | none => rfl
  | some type =>
    cases admitted : TokenType.admits type field.value <;>
      simp [Option.filter, admitted, Except.toOption]

/-- An offer is tried as its leaves are searched, if its fallback list is. -/
theorem gives_tryOffer_of_list {room : Nat} (level : room + depth = env.settings.maxDepth)
    (offer : Offer Reference) (memory : Memory)
    (list : ∀ memory, ((recallDeeper env room pending).fallback g type offer.pointer
        offer.fallback).gives memory =
      search env depth pending g type (Offer.leavesOf offer.fallback) memory) :
    (tryOffer (recallDeeper env room pending) env g type offer).gives memory =
      search env depth pending g type offer.leaves memory := by
  have reached : depth ≤ env.settings.maxDepth := by omega
  -- the reference, if there is one
  have references : (firstUsable (offer.reference.toList.map fun reference =>
        ((recallDeeper env room pending).follow env g reference >>= fun target =>
          pure (targetOutcome type reference target) : Recall Outcome))).gives memory =
      search env depth pending g type
        (offer.reference.toList.map fun reference => ⟨[], .reference reference⟩) memory := by
    cases offer.reference with
    | none => rfl
    | some reference =>
      simp only [Option.toList_some, List.map_cons, List.map_nil]
      rw [Recall.gives_single, gives_reference level]
  -- the value, if there is one
  have values : ∀ memory, (firstUsable (offer.value.toList.map fun field =>
        (pure (valueOutcome g type field) : Recall Outcome))).gives memory =
      search env depth pending g type
        (offer.value.toList.map fun field => ⟨[], .value field⟩) memory := by
    intro memory
    cases offer.value with
    | none => rfl
    | some field =>
      simp only [Option.toList_some, List.map_cons, List.map_nil]
      rw [Recall.gives_single, gives_value reached]
  -- The fallback list, unless it is empty, and then it has no leaves.
  have lists : ∀ memory, (firstUsable (if offer.fallback.isEmpty then []
        else [(recallDeeper env room pending).fallback g type offer.pointer
          offer.fallback])).gives memory =
      search env depth pending g type (Offer.leavesOf offer.fallback) memory := by
    intro memory
    by_cases none : offer.fallback = []
    · rw [none]
      rfl
    · have some : offer.fallback.isEmpty = false := by simpa using none
      rw [some, if_neg Bool.false_ne_true, Recall.gives_single, list]
  rw [tryOffer, Recall.gives_append, Recall.gives_append, offer.leaves_eq, search_append,
    search_append, references, funext values, funext lists]

/-- The entries of a list are tried as their leaves are searched, if each of them is. -/
theorem gives_tryEntries_of_each (d : Deeper Recall) (owner : Pointer)
    (entries : List (Offer Reference)) (memory : Memory)
    (each : ∀ (entry : Offer Reference) memory, (tryOffer d env g type entry).gives memory =
      search env (depth + 1) pending g type entry.leaves memory) :
    (tryEntries d env g type owner entries).gives memory =
      search env depth pending g type (Offer.leavesOf entries) memory := by
  rw [tryEntries, Recall.gives_append]
  induction entries generalizing memory with
  | nil => rfl
  | cons entry rest ih =>
    -- The step for the entry is put in front of what its leaves give.
    have first : ((tryOffer d env g type entry >>= fun outcome =>
          pure (outcome.map (·.throughEntry g entry))) : Recall Outcome).gives =
        search env depth pending g type (entry.leaves.map (Offer.Leaf.inside entry)) := by
      funext memory
      rw [search_inside, ← each]
      simp only [Recall.gives, Recall.value_bind, Recall.memory_bind, Recall.value_pure,
        Recall.memory_pure]
      cases ((tryOffer d env g type entry).run memory).1.value <;> rfl
    rw [List.map_cons, Recall.gives_cons, orElse_assoc, funext ih, first, Offer.leavesOf,
      search_append]

/-- An override is tried as its leaves are searched: the levels that are left and the depth add up
to the limit. -/
theorem gives_tryOffer {room : Nat} (level : room + depth = env.settings.maxDepth)
    (offer : Offer Reference) (memory : Memory) :
    (tryOffer (recallDeeper env room pending) env g type offer).gives memory =
      search env depth pending g type offer.leaves memory := by
  -- The lists of an offer are one level further down, those inside of them by the hypothesis.
  induction room generalizing depth offer memory with
  | zero =>
    -- There is no room for lists, and all their leaves are too deep.
    refine gives_tryOffer_of_list level offer memory fun memory => ?_
    rw [search_leavesOf_of_full (by omega)]
    simp only [Recall.gives, recallDeeper, Recall.below, retry_zero, fallback_zero]
    rfl
  | succ room ih =>
    -- Inside of the lists the room is one less, and the depth one more.
    refine gives_tryOffer_of_list level offer memory fun memory => ?_
    have deeper : room + (depth + 1) = env.settings.maxDepth := by omega
    have entries := gives_tryEntries_of_each (recallDeeper env room pending) offer.pointer
      offer.fallback memory (ih deeper)
    rw [← entries]
    simp only [Recall.gives, recallDeeper, Recall.below, retry_succ]
    rfl

end Offers

/-! ## Nodes -/

namespace Evaluation

variable {env : Environment} (e : Evaluation env)

/-- Without its override, a node has the type that it declares. -/
theorem type_base : e.base.type = e.node.type.map (·.value) := by
  rcases Graph.Node.content_cases e.valued with ⟨type, value, content⟩ | ⟨type, reference, content⟩
  · simp [base, start, baseState, content, tokenState, Graph.Node.type]
  · simp [base, start, baseState, content, aliasState, Graph.Node.type]

/-- The first usable leaf of an override, of those that can be reached from the depth of the node,
with what it gives. The leaves are tried for the declared type, after the node itself. -/
def firstLeaf? (depth : Nat) (entry : Override Reference) : Option (Offer.Leaf × Payload) :=
  (firstFound (Offer.Leaf.find env depth e.pending e.graph (e.node.type.map (·.value)))
    (reachable env depth entry.offer.leaves) e.start.2).1

/-- What an override gives for a node is what its first usable leaf gives. -/
theorem tried_eq_firstLeaf {depth : Nat} (level : e.room + depth = env.settings.maxDepth)
    (entry : Override Reference) :
    (e.tried entry).toOption =
      (e.firstLeaf? depth entry).map fun (leaf, given) => leaf.through e.graph given := by
  calc (e.tried entry).toOption
      = ((tryOffer e.deeper env e.graph e.base.type entry.offer).gives e.start.2).1 := rfl
    _ = (search env depth e.pending e.graph e.base.type entry.offer.leaves e.start.2).1 := by
      rw [deeper, gives_tryOffer level]
    _ = (e.firstLeaf? depth entry).map fun (leaf, given) => leaf.through e.graph given := by
      rw [e.type_base]
      rfl

/-- What becomes of a node whose override gives a value. -/
theorem state_of_payload {entry : Override Reference} {payload : Payload}
    (applies : e.override? = some entry) (given : e.tried entry = .ok payload) :
    e.state = checkReplacement env e.graph e.node (e.base.replaceBy e.graph entry payload) := by
  rw [e.state_eq, applies]
  simp only [given]

end Evaluation

/-- A node with an override is evaluated to what the first usable leaf of the override gives, of
those that can be reached from the depth of the node: the value and its source, and the type, if the
leaf gives one; to the trace are added the override, the entries around the leaf, and the trace of
what the leaf leads to. Of the leaves before it nothing is reported. If no leaf is usable, the node
stays what it is without the override. -/
theorem state_of_first_leaf {env : Environment} (e : Evaluation env) {depth : Nat}
    (level : e.room + depth = env.settings.maxDepth) {entry : Override Reference}
    (applies : e.override? = some entry) :
    e.base.type = e.node.type.map (·.value) ∧
    match e.firstLeaf? depth entry with
    | some (leaf, given) =>
      e.state.value = some given.value ∧ e.state.source = given.source ∧
      e.state.type = given.type.or e.base.type ∧
      e.state.trace = e.base.trace ++
        ⟨entry.pointer, e.graph.uri, .override, entry.span⟩ ::
          (leaf.steps e.graph.uri ++ given.trace) ∧
      e.state.applied = e.base.applied ++
        ⟨entry.pointer, .override, given.source⟩ ::
          (leaf.applied given.source ++ given.applied) ∧
      ∃ checks, e.state.log = e.base.log ++ given.log ++ checks ∧
        ∀ d ∈ checks, ∃ reference type fault, e.node.replacement = some reference ∧
          replacementFault? env e.graph e.node reference type = some fault ∧
          d = fault.atReference reference
    | none => e.state.Keeps e.base entry := by
  refine ⟨e.type_base, ?_⟩
  have tried := e.tried_eq_firstLeaf level entry
  generalize e.firstLeaf? depth entry = found at tried
  -- The override is tried with just this result.
  cases outcome : e.tried entry with
  | error failure =>
    -- No leaf is usable: the state is kept, with a report.
    rw [outcome] at tried
    cases found with
    | none => exact e.kept_of_failure applies outcome
    | some pair => cases tried
  | ok payload =>
    -- The payload is that of the leaf, with the steps that lead to it.
    rw [outcome] at tried
    cases found with
    | none => cases tried
    | some pair =>
      obtain ⟨leaf, given⟩ := pair
      obtain rfl : payload = leaf.through e.graph given := Option.some.inj tried
      obtain ⟨checks, checked, known⟩ := log_checkReplacement env e.graph e.node
        (e.base.replaceBy e.graph entry (leaf.through e.graph given))
      rw [e.state_of_payload applies outcome, value_checkReplacement, source_checkReplacement,
        type_checkReplacement, trace_checkReplacement, applied_checkReplacement, checked,
        leaf.through_eq]
      exact ⟨rfl, rfl, rfl, rfl, rfl, checks, rfl, known⟩

/-! ### Lists within lists -/

namespace Nested

open Sample (home overridePlace place referenceTo)

/-- In the mode `on`, `base` is replaced by a node that is not there, by a number, by `deep` in a
list within a list, or by a color. -/
def replaced : Override Reference :=
  let outer := (overridePlace.child "$fallback").index 0
  let inner := (outer.child "$fallback").index 0
  let second := (overridePlace.child "$fallback").index 1
  Sample.override "base" [("mode", .string "on")]
    (.mk overridePlace none (some (referenceTo "nowhere" (overridePlace.child "$ref")))
      (some ⟨.int 5, overridePlace.child "$value", none⟩)
      [.mk outer none none none
        [.mk inner none (some (referenceTo "deep" (inner.child "$ref"))) none []],
       .mk second none none (some ⟨.string "#222222", second.child "$value", none⟩) []])

/-- A token with an override, and one that it may be replaced by. -/
def graph : Graph where
  uri := home
  nodes := [Sample.token "base" "#000000", Sample.token "deep" "#111111"]
  edges := [⟨place "base", place "deep", .override⟩]
  roots := [place "base", place "deep"]
  overrides := [replaced]

def environment (maxDepth : Nat) : Environment where
  root := graph
  externals := []
  settings := { context := [("mode", .string "on")], maxDepth }

/-- The evaluation of `base`, as the first node of a walk. -/
def evaluation (maxDepth : Nat) : Evaluation (environment maxDepth) where
  room := maxDepth
  pending := [Key.of graph (place "base")]
  memory := []
  graph := graph
  node := Sample.token "base" "#000000"
  found := by rfl
  valued := rfl

def text (maxDepth : Nat) : Option String :=
  (evaluation maxDepth).state.value.bind Json.text?

end Nested

/-- With three levels, `deep` can be followed below two lists. With one or two levels it cannot, and
the second entry is taken; without any, there is no list at all. -/
theorem nested_tried_in_order :
    (Nested.evaluation 3).room + 0 = (Nested.environment 3).settings.maxDepth ∧
      (Nested.evaluation 3).override? = some Nested.replaced ∧
      (∃ leaf given, (Nested.evaluation 3).firstLeaf? 0 Nested.replaced = some (leaf, given) ∧
        (Nested.evaluation 3).state.value = some given.value ∧
        (Nested.evaluation 3).state.source = given.source) ∧
      ([0, 1, 2, 3].map fun n =>
          ((Nested.evaluation n).firstLeaf? 0 Nested.replaced).map (·.1.level)) =
        [none, some 1, some 1, some 2] ∧
      [0, 1, 2, 3].map Nested.text =
        [some "#000000", some "#222222", some "#222222", some "#111111"] := by
  -- With a limit of three, the override applies and one of its leaves is usable.
  have applies : (Nested.evaluation 3).override? = some Nested.replaced := by rfl
  have evaluated := (state_of_first_leaf (Nested.evaluation 3) (Nat.add_zero 3) applies).2
  have usable : ((Nested.evaluation 3).firstLeaf? 0 Nested.replaced).isSome = true := by decide
  refine ⟨rfl, applies, ?_, by decide, by decide⟩
  cases found : (Nested.evaluation 3).firstLeaf? 0 Nested.replaced with
  | none => exact absurd found (Option.ne_none_iff_isSome.2 usable)
  | some pair =>
    obtain ⟨leaf, given⟩ := pair
    rw [found] at evaluated
    exact ⟨leaf, given, rfl, evaluated.1, evaluated.2.1⟩

end Resolution

end DesignTokens
