import DesignTokens.Resolution.Evaluation
import Mathlib.Data.List.Forall2

/-!
# DesignTokens.Proofs.Resolution.Evaluation — evaluating a node in two ways

A node is evaluated in whatever monad its deeper levels are visited in. So two evaluations give the
same value as soon as their deeper levels do, and a property of that value follows from one of the
deeper values.

1. **Nodes and overrides** that an evaluation looks at.
2. **Bridges** (`Bridge`): what it means that two computations give the same value, with what is
   known of it.
3. **Rules**: one for each part of an evaluation, up to `Bridge.evaluate`.
4. **Equal evaluations** (`Bridge.evaluate_of_deeper`, `Bridge.tryEntries_of_deeper`): nothing is
   asked of the values. It is enough to know of the fallback lists that can be tried
   (`Bridge.evaluate_of_tried`, `Bridge.tryEntries_of_tried`).
-/

namespace DesignTokens

/-! ## Nodes and overrides -/

/-- A node that is looked up is there, with its pointer. -/
theorem Graph.lookup?_eq_some {nodes : List Graph.Node} {pointer : Pointer} {node : Graph.Node}
    (h : Graph.lookup? nodes pointer = some node) : node ∈ nodes ∧ node.pointer = pointer := by
  refine ⟨List.mem_of_find?_eq_some h, ?_⟩
  simpa using List.find?_some h

/-- A node that is found is one of the graph, with its pointer. -/
theorem Graph.node?_eq_some {g : Graph} {pointer : Pointer} {node : Graph.Node}
    (h : g.node? pointer = some node) : node ∈ g.nodes ∧ node.pointer = pointer :=
  Graph.lookup?_eq_some h

/-- A collection has a list of children. -/
theorem Graph.Node.exists_children {node : Graph.Node} (h : node.isCollection = true) :
    ∃ children, node.content = .collection children := by
  unfold isCollection at h
  split at h
  · next children content => exact ⟨children, content⟩
  · cases h

/-- All nodes but collections are tokens or aliases. -/
theorem Graph.Node.content_cases {node : Graph.Node} (h : node.isCollection = false) :
    (∃ type value, node.content = .token type value) ∨
      ∃ type reference, node.content = .aliasTo type reference := by
  cases content : node.content with
  | collection children => simp [isCollection, content] at h
  | token type value => exact .inl ⟨type, value, rfl⟩
  | aliasTo type reference => exact .inr ⟨type, reference, rfl⟩

namespace Resolution

/-- The override that applies to a node is one of the graph, and for that node. -/
theorem Environment.override?_eq_some {env : Environment} {g : Graph} {pointer : Pointer}
    {entry : Override Reference} (h : env.override? g pointer = some entry) :
    entry ∈ g.overrides ∧ entry.token.target.pointer = pointer ∧ env.enables entry = true := by
  have mem := List.mem_of_getLast? h
  obtain ⟨found, enabled⟩ := List.mem_filter.1 mem
  obtain ⟨here, same⟩ := List.mem_filter.1 found
  exact ⟨here, by simpa using same, enabled⟩

/-- A reference inside a document leads to the document itself. -/
theorem follow_internal {env : Environment} {g : Graph} {r : Reference}
    (internal : r.target.external = false) : env.follow g r = .ok g := by
  simp [Environment.follow, internal]

/-- A reference is refused only if it leads to a document that is not there. -/
theorem code_of_follow {env : Environment} {g : Graph} {reference : Reference} {fault : Fault}
    (h : env.follow g reference = .error fault) : fault.code = .externalReference := by
  simp only [Environment.follow] at h
  -- A reference within the document cannot fail; outside of it there are two reasons.
  split at h
  · cases h
  · split at h
    · cases h
      rfl
    · split at h
      · cases h
      · split at h
        · cases h
        · cases h
          rfl

/-- What is reported of the target of an override's reference is that its type is another one. -/
theorem code_of_overrideTypeFault {type actual : Option String} {reference : Reference}
    {d : Diagnostic} (h : overrideTypeFault? type reference actual = some d) :
    d.code = .targetTypeMismatch := by
  unfold overrideTypeFault? at h
  split at h
  · split at h
    · cases h
    · cases h
      rfl
  · cases h

/-- What is reported of the target of an alias is that its type is another one. -/
theorem code_of_aliasTypeFault {node : Graph.Node} {type : Field String} {reference : Reference}
    {target : State} {d : Diagnostic} (h : aliasTypeFault? node type reference target = some d) :
    d.code = .targetTypeMismatch := by
  unfold aliasTypeFault? at h
  split at h
  · split at h
    · cases h
    · cases h
      rfl
  · cases h

/-- What can be wrong with a replacement: where it leads, that nothing or a collection is there, or
its type. -/
theorem code_of_replacementFault {env : Environment} {g : Graph} {node : Graph.Node}
    {reference : Reference} {type : String} {fault : Fault}
    (h : replacementFault? env g node reference type = some fault) :
    fault.code ∈ [Code.externalReference, .unknownPointer, .invalidNodeKind,
      .targetTypeMismatch] := by
  unfold replacementFault? at h
  -- The target cannot be found, is missing, is a collection, or has another type.
  split at h
  · next follow =>
    cases h
    simp [code_of_follow follow]
  · split at h
    · cases h
      simp [Fault.code]
    · split at h
      · cases h
        simp [Fault.code]
      · split at h
        · cases h
        · cases h
          simp [Fault.code]

section Check

variable (env : Environment) (g : Graph) (node : Graph.Node) (s : State)

/-- The check of a replacement reports something, or nothing. -/
theorem checkReplacement_eq :
    ∃ faults : List (Fault × Reference), checkReplacement env g node s =
        s.report (faults.map fun (fault, reference) => fault.atReference reference) ∧
      ∀ fault reference, (fault, reference) ∈ faults →
        node.replacement = some reference ∧
          ∃ type, replacementFault? env g node reference type = some fault := by
  unfold checkReplacement
  split
  · -- The replacement is checked if both it and the type are there.
    next reference type named _ =>
    refine ⟨(replacementFault? env g node reference type).toList.map (·, reference), ?_, ?_⟩
    · rw [List.map_map]
      rfl
    · intro fault reference' h
      obtain ⟨fault', hf, heq⟩ := List.mem_map.1 h
      cases heq
      exact ⟨named, type, by simpa using hf⟩
  · exact ⟨[], by simp [State.report], fun _ _ h => absurd h List.not_mem_nil⟩

/-- What the check of a replacement reports is a fault of the replacement. -/
theorem log_checkReplacement :
    ∃ checks, (checkReplacement env g node s).log = s.log ++ checks ∧
      ∀ d ∈ checks, ∃ reference type fault, node.replacement = some reference ∧
        replacementFault? env g node reference type = some fault ∧
        d = fault.atReference reference := by
  obtain ⟨faults, checked, known⟩ := checkReplacement_eq env g node s
  refine ⟨_, congrArg State.log checked, List.forall_mem_map.2 ?_⟩
  rintro ⟨fault, reference⟩ hf
  obtain ⟨named, type, hfault⟩ := known fault reference hf
  exact ⟨reference, type, fault, named, hfault, rfl⟩

/-- A part of a state that reports do not touch, the check of a replacement does not touch. -/
theorem checkReplacement_untouched {α : Type} {part : State → α}
    (untouched : ∀ (s : State) (log : Log), part (s.report log) = part s) :
    part (checkReplacement env g node s) = part s := by
  obtain ⟨_, h, _⟩ := checkReplacement_eq env g node s
  rw [h, untouched]

@[simp] theorem value_checkReplacement : (checkReplacement env g node s).value = s.value :=
  checkReplacement_untouched env g node s fun _ _ => rfl

@[simp] theorem source_checkReplacement : (checkReplacement env g node s).source = s.source :=
  checkReplacement_untouched env g node s fun _ _ => rfl

@[simp] theorem trace_checkReplacement : (checkReplacement env g node s).trace = s.trace :=
  checkReplacement_untouched env g node s fun _ _ => rfl

@[simp] theorem applied_checkReplacement : (checkReplacement env g node s).applied = s.applied :=
  checkReplacement_untouched env g node s fun _ _ => rfl

@[simp] theorem type_checkReplacement : (checkReplacement env g node s).type = s.type :=
  checkReplacement_untouched env g node s fun _ _ => rfl

@[simp] theorem found_checkReplacement : (checkReplacement env g node s).found = s.found :=
  checkReplacement_untouched env g node s fun _ _ => rfl

@[simp] theorem truncated_checkReplacement :
    (checkReplacement env g node s).truncated = s.truncated :=
  checkReplacement_untouched env g node s fun _ _ => rfl

end Check

/-! ## Bridges -/

/-- A way to say of two computations that they give the same value, which has a property. -/
structure Bridge (m n : Type → Type) [Monad m] [Monad n] where
  rel : {α : Type} → (α → Prop) → m α → n α → Prop
  rel_imp : ∀ {α : Type} {P Q : α → Prop} {x : m α} {y : n α}, rel P x y → (∀ a, P a → Q a) →
    rel Q x y
  rel_pure : ∀ {α : Type} {P : α → Prop} {a : α}, P a → rel P (pure a) (pure a)
  rel_bind : ∀ {α β : Type} {P : α → Prop} {Q : β → Prop} {x : m α} {y : n α} {f : α → m β}
    {h : α → n β}, rel P x y → (∀ a, P a → rel Q (f a) (h a)) → rel Q (x >>= f) (y >>= h)

/-- A property of outcomes that the reports of failed candidates do not change. -/
structure Survives (P : Outcome → Prop) : Prop where
  nothing : P (.error {})
  merge : ∀ {failure : Failure} {outcome : Outcome},
    P (.error failure) → P outcome → P (outcome.mapError failure.merge)

/-- A property of the payload, if there is one. -/
theorem Survives.of_payload (Q : Payload → Prop) :
    Survives fun outcome => ∀ p, outcome = .ok p → Q p where
  nothing := by
    intro p h
    cases h
  merge := by
    intro failure outcome _ later p h
    cases outcome with
    | ok payload => exact later p h
    | error failure' => cases h

namespace Bridge

variable {m n : Type → Type} [Monad m] [Monad n] (B : Bridge m n)
variable {d : Deeper m} {d' : Deeper n} {env : Environment} {g : Graph}

/-! ## Rules -/

/-- A step that computes something from a value. -/
theorem map {α β : Type} {Q : β → Prop} {x : m α} {y : n α} {f : α → β}
    (h : B.rel (fun a => Q (f a)) x y) :
    B.rel Q (x >>= fun a => pure (f a)) (y >>= fun a => pure (f a)) :=
  B.rel_bind h fun _ ha => B.rel_pure ha

/-- A reference is followed by a visit, unless it leads nowhere. -/
theorem follow {P : State → Prop} {reference : Reference}
    (visit : ∀ target, env.follow g reference = .ok target →
      B.rel P (d.visit target reference.target.pointer) (d'.visit target reference.target.pointer))
    (fault : ∀ fault, env.follow g reference = .error fault →
      P (.unresolved true (fault.atReference reference))) :
    B.rel P (d.follow env g reference) (d'.follow env g reference) := by
  unfold Deeper.follow
  cases h : env.follow g reference with
  | ok target => exact visit target h
  | error e => exact B.rel_pure (fault e h)

/-- The first usable value, if every candidate has the property. -/
theorem firstUsable {P : Outcome → Prop} (hP : Survives P) {cs : List (m Outcome)}
    {cs' : List (n Outcome)} (h : List.Forall₂ (B.rel P) cs cs') :
    B.rel P (Resolution.firstUsable cs) (Resolution.firstUsable cs') := by
  induction h with
  | nil => exact B.rel_pure hP.nothing
  | cons hc _ ih =>
    refine B.rel_bind hc fun outcome ho => ?_
    cases outcome with
    | ok payload => exact B.rel_pure ho
    | error failure =>
      -- What failed before stays in front of what is reported later.
      exact B.rel_bind ih fun later hl => B.rel_pure (hP.merge ho hl)

/-- An offer, if its reference, its value and its fallback list have the property. -/
theorem tryOffer {P : Outcome → Prop} (hP : Survives P) {type : Option String}
    {offer : Offer Reference}
    (reference : ∀ r, offer.reference = some r →
      B.rel (fun s => P (targetOutcome type r s)) (d.follow env g r) (d'.follow env g r))
    (value : ∀ field, offer.value = some field → P (valueOutcome g type field))
    (list : offer.fallback ≠ [] →
      B.rel P (d.fallback g type offer.pointer offer.fallback)
        (d'.fallback g type offer.pointer offer.fallback)) :
    B.rel P (Resolution.tryOffer d env g type offer) (Resolution.tryOffer d' env g type offer) := by
  refine B.firstUsable hP (List.rel_append (List.rel_append ?_ ?_) ?_)
  · -- the reference
    cases h : offer.reference with
    | none => exact .nil
    | some r => exact .cons (B.map (reference r h)) .nil
  · -- the value
    cases h : offer.value with
    | none => exact .nil
    | some field => exact .cons (B.rel_pure (value field h)) .nil
  · -- the fallback list, unless it is empty
    by_cases h : offer.fallback = []
    · simp [h]
    · have he : offer.fallback.isEmpty = false := by simpa using h
      simpa [he] using list h

/-- The entries of a fallback list, if each of them has the property. -/
theorem tryEntries {P : Outcome → Prop} (hP : Survives P) {type : Option String}
    {owner : Pointer} {entries : List (Offer Reference)}
    (entry : ∀ e ∈ entries, B.rel (fun o => P (o.map (·.throughEntry g e)))
      (Resolution.tryOffer d env g type e) (Resolution.tryOffer d' env g type e))
    (exhausted : P (.error { log := [(Fault.fallbackExhausted owner).located owner none] })) :
    B.rel P (Resolution.tryEntries d env g type owner entries)
      (Resolution.tryEntries d' env g type owner entries) := by
  refine B.firstUsable hP (List.rel_append ?_ (.cons (B.rel_pure exhausted) .nil))
  induction entries with
  | nil => exact .nil
  | cons e rest ih =>
    refine .cons (B.map (entry e List.mem_cons_self)) (ih fun e' he' => ?_)
    exact entry e' (List.mem_cons_of_mem e he')

/-- The state of a token or an alias, with its override on top. -/
theorem finish {R : Override Reference → Outcome → Prop} {Q : State → Prop} {node : Graph.Node}
    {s : State}
    (none : env.override? g node.pointer = none → Q (checkReplacement env g node s))
    (offer : ∀ entry, env.override? g node.pointer = some entry →
      B.rel (R entry) (Resolution.tryOffer d env g s.type entry.offer)
        (Resolution.tryOffer d' env g s.type entry.offer))
    (replaced : ∀ entry payload, env.override? g node.pointer = some entry →
      R entry (.ok payload) → Q (checkReplacement env g node (s.replaceBy g entry payload)))
    (kept : ∀ entry failure, env.override? g node.pointer = some entry →
      R entry (.error failure) →
        Q (checkReplacement env g node (s.keepDespite node.pointer entry failure))) :
    B.rel Q (Resolution.finish d env g node s) (Resolution.finish d' env g node s) := by
  refine B.map ?_
  unfold applyOverride
  cases h : env.override? g node.pointer with
  -- No override, one that gives a value, or one that does not.
  | none => exact B.rel_pure (none h)
  | some entry =>
    refine B.rel_bind (offer entry h) fun outcome ho => ?_
    cases outcome with
    | ok payload => exact B.rel_pure (replaced entry payload h ho)
    | error failure => exact B.rel_pure (kept entry failure h ho)

/-- A node, by its kind. -/
theorem evaluate {Q : State → Prop} {pointer : Pointer}
    (unknown : g.node? pointer = none →
      Q (.unresolved false ((Fault.unknownPointer pointer g.uri).located pointer none)))
    (collection : ∀ node children, g.node? pointer = some node →
      node.content = .collection children →
        Q (.unresolved false ((Fault.collection pointer).located pointer node.span)))
    (token : ∀ node type value, g.node? pointer = some node → node.content = .token type value →
      B.rel Q (Resolution.finish d env g node (tokenState g node type value))
        (Resolution.finish d' env g node (tokenState g node type value)))
    (aliasTo : ∀ node type reference, g.node? pointer = some node →
      node.content = .aliasTo type reference →
        B.rel Q
          (d.follow env g reference >>= fun target =>
            Resolution.finish d env g node (aliasState g node type reference target))
          (d'.follow env g reference >>= fun target =>
            Resolution.finish d' env g node (aliasState g node type reference target))) :
    B.rel Q (Resolution.evaluate d env g pointer) (Resolution.evaluate d' env g pointer) := by
  unfold Resolution.evaluate
  cases hn : g.node? pointer with
  | none => exact B.rel_pure (unknown hn)
  | some node =>
    cases hc : node.content with
    | collection children =>
      simpa only [hc] using B.rel_pure (collection node children hn hc)
    | token type value => simpa only [hc] using token node type value hn hc
    | aliasTo type reference => simpa only [hc] using aliasTo node type reference hn hc

/-! ## Equal evaluations -/

section OfTried

variable (env) {known : Graph → Prop}
variable (follows : ∀ reference target, env.follow g reference = .ok target → known target)
variable (visit : ∀ target pointer, known target →
  B.rel (fun _ => True) (d.visit target pointer) (d'.visit target pointer))
variable (tried : List (Offer Reference) → Prop)
variable (fallback : ∀ type owner entries, tried entries →
  B.rel (fun _ => True) (d.fallback g type owner entries) (d'.fallback g type owner entries))

include follows visit

/-- References are followed alike if the deeper levels are. -/
private theorem follow_of_deeper (reference : Reference) :
    B.rel (fun _ => True) (d.follow env g reference) (d'.follow env g reference) := by
  refine B.follow ?_ fun _ _ => trivial
  intro target h
  exact visit target _ (follows reference target h)

include fallback

/-- Offers are tried alike if the deeper levels are. -/
private theorem tryOffer_of_tried (type : Option String) {offer : Offer Reference}
    (list : offer.fallback ≠ [] → tried offer.fallback) :
    B.rel (fun _ => True) (Resolution.tryOffer d env g type offer)
      (Resolution.tryOffer d' env g type offer) := by
  refine B.tryOffer ⟨trivial, fun _ _ => trivial⟩ ?_ (fun _ _ => trivial) ?_
  · intro r _
    exact B.follow_of_deeper env follows visit r
  · intro more
    exact fallback type offer.pointer offer.fallback (list more)

/-- A fallback list is tried alike if the deeper levels are, as far as the lists in it go. -/
theorem tryEntries_of_tried (type : Option String) (owner : Pointer)
    (entries : List (Offer Reference))
    (lists : ∀ e ∈ entries, e.fallback ≠ [] → tried e.fallback) :
    B.rel (fun _ => True) (Resolution.tryEntries d env g type owner entries)
      (Resolution.tryEntries d' env g type owner entries) := by
  refine B.tryEntries ⟨trivial, fun _ _ => trivial⟩ ?_ trivial
  intro e he
  exact B.tryOffer_of_tried env follows visit tried fallback type (lists e he)

/-- A node is evaluated alike if the deeper levels are, as far as the lists of its override go. -/
theorem evaluate_of_tried (pointer : Pointer)
    (lists : ∀ entry, env.override? g pointer = some entry → entry.offer.fallback ≠ [] →
      tried entry.offer.fallback) :
    B.rel (fun _ => True) (Resolution.evaluate d env g pointer)
      (Resolution.evaluate d' env g pointer) := by
  -- Only the override of this node is tried, and its list by assumption.
  have finish : ∀ node s, g.node? pointer = some node → B.rel (fun _ => True)
      (Resolution.finish d env g node s) (Resolution.finish d' env g node s) := by
    intro node s found
    obtain ⟨_, rfl⟩ := Graph.node?_eq_some found
    refine B.finish (R := fun _ _ => True) (fun _ => trivial) ?_ (fun _ _ _ _ => trivial)
      (fun _ _ _ _ => trivial)
    intro entry applies
    exact B.tryOffer_of_tried env follows visit tried fallback s.type (lists entry applies)
  refine B.evaluate (fun _ => trivial) (fun _ _ _ _ => trivial) ?_ ?_
  · intro node type value found _
    exact finish node (tokenState g node type value) found
  · intro node type reference found _
    refine B.rel_bind (B.follow_of_deeper env follows visit reference) fun target _ => ?_
    exact finish node (aliasState g node type reference target) found

end OfTried

section OfDeeper

variable (env) {known : Graph → Prop}
variable (follows : ∀ reference target, env.follow g reference = .ok target → known target)
variable (visit : ∀ target pointer, known target →
  B.rel (fun _ => True) (d.visit target pointer) (d'.visit target pointer))
variable (fallback : ∀ type owner entries,
  B.rel (fun _ => True) (d.fallback g type owner entries) (d'.fallback g type owner entries))

include follows visit fallback

/-- Fallback lists are tried alike if the deeper levels are. -/
theorem tryEntries_of_deeper (type : Option String) (owner : Pointer)
    (entries : List (Offer Reference)) :
    B.rel (fun _ => True) (Resolution.tryEntries d env g type owner entries)
      (Resolution.tryEntries d' env g type owner entries) :=
  B.tryEntries_of_tried env follows visit (fun _ => True)
    (fun type owner entries _ => fallback type owner entries) type owner entries
    fun _ _ _ => trivial

/-- Nodes are evaluated alike if the deeper levels are. -/
theorem evaluate_of_deeper (pointer : Pointer) :
    B.rel (fun _ => True) (Resolution.evaluate d env g pointer)
      (Resolution.evaluate d' env g pointer) :=
  B.evaluate_of_tried env follows visit (fun _ => True)
    (fun type owner entries _ => fallback type owner entries) pointer fun _ _ _ => trivial

end OfDeeper

end Bridge

end Resolution

end DesignTokens
