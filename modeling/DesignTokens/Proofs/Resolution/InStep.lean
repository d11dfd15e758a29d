import DesignTokens.Proofs.Resolution.Reports

/-!
# DesignTokens.Proofs.Resolution.InStep — the trace and the overrides tell one story

The overrides that were applied, the trace and the source of a value grow at different places. They
fit together at every level, and so they do in what is remembered.

1. **Labels** (`Step.label?`, `Applied.label`): what a step and an applied override have in common.
2. **States in step** (`State.InStep`), and payloads (`Payload.InStep`): one lemma for each way to
   make one from others.
3. **Evaluation** (`Bridge.evaluate_inStep`, `Bridge.tryEntries_inStep`) and **visits**
   (`inStep_kept`).
4. **First steps** (`Evaluation.head_trace`): a trace starts at the node that was evaluated.
5. **Answers** (`resolve_in_step`).
-/

namespace DesignTokens.Resolution

/-! ## Labels -/

/-- What is said of an override or an entry of a fallback list that was applied. -/
def Applied.label (a : Applied) : Pointer × Applied.Kind :=
  (a.pointer, a.kind)

/-- What is said of a step, if it is one from an override or an entry of a fallback list. -/
def Step.label? (s : Step) : Option (Pointer × Applied.Kind) :=
  match s.kind with
  | .override => some (s.pointer, .override)
  | .fallback => some (s.pointer, .fallback)
  | .token | .aliasTo => none

/-- The applied overrides are those that a trace goes through, in order. -/
def SameLabels (applied : List Applied) (trace : List Step) : Prop :=
  applied.map Applied.label = trace.filterMap Step.label?

/-- Labels of two stretches of a walk stand for the steps of both. -/
theorem SameLabels.append {as bs : List Applied} {xs ys : List Step} (h : SameLabels as xs)
    (h' : SameLabels bs ys) : SameLabels (as ++ bs) (xs ++ ys) := by
  rw [SameLabels, List.map_append, List.filterMap_append, h, h']

theorem SameLabels.cons {as : List Applied} {xs : List Step} {a : Applied} {x : Step}
    (label : x.label? = some a.label) (h : SameLabels as xs) : SameLabels (a :: as) (x :: xs) := by
  rw [SameLabels, List.map_cons, List.filterMap_cons_some label, h]

/-- A step from a node has nothing applied beside it. -/
theorem SameLabels.node {as : List Applied} {xs : List Step} {x : Step} (label : x.label? = none)
    (h : SameLabels as xs) : SameLabels as (x :: xs) := by
  rw [SameLabels, List.filterMap_cons_none label, h]

/-! ## States in step -/

/-- Where something was applied, the source is that of the last of it. -/
def EndsAtLast (applied : List Applied) (source : Option Source) : Prop :=
  ∀ a, applied.getLast? = some a → a.source = source

theorem endsAtLast_nil (source : Option Source) : EndsAtLast [] source := by
  intro a h
  cases h

/-- What is put in front of other applied overrides has the same source as the last of them. -/
theorem EndsAtLast.cons {applied : List Applied} {source : Option Source}
    (h : EndsAtLast applied source) (pointer : Pointer) (kind : Applied.Kind) :
    EndsAtLast (⟨pointer, kind, source⟩ :: applied) source := by
  intro a ha
  cases applied with
  | nil =>
    cases ha
    rfl
  | cons b rest => exact h a (by rwa [List.getLast?_cons_cons] at ha)

/-- What is listed before the last entry does not change where the value comes from. -/
theorem EndsAtLast.append {applied : List Applied} {a : Applied} {source : Option Source}
    (h : EndsAtLast (a :: applied) source) (front : List Applied) :
    EndsAtLast (front ++ a :: applied) source := by
  intro b hb
  rw [List.getLast?_append_of_ne_nil _ (List.cons_ne_nil a applied)] at hb
  exact h b hb

/-- A state whose trace, applied overrides and source fit together. The first that was applied is an
override itself. -/
structure State.InStep (s : State) : Prop where
  labels : SameLabels s.applied s.trace
  first : ∀ a, s.applied.head? = some a → a.kind = .override
  last : EndsAtLast s.applied s.source

/-- A payload whose trace, applied overrides and source fit together. -/
structure Payload.InStep (p : Payload) : Prop where
  labels : SameLabels p.applied p.trace
  last : EndsAtLast p.applied p.source

def Outcome.InStep (outcome : Outcome) : Prop :=
  ∀ p, outcome = .ok p → p.InStep

/-- A failed candidate gives nothing, so it is in step with anything. -/
theorem survives_inStep : Survives Outcome.InStep :=
  .of_payload Payload.InStep

namespace State

theorem inStep_unresolved (found : Bool) (d : Diagnostic) : (unresolved found d).InStep :=
  ⟨rfl, by simp [unresolved], endsAtLast_nil _⟩

theorem inStep_cut (limit : Nat) (g : Graph) (pointer : Pointer) :
    (cutState limit g pointer).InStep :=
  ⟨rfl, by simp [cutState, unresolved], endsAtLast_nil _⟩

theorem inStep_token (g : Graph) (node : Graph.Node) (type : Option (Field String))
    (value : Option (Field Json)) : (tokenState g node type value).InStep :=
  ⟨rfl, by simp [tokenState], endsAtLast_nil _⟩

variable {s : State}

/-- An alias adds a step without a label. -/
theorem InStep.aliasTo (h : s.InStep) (g : Graph) (node : Graph.Node) (type : Field String)
    (reference : Reference) : (aliasState g node type reference s).InStep :=
  ⟨h.labels.node rfl, h.first, h.last⟩

/-- An override is put after what the state has, and what gave its value comes after it. -/
theorem InStep.replaceBy (h : s.InStep) {p : Payload} (hp : p.InStep) (g : Graph)
    (entry : Override Reference) : (s.replaceBy g entry p).InStep where
  labels := h.labels.append (hp.labels.cons rfl)
  first := by
    intro a ha
    -- With nothing applied before, the override is the first.
    cases applied : s.applied with
    | nil =>
      simp only [State.replaceBy, applied, List.nil_append, List.head?_cons] at ha
      cases ha
      rfl
    | cons b rest =>
      simp only [State.replaceBy, applied, List.cons_append, List.head?_cons] at ha
      exact h.first a (by rw [applied, List.head?_cons, ha])
  last := (hp.last.cons entry.pointer .override).append s.applied

/-- A failed override applies nothing. -/
theorem InStep.keepDespite (h : s.InStep) (pointer : Pointer) (entry : Override Reference)
    (f : Failure) : (s.keepDespite pointer entry f).InStep :=
  ⟨h.labels, h.first, h.last⟩

/-- The check of a replacement changes the log only. -/
theorem InStep.check (h : s.InStep) (env : Environment) (g : Graph) (node : Graph.Node) :
    (checkReplacement env g node s).InStep := by
  obtain ⟨_, checked, _⟩ := checkReplacement_eq env g node s
  rw [checked]
  exact ⟨h.labels, h.first, h.last⟩

end State

theorem inStep_targetOutcome {s : State} (h : s.InStep) (type : Option String)
    (reference : Reference) : Outcome.InStep (targetOutcome type reference s) := by
  intro p hp
  unfold targetOutcome at hp
  split at hp
  · cases hp
    exact ⟨h.labels, h.last⟩
  · cases hp

theorem inStep_valueOutcome (g : Graph) (type : Option String) (field : Field Json) :
    Outcome.InStep (valueOutcome g type field) := by
  intro p hp
  unfold valueOutcome at hp
  split at hp
  · cases hp
    exact ⟨rfl, endsAtLast_nil _⟩
  · cases hp

/-- An entry that is taken lists itself, and its step is the one with its label. -/
theorem Outcome.InStep.throughEntry {outcome : Outcome} (h : outcome.InStep) (g : Graph)
    (entry : Offer Reference) : Outcome.InStep (outcome.map (·.throughEntry g entry)) := by
  intro p hp
  cases outcome with
  | error failure => cases hp
  | ok payload =>
    cases hp
    obtain ⟨labels, last⟩ := h payload rfl
    exact ⟨labels.cons rfl, last.cons entry.pointer .fallback⟩

theorem inStep_error (failure : Failure) : Outcome.InStep (.error failure) := by
  intro p hp
  cases hp

/-! ## Evaluation -/

namespace Bridge

variable {m n : Type → Type} [Monad m] [Monad n] (B : Bridge m n)
variable {d : Deeper m} {d' : Deeper n} (env : Environment) {g : Graph}
variable (visit : ∀ target pointer,
  B.rel State.InStep (d.visit target pointer) (d'.visit target pointer))
variable (fallback : ∀ type owner entries, B.rel Outcome.InStep (d.fallback g type owner entries)
  (d'.fallback g type owner entries))

include visit

private theorem follow_inStep (reference : Reference) :
    B.rel State.InStep (d.follow env g reference) (d'.follow env g reference) :=
  B.follow (fun target _ => visit target _) fun _ _ => State.inStep_unresolved _ _

include fallback

private theorem tryOffer_inStep (type : Option String) (offer : Offer Reference) :
    B.rel Outcome.InStep (Resolution.tryOffer d env g type offer)
      (Resolution.tryOffer d' env g type offer) := by
  refine B.tryOffer survives_inStep ?_ ?_ ?_
  · intro reference _
    exact B.rel_imp (B.follow_inStep env visit reference) fun s hs =>
      inStep_targetOutcome hs type reference
  · intro field _
    exact inStep_valueOutcome g type field
  · intro _
    exact fallback type offer.pointer offer.fallback

/-- A fallback list gives a payload in step, if the levels below it do. -/
theorem tryEntries_inStep (type : Option String) (owner : Pointer)
    (entries : List (Offer Reference)) :
    B.rel Outcome.InStep (Resolution.tryEntries d env g type owner entries)
      (Resolution.tryEntries d' env g type owner entries) := by
  refine B.tryEntries survives_inStep ?_ (inStep_error _)
  intro entry _
  exact B.rel_imp (B.tryOffer_inStep env visit fallback type entry) fun outcome h =>
    h.throughEntry g entry

/-- A node is evaluated to a state in step, if the levels below it are. -/
theorem evaluate_inStep (pointer : Pointer) :
    B.rel State.InStep (Resolution.evaluate d env g pointer)
      (Resolution.evaluate d' env g pointer) := by
  have finish : ∀ node s, s.InStep → B.rel State.InStep (Resolution.finish d env g node s)
      (Resolution.finish d' env g node s) := by
    intro node s h
    -- Without an override, with one that gives a payload, and with one that gives none.
    refine B.finish (R := fun _ => Outcome.InStep) ?_ ?_ ?_ ?_
    · intro _
      exact h.check env g node
    · intro entry _
      exact B.tryOffer_inStep env visit fallback s.type entry.offer
    · intro entry payload _ hp
      exact (h.replaceBy (hp payload rfl) g entry).check env g node
    · intro entry failure _ _
      exact (h.keepDespite node.pointer entry failure).check env g node
  refine B.evaluate ?_ ?_ ?_ ?_
  · intro _
    exact State.inStep_unresolved _ _
  · intro node children _ _
    exact State.inStep_unresolved _ _
  · intro node type value _ _
    exact finish node _ (State.inStep_token g node type value)
  · intro node type reference _ _
    refine B.rel_bind (B.follow_inStep env visit reference) fun target h => ?_
    exact finish node _ (h.aliasTo g node type reference)

end Bridge

/-! ## Visits -/

/-- Every state is in step, whatever node it is of. -/
def inStep : Contract where
  pre _ _ _ := True
  post _ _ s := s.InStep
  preList _ _ _ := True
  postList _ _ outcome := outcome.InStep
  stored _ s := s.InStep

/-- Every visit finds a state in step. -/
theorem inStep_kept (env : Environment) : inStep.Kept env where
  reuse _ known := known
  store _ _ post := post
  cycle _ _ := State.inStep_unresolved _ _
  cut _ := State.inStep_cut _ _ _
  cutList _ _ := inStep_error _
  node := by
    intro pending g pointer _ _ m n _ _ B d d' below
    exact B.evaluate_inStep env (fun _ _ => below.visit trivial)
      (fun _ _ _ => below.fallback trivial) pointer
  list := by
    intro pending g entries _ type owner m n _ _ B d d' below
    exact B.tryEntries_inStep env (fun _ _ => below.visit trivial)
      (fun _ _ _ => below.fallback trivial) type owner entries

/-! ## First steps -/

/-- The kind of the step at a node, if the node can be resolved. -/
def stepKind? (node : Graph.Node) : Option Step.Kind :=
  match node.content with
  | .collection _ => none
  | .token _ _ => some .token
  | .aliasTo _ _ => some .aliasTo

/-- The trace of a node starts with the step at it. -/
theorem Evaluation.head_trace {env : Environment} (e : Evaluation env) :
    ∃ kind, stepKind? e.node = some kind ∧
      e.state.trace.head? = some ⟨e.node.pointer, e.graph.uri, kind, e.node.span⟩ := by
  have base : ∃ kind, stepKind? e.node = some kind ∧
      e.base.trace.head? = some ⟨e.node.pointer, e.graph.uri, kind, e.node.span⟩ := by
    rcases Graph.Node.content_cases e.valued with
      ⟨type, value, content⟩ | ⟨type, reference, content⟩
    · exact ⟨.token, by simp [stepKind?, content],
        by simp [Evaluation.base, start, baseState, content, tokenState]⟩
    · exact ⟨.aliasTo, by simp [stepKind?, content],
        by simp [Evaluation.base, start, baseState, content, aliasState]⟩
  obtain ⟨kind, known, head⟩ := base
  refine ⟨kind, known, ?_⟩
  rw [e.state_eq, trace_checkReplacement]
  split
  · exact head
  · split
    · -- What an override adds comes after the steps of the base state.
      rw [State.replaceBy, List.head?_append, head]
      rfl
    · -- A failed override leaves the trace as it is.
      exact head

/-! ## Answers -/

/-- Whenever a resolver answers with a token, its trace, its applied overrides and its source are in
step. The trace starts at the node that was asked for, in a document that references can lead to,
which is the root document unless another one is mistaken for that; the applied overrides are those
that the trace goes through, in order; no entry of a fallback list comes before the first override;
and the last that was applied has the source of the token. -/
theorem resolve_in_step (env : Environment) (document : Option Document)
    (transforms : List Transform) (calls : List Resolver.Call) (pointer : Pointer) {token : Token}
    (given : ((({ env, document, transforms } : Resolver).performAll calls).resolve
      pointer).1.token = some token) :
    (∃ g node kind, env.LeadsTo g ∧ g.uri = env.root.uri ∧ (env.RootAlone → g = env.root) ∧
      g.node? pointer = some node ∧ stepKind? node = some kind ∧
      token.trace.head? = some ⟨pointer, env.root.uri, kind, node.span⟩) ∧
    token.applied.map (fun a => (a.pointer, a.kind)) = token.trace.filterMap Step.label? ∧
    (∀ before a after, token.applied = before ++ a :: after → a.kind = .fallback →
      ∃ b ∈ before, b.kind = .override) ∧
    ∀ a, token.applied.getLast? = some a → a.source = token.source := by
  let r : Resolver := { env, document, transforms }
  have henv : (r.performAll calls).env = env := (r.after_performAll calls).env
  have given : ((r.performAll calls).resolve pointer).1.token = some token := given
  have state := Resolver.eq_token_of_resolve _ _ given
  rw [Resolver.token_resolve] at given
  rw [henv] at state given
  have meets : (reporting env).Meets (r.performAll calls).memory :=
    (reporting_kept env).meets_performAll (fun _ => env.leadsTo_root) rfl rfl calls
  obtain ⟨g, leads, uri, found⟩ := found_ask meets pointer
  obtain ⟨labels, first, last⟩ : (ask env (r.performAll calls).memory pointer).1.value.InStep :=
    (inStep_kept env).ask_performAll (fun _ => trivial) rfl rfl calls pointer
  generalize (ask env _ pointer).1.value = s at state given labels first last found
  subst state
  refine ⟨?_, labels, ?_, last⟩
  · cases found with
    | missing _ _ => cases given
    | evaluated e graph here _ =>
      -- A state that is given comes from an evaluation, whose first step is at its node.
      obtain ⟨kind, known, head⟩ := e.head_trace
      subst here graph
      exact ⟨e.graph, e.node, kind, leads, uri, fun alone => leads.distinct alone uri, e.found,
        known, by rw [← uri]; exact head⟩
  · intro before a after split kind
    cases before with
    | nil =>
      -- The first that was applied is an override, and not an entry of a list.
      have starts := first a (by rw [show s.applied = _ from split]; rfl)
      rw [kind] at starts
      cases starts
    | cons b before =>
      exact ⟨b, List.mem_cons_self, first b (by rw [show s.applied = _ from split]; rfl)⟩

/-- The answer for `link` when there is no room for the node that `base` is replaced by: after the
alias and the token come the override and the entry of its fallback list, with the place where the
entry has its value. -/
theorem forked_in_step :
    ∃ token, (((({ env := Forked.environment 2 } : Resolver).performAll
        [.node (Sample.place "deep")]).resolve (Sample.place "link")).1.token = some token) ∧
      token.trace.map (·.kind) = [.aliasTo, .token, .override, .fallback] ∧
      token.applied.map (fun a => (a.pointer, a.kind)) =
        [(Sample.overridePlace, .override),
          ((Sample.overridePlace.child "$fallback").index 0, .fallback)] ∧
      token.source.map (·.pointer) =
        some (((Sample.overridePlace.child "$fallback").index 0).child "$value") ∧
      ∀ a, token.applied.getLast? = some a → a.source = token.source := by
  have shown : (((({ env := Forked.environment 2 } : Resolver).performAll
      [.node (Sample.place "deep")]).resolve (Sample.place "link")).1.token.map
        fun token => (token.trace.map (·.kind), token.trace.filterMap Step.label?,
          token.source.map (·.pointer))) =
      some ([.aliasTo, .token, .override, .fallback],
        [(Sample.overridePlace, .override),
          ((Sample.overridePlace.child "$fallback").index 0, .fallback)],
        some (((Sample.overridePlace.child "$fallback").index 0).child "$value")) := by decide
  obtain ⟨token, given, same⟩ := Option.map_eq_some_iff.1 shown
  simp only [Prod.mk.injEq] at same
  obtain ⟨kinds, steps, source⟩ := same
  obtain ⟨_, labels, _, last⟩ := resolve_in_step (Forked.environment 2) none []
    [.node (Sample.place "deep")] (Sample.place "link") given
  exact ⟨token, given, kinds, labels.trans steps, source, last⟩

/-! ### Another document of the same URI -/

namespace Mistaken

open Sample (aliasOf home other place)

/-- An alias of a token of the other document, and one that has the pointer of that token. -/
def root : Graph where
  uri := home
  nodes := Namesake.root.nodes ++ [aliasOf "x" "base", Sample.token "base" "#000000"]
  edges := [⟨place "x", place "base", .aliasTo⟩]
  roots := [place "link", place "x", place "base"]
  overrides := []

def environment : Environment where
  root := root
  externals := [(other, Namesake.namesake)]
  settings := {}

def answer : Resolution :=
  ((({ env := environment } : Resolver).performAll [.node (place "link")]).resolve (place "x")).1

end Mistaken

/-- The node of the root document at `#/x` is an alias. After `#/link` has led to the other
document, the trace of the answer for `#/x` starts with a token. -/
theorem trace_starts_at_namesake :
    (Mistaken.root.node? (Sample.place "x")).bind stepKind? = some .aliasTo ∧
      Mistaken.answer.token.map (fun token => token.trace.map (·.kind)) = some [.token] ∧
      ¬ ∀ token, Mistaken.answer.token = some token →
        ∃ node kind, Mistaken.root.node? (Sample.place "x") = some node ∧
          stepKind? node = some kind ∧
          token.trace.head? = some ⟨Sample.place "x", Mistaken.root.uri, kind, node.span⟩ := by
  have leads : (Mistaken.root.node? (Sample.place "x")).bind stepKind? = some .aliasTo := by decide
  have trace : Mistaken.answer.token.map (fun token => token.trace.map (·.kind)) =
      some [.token] := by decide
  refine ⟨leads, trace, fun starts => ?_⟩
  obtain ⟨token, given, kinds⟩ := Option.map_eq_some_iff.1 trace
  obtain ⟨node, kind, found, known, head⟩ := starts token given
  rw [found, Option.bind_some, known] at leads
  cases leads
  have first := congrArg List.head? kinds
  rw [List.head?_map, head] at first
  cases first

end DesignTokens.Resolution
