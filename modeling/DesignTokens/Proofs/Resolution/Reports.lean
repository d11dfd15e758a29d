import DesignTokens.Proofs.Graph.Links
import DesignTokens.Proofs.Resolution.Contract
import DesignTokens.Proofs.Resolution.History

/-!
# DesignTokens.Proofs.Resolution.Reports — what is missing is reported

A state without a value says why, an override that gives no value is reported and changes nothing
else, and a node that is no token gives one report only. All this is seen at the evaluation of one
node. It is true of a state from the memory as well, since whatever is kept was evaluated once.

1. **Evaluations** (`Evaluation`): a token or an alias on a walk that remembers, with its state
   before and after its override (`Evaluation.state_eq`).
2. **Reports** (`State.Reported`): a state has a value or a reason why not.
3. **Documents** (`Environment.RootAlone`): states are kept by the URI of the document, so another
   one of the same URI is mistaken for the root document.
4. **Findings** (`Found`): what a node comes to, as a memory says of it (`reporting`).
5. **Visits** (`reporting_kept`) and what they find (`found_ask`).
6. **Answers** (`Answered`): none of them fails silently (`resolve_never_silent`).
-/

namespace DesignTokens.Resolution

open Resolver (answer)

/-! ## Evaluations -/

/-- A state that is the given one still, with the report that an override gave no value. -/
structure State.Keeps (s base : State) (entry : Override Reference) : Prop where
  reported : ∃ d ∈ s.log, d.isError = true ∧ d.code = .overrideFailed ∧
    d.pointer = some entry.pointer
  type : s.type = base.type
  value : s.value = base.value
  source : s.source = base.source
  applied : s.applied = base.applied
  trace : s.trace = base.trace

/-- The state of a token or an alias without its override. -/
def baseState {m : Type → Type} [Monad m] (deeper : Deeper m) (env : Environment) (g : Graph)
    (node : Graph.Node) : m State :=
  match node.content with
  | .collection _ =>
    pure (.unresolved false ((Fault.collection node.pointer).located node.pointer node.span))
  | .token type value => pure (tokenState g node type value)
  | .aliasTo type reference => do
    let target ← deeper.follow env g reference
    pure (aliasState g node type reference target)

/-- A token or an alias that is evaluated on a walk that remembers: with so much room below it,
while some nodes are pending, and from a memory. -/
structure Evaluation (env : Environment) where
  room : Nat
  pending : List Key
  memory : Memory
  graph : Graph
  node : Graph.Node
  found : graph.node? node.pointer = some node
  valued : node.isCollection = false

namespace Evaluation

variable {env : Environment} (e : Evaluation env)

/-- How the walk goes on below the node. -/
def deeper : Deeper Recall :=
  recallDeeper env e.room e.pending

/-- The walk for the state without the override, with the memory that it leaves. -/
def start : Walk State × Memory :=
  (baseState e.deeper env e.graph e.node).run e.memory

theorem holds : e.graph.Holds e.node.pointer :=
  ⟨e.node, e.found, e.valued⟩

/-- The state without the override. -/
def base : State :=
  e.start.1.value

/-- The override that applies to the node. -/
def override? : Option (Override Reference) :=
  env.override? e.graph e.node.pointer

/-- What an override gives for the node. -/
def tried (entry : Override Reference) : Outcome :=
  ((tryOffer e.deeper env e.graph e.base.type entry.offer).run e.start.2).1.value

/-- The state that the node is evaluated to. -/
def state : State :=
  ((evaluate e.deeper env e.graph e.node.pointer).run e.memory).1.value

/-- A node is evaluated to its base state with the override on top, and the check of its
replacement. -/
theorem state_eq :
    e.state = checkReplacement env e.graph e.node (match e.override? with
      | none => e.base
      | some entry =>
        match e.tried entry with
        | .ok payload => e.base.replaceBy e.graph entry payload
        | .error failure => e.base.keepDespite e.node.pointer entry failure) := by
  -- The end of an evaluation is the same for a token and for an alias.
  have finished : ∀ (s : State) (memory : Memory),
      ((finish e.deeper env e.graph e.node s).run memory).1.value =
        checkReplacement env e.graph e.node (match e.override? with
          | none => s
          | some entry =>
            match ((tryOffer e.deeper env e.graph s.type entry.offer).run memory).1.value with
            | .ok payload => s.replaceBy e.graph entry payload
            | .error failure => s.keepDespite e.node.pointer entry failure) := by
    intro s memory
    rw [finish, Recall.value_bind, Recall.value_pure, applyOverride, override?]
    cases env.override? e.graph e.node.pointer with
    | none => rfl
    | some entry =>
      simp only [Recall.value_bind]
      cases ((tryOffer e.deeper env e.graph s.type entry.offer).run memory).1.value <;> rfl
  rcases Graph.Node.content_cases e.valued with ⟨type, value, content⟩ | ⟨type, reference, content⟩
  · -- A token has its own state.
    simp only [state, evaluate, e.found, content, finished]
    simp only [tried, base, start, baseState, content, Recall.value_pure, Recall.memory_pure]
  · -- An alias has the one of its target, which is walked to first.
    simp only [state, evaluate, e.found, content, Recall.value_bind, finished]
    simp only [tried, base, start, baseState, content, Recall.value_bind, Recall.memory_bind,
      Recall.value_pure, Recall.memory_pure]

/-- A node that is evaluated is found. -/
theorem found_base : e.base.found = true := by
  rcases Graph.Node.content_cases e.valued with ⟨type, value, content⟩ | ⟨type, reference, content⟩
  · simp [base, start, baseState, content, tokenState]
  · simp [base, start, baseState, content, aliasState]

theorem found_state : e.state.found = true := by
  rw [state_eq, found_checkReplacement]
  split
  · exact e.found_base
  · split <;> exact e.found_base

/-- A node whose override gives no value stays what it is without it, and the override is
reported. -/
theorem kept_of_failure {entry : Override Reference} {failure : Failure}
    (applies : e.override? = some entry) (fails : e.tried entry = .error failure) :
    e.state.Keeps e.base entry := by
  have state : ∃ log, e.state = (e.base.keepDespite e.node.pointer entry failure).report log := by
    -- What the check adds to the log does not matter here.
    obtain ⟨_, checked, _⟩ := checkReplacement_eq env e.graph e.node
      (e.base.keepDespite e.node.pointer entry failure)
    rw [e.state_eq, applies]
    simp only [fails]
    exact ⟨_, checked⟩
  obtain ⟨log, state⟩ := state
  rw [state]
  refine ⟨⟨(Fault.overrideFailed e.node.pointer).located entry.pointer entry.span, ?_, ?_, rfl,
    rfl⟩, rfl, rfl, rfl, rfl, rfl⟩
  · exact List.mem_append_left _ (List.mem_append_right _ (List.mem_singleton_self _))
  · rfl

end Evaluation

/-! ## Reports -/

/-- The codes of the errors that say why there is no value. -/
def reasons : List Code :=
  [.missingBaseValue, .cycleDetected, .maxDepthExceeded, .unknownPointer, .invalidNodeKind,
    .externalReference]

/-- An error that says why there is no value. -/
def Reason (d : Diagnostic) : Prop :=
  d.isError = true ∧ d.code ∈ reasons

/-- A fault with such a code is a reason. -/
theorem reason_of_fault {fault : Fault} (h : fault.code ∈ reasons) (pointer : Pointer)
    (span : Option Span) : Reason (fault.located pointer span) := by
  have severe : ∀ code ∈ reasons, code.severity = .error := by decide
  exact ⟨decide_eq_true (severe _ h), h⟩

/-- A state without a value says why. -/
def State.Reported (s : State) : Prop :=
  s.value = none → ∃ d ∈ s.log, Reason d

namespace State

/-- A state without a value is reported if its only report is a reason. -/
theorem reported_unresolved {found : Bool} {d : Diagnostic} (h : Reason d) :
    (unresolved found d).Reported :=
  fun _ => ⟨d, List.mem_singleton_self d, h⟩

theorem reported_cycle (g : Graph) (pointer : Pointer) : (cycleState g pointer).Reported :=
  reported_unresolved (reason_of_fault (by simp [reasons, Fault.code]) _ _)

theorem reported_cut (limit : Nat) (g : Graph) (pointer : Pointer) :
    (cutState limit g pointer).Reported := by
  intro _
  exact ⟨_, List.mem_singleton_self _, reason_of_fault (by simp [reasons, Fault.code]) _ _⟩

theorem reported_token (g : Graph) (node : Graph.Node) (type : Option (Field String))
    (value : Option (Field Json)) : (tokenState g node type value).Reported := by
  intro none
  have missing : value = Option.none := by simpa [tokenState] using none
  subst missing
  refine ⟨_, List.mem_singleton_self _, reason_of_fault (by simp [reasons, Fault.code]) _ _⟩

/-- A state with the same value that reports as much. -/
theorem Reported.mono {s s' : State} (h : s.Reported) (value : s'.value = s.value)
    (log : s.log ⊆ s'.log) : s'.Reported := by
  intro none
  obtain ⟨d, hd, reason⟩ := h (value ▸ none)
  exact ⟨d, log hd, reason⟩

/-- The check only adds reports. -/
theorem Reported.check {s : State} (h : s.Reported) (env : Environment) (g : Graph)
    (node : Graph.Node) : (checkReplacement env g node s).Reported := by
  obtain ⟨_, checked, _⟩ := checkReplacement_eq env g node s
  rw [checked]
  exact h.mono rfl (List.subset_append_left _ _)

end State

namespace Bridge

variable {m n : Type → Type} [Monad m] [Monad n] (B : Bridge m n)
variable {d : Deeper m} {d' : Deeper n} {env : Environment} {g : Graph}

/-- A node has a value or says why not, if that is so of the nodes that it leads to. -/
theorem evaluate_reported (pointer : Pointer)
    (visit : ∀ reference target, env.follow g reference = .ok target →
      B.rel State.Reported (d.visit target reference.target.pointer)
        (d'.visit target reference.target.pointer))
    (fallback : ∀ type owner entries, B.rel (fun _ => True) (d.fallback g type owner entries)
      (d'.fallback g type owner entries)) :
    B.rel State.Reported (Resolution.evaluate d env g pointer)
      (Resolution.evaluate d' env g pointer) := by
  -- A reference that cannot be followed is reported as such.
  have follow : ∀ reference,
      B.rel State.Reported (d.follow env g reference) (d'.follow env g reference) := by
    intro reference
    refine B.follow (fun target h => visit reference target h) fun fault h => ?_
    refine State.reported_unresolved (reason_of_fault ?_ _ _)
    simp [code_of_follow h, reasons]
  -- Of the offers nothing has to be shown, since a failed one leaves the value as it was.
  have offer : ∀ type offer, B.rel (fun _ => True) (Resolution.tryOffer d env g type offer)
      (Resolution.tryOffer d' env g type offer) := by
    intro type offer
    refine B.tryOffer ⟨trivial, fun _ _ => trivial⟩ ?_ (fun _ _ => trivial) ?_
    · intro reference _
      exact B.rel_imp (follow reference) fun _ _ => trivial
    · intro _
      exact fallback type offer.pointer offer.fallback
  -- With a payload there is a value, and without one the reports of before are still there.
  have finish : ∀ node s, s.Reported → B.rel State.Reported (Resolution.finish d env g node s)
      (Resolution.finish d' env g node s) := by
    intro node s reported
    refine B.finish (R := fun _ _ => True) ?_ ?_ ?_ ?_
    · intro _
      exact reported.check env g node
    · intro entry _
      exact offer s.type entry.offer
    · intro entry payload _ _
      refine State.Reported.check (fun none => ?_) env g node
      cases none
    · intro entry failure _ _
      have kept : (s.keepDespite node.pointer entry failure).Reported :=
        reported.mono rfl fun d hd => List.mem_append_left _ (List.mem_append_left _ hd)
      exact kept.check env g node
  refine B.evaluate ?_ ?_ ?_ ?_
  · intro _
    exact State.reported_unresolved (reason_of_fault (by simp [reasons, Fault.code]) _ _)
  · intro node children _ _
    exact State.reported_unresolved (reason_of_fault (by simp [reasons, Fault.code]) _ _)
  · intro node type value _ _
    exact finish node _ (State.reported_token g node type value)
  · intro node type reference _ _
    refine B.rel_bind (follow reference) fun target reported => finish node _ ?_
    exact State.Reported.mono reported rfl (List.subset_append_left _ _)

end Bridge

/-! ## Documents -/

namespace Environment

/-- A document that is the root document, unless it has another URI. -/
def Distinct (env : Environment) (g : Graph) : Prop :=
  g.uri = env.root.uri → g = env.root

/-- No document that is found under another URI than that of the root document is mistaken for
it. -/
def RootAlone (env : Environment) : Prop :=
  ∀ (uri : Uri) (g : Graph), uri ≠ env.root.uri → env.external? uri = some g → env.Distinct g

/-- A document that references of the root document can lead to, whatever URI it came with. -/
def LeadsTo (env : Environment) (g : Graph) : Prop :=
  g = env.root ∨ ∃ uri, uri ≠ env.root.uri ∧ env.external? uri = some g

theorem leadsTo_root (env : Environment) : env.LeadsTo env.root :=
  .inl rfl

variable {env : Environment} {g : Graph}

/-- If every document is loaded under its own URI, no other has that of the root. -/
theorem rootAlone_of_registered (registered : env.Registered) : env.RootAlone := by
  intro uri g other found same
  rw [uri_of_external? registered found] at same
  exact absurd same other

/-- References lead from such documents to such documents. -/
theorem LeadsTo.follow (hg : env.LeadsTo g) {reference : Reference} {target : Graph}
    (h : env.follow g reference = .ok target) : env.LeadsTo target := by
  rcases follow_cases h with ⟨_, rfl⟩ | ⟨_, _, rfl⟩ | ⟨_, other, found⟩
  · exact hg
  · exact env.leadsTo_root
  · exact .inr ⟨_, other, found⟩

/-- References lead to no other document of the URI of the root document, if there is none. -/
theorem LeadsTo.distinct (hg : env.LeadsTo g) (alone : env.RootAlone) : env.Distinct g := by
  rcases hg with rfl | ⟨uri, other, found⟩
  · exact fun _ => rfl
  · exact alone uri g other found

end Environment

/-! ## Findings -/

/-- What a node comes to: if it is no token or alias, one report, and else the state that it is
evaluated to, which has a value or says why not. -/
inductive Found (env : Environment) (g : Graph) (pointer : Pointer) : State → Prop where
  | missing {fault : Fault} {span : Option Span} (absent : ¬ g.Holds pointer)
      (code : fault.code ∈ [.unknownPointer, .invalidNodeKind]) :
      Found env g pointer (.unresolved false (fault.located pointer span))
  | evaluated (e : Evaluation env) (graph : e.graph = g) (here : e.node.pointer = pointer)
      (reported : e.state.Reported) : Found env g pointer e.state

namespace Found

variable {env : Environment} {g : Graph} {pointer : Pointer} {s : State}

theorem reported (h : Found env g pointer s) : s.Reported := by
  cases h with
  | missing _ code =>
    have reason : ∀ code ∈ [Code.unknownPointer, .invalidNodeKind], code ∈ reasons := by decide
    exact State.reported_unresolved (reason_of_fault (reason _ code) _ _)
  | evaluated e _ _ reported => exact reported

/-- Whatever a walk evaluates a node to. -/
theorem of_evaluate (room : Nat) (pending : List Key) (g : Graph) (pointer : Pointer)
    (memory : Memory)
    (reported : ((evaluate (recallDeeper env room pending) env g pointer).run
      memory).1.value.Reported) :
    Found env g pointer
      ((evaluate (recallDeeper env room pending) env g pointer).run memory).1.value := by
  cases found : g.node? pointer with
  | none =>
    -- There is no node.
    have absent : ¬ g.Holds pointer := by
      rintro ⟨node, hnode, _⟩
      rw [found] at hnode
      cases hnode
    simp only [evaluate, found]
    exact .missing absent (by simp [Fault.code])
  | some node =>
    obtain rfl : node.pointer = pointer := (Graph.node?_eq_some found).2
    cases kind : node.isCollection with
    | true =>
      -- A collection has no state of its own.
      have absent : ¬ g.Holds node.pointer := by
        rintro ⟨node', hnode, valued⟩
        rw [found] at hnode
        cases hnode
        rw [kind] at valued
        cases valued
      obtain ⟨children, content⟩ := Graph.Node.exists_children kind
      simp only [evaluate, found, content]
      exact .missing absent (by simp [Fault.code])
    | false =>
      -- A token or an alias.
      let e : Evaluation env := ⟨room, pending, memory, g, node, found, kind⟩
      exact .evaluated e rfl rfl reported

end Found

/-- A node has a value or says why not; a memory says of a node what some node of its pointer comes
to, in a document of its URI. -/
def reporting (env : Environment) : Contract where
  pre _ g _ := env.LeadsTo g
  post _ _ s := s.Reported
  preList _ g _ := env.LeadsTo g
  postList _ _ _ := True
  stored key s := ∃ g, env.LeadsTo g ∧ g.uri = key.uri ∧ Found env g key.pointer s

/-! ## Visits -/

/-- Every visit finds a value or says why not. -/
theorem reporting_kept (env : Environment) : (reporting env).Kept env where
  reuse := by
    rintro pending g pointer s - ⟨_, _, _, found⟩
    exact found.reported
  store := by
    rintro pending g pointer s known ⟨room, around, memory, rfl⟩ reported
    exact ⟨g, known, rfl, Found.of_evaluate room around g pointer memory reported⟩
  cycle _ _ := State.reported_cycle _ _
  cut _ := State.reported_cut _ _ _
  cutList _ _ := trivial
  node := by
    intro pending g pointer known _ m n _ _ B d d' below
    exact B.evaluate_reported pointer (fun _ _ h => below.visit (known.follow h))
      fun _ _ _ => below.fallback known
  list := by
    intro pending g entries known type owner m n _ _ B d d' below
    exact B.tryEntries_of_deeper env (fun _ _ h => known.follow h)
      (fun _ _ h => B.rel_imp (below.visit h) fun _ _ => trivial)
      (fun _ _ _ => below.fallback known) type owner entries

/-- What a resolver finds for a node of the root document, after any calls before. -/
theorem found_ask {env : Environment} {memory : Memory} (meets : (reporting env).Meets memory)
    (pointer : Pointer) :
    ∃ g, env.LeadsTo g ∧ g.uri = env.root.uri ∧
      Found env g pointer (ask env memory pointer).1.value :=
  (reporting_kept env).stored_ask (fun _ => env.leadsTo_root) meets pointer

/-! ## Answers -/

/-- The codes of the reports of an answer without a token. -/
def refusals : List Code :=
  [.resolverInvalidPointer, .unknownPointer, .invalidNodeKind]

/-- An answer to a text: one report, if the text names no token or alias, and else the state that
the node is evaluated to. -/
inductive Answered (env : Environment) (text : String) : Resolution → Prop where
  | refused {d : Diagnostic} (error : d.isError = true) (code : d.code ∈ refusals)
      (absent : env.RootAlone → ∀ pointer, Pointer.parse text = .ok pointer →
        ¬ env.root.Holds pointer) :
      Answered env text { token := none, log := [d], derived := [] }
  | given (e : Evaluation env) (graph : env.RootAlone → e.graph = env.root)
      (parsed : Pointer.parse text = .ok e.node.pointer) (reported : e.state.Reported) :
      Answered env text { token := some (e.state.token env.root.uri e.node.pointer)
                          log := e.state.log, derived := [] }

/-- What a node comes to is the answer to a text that names it. -/
theorem answered_of_found {env : Environment} {g : Graph} {pointer : Pointer} {s : State}
    {text : String} (parsed : Pointer.parse text = .ok pointer)
    (root : env.RootAlone → g = env.root) (found : Found env g pointer s) :
    Answered env text (answer env pointer s) := by
  cases found with
  | missing absent code =>
    -- Both codes are errors, and both refuse a pointer.
    have refusal : ∀ code ∈ [Code.unknownPointer, .invalidNodeKind],
        code ∈ refusals ∧ code.severity = .error := by decide
    obtain ⟨code, severe⟩ := refusal _ code
    refine .refused (decide_eq_true severe) code fun alone p hp => ?_
    rw [parsed] at hp
    cases hp
    rwa [← root alone]
  | evaluated e graph here reported =>
    subst here
    rw [answer, if_pos e.found_state]
    exact .given e (fun alone => graph.trans (root alone)) parsed reported

/-- Every text is answered, after any calls. -/
theorem answered_resolveText (env : Environment) (document : Option Document)
    (calls : List Resolver.Call) (text : String) :
    Answered env text ((({ env, document } : Resolver).performAll calls).resolveText text).1 := by
  let r := ({ env, document } : Resolver).performAll calls
  have after := Resolver.after_performAll ({ env, document } : Resolver) calls
  have meets : (reporting env).Meets r.memory :=
    (reporting_kept env).meets_performAll (fun _ => env.leadsTo_root) rfl rfl calls
  change Answered env text (r.resolveText text).1
  unfold Resolver.resolveText
  cases parsed : Pointer.parse text with
  | error fault =>
    -- The text is no pointer.
    refine .refused rfl ?_ fun _ pointer named => ?_
    · simp [refusals, Fault.diagnostic, Fault.code, Diagnostic.new]
    · rw [parsed] at named
      cases named
  | ok pointer =>
    -- It is one, and the walk for it ends with a state that is found.
    have henv : r.env = env := after.env
    obtain ⟨g, known, uri, found⟩ := found_ask meets pointer
    dsimp only
    rw [Resolver.resolve_eq_answer r pointer after.transforms, henv]
    exact answered_of_found parsed (fun alone => known.distinct alone uri) found

/-- A resolver never fails silently, whatever it was asked before. An answer without a token is one
error that says that the text is no pointer or names no token; and it is given exactly in that case,
if no other document is mistaken for the root document. An answer without a value has an error that
says why not. A node whose override gives no value keeps the one that it has without it, and reports
this; and the answers are states of nodes that were evaluated. -/
theorem resolve_never_silent (env : Environment) (document : Option Document)
    (calls : List Resolver.Call) (text : String) :
    let answer := ((({ env, document } : Resolver).performAll calls).resolveText text).1
    (env.RootAlone → (answer.token = none ↔
      ∀ pointer, Pointer.parse text = .ok pointer → ¬ env.root.Holds pointer)) ∧
    (answer.token = none →
      ∃ d, answer.log = [d] ∧ d.isError = true ∧ d.code ∈ refusals) ∧
    (∀ token, answer.token = some token → token.value = none →
      ∃ d ∈ answer.log, d.isError = true ∧ d.code ∈ reasons) ∧
    (∀ token, answer.token = some token → ∃ e : Evaluation env,
      (env.RootAlone → e.graph = env.root) ∧ Pointer.parse text = .ok e.node.pointer ∧
        token = e.state.token env.root.uri e.node.pointer ∧ answer.log = e.state.log) ∧
    ∀ (e : Evaluation env) (entry : Override Reference) (failure : Failure),
      e.override? = some entry → e.tried entry = .error failure → e.state.Keeps e.base entry := by
  intro answer
  have answered : Answered env text answer := answered_resolveText env document calls text
  have keeps : ∀ (e : Evaluation env) (entry : Override Reference) (failure : Failure),
      e.override? = some entry → e.tried entry = .error failure → e.state.Keeps e.base entry :=
    fun e entry failure applies fails => e.kept_of_failure applies fails
  generalize answer = given at answered
  cases answered with
  | refused error code absent =>
    -- The call is refused, so it has no token.
    refine ⟨fun alone => iff_of_true rfl (absent alone),
      fun _ => ⟨_, rfl, error, code⟩, ?_, ?_, keeps⟩
    · simp
    · simp
  | given e graph parsed reported =>
    -- The call is given a token, from an evaluation.
    refine ⟨fun alone => iff_of_false (by simp) fun absent => ?_, ?_, ?_, ?_, keeps⟩
    · exact absent _ parsed (graph alone ▸ e.holds)
    · simp
    · rintro _ ⟨⟩ none
      exact reported none
    · rintro _ ⟨⟩
      exact ⟨e, graph, parsed, rfl, rfl⟩

/-! ### A document in which everything fails -/

namespace Barren

open Sample (colorType node overridePlace referenceTo)

/-- In the mode `on`, `base` is replaced by a token that is not there. -/
def replaced : Override Reference :=
  Sample.override "base" [("mode", .string "on")]
    (.mk overridePlace none (some (referenceTo "nowhere" (overridePlace.child "$ref"))) none [])

/-- A token, one without a value, and a collection. -/
def graph : Graph :=
  Sample.graph Sample.home
    [Sample.token "base" "#000000", node "hollow" (.token (some (colorType "hollow")) none),
     node "group" (.collection [])]
    [replaced]

def environment : Environment where
  root := graph
  externals := []
  settings := { context := [("mode", .string "on")] }

def answerTo (text : String) : Resolution :=
  ((({ env := environment } : Resolver).performAll [.all]).resolveText text).1

end Barren

/-- Whatever is asked for fails here, and every answer says so. -/
theorem barren_never_silent :
    Barren.environment.RootAlone ∧
      ((Barren.answerTo "#/group").token = none ↔ ∀ pointer,
        Pointer.parse "#/group" = .ok pointer → ¬ Barren.environment.root.Holds pointer) ∧
      (Barren.answerTo "#/group").token.isNone = true ∧
      (Barren.answerTo "#/group").log.codes = [.invalidNodeKind] ∧
      (Barren.answerTo "#/nowhere").log.codes = [.unknownPointer] ∧
      (Barren.answerTo "base").log.codes = [.resolverInvalidPointer] ∧
      (Barren.answerTo "#/hollow").log.codes = [.missingBaseValue] ∧
      (Barren.answerTo "#/base").log.codes = [.unknownPointer, .overrideFailed] ∧
      Sample.valueText (Barren.answerTo "#/base") = some "#000000" := by
  have alone : Barren.environment.RootAlone :=
    Environment.rootAlone_of_registered fun _ h => absurd h List.not_mem_nil
  have silent := resolve_never_silent Barren.environment none [.all] "#/group"
  exact ⟨alone, silent.1 alone, by decide, by decide, by decide, by decide, by decide,
    by decide, by decide⟩

/-! ### Another document of the same URI -/

namespace Namesake

open Sample (home linkTo other)

def root : Graph :=
  Sample.graph home [linkTo "link" other "x"] []

/-- The other document, which came with the URI of the root document. -/
def namesake : Graph :=
  Sample.graph home [Sample.token "x" "#111111"] []

def environment : Environment where
  root := root
  externals := [(other, namesake)]
  settings := {}

def answerTo (before : List String) (text : String) : Resolution :=
  (((Resolver.new environment).performAll (before.map .named)).resolveText text).1

end Namesake

/-- The root document holds no token at `#/x`, and has none there on a new resolver. After `#/link`
has led to the other document, its token is the answer. -/
theorem resolve_finds_namesake :
    (Namesake.answerTo [] "#/x").log.codes = [.unknownPointer] ∧
      Sample.valueText (Namesake.answerTo ["#/link"] "#/x") = some "#111111" ∧
      ¬ ((Namesake.answerTo ["#/link"] "#/x").token = none ↔ ∀ pointer,
        Pointer.parse "#/x" = .ok pointer → ¬ Namesake.environment.root.Holds pointer) := by
  -- The memory holds the namesake, whose pointer names nothing in the root document.
  have given : (Namesake.answerTo ["#/link"] "#/x").token.isSome = true := by decide
  have absent : ∀ pointer, Pointer.parse "#/x" = .ok pointer →
      ¬ Namesake.environment.root.Holds pointer := by
    have parsed : Pointer.parse "#/x" = .ok (Sample.place "x") := by rfl
    have none : Namesake.environment.root.node? (Sample.place "x") = none := by rfl
    rintro pointer named ⟨node, found, _⟩
    rw [parsed] at named
    cases named
    rw [none] at found
    cases found
  refine ⟨by decide, by decide, fun iff => ?_⟩
  rw [iff.2 absent] at given
  cases given

end DesignTokens.Resolution
