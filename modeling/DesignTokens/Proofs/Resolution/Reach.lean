import DesignTokens.Proofs.Graph.Cycles
import DesignTokens.Proofs.Graph.Links
import DesignTokens.Proofs.Resolution.Contract
import DesignTokens.Proofs.Sample

/-!
# DesignTokens.Proofs.Resolution.Reach — resolution stays within the analysis of the graph

What a resolution goes through in a single document is in the closure of the node that it starts
from, and where it meets a cycle there is one in the graph.

1. **References**: in a document on its own, only links are followed.
2. **Logs** (`Looping`): a cycle is reported only at a node that depends on itself.
3. **Traces** (`Within`): the nodes on a trace can be reached from where it starts.
4. **Evaluation** (`reach_kept`): both hold after every visit. What carries it is that every pending
   node leads to the node that is visited.
5. **Trees** (`resolve_within_analysis`): that is so for graphs that were built from trees.
-/

namespace DesignTokens.Resolution

/-! ## References -/

section Single

variable {env : Environment} {g : Graph}

/-- Without other documents, a link that is followed stays in the document. -/
theorem follow_single (single : env.externals = []) {source : Pointer} {r : Reference}
    (link : env.root.LinksBy source r) {target : Graph}
    (h : env.follow env.root r = .ok target) : r.target.external = false ∧ target = env.root := by
  rcases Environment.follow_cases h with ⟨internal, rfl⟩ | ⟨external, same, _⟩ | ⟨_, _, found⟩
  · exact ⟨internal, rfl⟩
  · exact absurd same (link.external external)
  · simp [Environment.external?, single] at found

end Single

/-! ## Logs -/

/-- Every cycle that is reported is one at a node that depends on itself. -/
def Looping (g : Graph) (log : Log) : Prop :=
  ∀ d ∈ log, d.code = .cycleDetected → ∃ q, d.pointer = some q ∧ g.Depends q q

namespace Looping

variable {g : Graph} {log log' : Log}

theorem nil (g : Graph) : Looping g [] :=
  fun _ h => absurd h List.not_mem_nil

theorem append (h : Looping g log) (h' : Looping g log') : Looping g (log ++ log') := by
  intro d hd
  rcases List.mem_append.1 hd with hd | hd
  · exact h d hd
  · exact h' d hd

/-- Reports of another kind. -/
theorem of_other (other : ∀ d ∈ log, d.code ≠ .cycleDetected) : Looping g log :=
  fun d hd code => absurd code (other d hd)

/-- A fault of another kind. -/
theorem located {fault : Fault} (other : fault.code ≠ .cycleDetected) (pointer : Pointer)
    (span : Option Span) : Looping g [fault.located pointer span] := by
  refine of_other fun d hd => ?_
  obtain rfl := List.mem_singleton.1 hd
  exact other

/-- A cycle reported at a node that depends on itself. -/
theorem cycle {pointer : Pointer} (loop : g.Depends pointer pointer) (span : Option Span) :
    Looping g [(Fault.cycle pointer).located pointer span] := by
  intro d hd _
  obtain rfl := List.mem_singleton.1 hd
  exact ⟨pointer, rfl, loop⟩

end Looping

/-- The check of a replacement reports no cycle. -/
theorem Looping.checkReplacement {g : Graph} {s : State} (h : Looping g s.log) (env : Environment)
    (node : Graph.Node) : Looping g (checkReplacement env g node s).log := by
  obtain ⟨faults, heq, known⟩ := checkReplacement_eq env g node s
  rw [heq]
  refine h.append (Looping.of_other fun d hd => ?_)
  obtain ⟨⟨fault, reference⟩, hf, rfl⟩ := List.mem_map.1 hd
  obtain ⟨_, type, hfault⟩ := known fault reference hf
  exact ne_of_mem_of_not_mem (code_of_replacementFault hfault) (by decide)

/-! ## Traces -/

/-- Every token and alias on a trace can be reached from one of the starts. -/
def Within (g : Graph) (starts : Pointer → Prop) (trace : List Step) : Prop :=
  ∀ step ∈ trace, step.kind = .token ∨ step.kind = .aliasTo →
    ∃ q, starts q ∧ g.Holds q ∧ g.Reaches q step.pointer

namespace Within

variable {g : Graph} {starts starts' : Pointer → Prop} {trace trace' : List Step}

theorem nil (g : Graph) (starts : Pointer → Prop) : Within g starts [] :=
  fun _ h => absurd h List.not_mem_nil

theorem append (h : Within g starts trace) (h' : Within g starts trace') :
    Within g starts (trace ++ trace') := by
  intro step hstep
  rcases List.mem_append.1 hstep with hstep | hstep
  · exact h step hstep
  · exact h' step hstep

/-- Steps through overrides and fallback lists do not count. -/
theorem cons_other {step : Step} (kind : step.kind = .override ∨ step.kind = .fallback)
    (h : Within g starts trace) : Within g starts (step :: trace) := by
  intro s hs hkind
  rcases List.mem_cons.1 hs with rfl | hs
  · rcases kind with kind | kind <;> rcases hkind with hkind | hkind <;>
      exact absurd (kind.symm.trans hkind) (by decide)
  · exact h s hs hkind

theorem single {p : Pointer} (hp : g.Holds p) (kind : Step.Kind) (uri : Uri)
    (span : Option Span) : Within g (· = p) [⟨p, uri, kind, span⟩] := by
  intro step hstep _
  obtain rfl := List.mem_singleton.1 hstep
  exact ⟨p, rfl, hp, .refl⟩

/-- A walk within fewer nodes is within more of them. -/
theorem imp (h : Within g starts trace) (imp : ∀ q, starts q → starts' q) :
    Within g starts' trace := by
  intro step hstep kind
  obtain ⟨q, hq, reach⟩ := h step hstep kind
  exact ⟨q, imp q hq, reach⟩

/-- A trace that starts where a node leads to. -/
theorem from_node {p : Pointer} (hp : g.Holds p) (h : Within g starts trace)
    (leads : ∀ q, starts q → g.Holds q → g.Leads p q) : Within g (· = p) trace := by
  intro step hstep kind
  obtain ⟨q, hq, holds, reach⟩ := h step hstep kind
  exact ⟨p, rfl, hp, .head (leads q hq holds) reach⟩

end Within

/-! ## Evaluation -/

/-- Every pending node leads to the node that is visited, if that is a token or an alias. -/
def Behind (g : Graph) (pending : List Key) (p : Pointer) : Prop :=
  ∀ key ∈ pending, g.Holds key.pointer ∧ (g.Holds p → g.Depends key.pointer p)

/-- Wherever references of a document lead, the pending nodes are behind it. -/
def Ahead (env : Environment) (pending : List Key) (refs : List Reference) : Prop :=
  ∀ r ∈ refs, ∀ target, env.follow env.root r = .ok target →
    r.target.external = false ∧ target = env.root ∧ Behind env.root pending r.target.pointer

/-- The targets of references inside the document. -/
def TargetOf (refs : List Reference) (q : Pointer) : Prop :=
  ∃ r ∈ refs, r.target.external = false ∧ r.target.pointer = q

theorem TargetOf.mono {refs refs' : List Reference} {q : Pointer} (sub : refs ⊆ refs')
    (h : TargetOf refs q) : TargetOf refs' q := by
  obtain ⟨r, hr, place⟩ := h
  exact ⟨r, sub hr, place⟩

/-- What is found from some starts: a trace within reach, and reports. -/
def StateWithin (g : Graph) (starts : Pointer → Prop) (s : State) : Prop :=
  Within g starts s.trace ∧ Looping g s.log

def OutcomeWithin (g : Graph) (starts : Pointer → Prop) : Outcome → Prop
  | .ok p => Within g starts p.trace ∧ Looping g p.log
  | .error f => Looping g f.log

/-- A failed candidate gives no steps, and its reports stay. -/
theorem survives_outcomeWithin (g : Graph) (starts : Pointer → Prop) :
    Survives (OutcomeWithin g starts) where
  nothing := Looping.nil g
  merge := by
    intro failure outcome before later
    cases outcome with
    | ok payload => exact later
    | error failure' => exact before.append later

theorem OutcomeWithin.imp {g : Graph} {starts starts' : Pointer → Prop} {outcome : Outcome}
    (h : OutcomeWithin g starts outcome) (imp : ∀ q, starts q → starts' q) :
    OutcomeWithin g starts' outcome := by
  cases outcome with
  | ok payload => exact ⟨h.1.imp imp, h.2⟩
  | error failure => exact h

/-- In a document on its own, resolutions stay within reach. -/
def reach (env : Environment) : Contract where
  pre pending g p := g = env.root ∧ Behind g pending p
  post g p s := StateWithin g (· = p) s
  preList pending g entries := g = env.root ∧ Ahead env pending (Offer.referencesOf entries)
  postList g entries outcome := OutcomeWithin g (TargetOf (Offer.referencesOf entries)) outcome
  stored := StoredAs env fun g p s => StateWithin g (· = p) s

/-- The reference of an offer is one of those it depends on. -/
theorem mem_references_of_reference {offer : Offer Reference} {r : Reference}
    (h : offer.reference = some r) : r ∈ offer.references := by
  cases offer
  cases h
  simp [Offer.references]

theorem fallback_subset_references (offer : Offer Reference) :
    Offer.referencesOf offer.fallback ⊆ offer.references := by
  cases offer
  exact List.subset_append_right _ _

theorem references_subset_of_mem {entries : List (Offer Reference)} {e : Offer Reference}
    (he : e ∈ entries) : e.references ⊆ Offer.referencesOf entries := by
  induction entries with
  | nil => exact absurd he List.not_mem_nil
  | cons first rest ih =>
    rw [Offer.referencesOf]
    rcases List.mem_cons.1 he with rfl | he
    · exact List.subset_append_left _ _
    · exact List.Subset.trans (ih he) (List.subset_append_right _ _)

/-- Below a node, it is pending itself, and its links lead on from it. -/
theorem ahead_of_links {env : Environment} (single : env.externals = []) {pending : List Key}
    {p : Pointer} (hp : env.root.Holds p) (behind : Behind env.root pending p)
    {refs : List Reference} (links : ∀ r ∈ refs, env.root.LinksBy p r) :
    Ahead env (Key.of env.root p :: pending) refs := by
  intro r hr target h
  have link := links r hr
  obtain ⟨internal, rfl⟩ := follow_single single link h
  refine ⟨internal, rfl, fun key hkey => ?_⟩
  rcases List.mem_cons.1 hkey with rfl | hkey
  · exact ⟨hp, fun ht => .single (link.internal internal hp ht)⟩
  · obtain ⟨holds, leads⟩ := behind key hkey
    exact ⟨holds, fun ht => (leads hp).tail (link.internal internal hp ht)⟩

section Rules

variable {env : Environment} {m n : Type → Type} [Monad m] [Monad n] {B : Bridge m n}
  {d : Deeper m} {d' : Deeper n} {pending : List Key}
variable (below : (reach env).Below B pending d d')

include below

/-- A reference is followed to a node that lies ahead. -/
theorem follow_within {r : Reference} {refs : List Reference} (ahead : Ahead env pending refs)
    (hr : r ∈ refs) :
    B.rel (StateWithin env.root (TargetOf refs)) (d.follow env env.root r)
      (d'.follow env env.root r) := by
  refine B.follow ?_ ?_
  · -- The target is known, so the walk goes on there.
    intro target h
    obtain ⟨internal, rfl, behind⟩ := ahead r hr target h
    refine B.rel_imp (below.visit ⟨rfl, behind⟩) fun s hs => ⟨hs.1.imp ?_, hs.2⟩
    rintro q rfl
    exact ⟨r, hr, internal, rfl⟩
  · -- It is not, and the report is no cycle.
    intro fault h
    refine ⟨Within.nil _ _, Looping.located ?_ _ _⟩
    simp [code_of_follow h]

/-- An offer is tried within what its references lead to. -/
theorem tryOffer_within {offer : Offer Reference} (ahead : Ahead env pending offer.references)
    (type : Option String) :
    B.rel (OutcomeWithin env.root (TargetOf offer.references))
      (tryOffer d env env.root type offer) (tryOffer d' env env.root type offer) := by
  refine B.tryOffer (survives_outcomeWithin _ _) ?_ ?_ ?_
  · intro r hr
    refine B.rel_imp (follow_within below ahead (mem_references_of_reference hr)) fun s hs => ?_
    obtain ⟨within, looping⟩ := hs
    unfold targetOutcome
    split
    · refine ⟨within, looping.append (.of_other fun d hd => ?_)⟩
      have code := code_of_overrideTypeFault (Option.mem_toList.1 hd)
      simp [code]
    · exact looping
  · intro field _
    unfold valueOutcome
    split
    · exact ⟨Within.nil _ _, Looping.nil _⟩
    · exact Looping.located (by simp [Fault.code]) _ _
  · intro _
    have sub := fallback_subset_references offer
    refine B.rel_imp (below.fallback ⟨rfl, fun r hr => ahead r (sub hr)⟩) ?_
    intro outcome ho
    exact ho.imp fun q hq => hq.mono sub

/-- So is a list of offers. -/
theorem tryEntries_within {entries : List (Offer Reference)}
    (ahead : Ahead env pending (Offer.referencesOf entries)) (type : Option String)
    (owner : Pointer) :
    B.rel (OutcomeWithin env.root (TargetOf (Offer.referencesOf entries)))
      (tryEntries d env env.root type owner entries)
      (tryEntries d' env env.root type owner entries) := by
  refine B.tryEntries (survives_outcomeWithin _ _) ?_ ?_
  · intro e he
    have sub := references_subset_of_mem he
    refine B.rel_imp (tryOffer_within below (fun r hr => ahead r (sub hr)) type) ?_
    intro outcome ho
    have ho := ho.imp fun q hq => hq.mono sub
    -- An entry that is taken adds its own step, which is at no token and at no alias.
    cases outcome with
    | ok payload => exact ⟨.cons_other (.inr rfl) ho.1, ho.2⟩
    | error failure => exact ho
  · exact Looping.located (by simp [Fault.code]) _ _

end Rules

section Node

variable {env : Environment} (single : env.externals = []) (linked : env.root.Linked)
  {m n : Type → Type} [Monad m] [Monad n] {B : Bridge m n} {d : Deeper m} {d' : Deeper n}
  {pending : List Key}

include single linked

/-- The override of a node keeps the walk within what the node leads to. -/
theorem finish_within {node : Graph.Node} (hn : env.root.Holds node.pointer)
    (behind : Behind env.root pending node.pointer)
    (below : (reach env).Below B (Key.of env.root node.pointer :: pending) d d') {s : State}
    (hs : StateWithin env.root (· = node.pointer) s) :
    B.rel (StateWithin env.root (· = node.pointer)) (finish d env env.root node s)
      (finish d' env env.root node s) := by
  obtain ⟨within, looping⟩ := hs
  -- The offer of an override that targets the node makes edges of the node.
  have links : ∀ entry, env.override? env.root node.pointer = some entry →
      ∀ r ∈ entry.offer.references, env.root.LinksBy node.pointer r := by
    intro entry he r hr
    obtain ⟨mem, same, _⟩ := Environment.override?_eq_some he
    exact same ▸ linked.overrides entry mem r hr
  refine B.finish (R := fun entry => OutcomeWithin env.root (TargetOf entry.offer.references))
    ?_ ?_ ?_ ?_
  · -- Without an override, with one that gives a payload, and with one that gives none.
    intro _
    exact ⟨by simpa using within, looping.checkReplacement env node⟩
  · intro entry he
    exact tryOffer_within below (ahead_of_links single hn behind (links entry he)) s.type
  · intro entry payload he hp
    obtain ⟨within', looping'⟩ := hp
    refine ⟨?_, Looping.checkReplacement (looping.append looping') env node⟩
    rw [trace_checkReplacement]
    refine within.append (.cons_other (.inl rfl) (within'.from_node hn ?_))
    rintro q ⟨r, hr, internal, rfl⟩ hq
    exact (links entry he r hr).internal internal hn hq
  · intro entry failure _ hf
    have failed : Looping env.root
        [(Fault.overrideFailed node.pointer).located entry.pointer entry.span] :=
      Looping.located (by simp [Fault.code]) _ _
    refine ⟨by simpa [State.keepDespite] using within, ?_⟩
    exact Looping.checkReplacement ((looping.append hf).append failed) env node

/-- A node is evaluated within what it leads to. -/
theorem evaluate_within {p : Pointer} (behind : Behind env.root pending p)
    (below : (reach env).Below B (Key.of env.root p :: pending) d d') :
    B.rel (StateWithin env.root (· = p)) (evaluate d env env.root p)
      (evaluate d' env env.root p) := by
  refine B.evaluate ?_ ?_ ?_ ?_
  · -- No node, or a collection: one report, and no steps.
    intro _
    exact ⟨Within.nil _ _, Looping.located (by simp [Fault.code]) _ _⟩
  · intro node children _ _
    exact ⟨Within.nil _ _, Looping.located (by simp [Fault.code]) _ _⟩
  · -- A token steps at itself.
    intro node type value hn hc
    obtain ⟨_, rfl⟩ := Graph.node?_eq_some hn
    have here : env.root.Holds node.pointer := ⟨node, hn, by simp [Graph.Node.isCollection, hc]⟩
    refine finish_within single linked here behind below ⟨Within.single here _ _ _, ?_⟩
    simp only [tokenState]
    split
    · exact Looping.nil _
    · exact Looping.located (by simp [Fault.code]) _ _
  · -- An alias steps at itself, and then where its target leads.
    intro node type reference hn hc
    obtain ⟨mem, rfl⟩ := Graph.node?_eq_some hn
    have here : env.root.Holds node.pointer := ⟨node, hn, by simp [Graph.Node.isCollection, hc]⟩
    have link := linked.aliases node mem type reference hc
    have ahead : Ahead env (Key.of env.root node.pointer :: pending) [reference] :=
      ahead_of_links single here behind (by simpa using link)
    refine B.rel_bind (follow_within below ahead List.mem_cons_self) fun target ht => ?_
    obtain ⟨within, looping⟩ := ht
    refine finish_within single linked here behind below ⟨?_, looping.append ?_⟩
    · refine (Within.single here .aliasTo _ _).append (within.from_node here ?_)
      rintro q ⟨r, hr, internal, rfl⟩ hq
      obtain rfl := List.mem_singleton.1 hr
      exact link.internal internal here hq
    · refine .of_other fun d hd => ?_
      have code := code_of_aliasTypeFault (Option.mem_toList.1 hd)
      simp [code]

end Node

/-- Every visit stays within reach. -/
theorem reach_kept {env : Environment} (single : env.externals = []) (linked : env.root.Linked) :
    (reach env).Kept env where
  reuse := by
    rintro pending g p s ⟨rfl, _⟩ h
    exact h _ _ env.has_root rfl
  store := by
    rintro pending g p s ⟨rfl, _⟩ - post
    exact storedAs_of_has env.has_root post
  cycle := by
    rintro pending g p ⟨rfl, behind⟩ hkey
    obtain ⟨holds, leads⟩ := behind _ hkey
    exact ⟨Within.nil _ _, Looping.cycle (leads holds) _⟩
  cut := by
    rintro pending g p -
    exact ⟨Within.nil _ _, Looping.located (by simp [Fault.code]) _ _⟩
  cutList := by
    rintro pending g entries - owner
    exact Looping.located (by simp [Fault.code]) _ _
  node := by
    rintro pending g p ⟨rfl, behind⟩ _ m n _ _ B d d' below
    exact evaluate_within single linked behind below
  list := by
    rintro pending g entries ⟨rfl, ahead⟩ type owner m n _ _ B d d' below
    exact tryEntries_within below ahead type owner

/-! ## Trees -/

section Trees

variable {tree : Tree} {g : Graph} (built : (Graph.ofTree tree).graph = some g)

include built

/-- In the graph of a tree, what a trace from a node goes through is in its closure. -/
theorem Within.eq_or_mem_closure {pointer : Pointer} {trace : List Step}
    (h : Within g (· = pointer) trace) {step : Step} (hstep : step ∈ trace)
    (kind : step.kind = .token ∨ step.kind = .aliasTo) :
    step.pointer = pointer ∨
      step.pointer ∈ (g.closure pointer .outward none).map (·.1) := by
  obtain ⟨_, rfl, ⟨node, hn, _⟩, reaches⟩ := h step hstep kind
  obtain ⟨_, rfl⟩ := Graph.node?_eq_some hn
  by_cases same : step.pointer = node.pointer
  · exact .inl same
  · have joined := Graph.joined_ofTree built
    have nodup := Graph.nodup_pointers_ofTree built
    exact .inr (Graph.mem_closure_of_reaches joined nodup reaches same)

/-- In the graph of a tree, a cycle that is reported is one that the analysis has. -/
theorem Looping.isSome_cycleOf {log : Log} (h : Looping g log) {d : Diagnostic} (hd : d ∈ log)
    (code : d.code = .cycleDetected) :
    ∃ q, d.pointer = some q ∧ (Graph.cycleOf? g.cycles q).isSome = true := by
  obtain ⟨q, hq, loop⟩ := h d hd code
  have joined := Graph.joined_ofTree built
  exact ⟨q, hq, Graph.isSome_cycleOf_of_depends joined (Graph.nodup_pointers_ofTree built) loop⟩

/-- In the graph of a tree without other documents, whatever is asked for stays within reach. -/
theorem ask_performAll_within (settings : Settings) {r : Resolver}
    (henv : r.env = { root := g, externals := [], settings }) (fresh : r.memory = [])
    (calls : List Resolver.Call) (pointer : Pointer) :
    StateWithin g (· = pointer) (ask r.env (r.performAll calls).memory pointer).1.value := by
  have kept : (reach r.env).Kept r.env := by
    rw [henv]
    exact reach_kept rfl (Graph.linked_ofTree built)
  -- Nothing is pending when a call starts.
  have start : ∀ pointer, (reach r.env).pre [] r.env.root pointer :=
    fun _ => ⟨rfl, fun _ h => absurd h List.not_mem_nil⟩
  have post := kept.ask_performAll start rfl fresh calls pointer
  have root : r.env.root = g := congrArg Environment.root henv
  exact root ▸ post

end Trees

/-- In the graph of a tree without other documents, every token and alias on the trace of an answer
is the node itself or in its closure, and every cycle that is reported is at a node that is in a
cycle of the graph, unless a transform reported it. So a graph without cycles gives none. -/
theorem resolve_within_analysis {tree : Tree} {g : Graph}
    (built : (Graph.ofTree tree).graph = some g) (settings : Settings)
    (document : Option Document) (transforms : List Transform) (calls : List Resolver.Call)
    (pointer : Pointer) :
    let env : Environment := { root := g, externals := [], settings }
    let r := ({ env, document, transforms } : Resolver).performAll calls
    let answer := (r.resolve pointer).1
    (∀ token, answer.token = some token → ∀ step ∈ token.trace,
      step.kind = .token ∨ step.kind = .aliasTo →
        step.pointer = pointer ∨ step.pointer ∈ (g.closure pointer .outward none).map (·.1)) ∧
    (∀ d ∈ answer.log, d.code = .cycleDetected →
      (∃ q, d.pointer = some q ∧ (Graph.cycleOf? g.cycles q).isSome = true) ∨
        ∃ earlier token, d ∈ (Transform.runAll transforms earlier token document).log) ∧
    (g.cycles = [] → transforms = [] → ∀ d ∈ answer.log, d.code ≠ .cycleDetected) := by
  intro env r answer
  have after := Resolver.after_performAll ({ env, document, transforms } : Resolver) calls
  have henv : r.env = env := after.env
  obtain ⟨within, looping⟩ :
      StateWithin g (· = pointer) (ask env r.memory pointer).1.value :=
    ask_performAll_within built settings rfl rfl calls pointer
  have cyclic : ∀ d ∈ answer.log, d.code = .cycleDetected →
      (∃ q, d.pointer = some q ∧ (Graph.cycleOf? g.cycles q).isSome = true) ∨
        ∃ earlier token, d ∈ (Transform.runAll transforms earlier token document).log := by
    -- A report of the walk is at a cycle; what a transform reports is its own.
    intro d hd code
    have honest : r.Honest := after.honest fun _ h => absurd h List.not_mem_nil
    obtain ⟨more, hlog, reported⟩ := r.log_resolve pointer honest
    rw [henv] at hlog
    rcases List.mem_append.1 (hlog ▸ hd) with hd | hd
    · exact .inl (looping.isSome_cycleOf built hd code)
    · obtain ⟨earlier, token, mem⟩ := reported d hd
      rw [after.transforms, after.document] at mem
      exact .inr ⟨earlier, token, mem⟩
  refine ⟨?_, cyclic, ?_⟩
  · -- The steps of the token are those of the walk.
    intro token htoken step hstep kind
    have made := r.eq_token_of_resolve pointer htoken
    rw [henv] at made
    have trace : token.trace = (ask env r.memory pointer).1.value.trace :=
      congrArg Token.trace made
    exact within.eq_or_mem_closure built (trace ▸ hstep) kind
  · -- Without cycles no pointer is cyclic, and without transforms nothing else is reported.
    rintro acyclic rfl d hd code
    rcases cyclic d hd code with ⟨q, _, cycle⟩ | ⟨_, _, mem⟩
    · rw [acyclic] at cycle
      exact absurd cycle (by simp [Graph.cycleOf?])
    · exact absurd mem List.not_mem_nil

/-! ### A cycle through an override -/

namespace Looped

open Sample (overridePlace place text treeAlias treeOverride treeToken)

/-- An alias `link` of `base`; in the mode `on`, `base` is replaced by `link`. -/
def tree : Tree :=
  Sample.tree [treeToken "base" "#000000", treeAlias "link" "base"]
    [treeOverride "base"
      (.mk overridePlace none (some (text "#/link" (overridePlace.child "$ref"))) none [])]

def graph : Graph :=
  Sample.graphOf tree

def settings : Settings where
  context := [("mode", .string "on")]

def answer : Resolution :=
  ((({ env := { root := graph, externals := [], settings } } : Resolver).performAll
    [.node (place "base")]).resolve (place "link")).1

end Looped

set_option maxRecDepth 10000 in
/-- A cycle is reported for `link`, and the analysis of the graph has it. -/
theorem cycle_within_analysis :
    (Graph.ofTree Looped.tree).graph = some Looped.graph ∧
      (Looped.answer.log.any fun d => d.code = .cycleDetected) = true ∧
      (∀ token, Looped.answer.token = some token → ∀ step ∈ token.trace,
        step.kind = .token ∨ step.kind = .aliasTo →
          step.pointer = Sample.place "link" ∨
            step.pointer ∈ (Looped.graph.closure (Sample.place "link") .outward none).map (·.1)) ∧
      ∀ d ∈ Looped.answer.log, d.code = .cycleDetected →
        ∃ q, d.pointer = some q ∧ (Graph.cycleOf? Looped.graph.cycles q).isSome = true := by
  have built : (Graph.ofTree Looped.tree).graph = some Looped.graph :=
    Sample.ofTree_graphOf (by decide +kernel)
  have reported : (Looped.answer.log.any fun d => d.code = .cycleDetected) = true := by
    decide +kernel
  obtain ⟨trace, cyclic, _⟩ := resolve_within_analysis built Looped.settings none []
    [.node (Sample.place "base")] (Sample.place "link")
  refine ⟨built, reported, ?_⟩
  unfold Looped.answer
  refine ⟨trace, fun d hd code => ?_⟩
  rcases cyclic d hd code with cycle | ⟨_, _, mem⟩
  · exact cycle
  · exact absurd mem List.not_mem_nil

end DesignTokens.Resolution
