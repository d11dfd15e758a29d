import DesignTokens.Proofs.Graph.Representation

/-!
# DesignTokens.Proofs.Graph.References — which references become edges, and which are reported

References are looked at when all nodes are known. So an edge or a report depends on the reference
and on the set of nodes, not on the order in which they are declared.

1. **Links** (`Graph.links`): the references inside the document, of nodes and of overrides.
2. **Drafts** (`pending_draftTree`): exactly these are looked at.
3. **Verdicts** (`Graph.joined?`, `Graph.verdict?`): the edge and the report of a link.
4. **Graphs** (`Graph.LinksExactly`): a graph has the edges of its links, and each required one that
   leads to no token or alias is reported once (`ofTree_links_exactly`).
-/

namespace DesignTokens.Graph

variable {base : Uri}

/-! ## Links -/

def inside (links : List Pending) : List Pending :=
  links.filter fun l => !l.reference.target.external

/-- The references of a node: to its replacement, then that of an alias. -/
def Node.links (n : Node) : List Pending :=
  (n.replacement.toList.map fun r => ⟨some n.pointer, r, .replacement, true⟩) ++
    n.aliasReference?.toList.map fun r => ⟨some n.pointer, r, .aliasTo, true⟩

/-- The references that an offer may lead to, for the token of the given pointer: its own one, then
those of its fallback entries at any depth. None of them is required. -/
def offerLinks (owner : Pointer) (kind : Reference.Kind) (offer : Offer Reference) :
    List Pending :=
  (offer.reference.toList.map fun r => ⟨some owner, r, kind, false⟩) ++
    (Offer.referencesOf offer.fallback).map fun r => ⟨some owner, r, .fallback, false⟩

/-- The references of an override: to its token, which has no source, then those that it offers. -/
def overrideLinks (o : Override Reference) : List Pending :=
  ⟨none, o.token, .override, true⟩ :: offerLinks o.token.target.pointer .override o.offer

/-- All references inside the document of a graph. -/
def links (g : Graph) : List Pending :=
  inside (g.nodes.flatMap Node.links ++ g.overrides.flatMap overrideLinks)

@[simp] theorem inside_append (ls ls' : List Pending) :
    inside (ls ++ ls') = inside ls ++ inside ls' := by
  simp [inside]

/-! ## Drafts -/

/-- What is awaited is pending, unless it is in another document. -/
theorem pending_await (source : Option Pointer) (kind : Reference.Kind) (required : Bool)
    (r : Reference) :
    (Draft.await source kind required r).pending = inside [⟨source, r, kind, required⟩] := by
  cases external : r.target.external <;> simp [Draft.await, inside, external]

/-- To read a reference leaves nothing pending. -/
theorem pending_draftReference (field : Field String) :
    (draftReference base field).pending = [] := by
  unfold draftReference
  split <;> simp [Draft.report]

/-- An optional reference is pending if it can be read, and is in this document. -/
theorem pending_draftReference? (source : Pointer) (kind : Reference.Kind) (required : Bool)
    (field : Option (Field String)) :
    (draftReference? base source kind required field).pending =
      inside ((draftReference? base source kind required field).value.toList.map fun r =>
        ⟨some source, r, kind, required⟩) := by
  cases field with
  | none => rfl
  | some field =>
    simp only [draftReference?, Draft.pending_bind, Draft.value_bind, Draft.value_pure,
      Draft.pending_pure, pending_draftReference, List.nil_append, List.append_nil]
    cases (draftReference base field).value with
    | none => rfl
    | some r => exact pending_await (some source) kind required r

/-- A drafted node awaits its replacement, whatever its content is. -/
theorem pending_draftInfo (parent : Option Pointer) (info : Tree.NodeInfo) (content : Content) :
    (draftInfo base parent info).pending =
      inside (((draftInfo base parent info).value content).replacement.toList.map fun r =>
        ⟨some info.pointer, r, .replacement, true⟩) := by
  rw [draftInfo, Draft.pending_bind, Draft.pending_pure, List.append_nil, pending_draftReference?]
  rfl

/-- A node that is no alias links to its replacement only. -/
theorem links_of_no_alias {n : Node} (h : n.aliasReference? = none) :
    n.links = n.replacement.toList.map fun r => ⟨some n.pointer, r, .replacement, true⟩ := by
  simp [Node.links, h]

/-- Every reference in a fallback list is one for the fallback. -/
theorem offerLinks_fallback (owner : Pointer) (offer : Offer Reference) :
    offerLinks owner .fallback offer =
      offer.references.map fun r => ⟨some owner, r, .fallback, false⟩ := by
  cases offer
  simp [offerLinks, Offer.references, Offer.reference, Offer.fallback]

mutual

theorem pending_draftNode (taken : List Pointer) (parent : Option Pointer) :
    ∀ t : Tree.Node, (draftNode base taken parent t).pending =
      inside ((draftNode base taken parent t).value.nodes.flatMap Node.links)
  | .collection info children => by
    -- A node whose pointer is taken leaves nothing pending, in each case.
    unfold draftNode
    split
    · rfl
    · have below := pending_draftNodes (info.pointer :: taken) (some info.pointer) children
      rw [Draft.pending_bind, pending_draftInfo parent info (.collection _), Draft.pending_bind,
        Draft.pending_pure, List.append_nil, below, ← inside_append]
      simp only [Draft.value_bind, Draft.value_pure, List.flatMap_cons]
      rw [links_of_no_alias rfl]
      rfl
  | .token info type value => by
    unfold draftNode
    split
    · rfl
    · rw [Draft.pending_bind, pending_draftInfo parent info (.token type value),
        Draft.pending_pure, List.append_nil]
      simp only [Draft.value_bind, Draft.value_pure, List.flatMap_singleton]
      rw [links_of_no_alias rfl]
      rfl
  | .aliasTo info type field => by
    unfold draftNode
    split
    · rfl
    · rw [Draft.pending_bind, Draft.value_bind, pending_draftReference, List.nil_append]
      cases (draftReference base field).value with
      | none => rfl
      | some reference =>
        simp only [Draft.pending_bind, Draft.pending_pure, Draft.value_bind, Draft.value_pure,
          List.append_nil, List.flatMap_singleton]
        rw [pending_draftInfo parent info (.aliasTo type reference), pending_await,
          ← inside_append]
        rfl

/-- What is awaited for the nodes of a list are the links of the nodes that are drafted. -/
theorem pending_draftNodes (taken : List Pointer) (parent : Option Pointer) :
    ∀ ts : List Tree.Node, (draftNodes base taken parent ts).pending =
      inside ((draftNodes base taken parent ts).value.nodes.flatMap Node.links)
  | [] => rfl
  | t :: rest => by
    have first := pending_draftNode taken parent t
    have more := pending_draftNodes
      ((draftNode base taken parent t).value.nodes.map (·.pointer) ++ taken) parent rest
    simp [draftNodes, first, more]

end

mutual

/-- What a drafted offer leaves pending are its links. -/
theorem pending_draftOffer (owner : Pointer) (kind : Reference.Kind) :
    ∀ e : Offer (Field String), (draftOffer base owner kind e).pending =
      inside (offerLinks owner kind (draftOffer base owner kind e).value)
  | .mk pointer span field value entries => by
    have below := pending_draftOffers owner entries
    rw [draftOffer, Draft.pending_bind, Draft.pending_bind, Draft.pending_pure, List.append_nil,
      pending_draftReference?, below, ← inside_append]
    rfl

/-- What a drafted fallback list leaves pending are links to its references. -/
theorem pending_draftOffers (owner : Pointer) :
    ∀ es : List (Offer (Field String)), (draftOffers base owner es).pending =
      inside ((Offer.referencesOf (draftOffers base owner es).value).map fun r =>
        ⟨some owner, r, .fallback, false⟩)
  | [] => rfl
  | e :: rest => by
    have first := pending_draftOffer owner .fallback e
    have more := pending_draftOffers owner rest
    rw [draftOffers, Draft.pending_bind, Draft.pending_bind, Draft.pending_pure, List.append_nil,
      first, more, offerLinks_fallback, ← inside_append, ← List.map_append]
    rfl

end

/-- What a drafted override leaves pending are its links, if it is kept. -/
theorem pending_draftOverride (entry : Override (Field String)) :
    (draftOverride base entry).pending =
      inside ((draftOverride base entry).value.toList.flatMap overrideLinks) := by
  rw [draftOverride, Draft.pending_bind, Draft.value_bind, pending_draftReference, List.nil_append]
  cases (draftReference base entry.token).value with
  | none => rfl
  | some token =>
    dsimp only
    split
    · rfl
    · rw [Draft.pending_bind, Draft.pending_bind, Draft.pending_pure, List.append_nil,
        pending_await, pending_draftOffer, ← inside_append]
      simp only [Draft.value_bind, Draft.value_pure, Option.toList_some, List.flatMap_singleton]
      rfl

/-- What drafted overrides leave pending are their links. -/
theorem pending_draftOverrides (entries : List (Override (Field String))) :
    (draftOverrides base entries).pending =
      inside ((draftOverrides base entries).value.flatMap overrideLinks) := by
  induction entries with
  | nil => rfl
  | cons entry rest ih =>
    rw [draftOverrides, Draft.pending_bind, Draft.pending_bind, Draft.pending_pure, List.append_nil,
      pending_draftOverride, ih, ← inside_append, ← List.flatMap_append]
    rfl

section Trees

variable {tree : Tree} {g : Graph}

/-- What is awaited for a tree are the links of its graph. -/
theorem pending_draftTree (h : (ofTree tree).graph = some g) :
    (draftTree g.uri tree).pending = g.links := by
  obtain ⟨_, rfl⟩ := ofTree_eq_some h
  rw [draftTree, Draft.pending_bind, Draft.pending_bind, Draft.pending_pure, List.append_nil,
    pending_draftNodes, pending_draftOverrides, ← inside_append]
  rfl

/-! ## Verdicts -/

/-- The edge of a link: it leads from a node to a token or an alias. -/
def joined? (g : Graph) (l : Pending) : Option Edge :=
  l.source.bind fun source =>
    if source ∈ g.pointers ∧ l.reference.target.pointer ∈ g.tokens then
      some ⟨source, l.reference.target.pointer, l.kind⟩
    else none

/-- What is reported on the target of a link, and where: it is missing, or is a collection. -/
def verdict? (g : Graph) (l : Pending) : Option (Code × Option Pointer) :=
  if l.reference.target.pointer ∉ g.pointers then
    some (.missingTarget, some l.reference.pointer)
  else if l.reference.target.pointer ∉ g.tokens then
    some (.invalidTargetKind, some l.reference.pointer)
  else none

/-- The pointers of a graph are those where a node is found. -/
theorem isSome_node?_iff {p : Pointer} : (g.node? p).isSome = true ↔ p ∈ g.pointers := by
  simp [node?, lookup?, pointers, List.find?_isSome]

/-- The target of a link is missing, a collection, or where references may lead to. -/
theorem target_cases (nodup : g.pointers.Nodup) (p : Pointer) :
    (g.node? p = none ∧ p ∉ g.pointers ∧ p ∉ g.tokens) ∨
      ∃ n, g.node? p = some n ∧ n.pointer = p ∧ p ∈ g.pointers ∧
        (p ∈ g.tokens ↔ n.isCollection = false) := by
  cases found : g.node? p with
  | none =>
    -- nothing there, so neither a node nor a token
    refine .inl ⟨rfl, fun there => ?_, fun there => ?_⟩
    · rw [← isSome_node?_iff, found] at there
      cases there
    · obtain ⟨n, hn, _⟩ := (mem_tokens_iff nodup).1 there
      rw [found] at hn
      cases hn
  | some n =>
    refine .inr ⟨n, rfl, by simpa using List.find?_some found, ?_, ?_⟩
    · rw [← isSome_node?_iff, found]
      rfl
    · rw [mem_tokens_iff nodup, Holds, found]
      simp

/-- A link becomes an edge if both ends are there. -/
theorem edge?_eq_joined? (nodup : g.pointers.Nodup) (l : Pending) :
    l.edge? g.nodes = g.joined? l := by
  unfold Pending.edge? joined?
  cases l.source with
  | none => rfl
  | some source =>
    -- The source is looked up among the same nodes.
    have known : (lookup? g.nodes source).isNone = true ↔ source ∉ g.pointers := by
      rw [← isSome_node?_iff, node?]
      simp
    -- nothing at the target, or a node of either kind
    rcases target_cases nodup l.reference.target.pointer with
      ⟨missing, _, out⟩ | ⟨n, found, here, _, kind⟩
    · have missing : lookup? g.nodes l.reference.target.pointer = none := missing
      simp [missing, out]
    · have found : lookup? g.nodes l.reference.target.pointer = some n := found
      by_cases source ∈ g.pointers <;> cases collection : n.isCollection <;>
        simp_all

/-- A required link is reported as its verdict says. -/
theorem diagnostic?_eq_verdict? (nodup : g.pointers.Nodup) (l : Pending) :
    (l.diagnostic? g.nodes).map (fun d => (d.code, d.pointer)) =
      if l.required then g.verdict? l else none := by
  -- The fault is the verdict on the target, whether it is reported or not.
  have code : (l.fault? g.nodes).map (fun fault => (fault.code, some l.reference.pointer)) =
      g.verdict? l := by
    unfold Pending.fault? verdict?
    rcases target_cases nodup l.reference.target.pointer with
      ⟨missing, absent, _⟩ | ⟨n, found, _, there, kind⟩
    · have missing : lookup? g.nodes l.reference.target.pointer = none := missing
      simp [missing, absent, Fault.code]
    · have found : lookup? g.nodes l.reference.target.pointer = some n := found
      cases collection : n.isCollection <;> simp_all [Fault.code]
  unfold Pending.diagnostic?
  cases l.required with
  | false => rfl
  | true =>
    rw [if_pos rfl, if_pos rfl, ← code, Option.map_map]
    -- A report stands at the reference, with or without a source.
    cases l.source <;> rfl

/-! ## Graphs -/

/-- The reports on targets: what is wrong, and where the reference is. -/
def targetReports (log : Log) : List (Code × Option Pointer) :=
  (log.filter fun d => d.code = .missingTarget ∨ d.code = .invalidTargetKind).map fun d =>
    (d.code, d.pointer)

/-- The references whose target has to be a token or an alias: those of nodes, and those to the
tokens of overrides. -/
def requiredLinks (g : Graph) : List Pending :=
  inside (g.nodes.flatMap Node.links ++ g.overrides.map fun o => ⟨none, o.token, .override, true⟩)

/-- The references of a graph are accounted for exactly, in whatever order they are declared. -/
structure LinksExactly (tree : Tree) (g : Graph) (log : Log) : Prop where
  /-- A node has a replacement if its deprecation is active, and its reference is one. -/
  replacements : ∀ n ∈ g.nodes, n.replacement =
    n.metadata.replacement?.bind fun f => (Reference.resolve g.uri f).toOption
  overrides : g.overrides = tree.overrides.filterMap (takeOver? g.uri)
  edges : g.edges = g.links.filterMap g.joined?
  reports : targetReports log = g.requiredLinks.filterMap g.verdict?
  /-- The same references among the same nodes have the same edges and the same reports. -/
  order : ∀ tree' g', (ofTree tree').graph = some g' → g'.links.Perm g.links →
    (∀ p, p ∈ g'.pointers ↔ p ∈ g.pointers) → (∀ p, p ∈ g'.tokens ↔ p ∈ g.tokens) →
      g'.edges.Perm g.edges ∧ (targetReports (ofTree tree').log).Perm (targetReports log)

/-- The required ones among the links of a document are the links of its required ones. -/
theorem inside_filter_required (ls : List Pending) :
    (inside ls).filter (·.required) = inside (ls.filter (·.required)) := by
  rw [inside, inside, List.filter_filter, List.filter_filter]
  simp only [Bool.and_comm]

/-- Of an override, only the reference to its token is required. -/
theorem filter_required_links (g : Graph) : g.links.filter (·.required) = g.requiredLinks := by
  -- all links of nodes are required
  have nodes : (g.nodes.flatMap Node.links).filter (·.required) = g.nodes.flatMap Node.links := by
    rw [List.filter_eq_self]
    intro l hl
    obtain ⟨n, _, hl⟩ := List.mem_flatMap.1 hl
    rcases List.mem_append.1 hl with hl | hl
    · obtain ⟨r, _, rfl⟩ := List.mem_map.1 hl
      rfl
    · obtain ⟨r, _, rfl⟩ := List.mem_map.1 hl
      rfl
  -- Of an override, only its token is.
  have override : ∀ o : Override Reference, (overrideLinks o).filter (·.required) =
      [⟨none, o.token, .override, true⟩] := by
    intro o
    have payload : ∀ kind, (offerLinks o.token.target.pointer kind o.offer).filter (·.required) =
        [] := fun kind => by simp [offerLinks]
    rw [overrideLinks, List.filter_cons_of_pos rfl, payload]
  have overrides : (g.overrides.flatMap overrideLinks).filter (·.required) =
      g.overrides.map fun o => ⟨none, o.token, .override, true⟩ := by
    induction g.overrides with
    | nil => rfl
    | cons o rest ih => rw [List.flatMap_cons, List.filter_append, override, ih]; rfl
  rw [links, inside_filter_required, List.filter_append, nodes, overrides]
  rfl

/-- A planted node has the replacement of the tree, if it can be resolved. -/
theorem replacement_plant? {t : Tree.Node} {n : Node} (h : plant? base t = some n) :
    n.replacement =
      n.metadata.replacement?.bind fun f => (Reference.resolve base f).toOption := by
  have own : ∀ (info : Tree.NodeInfo) (content : Content),
      ((draftInfo base none info).value content).replacement =
        info.metadata.replacement?.bind fun f => (Reference.resolve base f).toOption :=
    fun info content => Likeness.value_draftReference? _ _ _ _
  cases t with
  | collection info children =>
    cases h
    exact own info _
  | token info type value =>
    cases h
    exact own info _
  | aliasTo info type field =>
    obtain ⟨_, _, rfl⟩ := Option.map_eq_some_iff.1 h
    exact own info _

/-- The reports on targets are those of both logs. -/
theorem targetReports_append (log log' : Log) :
    targetReports (log ++ log') = targetReports log ++ targetReports log' := by
  simp [targetReports]

/-- Reports of other kinds say nothing on targets. -/
theorem targetReports_eq_nil {log : Log}
    (h : ∀ d ∈ log, d.code = .duplicatePointer ∨ d.code ∈ referenceCodes) :
    targetReports log = [] := by
  rw [targetReports, List.map_eq_nil_iff, List.filter_eq_nil_iff]
  intro d hd target
  have other : ∀ code, code = .duplicatePointer ∨ code ∈ referenceCodes →
      ¬(code = .missingTarget ∨ code = .invalidTargetKind) := by
    rintro code (rfl | known)
    · decide
    · revert code
      decide
  exact other d.code (h d hd) (of_decide_eq_true target)

/-- Targets are reported when all nodes are known, and only then. -/
theorem targetReports_ofTree (h : (ofTree tree).graph = some g) :
    targetReports (ofTree tree).log = g.requiredLinks.filterMap g.verdict? := by
  have nodup := nodup_pointers_ofTree h
  -- Nodes are reported as duplicates or for their references,
  have nodes : targetReports ((surveyTree tree g.uri).flatMap (Visit.reports g.uri)) = [] := by
    refine targetReports_eq_nil fun d hd => ?_
    obtain ⟨v, _, reported⟩ := List.mem_flatMap.1 hd
    rcases mem_reports reported with ⟨_, rfl⟩ | known
    · exact .inl rfl
    · exact .inr known
  -- overrides for their references,
  have overrides : targetReports (draftOverrides g.uri tree.overrides).log = [] :=
    targetReports_eq_nil fun d hd => .inr (codes_draftOverrides hd)
  -- and all that is left are reports on targets.
  have targets : (g.links.filterMap (·.diagnostic? g.nodes)).filter (fun d =>
      d.code = .missingTarget ∨ d.code = .invalidTargetKind) =
        g.links.filterMap (·.diagnostic? g.nodes) := by
    rw [List.filter_eq_self]
    intro d hd
    obtain ⟨p, _, reported⟩ := List.mem_filterMap.1 hd
    exact decide_eq_true (code_of_pending reported)
  rw [log_ofTree h, targetReports_append, targetReports_append, nodes, overrides,
    pending_draftTree h, targetReports, targets, List.map_filterMap, List.nil_append,
    ← filter_required_links, List.filterMap_filter]
  exact congrArg (List.filterMap · g.links) (funext fun l => diagnostic?_eq_verdict? nodup l)

/-- Whether a link becomes an edge depends on which nodes and tokens there are. -/
theorem joined?_congr {g' : Graph} (pointers : ∀ p, p ∈ g'.pointers ↔ p ∈ g.pointers)
    (tokens : ∀ p, p ∈ g'.tokens ↔ p ∈ g.tokens) : g'.joined? = g.joined? := by
  funext l
  simp only [joined?, pointers, tokens]

/-- So does the verdict on a link. -/
theorem verdict?_congr {g' : Graph} (pointers : ∀ p, p ∈ g'.pointers ↔ p ∈ g.pointers)
    (tokens : ∀ p, p ∈ g'.tokens ↔ p ∈ g.tokens) : g'.verdict? = g.verdict? := by
  funext l
  simp only [verdict?, pointers, tokens]

/-- The edges of a graph are its links that are joined. -/
theorem edges_ofTree (h : (ofTree tree).graph = some g) :
    g.edges = g.links.filterMap g.joined? := by
  have nodup := nodup_pointers_ofTree h
  have pending := pending_draftTree h
  obtain ⟨_, hg⟩ := ofTree_eq_some h
  have edges : g.edges = (draftTree g.uri tree).pending.filterMap (·.edge? g.nodes) := by
    rw [hg]
  rw [edges, pending]
  exact congrArg (List.filterMap · g.links) (funext fun l => edge?_eq_joined? nodup l)

/-- The references of the graph of a tree are accounted for exactly. -/
theorem ofTree_links_exactly (h : (ofTree tree).graph = some g) :
    LinksExactly tree g (ofTree tree).log := by
  constructor
  case replacements =>
    intro n hn
    obtain ⟨v, _, grows⟩ := (matched_of_forall₂ (nodes_grow_ofTree h)).right n hn
    have own := replacement_plant? grows.planted
    exact own
  case overrides => exact overrides_ofTree h
  case edges => exact edges_ofTree h
  case reports => exact targetReports_ofTree h
  case order =>
    intro tree' g' h' perm pointers tokens
    -- With the same nodes and tokens, each link has the same edge and the same verdict.
    constructor
    · rw [edges_ofTree h, edges_ofTree h', joined?_congr pointers tokens]
      exact perm.filterMap _
    · rw [targetReports_ofTree h, targetReports_ofTree h', verdict?_congr pointers tokens,
        ← filter_required_links, ← filter_required_links]
      exact (perm.filter _).filterMap _

end Trees

/-! ### References ahead, to a collection, and to nothing -/

namespace Tangled

open Sample (info place text)

def late : Pointer :=
  place "late"

def early : Pointer :=
  place "early"

def wrong : Pointer :=
  place "wrong"

def entry (i : Nat) : Pointer :=
  (place "$overrides").index i

/-- The references `early` and `wrong` are declared before their targets, of which one is a
collection; the replacement of `late` is missing. An override of `late` leads to `early`, to
nothing, and in its last entry back to `late`; another one is of a missing token. -/
def tree : Tree :=
  Sample.tree
    [.aliasTo (info early) (text "color") (text "#/late" early),
     .aliasTo (info wrong) (text "color") (text "#/group" wrong),
     .token
      { info late with
        metadata := { deprecated := some ⟨⟨true, some (text "#/gone" late)⟩, late, none⟩ } }
      none none,
     .collection (info (place "group")) []]
    [{ token := text "#/late" (entry 0)
       conditions := ⟨[], entry 0, none⟩
       offer := .mk (entry 0) none (some (text "#/early" (entry 0))) none
        [.mk (entry 0) none (some (text "#/gone" (entry 0))) none
          [.mk (entry 0) none (some (text "#/late" (entry 0))) none []]] },
     { token := text "#/gone" (entry 1)
       conditions := ⟨[], entry 1, none⟩
       offer := .mk (entry 1) none (some (text "#/late" (entry 1))) none [] }]

end Tangled

/-- A reference ahead and one of a token to itself become edges; three references are reported. -/
theorem tangled_links_exactly :
    ∃ g, (ofTree Tangled.tree).graph = some g ∧
      LinksExactly Tangled.tree g (ofTree Tangled.tree).log ∧
      g.edges = [⟨Tangled.early, Tangled.late, .aliasTo⟩, ⟨Tangled.late, Tangled.early, .override⟩,
        ⟨Tangled.late, Tangled.late, .fallback⟩] ∧
      targetReports (ofTree Tangled.tree).log = [(.invalidTargetKind, some Tangled.wrong),
        (.missingTarget, some Tangled.late), (.missingTarget, some (Tangled.entry 1))] := by
  have built : (ofTree Tangled.tree).graph.isSome = true := by decide +kernel
  obtain ⟨g, hg⟩ := Option.isSome_iff_exists.1 built
  have edges : (ofTree Tangled.tree).graph.map edges =
      some [⟨Tangled.early, Tangled.late, .aliasTo⟩, ⟨Tangled.late, Tangled.early, .override⟩,
        ⟨Tangled.late, Tangled.late, .fallback⟩] := by decide +kernel
  rw [hg] at edges
  exact ⟨g, hg, ofTree_links_exactly hg, Option.some.inj edges, by decide +kernel⟩

end DesignTokens.Graph
