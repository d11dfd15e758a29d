import DesignTokens.Proofs.Graph.Closure
import DesignTokens.Proofs.Graph.OfTree

/-!
# DesignTokens.Proofs.Graph.Links — references become edges

1. **Pointers** (`nodup_pointers_ofTree`): no two nodes of a graph have the same pointer.
2. **References** (`Sees`): every reference of a node, and every reference that an override may
   lead to, is looked at when all nodes are known; those of nodes are required.
3. **Edges** (`joined_ofTree`, `linked_ofTree`): edges lead from nodes to nodes, and there is one
   for each reference inside the document that leads to a token or an alias.
4. **Targets** (`holds_of_clean`): if nothing was reported, each reference of a node does so.
-/

namespace DesignTokens.Graph

variable {base : Uri}

/-! ## Pointers -/

/-- Pointers that differ from each other and from those that are taken. -/
def Apart (taken pointers : List Pointer) : Prop :=
  pointers.Nodup ∧ ∀ p ∈ pointers, p ∉ taken

theorem apart_nil (taken : List Pointer) : Apart taken [] :=
  ⟨List.nodup_nil, fun _ h => absurd h List.not_mem_nil⟩

/-- A new pointer and others apart from it. -/
theorem Apart.cons {taken pointers : List Pointer} {p : Pointer} (hp : p ∉ taken)
    (h : Apart (p :: taken) pointers) : Apart taken (p :: pointers) := by
  obtain ⟨nodup, free⟩ := h
  constructor
  · exact List.nodup_cons.2 ⟨fun hm => free p hm List.mem_cons_self, nodup⟩
  · intro q hq
    rcases List.mem_cons.1 hq with rfl | hq
    · exact hp
    · exact fun ht => free q hq (List.mem_cons_of_mem _ ht)

/-- What is apart, and then what is apart from that, too. -/
theorem Apart.append {taken xs ys : List Pointer} (h : Apart taken xs)
    (h' : Apart (xs ++ taken) ys) : Apart taken (xs ++ ys) := by
  constructor
  · -- The second part avoids the first one, as it avoids all that was taken.
    refine List.nodup_append.2 ⟨h.1, h'.1, ?_⟩
    rintro p hp q hq rfl
    exact h'.2 p hq (List.mem_append_left _ hp)
  · intro p hp
    rcases List.mem_append.1 hp with hp | hp
    · exact h.2 p hp
    · exact fun ht => h'.2 p hp (List.mem_append_right _ ht)

mutual

/-- The nodes that are drafted for a node of the tree have pointers of their own. -/
theorem draftNode_apart (taken : List Pointer) (parent : Option Pointer) :
    ∀ t : Tree.Node, Apart taken ((draftNode base taken parent t).value.nodes.map (·.pointer))
  | .collection info children => by
    unfold draftNode
    split
    · exact apart_nil taken
    · next free =>
      have own : info.pointer ∉ taken := by simpa using free
      have below := draftNodes_apart (info.pointer :: taken) (some info.pointer) children
      exact Apart.cons own below
  | .token info type value => by
    unfold draftNode
    split
    · exact apart_nil taken
    · next free =>
      have own : info.pointer ∉ taken := by simpa using free
      exact Apart.cons own (apart_nil _)
  | .aliasTo info type field => by
    unfold draftNode
    split
    · exact apart_nil taken
    · next free =>
      have own : info.pointer ∉ taken := by simpa using free
      simp only [Draft.value_bind]
      cases (draftReference base field).value with
      | none => exact apart_nil taken
      | some reference => exact Apart.cons own (apart_nil _)

/-- The nodes of a list have pointers of their own. -/
theorem draftNodes_apart (taken : List Pointer) (parent : Option Pointer) :
    ∀ ts : List Tree.Node,
      Apart taken ((draftNodes base taken parent ts).value.nodes.map (·.pointer))
  | [] => apart_nil taken
  | t :: rest => by
    have first := draftNode_apart taken parent t
    have more := draftNodes_apart
      ((draftNode base taken parent t).value.nodes.map (·.pointer) ++ taken) parent rest
    simpa only [draftNodes, Draft.value_bind, Draft.value_pure, List.map_append] using
      first.append more

end

/-! ## References -/

/-- A reference of a node was resolved, and is pending if it stays in the document; it is required
if it is one of the node itself. -/
structure Sees (base : Uri) (required : Bool) (pending : List Pending) (source : Pointer)
    (r : Reference) : Prop where
  resolved : ∃ field, Reference.resolve base field = .ok r
  awaited : r.target.external = false → ∃ kind, ⟨some source, r, kind, required⟩ ∈ pending

/-- More pending references do no harm. -/
theorem Sees.mono {required : Bool} {pending pending' : List Pending} {source : Pointer}
    {r : Reference} (h : Sees base required pending source r) (sub : pending ⊆ pending') :
    Sees base required pending' source r where
  resolved := h.resolved
  awaited internal := by
    obtain ⟨kind, mem⟩ := h.awaited internal
    exact ⟨kind, sub mem⟩

/-- A reference that is awaited is seen. -/
theorem sees_of_await {source : Pointer} {r : Reference} {field : Field String}
    (h : Reference.resolve base field = .ok r) (kind : Reference.Kind) (required : Bool) :
    Sees base required (Draft.await (some source) kind required r).pending source r where
  resolved := ⟨field, h⟩
  awaited internal := ⟨kind, by simp [Draft.await, internal]⟩

/-- An optional reference is awaited if it can be resolved. -/
theorem draftReference?_sees {source : Pointer} {kind : Reference.Kind} {required : Bool}
    {field : Option (Field String)} {r : Reference}
    (h : (draftReference? base source kind required field).value = some r) :
    Sees base required (draftReference? base source kind required field).pending source r := by
  cases field with
  | none => cases h
  | some field =>
    simp only [draftReference?, Draft.value_bind, Draft.value_pure, value_draftReference] at h
    cases hr : Reference.resolve base field with
    | error e => simp [hr, Except.toOption] at h
    | ok reference =>
      simp only [hr, Except.toOption, Option.some.injEq] at h
      subst h
      refine (sees_of_await hr kind required).mono fun x hx => ?_
      simp only [draftReference?, Draft.pending_bind, value_draftReference, hr, Except.toOption]
      exact List.mem_append_right _ (List.mem_append_left _ hx)

/-- The replacement of a drafted node is looked at. -/
theorem draftInfo_sees (parent : Option Pointer) (info : Tree.NodeInfo) {content : Content}
    {r : Reference}
    (h : ((draftInfo base parent info).value content).replacement = some r) :
    Sees base true (draftInfo base parent info).pending info.pointer r := by
  simp only [draftInfo, Draft.value_bind, Draft.value_pure] at h
  refine (draftReference?_sees h).mono ?_
  simp only [draftInfo, Draft.pending_bind]
  exact List.subset_append_left _ _

mutual

/-- The references of every drafted node are looked at. -/
theorem draftNode_sees (taken : List Pointer) (parent : Option Pointer) :
    ∀ t : Tree.Node, ∀ n ∈ (draftNode base taken parent t).value.nodes, ∀ r ∈ n.references,
      Sees base true (draftNode base taken parent t).pending n.pointer r
  | .collection info children, n, hn, r, hr => by
    unfold draftNode at hn ⊢
    split at hn
    · simp at hn
    · next free =>
      rw [if_neg free]
      simp only [Draft.value_bind, Draft.value_pure, List.mem_cons] at hn
      simp only [Draft.pending_bind]
      rcases hn with rfl | hn
      · -- the collection itself, with its replacement
        have replacement := draftInfo_sees parent info (Option.mem_toList.1 hr)
        exact replacement.mono (List.subset_append_left _ _)
      · -- a node below it
        have below :=
          draftNodes_sees (info.pointer :: taken) (some info.pointer) children n hn r hr
        refine below.mono fun x hx => ?_
        exact List.mem_append_right _ (List.mem_append_left _ hx)
  | .token info type value, n, hn, r, hr => by
    unfold draftNode at hn ⊢
    split at hn
    · simp at hn
    · next free =>
      rw [if_neg free]
      simp only [Draft.value_bind, Draft.value_pure, List.mem_singleton] at hn
      subst hn
      have replacement := draftInfo_sees parent info (Option.mem_toList.1 hr)
      exact replacement.mono (List.subset_append_left _ _)
  | .aliasTo info type field, n, hn, r, hr => by
    unfold draftNode at hn ⊢
    split at hn
    · simp at hn
    · next free =>
      rw [if_neg free]
      simp only [Draft.value_bind] at hn
      cases href : Reference.resolve base field with
      | error e => simp [value_draftReference, href, Except.toOption] at hn
      | ok reference =>
        have hv : (draftReference base field).value = some reference := by
          rw [value_draftReference, href]
          rfl
        simp only [hv, Draft.value_bind, Draft.value_pure, List.mem_singleton] at hn
        subst hn
        simp only [Draft.pending_bind, hv]
        -- An alias awaits its own reference and that of its replacement.
        rcases List.mem_append.1 hr with hr | hr
        · obtain rfl : reference = r := Option.some.inj (Option.mem_toList.1 hr)
          refine (sees_of_await href .aliasTo true).mono fun x hx => ?_
          simp only [List.mem_append]
          exact .inr (.inr (.inl hx))
        · have replacement := draftInfo_sees parent info (Option.mem_toList.1 hr)
          refine replacement.mono fun x hx => ?_
          exact List.mem_append_right _ (List.mem_append_left _ hx)

/-- Every reference of a drafted list of nodes is awaited. -/
theorem draftNodes_sees (taken : List Pointer) (parent : Option Pointer) :
    ∀ ts : List Tree.Node, ∀ n ∈ (draftNodes base taken parent ts).value.nodes,
      ∀ r ∈ n.references, Sees base true (draftNodes base taken parent ts).pending n.pointer r
  | [], n, hn, _, _ => by simp [draftNodes] at hn
  | t :: rest, n, hn, r, hr => by
    simp only [draftNodes, Draft.value_bind, Draft.value_pure, List.mem_append] at hn
    simp only [draftNodes, Draft.pending_bind]
    rcases hn with hn | hn
    · have first := draftNode_sees taken parent t n hn r hr
      exact first.mono (List.subset_append_left _ _)
    · have more := draftNodes_sees _ parent rest n hn r hr
      refine more.mono fun x hx => ?_
      exact List.mem_append_right _ (List.mem_append_left _ hx)

end

mutual

/-- Every reference of a drafted offer is looked at, for the token that the offer belongs to. -/
theorem draftOffer_sees (owner : Pointer) (kind : Reference.Kind) :
    ∀ e : Offer (Field String), ∀ r ∈ (draftOffer base owner kind e).value.references,
      Sees base false (draftOffer base owner kind e).pending owner r
  | .mk pointer span field value entries, r, hr => by
    simp only [draftOffer, Draft.value_bind, Draft.value_pure, Offer.references, List.mem_append,
      Option.mem_toList] at hr
    simp only [draftOffer, Draft.pending_bind]
    rcases hr with hr | hr
    · exact (draftReference?_sees hr).mono (List.subset_append_left _ _)
    · refine (draftOffers_sees owner entries r hr).mono fun x hx => ?_
      exact List.mem_append_right _ (List.mem_append_left _ hx)

/-- Every reference of a drafted fallback list is awaited. -/
theorem draftOffers_sees (owner : Pointer) :
    ∀ es : List (Offer (Field String)),
      ∀ r ∈ Offer.referencesOf (draftOffers base owner es).value,
        Sees base false (draftOffers base owner es).pending owner r
  | [], r, hr => by simp [draftOffers, Offer.referencesOf] at hr
  | e :: rest, r, hr => by
    simp only [draftOffers, Draft.value_bind, Draft.value_pure, Offer.referencesOf,
      List.mem_append] at hr
    simp only [draftOffers, Draft.pending_bind]
    rcases hr with hr | hr
    · exact (draftOffer_sees owner .fallback e r hr).mono (List.subset_append_left _ _)
    · refine (draftOffers_sees owner rest r hr).mono fun x hx => ?_
      exact List.mem_append_right _ (List.mem_append_left _ hx)

end

/-- Every reference of a drafted override is awaited, from the node that it replaces. -/
theorem draftOverride_sees {entry : Override (Field String)} {o : Override Reference}
    (h : (draftOverride base entry).value = some o) :
    ∀ r ∈ o.offer.references,
      Sees base false (draftOverride base entry).pending o.token.target.pointer r := by
  intro r hr
  obtain ⟨_, _, hoffer⟩ := draftOverride_eq_some h
  rw [hoffer] at hr
  refine (draftOffer_sees o.token.target.pointer .override entry.offer r hr).mono fun x hx => ?_
  simp only [draftOverride, Draft.value_bind] at h
  simp only [draftOverride, Draft.pending_bind]
  cases htoken : (draftReference base entry.token).value with
  | none => simp [htoken] at h
  | some token =>
    simp only [htoken] at h ⊢
    split at h
    · simp at h
    · -- The override was kept, so its token is in this document.
      next internal =>
      cases h
      rw [if_neg internal]
      simp only [Draft.pending_bind, List.mem_append]
      exact .inr (.inr (.inl hx))

/-- Every reference of the drafted overrides is awaited. -/
theorem draftOverrides_sees {entries : List (Override (Field String))} {o : Override Reference}
    (ho : o ∈ (draftOverrides base entries).value) :
    ∀ r ∈ o.offer.references,
      Sees base false (draftOverrides base entries).pending o.token.target.pointer r := by
  induction entries with
  | nil => simp [draftOverrides] at ho
  | cons entry rest ih =>
    intro r hr
    simp only [draftOverrides, Draft.value_bind, Draft.value_pure, List.mem_append,
      Option.mem_toList] at ho
    simp only [draftOverrides, Draft.pending_bind]
    rcases ho with ho | ho
    · exact (draftOverride_sees ho r hr).mono (List.subset_append_left _ _)
    · refine (ih ho r hr).mono fun x hx => ?_
      exact List.mem_append_right _ (List.mem_append_left _ hx)

/-! ## Edges -/

/-- A pointer that a reference may lead to: that of a token or an alias. -/
def Holds (g : Graph) (p : Pointer) : Prop :=
  ∃ n, g.node? p = some n ∧ n.isCollection = false

/-- A node is found by its pointer if no other one has it. -/
theorem lookup?_of_mem {nodes : List Node} (nodup : (nodes.map (·.pointer)).Nodup) {n : Node}
    (hn : n ∈ nodes) : lookup? nodes n.pointer = some n := by
  induction nodes with
  | nil => exact absurd hn List.not_mem_nil
  | cons first rest ih =>
    obtain ⟨apart, nodup⟩ := List.nodup_cons.1 nodup
    rcases List.mem_cons.1 hn with rfl | hn
    · -- the first node
      simp [lookup?]
    · -- A later node has another pointer.
      have other : first.pointer ≠ n.pointer := by
        intro same
        exact apart (List.mem_map.2 ⟨n, hn, same.symm⟩)
      have found := ih nodup hn
      simpa [lookup?, other] using found

/-- The tokens of a graph are where references may lead to. -/
theorem mem_tokens_iff {g : Graph} (nodup : g.pointers.Nodup) {p : Pointer} :
    p ∈ g.tokens ↔ g.Holds p := by
  constructor
  · -- A token in the list is found at its pointer, since no other node is there.
    intro h
    obtain ⟨n, hn, rfl⟩ := List.mem_map.1 h
    obtain ⟨mem, valued⟩ := List.mem_filter.1 hn
    exact ⟨n, lookup?_of_mem nodup mem, by simpa using valued⟩
  · rintro ⟨n, hn, valued⟩
    have found : lookup? g.nodes p = some n := hn
    have here : n.pointer = p := by simpa using List.find?_some found
    have mem := List.mem_of_find?_eq_some found
    exact List.mem_map.2 ⟨n, List.mem_filter.2 ⟨mem, by simpa using valued⟩, here⟩

/-- A reference of a node leads to another document, or, if at all, along an edge. -/
structure LinksBy (g : Graph) (source : Pointer) (r : Reference) : Prop where
  external : r.target.external = true → r.target.uri ≠ g.uri
  internal : r.target.external = false → g.Holds source → g.Holds r.target.pointer →
    g.Leads source r.target.pointer

/-- All references that a resolution can follow are links. -/
structure Linked (g : Graph) : Prop where
  aliases : ∀ n ∈ g.nodes, ∀ type r, n.content = .aliasTo type r → g.LinksBy n.pointer r
  overrides : ∀ o ∈ g.overrides, ∀ r ∈ o.offer.references, g.LinksBy o.token.target.pointer r

/-- A reference is external exactly if its document is another one. -/
theorem external_of_resolve {field : Field String} {r : Reference}
    (h : Reference.resolve base field = .ok r) : r.target.external = (r.target.uri != base) := by
  unfold Reference.resolve at h
  split at h
  · cases h
  · split at h
    · cases h
    · cases h
      rfl

variable {tree : Tree} {g : Graph}

/-- The pending reference of a link becomes an edge. -/
theorem edge?_of_holds {p : Pending} {source : Pointer} (hs : p.source = some source)
    (h : g.Holds source) (h' : g.Holds p.reference.target.pointer) :
    p.edge? g.nodes = some ⟨source, p.reference.target.pointer, p.kind⟩ := by
  obtain ⟨n, hn, _⟩ := h
  obtain ⟨t, ht, leaf⟩ := h'
  have hn : lookup? g.nodes source = some n := hn
  have ht : lookup? g.nodes p.reference.target.pointer = some t := ht
  have target : t.pointer = p.reference.target.pointer := by
    simpa using List.find?_some ht
  simp [Pending.edge?, hs, hn, ht, leaf, target]

/-- Edges of a graph come from pending references, between nodes. -/
theorem joined_ofTree (h : (ofTree tree).graph = some g) : g.Joined := by
  obtain ⟨_, rfl⟩ := ofTree_eq_some h
  intro e he
  obtain ⟨p, _, hedge⟩ := List.mem_filterMap.1 he
  unfold Pending.edge? at hedge
  split at hedge
  · next source target hs ht =>
    -- An edge is drawn only if both of its ends are found.
    split at hedge
    · cases hedge
    · next ends =>
      cases hedge
      simp only [Bool.or_eq_true, not_or, Option.isNone_iff_eq_none] at ends
      obtain ⟨n, hn⟩ := Option.ne_none_iff_exists'.1 ends.2
      have source_mem := List.mem_of_find?_eq_some hn
      have source_eq : n.pointer = source := by simpa using List.find?_some hn
      have target_mem := List.mem_of_find?_eq_some ht
      exact ⟨List.mem_map.2 ⟨n, source_mem, source_eq⟩, List.mem_map_of_mem target_mem⟩
  · cases hedge

/-- No two nodes of a graph have the same pointer. -/
theorem nodup_pointers_ofTree (h : (ofTree tree).graph = some g) : g.pointers.Nodup := by
  obtain ⟨_, rfl⟩ := ofTree_eq_some h
  exact (draftNodes_apart [] none tree.children).1

/-- In the graph of a tree, all references that a resolution can follow are links. -/
theorem linked_ofTree (h : (ofTree tree).graph = some g) : g.Linked := by
  obtain ⟨_, hg⟩ := ofTree_eq_some h
  -- Whatever is seen becomes an edge, if both of its ends are tokens or aliases.
  have links : ∀ required source r,
      Sees tree.uri.withoutFragment required (draftTree tree.uri.withoutFragment tree).pending
        source r → g.LinksBy source r := by
    intro required source r sees
    constructor
    · intro external
      obtain ⟨field, hr⟩ := sees.resolved
      rw [external_of_resolve hr] at external
      rw [hg]
      simpa using external
    · intro internal hsource htarget
      obtain ⟨kind, mem⟩ := sees.awaited internal
      have edge := edge?_of_holds (p := ⟨some source, r, kind, required⟩) rfl hsource htarget
      refine leads_iff.2 ⟨⟨source, r.target.pointer, kind⟩, ?_, rfl, rfl⟩
      rw [hg] at edge ⊢
      exact List.mem_filterMap.2 ⟨_, mem, edge⟩
  constructor
  · -- the references of aliases
    intro n hn type r hc
    rw [hg] at hn
    have alias_mem : r ∈ n.references := by simp [Node.references, Node.aliasReference?, hc]
    have sees := draftNodes_sees [] none tree.children n hn r alias_mem
    exact links _ _ _ (sees.mono (List.subset_append_left _ _))
  · -- the references of overrides
    intro o ho r hr
    rw [hg] at ho
    have sees : Sees _ false (draftOverrides _ tree.overrides).pending _ r :=
      draftOverrides_sees ho r hr
    refine links _ _ _ (sees.mono fun x hx => ?_)
    exact List.mem_append_right _ (List.mem_append_left _ hx)

/-! ## Targets -/

/-- Without external references, all references of nodes and overrides stay in the document. -/
theorem internal_of_alone (alone : g.externalReferences = []) :
    (∀ n ∈ g.nodes, ∀ r ∈ n.references, r.target.external = false) ∧
      ∀ o ∈ g.overrides, ∀ r ∈ o.offer.references, r.target.external = false := by
  have internal : ∀ r ∈ g.nodes.flatMap Node.references ++
      g.overrides.flatMap (·.offer.references), r.target.external = false := by
    intro r hr
    simpa using List.filter_eq_nil_iff.1 alone r hr
  constructor
  · intro n hn r hr
    exact internal r (List.mem_append_left _ (List.mem_flatMap.2 ⟨n, hn, hr⟩))
  · intro o ho r hr
    exact internal r (List.mem_append_right _ (List.mem_flatMap.2 ⟨o, ho, hr⟩))

/-- A required reference that is not reported leads to a token or an alias. -/
theorem holds_of_unreported {p : Pending} (required : p.required = true)
    (unreported : p.diagnostic? g.nodes = none) : g.Holds p.reference.target.pointer := by
  have faultless : p.fault? g.nodes = none := by
    simpa [Pending.diagnostic?, required] using unreported
  unfold Pending.fault? at faultless
  -- There is neither a missing target nor one that is a collection.
  split at faultless
  · cases faultless
  · next target found =>
    split at faultless
    · cases faultless
    · next valued => exact ⟨target, found, by simpa using valued⟩

/-- In the graph of a tree that was built without a report, every reference of a node that stays in
the document leads to a token or an alias. -/
theorem holds_of_clean (built : ofTree tree = ⟨some g, []⟩) {n : Node} (hn : n ∈ g.nodes)
    {r : Reference} (hr : r ∈ n.references) (internal : r.target.external = false) :
    g.Holds r.target.pointer := by
  obtain ⟨anchor, hg⟩ := ofTree_eq_some (congrArg Built.graph built)
  rw [hg] at hn
  have sees := draftNodes_sees [] none tree.children n hn r hr
  obtain ⟨kind, mem⟩ := sees.awaited internal
  have clean := congrArg Built.log built
  simp only [ofTree, anchor, if_true, List.append_eq_nil_iff, List.filterMap_eq_nil_iff] at clean
  -- A clean log has no report on this reference.
  have unreported := clean.2 ⟨some n.pointer, r, kind, true⟩ (List.mem_append_left _ mem)
  refine holds_of_unreported (p := ⟨some n.pointer, r, kind, true⟩) rfl ?_
  rw [hg]
  exact unreported

end DesignTokens.Graph
