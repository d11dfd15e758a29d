import DesignTokens.Proofs.Graph.Arena
import DesignTokens.Proofs.Graph.Families
import DesignTokens.Proofs.Graph.Visits
import DesignTokens.Proofs.Sample

/-!
# DesignTokens.Proofs.Graph.Representation — how a graph represents its tree

1. **Overrides** (`Graph.takeOver?`): an override is taken over on its own.
2. **Reports** (`codes_draftOverrides`, `code_of_pending`): what else is reported.
3. **Graphs** (`Graph.Represents`): the graph of a tree has the nodes that are kept, in document
   order, under their parents, and the overrides of each token; what is left out is reported
   (`ofTree_represents`).
-/

namespace DesignTokens.Graph

variable {base : Uri}

/-! ## Overrides -/

mutual

/-- An offer with its references resolved; those that are none are left out. -/
def resolvedOffer (base : Uri) : Offer (Field String) → Offer Reference
  | .mk pointer span field value entries =>
    .mk pointer span (field.bind fun f => (Reference.resolve base f).toOption) value
      (resolvedOffers base entries)

/-- Offers with their references resolved. -/
def resolvedOffers (base : Uri) : List (Offer (Field String)) → List (Offer Reference)
  | [] => []
  | offer :: rest => resolvedOffer base offer :: resolvedOffers base rest

end

/-- The override that is taken over, if its token is in the same document. -/
def takeOver? (base : Uri) (entry : Override (Field String)) : Option (Override Reference) :=
  match Reference.resolve base entry.token with
  | .error _ => none
  | .ok token =>
    if token.target.external then none
    else some { token, conditions := entry.conditions, offer := resolvedOffer base entry.offer }

mutual

/-- A drafted offer is the offer with its references resolved. -/
theorem value_draftOffer (owner : Pointer) (kind : Reference.Kind) :
    ∀ e : Offer (Field String), (draftOffer base owner kind e).value = resolvedOffer base e
  | .mk pointer span field value entries => by
    rw [draftOffer, Draft.value_bind, Draft.value_bind, value_draftOffers owner entries,
      Likeness.value_draftReference?, resolvedOffer]
    rfl

/-- A drafted fallback list is the list with its references resolved. -/
theorem value_draftOffers (owner : Pointer) :
    ∀ es : List (Offer (Field String)), (draftOffers base owner es).value = resolvedOffers base es
  | [] => rfl
  | e :: rest => by
    rw [draftOffers, Draft.value_bind, Draft.value_bind, value_draftOffer owner .fallback e,
      value_draftOffers owner rest, resolvedOffers]
    rfl

end

/-- An override is drafted as it is taken over. -/
theorem value_draftOverride (entry : Override (Field String)) :
    (draftOverride base entry).value = takeOver? base entry := by
  unfold draftOverride takeOver?
  rw [Draft.value_bind, value_draftReference]
  cases Reference.resolve base entry.token with
  | error fault => rfl
  | ok token =>
    simp only [Except.toOption]
    split
    · rfl
    · rw [Draft.value_bind, Draft.value_bind, value_draftOffer]
      rfl

/-- Overrides are taken over one by one. -/
theorem value_draftOverrides (entries : List (Override (Field String))) :
    (draftOverrides base entries).value = entries.filterMap (takeOver? base) := by
  induction entries with
  | nil => rfl
  | cons entry rest ih =>
    rw [draftOverrides, Draft.value_bind, Draft.value_bind, value_draftOverride, ih,
      List.filterMap_cons]
    cases takeOver? base entry <;> rfl

/-! ## Reports -/

/-- The codes of the reports on references and on overrides. -/
def referenceCodes : List Code :=
  [.invalidReference, .invalidPointer, .externalOverrideTarget]

/-- A field is reported for its reference. -/
theorem code_of_fieldReports {field : Option (Field String)} {d : Diagnostic}
    (hd : d ∈ fieldReports base field) : d.code ∈ referenceCodes := by
  unfold fieldReports at hd
  split at hd
  · cases hd
  · split at hd
    · cases hd
    · next fault _ =>
      obtain rfl := List.mem_singleton.1 hd
      have known : ∀ code ∈ [Code.invalidReference, .invalidPointer], code ∈ referenceCodes := by
        decide
      cases fault
      · exact known _ List.mem_cons_self
      · exact known _ (List.mem_cons_of_mem _ List.mem_cons_self)

mutual

/-- An offer is reported for its references. -/
theorem codes_draftOffer (owner : Pointer) (kind : Reference.Kind) :
    ∀ e : Offer (Field String), ∀ d ∈ (draftOffer base owner kind e).log, d.code ∈ referenceCodes
  | .mk pointer span field value entries, d, hd => by
    rw [draftOffer, Draft.log_bind, Draft.log_bind, Draft.log_pure, List.append_nil,
      log_draftReference?] at hd
    rcases List.mem_append.1 hd with hd | hd
    · exact code_of_fieldReports hd
    · exact codes_draftOffers owner entries d hd

/-- A fallback list is reported for its references. -/
theorem codes_draftOffers (owner : Pointer) :
    ∀ es : List (Offer (Field String)), ∀ d ∈ (draftOffers base owner es).log,
      d.code ∈ referenceCodes
  | [], d, hd => by cases hd
  | e :: rest, d, hd => by
    rw [draftOffers, Draft.log_bind, Draft.log_bind, Draft.log_pure, List.append_nil] at hd
    rcases List.mem_append.1 hd with hd | hd
    · exact codes_draftOffer owner .fallback e d hd
    · exact codes_draftOffers owner rest d hd

end

/-- An override is reported for its references. -/
theorem codes_draftOverride {entry : Override (Field String)} {d : Diagnostic}
    (hd : d ∈ (draftOverride base entry).log) : d.code ∈ referenceCodes := by
  rw [draftOverride, Draft.log_bind, log_draftReference] at hd
  rcases List.mem_append.1 hd with hd | hd
  · exact code_of_fieldReports hd
  · split at hd
    · cases hd
    · split at hd
      · rw [Draft.log_bind, Draft.log_pure, List.append_nil] at hd
        obtain rfl := List.mem_singleton.1 hd
        have known : Code.externalOverrideTarget ∈ referenceCodes := by decide
        exact known
      · next token _ _ =>
        rw [Draft.log_bind, Draft.log_bind, Draft.log_pure, List.append_nil] at hd
        rcases List.mem_append.1 hd with hd | hd
        · cases hd
        · exact codes_draftOffer _ _ _ d hd

/-- Overrides are reported for their references. -/
theorem codes_draftOverrides {entries : List (Override (Field String))} {d : Diagnostic}
    (hd : d ∈ (draftOverrides base entries).log) : d.code ∈ referenceCodes := by
  induction entries with
  | nil => cases hd
  | cons entry rest ih =>
    rw [draftOverrides, Draft.log_bind, Draft.log_bind, Draft.log_pure, List.append_nil] at hd
    rcases List.mem_append.1 hd with hd | hd
    · exact codes_draftOverride hd
    · exact ih hd

/-- A visit has a report of its own if its node has a pointer that is taken; all other reports are
on references. -/
theorem mem_reports {v : Visit} {d : Diagnostic} (hd : d ∈ v.reports base) :
    (v.fate = .duplicate ∧ d = v.duplicateReport) ∨ d.code ∈ referenceCodes := by
  unfold Visit.reports at hd
  split at hd
  · next fate => exact .inl ⟨fate, List.mem_singleton.1 hd⟩
  · exact .inr (code_of_fieldReports hd)
  · exact .inr (code_of_fieldReports hd)

/-- There is one report of a pointer that is taken for each node that is left out for it. -/
theorem filter_reports (visits : List Visit) :
    (visits.flatMap (Visit.reports base)).filter (·.code = .duplicatePointer) =
      (visits.filter (·.fate = .duplicate)).map Visit.duplicateReport := by
  induction visits with
  | nil => rfl
  | cons v rest ih =>
    rw [List.flatMap_cons, List.filter_append, ih]
    -- a duplicate has just that report
    by_cases fate : v.fate = .duplicate
    · have own : v.reports base = [v.duplicateReport] := by rw [Visit.reports, fate]
      have counted : [v.duplicateReport].filter (·.code = .duplicatePointer) =
          [v.duplicateReport] := rfl
      rw [own, counted, List.filter_cons_of_pos (by simpa using fate)]
      rfl
    · -- Any other visit is reported for its references.
      have none_own : (v.reports base).filter (·.code = .duplicatePointer) = [] := by
        rw [List.filter_eq_nil_iff]
        intro d hd code
        rcases mem_reports hd with ⟨duplicate, _⟩ | known
        · exact fate duplicate
        · rw [of_decide_eq_true code] at known
          exact absurd known (by decide)
      rw [none_own, List.filter_cons_of_neg (by simpa using fate), List.nil_append]

/-- What is reported when all nodes are known. -/
theorem code_of_pending {nodes : List Node} {p : Pending} {d : Diagnostic}
    (hd : p.diagnostic? nodes = some d) :
    d.code = .missingTarget ∨ d.code = .invalidTargetKind := by
  unfold Pending.diagnostic? at hd
  split at hd
  · obtain ⟨fault, hfault, rfl⟩ := Option.map_eq_some_iff.1 hd
    have code : fault.code = .missingTarget ∨ fault.code = .invalidTargetKind := by
      unfold Pending.fault? at hfault
      split at hfault
      · cases hfault
        exact .inl rfl
      · split at hfault
        · cases hfault
          exact .inr rfl
        · cases hfault
    cases p.source with
    | none => exact code
    | some source => exact code
  · cases hd

/-! ## Graphs -/

/-- A pointer is that of a node that is kept at an earlier place. -/
def TakenBefore (visits : List Visit) (place : List Nat) (pointer : Pointer) : Prop :=
  ∃ u ∈ keptVisits visits, u.place < place ∧ u.node.pointer = pointer

/-- How the graph that is built of a tree represents it, where the visits account for all nodes. -/
structure Represents (tree : Tree) (visits : List Visit) (g : Graph) (log : Log) : Prop where
  /-- No two nodes have the same pointer. -/
  nodup : g.pointers.Nodup
  /-- Nodes that are added one by one end up in this order, and the index leads to their
  positions. -/
  arena : ∃ a, Arena.visitAll g.uri none tree.children .empty = (g.roots, a) ∧
    a.nodes = g.nodes ∧ a.LinesUp ∧ ∀ p, g.node? p = (a.position? p).bind (g.nodes[·]?)
  /-- The visits are in document order. -/
  survey : Surveys g.uri [] tree.at? visits
  /-- The nodes are those that are kept, in this order. -/
  nodes : List.Forall₂ (Visit.Grows g.uri) (keptVisits visits) g.nodes
  /-- A node with a parent is listed by it exactly once. -/
  parents : ∀ n ∈ g.nodes, ∀ p, n.parent = some p →
    ∃ c children, g.node? p = some c ∧ c.content = .collection children ∧
      children.count n.pointer = 1
  /-- What a collection lists is under it. -/
  children : ∀ c ∈ g.nodes, ∀ children, c.content = .collection children →
    ∀ q ∈ children, ∃ n, g.node? q = some n ∧ n.parent = some c.pointer
  roots : g.roots = (g.nodes.filter (·.parent = none)).map (·.pointer)
  /-- A node of the tree is missing for one of three reasons: its pointer is taken, its reference is
  none, or the node above it is missing. -/
  missing : ∀ place parent t, tree.at? place = some (parent, t) →
    fateAt? visits place ≠ some .kept →
      (TakenBefore visits place t.pointer ∧
        (Fault.duplicatePointer t.pointer).diagnostic t.pointer t.span ∈ log) ∨
      (∃ field fault, t.reference? = some field ∧ Reference.resolve g.uri field = .error fault ∧
        (Fault.badReference fault).diagnostic field.pointer field.span ∈ log) ∨
      ∃ above i, place = above ++ [i] ∧ (tree.at? above).isSome = true ∧
        fateAt? visits above ≠ some .kept
  /-- Each pointer that is taken is reported once. -/
  duplicates : log.filter (·.code = .duplicatePointer) =
    (visits.filter (·.fate = .duplicate)).map Visit.duplicateReport
  overrides : ∀ q, g.overridesFor q =
    (tree.overrides.filterMap (takeOver? g.uri)).filter (·.token.target.pointer = q)

section Graphs

variable {tree : Tree} {g : Graph} {visits : List Visit} {taken : List Pointer}

/-- A URI can be an anchor with a fragment as without one. -/
theorem canAnchor_withoutFragment (u : Uri) : u.withoutFragment.canAnchor = u.canAnchor := by
  unfold Uri.canAnchor Uri.withoutFragment
  cases u.authority with
  | some authority => rfl
  | none =>
    cases u.path with
    | rootless text => cases u.query <;> rfl
    | _ => cases u.query <;> rfl

/-- The pointer of a duplicate is taken. -/
theorem mem_taken_of_duplicate {t : Tree.Node} (h : fateOf base taken t = .duplicate) :
    t.pointer ∈ taken := by
  unfold fateOf at h
  split at h
  · assumption
  · split at h
    · split at h <;> cases h
    · cases h

/-- An alias is unresolved for a fault of its reference. -/
theorem reference_of_unresolved {t : Tree.Node} (h : fateOf base taken t = .unresolved) :
    ∃ field fault, t.reference? = some field ∧ Reference.resolve base field = .error fault := by
  unfold fateOf at h
  split at h
  · cases h
  · split at h
    · next info type field =>
      split at h
      · cases h
      · next fault hr => exact ⟨_, fault, rfl, hr⟩
    · cases h

/-- A place that is visited has a visit of that fate. -/
theorem exists_of_fateAt? {place : List Nat} {fate : Fate} (h : fateAt? visits place = some fate) :
    ∃ v ∈ visits, v.place = place ∧ v.fate = fate := by
  obtain ⟨v, hv, fate⟩ := Option.map_eq_some_iff.1 h
  exact ⟨v, List.mem_of_find?_eq_some hv, by simpa using List.find?_some hv, fate⟩

/-- A node that is missing although the one above it is kept has a report of its own. -/
theorem Surveys.missing {at? : List Nat → Option (Option Pointer × Tree.Node)}
    (h : Surveys base [] at? visits) {place : List Nat} {parent : Option Pointer} {t : Tree.Node}
    (here : at? place = some (parent, t)) {fate : Fate} (visited : fateAt? visits place = some fate)
    (out : fate ≠ .kept) :
    (TakenBefore visits place t.pointer ∧
      (Fault.duplicatePointer t.pointer).diagnostic t.pointer t.span ∈
        visits.flatMap (Visit.reports base)) ∨
    ∃ field fault, t.reference? = some field ∧ Reference.resolve base field = .error fault ∧
      (Fault.badReference fault).diagnostic field.pointer field.span ∈
        visits.flatMap (Visit.reports base) := by
  obtain ⟨v, hv, rfl, rfl⟩ := exists_of_fateAt? visited
  obtain ⟨before, after, split⟩ := List.append_of_mem hv
  -- What was taken when the node was visited are the nodes that were kept before.
  have fate := h.fates before v after split
  have stands := h.stand v hv
  rw [here] at stands
  cases stands
  have own : ∀ d ∈ v.reports base, d ∈ visits.flatMap (Visit.reports base) :=
    fun d hd => List.mem_flatMap.2 ⟨v, hv, hd⟩
  rw [List.append_nil] at fate
  cases outcome : v.fate with
  | kept => exact absurd outcome out
  | duplicate =>
    rw [outcome] at fate
    obtain ⟨u, hu, same⟩ := List.mem_map.1 (mem_taken_of_duplicate fate.symm)
    have earlier := List.mem_filter.1 hu
    -- A node that was kept has this pointer, and stands earlier.
    refine .inl ⟨⟨u, ?_, ?_, same⟩, own _ ?_⟩
    · refine List.mem_filter.2 ⟨?_, earlier.2⟩
      rw [split]
      exact List.mem_append_left _ earlier.1
    · have sorted := h.sorted
      rw [split, List.pairwise_append] at sorted
      exact sorted.2.2 u earlier.1 v List.mem_cons_self
    · rw [Visit.reports, outcome]
      exact List.mem_singleton_self _
  | unresolved =>
    -- The alias is reported with the fault of its reference.
    rw [outcome] at fate
    obtain ⟨field, fault, reference, hr⟩ := reference_of_unresolved fate.symm
    refine .inr ⟨field, fault, reference, hr, own _ ?_⟩
    rw [Visit.reports, outcome, reference]
    simp [fieldReports, hr]

/-- A node is not visited if the one above it is missing. -/
theorem Surveys.unvisited {at? : List Nat → Option (Option Pointer × Tree.Node)}
    (h : Surveys base taken at? visits) (top : at? [] = none) {place : List Nat}
    {here : Option Pointer × Tree.Node} (stands : at? place = some here)
    (unvisited : fateAt? visits place = none) :
    ∃ above i, place = above ++ [i] ∧ (at? above).isSome = true ∧
      fateAt? visits above ≠ some .kept := by
  rcases List.eq_nil_or_concat place with rfl | ⟨above, i, hp⟩
  · rw [top] at stands
    cases stands
  · -- A node that is not visited has one above it, and that one was not kept.
    rw [List.concat_eq_append] at hp
    subst hp
    have visited := (h.below above i (by rw [stands]; rfl)).2
    rw [unvisited] at visited
    refine ⟨above, i, rfl, ?_, fun kept => by cases visited (.inr kept)⟩
    cases ha : at? above with
    | none => cases visited (.inl ha)
    | some _ => rfl

variable (tree) in
/-- The visits of all nodes of a tree. -/
def surveyTree (base : Uri) : List Visit :=
  surveyNodes base [] none tree.children

/-- What is reported when a graph is built: on its nodes, on its overrides, and on targets. -/
theorem log_ofTree (h : (ofTree tree).graph = some g) :
    (ofTree tree).log = (surveyTree tree g.uri).flatMap (Visit.reports g.uri) ++
      (draftOverrides g.uri tree.overrides).log ++
      (draftTree g.uri tree).pending.filterMap (·.diagnostic? g.nodes) := by
  obtain ⟨anchor, rfl⟩ := ofTree_eq_some h
  have drafts : Drafts tree.uri.withoutFragment _ _ := draftNodes_surveyed [] none tree.children
  have log : (draftTree tree.uri.withoutFragment tree).log =
      (surveyTree tree tree.uri.withoutFragment).flatMap
        (Visit.reports tree.uri.withoutFragment) ++
      (draftOverrides tree.uri.withoutFragment tree.overrides).log := by
    rw [draftTree, Draft.log_bind, Draft.log_bind, Draft.log_pure, List.append_nil, drafts.log]
    rfl
  rw [ofTree, if_pos anchor, ← log]

/-- The overrides of a graph are those of the tree that are taken over. -/
theorem overrides_ofTree (h : (ofTree tree).graph = some g) :
    g.overrides = tree.overrides.filterMap (takeOver? g.uri) := by
  obtain ⟨_, rfl⟩ := ofTree_eq_some h
  rw [← value_draftOverrides]
  rfl

/-- The nodes of a graph are those of the tree that are kept. -/
theorem nodes_grow_ofTree (h : (ofTree tree).graph = some g) :
    List.Forall₂ (Visit.Grows g.uri) (keptVisits (surveyTree tree g.uri)) g.nodes := by
  obtain ⟨_, rfl⟩ := ofTree_eq_some h
  have drafts : Drafts tree.uri.withoutFragment _ _ := draftNodes_surveyed [] none tree.children
  exact drafts.nodes

/-- All nodes of a tree are surveyed, in document order. -/
theorem surveyTree_surveys (tree : Tree) (base : Uri) :
    Surveys base [] tree.at? (surveyTree tree base) :=
  surveyNodes_surveys base [] none tree.children

/-- A node of the tree that is missing in the graph is reported, or the node above it is missing. -/
theorem missing_ofTree (h : (ofTree tree).graph = some g) {place : List Nat}
    {parent : Option Pointer} {t : Tree.Node} (here : tree.at? place = some (parent, t))
    (out : fateAt? (surveyTree tree g.uri) place ≠ some .kept) :
    (TakenBefore (surveyTree tree g.uri) place t.pointer ∧
      (Fault.duplicatePointer t.pointer).diagnostic t.pointer t.span ∈ (ofTree tree).log) ∨
    (∃ field fault, t.reference? = some field ∧ Reference.resolve g.uri field = .error fault ∧
      (Fault.badReference fault).diagnostic field.pointer field.span ∈ (ofTree tree).log) ∨
    ∃ above i, place = above ++ [i] ∧ (tree.at? above).isSome = true ∧
      fateAt? (surveyTree tree g.uri) above ≠ some .kept := by
  have survey := surveyTree_surveys tree g.uri
  have own : ∀ d ∈ (surveyTree tree g.uri).flatMap (Visit.reports g.uri),
      d ∈ (ofTree tree).log := by
    intro d hd
    rw [log_ofTree h]
    exact List.mem_append_left _ (List.mem_append_left _ hd)
  cases visited : fateAt? (surveyTree tree g.uri) place with
  | none => exact .inr (.inr (survey.unvisited rfl here visited))
  | some fate =>
    rw [visited] at out
    rcases survey.missing here visited fun kept => out (congrArg some kept) with
      ⟨taken, reported⟩ | ⟨field, fault, reference, hr, reported⟩
    · exact .inl ⟨taken, own _ reported⟩
    · exact .inr (.inl ⟨field, fault, reference, hr, own _ reported⟩)

/-- The duplicates that are reported are those of the survey. -/
theorem duplicates_ofTree (h : (ofTree tree).graph = some g) :
    (ofTree tree).log.filter (·.code = .duplicatePointer) =
      ((surveyTree tree g.uri).filter (·.fate = .duplicate)).map Visit.duplicateReport := by
  have others : ∀ d ∈ (draftOverrides g.uri tree.overrides).log ++
      (draftTree g.uri tree).pending.filterMap (·.diagnostic? g.nodes),
      ¬decide (d.code = .duplicatePointer) = true := by
    intro d hd same
    have same := of_decide_eq_true same
    rcases List.mem_append.1 hd with hd | hd
    · -- Overrides are reported for their references.
      have known := codes_draftOverrides hd
      rw [same] at known
      exact absurd known (by decide)
    · -- What is pending is reported for its target.
      obtain ⟨p, _, reported⟩ := List.mem_filterMap.1 hd
      have known := code_of_pending reported
      rw [same] at known
      exact absurd known (by decide)
  rw [log_ofTree h, List.append_assoc, List.filter_append, List.filter_eq_nil_iff.2 others,
    List.append_nil, filter_reports]

/-- The graph of a tree whose URI can anchor references represents it. -/
theorem ofTree_represents (tree : Tree) (anchor : tree.uri.canAnchor = true) :
    ∃ g visits, (ofTree tree).graph = some g ∧ g.uri = tree.uri.withoutFragment ∧
      Represents tree visits g (ofTree tree).log := by
  have anchored : tree.uri.withoutFragment.canAnchor = true := by
    rw [canAnchor_withoutFragment, anchor]
  have built : (ofTree tree).graph.isSome = true := by rw [isSome_ofTree, anchored]
  obtain ⟨g, hg⟩ := Option.isSome_iff_exists.1 built
  have uri : g.uri = tree.uri.withoutFragment := congrArg Graph.uri (ofTree_eq_some hg).2
  have nodup := nodup_pointers_ofTree hg
  have families := families_ofTree hg
  obtain ⟨added, linesUp⟩ := Arena.visitAll_ofTree hg
  have laid : (Arena.empty.addAll g.nodes).nodes = g.nodes := Arena.nodes_addAll _ _
  refine ⟨g, surveyTree tree g.uri, hg, uri, ?_⟩
  constructor
  case nodup => exact nodup
  case arena =>
    refine ⟨_, added, laid, linesUp, fun p => ?_⟩
    have found := linesUp.lookup? p
    rwa [laid] at found
  case survey => exact surveyTree_surveys tree g.uri
  case nodes => exact nodes_grow_ofTree hg
  case parents => exact fun n hn p under => families.count_children nodup hn under
  case children => exact fun c hc children content q => families.of_mem_children nodup hc content
  case roots => exact families.tops
  case missing => exact fun place parent t => missing_ofTree hg
  case duplicates => exact duplicates_ofTree hg
  case overrides =>
    intro q
    rw [← overrides_ofTree hg]
    rfl

end Graphs

/-! ### A crowded tree -/

namespace Crowded

open Sample (info place)

def size : Pointer :=
  (place "group").child "size"

def override (token : String) : Override (Field String) where
  token := Sample.text token
  conditions := ⟨[], Pointer.root, none⟩
  offer := .mk Pointer.root none none none []

/-- A collection with a token, below which its own pointer and that of the token are used again, and
an alias whose reference is none. Three overrides are of tokens of the document. -/
def tree : Tree :=
  Sample.tree
    [.collection (info (place "group"))
      [.token (info size) none none,
       .collection (info (place "group")) [.token (info (place "hidden")) none none],
       .token (info size) none none],
     .aliasTo (info (place "broken")) (Sample.text "color") (Sample.text "http://["),
     .aliasTo (info (place "link")) (Sample.text "color") (Sample.text "#/group/size")]
    [override "#/group/size", override "other.json#/x", override "#/link", override "#/group/size"]

end Crowded

/-- Two nodes are left out since their pointers are taken, and what is below one of them is not
visited. -/
theorem crowded_represented :
    Crowded.tree.uri.canAnchor = true ∧
      ∃ g visits, (ofTree Crowded.tree).graph = some g ∧
        Represents Crowded.tree visits g (ofTree Crowded.tree).log ∧
        g.pointers = [Sample.place "group", Crowded.size, Sample.place "link"] ∧
        (ofTree Crowded.tree).log.codes =
          [.duplicatePointer, .duplicatePointer, .invalidReference, .externalOverrideTarget] ∧
        (g.overridesFor Crowded.size).length = 2 := by
  have anchor : Crowded.tree.uri.canAnchor = true := by decide
  obtain ⟨g, visits, hg, _, represents⟩ := ofTree_represents Crowded.tree anchor
  have pointers : (ofTree Crowded.tree).graph.map pointers =
      some [Sample.place "group", Crowded.size, Sample.place "link"] := by
    decide +kernel
  have overrides : (ofTree Crowded.tree).graph.map (fun g => (g.overridesFor Crowded.size).length) =
      some 2 := by decide +kernel
  rw [hg] at pointers overrides
  exact ⟨anchor, g, visits, hg, represents, Option.some.inj pointers, by decide +kernel,
    Option.some.inj overrides⟩

end DesignTokens.Graph
