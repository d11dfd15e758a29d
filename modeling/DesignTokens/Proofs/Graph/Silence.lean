import DesignTokens.Proofs.Graph.References
import DesignTokens.Proofs.Tree.Fields
import DesignTokens.Proofs.Tree.Metadata

/-!
# DesignTokens.Proofs.Graph.Silence — places that nothing is reported at

If no two nodes of a tree have the same pointer, then all that is reported on its graph is reported
where a reference stands: the reference is none, or it leads to no token or alias. So nothing is
reported at a place if every reference that stands there leads to one of these.

1. **References** of a tree as texts (`Tree.Node.references`), and where they lead to
   (`Graph.Finds`).
2. **Reports** on references, one by one, of nodes (`log_draftNodes_alone`) and of overrides
   (`draftOverrides_silent`).
3. **Targets** (`reportsAt_targets`), and the graph as a whole (`silent_ofTree`).
4. **Documents** (`silent_ofDocument`): whatever stands at a place is what was read from there.
-/

namespace DesignTokens

/-! ## References -/

/-- The texts of a node that stand for references: to its replacement, and that of an alias. -/
def Tree.Node.references (t : Tree.Node) : List (Field String) :=
  t.metadata.replacement?.toList ++ t.reference?.toList

namespace Graph

/-- A text is a reference to a token or an alias of the graph. -/
def Finds (g : Graph) (field : Field String) : Prop :=
  ∃ r, Reference.resolve g.uri field = .ok r ∧ r.target.external = false ∧
    r.target.pointer ∈ g.tokens

/-- The references of an offer that stand at a place lead to tokens or aliases, as do those of the
entries of its fallback list. -/
def OffersFind (g : Graph) (place : Pointer) (offer : Offer (Field String)) : Prop :=
  offer.Every fun e => ∀ f, e.reference = some f → f.pointer = place → g.Finds f

variable {base : Uri} {place : Pointer}

/-- A reference stands where its text does. -/
theorem pointer_of_resolve {field : Field String} {r : Reference}
    (h : Reference.resolve base field = .ok r) : r.pointer = field.pointer := by
  unfold Reference.resolve at h
  split at h
  · cases h
  · split at h
    · cases h
    · cases h
      rfl

/-! ## Reports -/

/-- A place is reported in either log. -/
theorem reportsAt_append {log log' : Log} :
    Log.ReportsAt (log ++ log') place ↔ log.ReportsAt place ∨ log'.ReportsAt place := by
  simp only [Log.ReportsAt, List.mem_append, or_and_right, exists_or]

/-- Nothing is reported at any place. -/
theorem not_reportsAt_nil : ¬Log.ReportsAt [] place := by
  rintro ⟨_, hd, _⟩
  exact absurd hd List.not_mem_nil

/-- A text is reported where it stands, if it is no reference. -/
theorem reportsAt_fieldReports {field : Option (Field String)}
    (h : Log.ReportsAt (fieldReports base field) place) :
    ∃ f, field = some f ∧ f.pointer = place ∧ ∀ r, Reference.resolve base f ≠ .ok r := by
  obtain ⟨d, hd, here⟩ := h
  unfold fieldReports at hd
  split at hd
  · cases hd
  · next f =>
    split at hd
    · cases hd
    · next fault none =>
      obtain rfl := List.mem_singleton.1 hd
      refine ⟨f, rfl, Option.some.inj here, fun r resolved => ?_⟩
      rw [none] at resolved
      cases resolved

/-! ### Nodes -/

/-- The reports on a node that no other one is in the way of. -/
def nodeReports (base : Uri) (t : Tree.Node) : Log :=
  Visit.reports base ⟨[], none, t, fateOf base [] t⟩

/-- An alias is reported for its own reference, or for that of its replacement. -/
theorem nodeReports_aliasTo (info : Tree.NodeInfo) (type field : Field String) :
    nodeReports base (.aliasTo info type field) =
      match Reference.resolve base field with
      | .ok _ => fieldReports base info.metadata.replacement?
      | .error _ => fieldReports base (some field) := by
  cases resolved : Reference.resolve base field with
  | ok r => simp [nodeReports, Visit.reports, fateOf, resolved, Tree.Node.metadata, Tree.Node.info]
  | error fault => simp [nodeReports, Visit.reports, fateOf, resolved, Tree.Node.reference?]

/-- A node is reported at a reference of its own that cannot be resolved. -/
theorem reportsAt_nodeReports {t : Tree.Node} (h : (nodeReports base t).ReportsAt place) :
    ∃ f ∈ t.references, f.pointer = place ∧ ∀ r, Reference.resolve base f ≠ .ok r := by
  -- Either way it is a field of the node that is reported.
  have known {field : Option (Field String)} (own : field.toList ⊆ t.references)
      (h : Log.ReportsAt (fieldReports base field) place) :
      ∃ f ∈ t.references, f.pointer = place ∧ ∀ r, Reference.resolve base f ≠ .ok r := by
    obtain ⟨f, rfl, none⟩ := reportsAt_fieldReports h
    exact ⟨f, own (List.mem_singleton_self f), none⟩
  have replacement : t.metadata.replacement?.toList ⊆ t.references :=
    List.subset_append_left _ _
  cases t with
  | aliasTo info type field =>
    rw [nodeReports_aliasTo] at h
    split at h
    · exact known replacement h
    · exact known (List.subset_append_right _ _) h
  | _ => exact known replacement h

mutual

/-- If no pointer is taken, what is reported on a node is reported on it and those below it, one by
one. -/
theorem log_draftNode_alone (taken : List Pointer) (parent : Option Pointer) :
    ∀ t : Tree.Node, (∀ s ∈ t.walk, s.pointer ∉ taken) → (t.walk.map Tree.Node.pointer).Nodup →
      (draftNode base taken parent t).log = t.walk.flatMap (nodeReports base)
  | .collection info children, free, nodup => by
    have here : info.pointer ∉ taken := free (.collection info children) (by simp [Tree.Node.walk])
    rw [Tree.Node.walk, List.map_cons, List.nodup_cons] at nodup
    have below :=
      log_draftNodes_alone (info.pointer :: taken) (some info.pointer) children ?_ nodup.2
    · simp only [draftNode, List.contains_eq_mem, decide_eq_true_eq, if_neg here, Draft.log_bind,
        Draft.log_pure, log_draftInfo, below, Tree.Node.walk, List.flatMap_cons, List.append_nil]
      rfl
    · -- The pointers below the collection differ from its own.
      intro s hs
      rw [List.mem_cons, not_or]
      refine ⟨fun same => nodup.1 (List.mem_map.2 ⟨s, hs, same⟩), ?_⟩
      exact free s (by simp [Tree.Node.walk, hs])
  | .token info type value, free, _ => by
    have here : info.pointer ∉ taken := free (.token info type value) (by simp [Tree.Node.walk])
    simp only [draftNode, List.contains_eq_mem, decide_eq_true_eq, if_neg here, Draft.log_bind,
      Draft.log_pure, log_draftInfo, Tree.Node.walk, List.flatMap_singleton, List.append_nil]
    rfl
  | .aliasTo info type field, free, _ => by
    have here : info.pointer ∉ taken := free (.aliasTo info type field) (by simp [Tree.Node.walk])
    simp only [draftNode, List.contains_eq_mem, decide_eq_true_eq, if_neg here, Draft.log_bind,
      log_draftReference, value_draftReference, Tree.Node.walk, List.flatMap_singleton,
      nodeReports_aliasTo]
    cases resolved : Reference.resolve base field with
    | error fault => simp [fieldReports, resolved, Except.toOption]
    | ok r => simp [fieldReports, resolved, Except.toOption, log_draftInfo, Draft.await]

/-- The log of a drafted list is that of its nodes, one after the other. -/
theorem log_draftNodes_alone (taken : List Pointer) (parent : Option Pointer) :
    ∀ ts : List Tree.Node, (∀ s ∈ Tree.Node.walkList ts, s.pointer ∉ taken) →
      ((Tree.Node.walkList ts).map Tree.Node.pointer).Nodup →
      (draftNodes base taken parent ts).log =
        (Tree.Node.walkList ts).flatMap (nodeReports base)
  | [], _, _ => by simp [draftNodes, Tree.Node.walkList]
  | t :: rest, free, nodup => by
    rw [Tree.Node.walkList, List.map_append, List.nodup_append] at nodup
    rw [Tree.Node.walkList] at free ⊢
    obtain ⟨nodup, nodup', apart⟩ := nodup
    have first := log_draftNode_alone taken parent t
      (fun s hs => free s (List.mem_append_left _ hs)) nodup
    have more := log_draftNodes_alone
      ((draftNode base taken parent t).value.nodes.map (·.pointer) ++ taken) parent rest ?_ nodup'
    · simp [draftNodes, first, more]
    · intro s hs
      rw [List.mem_append, not_or]
      refine ⟨fun drafted => ?_, free s (List.mem_append_right _ hs)⟩
      -- What was drafted before are nodes of the first part, and no pointer is in both.
      obtain ⟨n, hn, same⟩ := List.mem_map.1 drafted
      obtain ⟨t', ht', copies⟩ := draftNode_copies taken parent t n hn
      exact apart _ (List.mem_map_of_mem ht') _ (List.mem_map_of_mem hs)
        (copies.pointer.symm.trans same)

end

/-! ### Overrides -/

variable {g : Graph}

/-- A field is not reported where all that stands there is found. -/
theorem fieldReports_silent {field : Option (Field String)}
    (fine : ∀ f, field = some f → f.pointer = place → g.Finds f) :
    ¬Log.ReportsAt (fieldReports g.uri field) place := by
  intro reported
  obtain ⟨f, rfl, here, none⟩ := reportsAt_fieldReports reported
  obtain ⟨r, resolved, _⟩ := fine f rfl here
  exact none r resolved

mutual

/-- An offer is not reported where all that stands there is found. -/
theorem draftOffer_silent (owner : Pointer) (kind : Reference.Kind) :
    ∀ e : Offer (Field String), g.OffersFind place e →
      ¬(draftOffer g.uri owner kind e).log.ReportsAt place
  | .mk pointer span field value entries, fine => by
    rw [draftOffer, Draft.log_bind, Draft.log_bind, Draft.log_pure, List.append_nil,
      log_draftReference?, reportsAt_append, not_or]
    exact ⟨fieldReports_silent fine.here, draftOffers_silent owner entries fun _ => fine.entry⟩

/-- A fallback list is not reported where all that stands there is found. -/
theorem draftOffers_silent (owner : Pointer) :
    ∀ es : List (Offer (Field String)), (∀ e ∈ es, g.OffersFind place e) →
      ¬(draftOffers g.uri owner es).log.ReportsAt place
  | [], _ => not_reportsAt_nil
  | e :: rest, fine => by
    rw [List.forall_mem_cons] at fine
    rw [draftOffers, Draft.log_bind, Draft.log_bind, Draft.log_pure, List.append_nil,
      reportsAt_append, not_or]
    exact ⟨draftOffer_silent owner .fallback e fine.1, draftOffers_silent owner rest fine.2⟩

end

/-- An override is not reported where all that stands there is found. -/
theorem draftOverride_silent {entry : Override (Field String)}
    (token : entry.token.pointer = place → g.Finds entry.token)
    (offer : g.OffersFind place entry.offer) :
    ¬(draftOverride g.uri entry).log.ReportsAt place := by
  -- the text of its token
  have text : ¬Log.ReportsAt (fieldReports g.uri (some entry.token)) place :=
    fieldReports_silent fun f same here => by
      cases same
      exact token here
  rw [draftOverride, Draft.log_bind, log_draftReference, value_draftReference, reportsAt_append,
    not_or]
  refine ⟨text, ?_⟩
  cases resolved : Reference.resolve g.uri entry.token with
  | error fault => exact not_reportsAt_nil
  | ok r =>
    -- the rest, if the token can be read
    simp only [Except.toOption]
    split
    · -- A token of another document is reported where the override refers to it.
      next external =>
      rintro ⟨d, hd, here⟩
      obtain rfl := List.mem_singleton.1 hd
      obtain ⟨r', resolved', internal, _⟩ :=
        token ((pointer_of_resolve resolved).symm.trans (Option.some.inj here))
      rw [resolved] at resolved'
      cases resolved'
      rw [internal] at external
      cases external
    · rw [Draft.log_bind, Draft.log_bind, Draft.log_pure, List.append_nil, reportsAt_append, not_or]
      exact ⟨not_reportsAt_nil, draftOffer_silent _ _ _ offer⟩

/-- Overrides are not reported where all that stands there is found. -/
theorem draftOverrides_silent {entries : List (Override (Field String))}
    (fine : ∀ o ∈ entries, (o.token.pointer = place → g.Finds o.token) ∧
      g.OffersFind place o.offer) :
    ¬(draftOverrides g.uri entries).log.ReportsAt place := by
  induction entries with
  | nil => exact not_reportsAt_nil
  | cons entry rest ih =>
    rw [List.forall_mem_cons] at fine
    rw [draftOverrides, Draft.log_bind, Draft.log_bind, Draft.log_pure, List.append_nil,
      reportsAt_append, not_or]
    exact ⟨draftOverride_silent fine.1.1 fine.1.2, ih fine.2⟩

/-! ## Targets -/

/-- A result that is there was no error. -/
theorem eq_ok_of_toOption {ε α : Type} {x : Except ε α} {a : α} (h : x.toOption = some a) :
    x = .ok a := by
  cases x with
  | error _ => cases h
  | ok b =>
    cases h
    rfl

/-- A planted node has the metadata of the tree. -/
theorem metadata_of_plant? {t : Tree.Node} {n : Node} (h : plant? base t = some n) :
    n.metadata = t.metadata := by
  cases t with
  | aliasTo info type field =>
    obtain ⟨_, _, rfl⟩ := Option.map_eq_some_iff.1 h
    rfl
  | _ =>
    cases h
    rfl

/-- The references of a planted node come from its texts. -/
theorem references_of_plant? {t : Tree.Node} {n : Node} (h : plant? base t = some n)
    {r : Reference} (hr : r ∈ n.references) :
    ∃ f ∈ t.references, Reference.resolve base f = .ok r := by
  rcases List.mem_append.1 hr with own | replacement
  · -- The reference of an alias is that of its text; other nodes have none.
    cases t with
    | aliasTo info type field =>
      obtain ⟨r', resolved, rfl⟩ := Option.map_eq_some_iff.1 h
      obtain rfl : r' = r := Option.some.inj (Option.mem_toList.1 own)
      exact ⟨field, List.mem_append_right _ (List.mem_singleton_self _), eq_ok_of_toOption resolved⟩
    | _ =>
      cases h
      exact absurd own List.not_mem_nil
  · -- the reference of a replacement
    rw [Option.mem_toList, replacement_plant? h, metadata_of_plant? h] at replacement
    obtain ⟨f, text, resolved⟩ := Option.bind_eq_some_iff.1 replacement
    exact ⟨f, List.mem_append_left _ (Option.mem_toList.2 text), eq_ok_of_toOption resolved⟩

section Trees

variable {tree : Tree}

/-- A reference whose target has to be a token or an alias comes from a text of the tree. -/
theorem text_of_requiredLinks (nodup : (tree.walk.map Tree.Node.pointer).Nodup)
    (h : (ofTree tree).graph = some g) {l : Pending} (hl : l ∈ g.requiredLinks) :
    (∃ t ∈ tree.walk, ∃ f ∈ t.references, Reference.resolve g.uri f = .ok l.reference) ∨
      ∃ o ∈ tree.overrides, Reference.resolve g.uri o.token = .ok l.reference := by
  rcases List.mem_append.1 (List.mem_filter.1 hl).1 with hl | hl
  · obtain ⟨n, hn, hl⟩ := List.mem_flatMap.1 hl
    -- A link of a node is one to its target or to its replacement.
    have own : l.reference ∈ n.references := by
      rcases List.mem_append.1 hl with hl | hl
      · obtain ⟨r, hr, rfl⟩ := List.mem_map.1 hl
        exact List.mem_append_right _ hr
      · obtain ⟨r, hr, rfl⟩ := List.mem_map.1 hl
        exact List.mem_append_left _ hr
    -- The node was planted from one of the tree, with the same references.
    have planted : n.alone ∈ tree.walk.filterMap (plant? tree.uri.withoutFragment) :=
      nodes_ofTree nodup h ▸ List.mem_map_of_mem hn
    obtain ⟨t, ht, planted⟩ := List.mem_filterMap.1 planted
    have alone : n.alone.references = n.references := by
      unfold Node.references Node.aliasReference? Node.alone
      cases n.content <;> rfl
    obtain ⟨f, hf, resolved⟩ := references_of_plant? planted (alone ▸ own)
    rw [uri_ofTree h]
    exact .inl ⟨t, ht, f, hf, resolved⟩
  · -- The link of an override is that of its token.
    obtain ⟨o, ho, rfl⟩ := List.mem_map.1 hl
    rw [overrides_ofTree h] at ho
    obtain ⟨entry, hentry, taken⟩ := List.mem_filterMap.1 ho
    refine .inr ⟨entry, hentry, ?_⟩
    unfold takeOver? at taken
    split at taken
    · cases taken
    · next token resolved =>
      split at taken
      · cases taken
      · cases taken
        exact resolved

/-- A target is reported where its reference stands, if it is no token or alias. -/
theorem reportsAt_targets (h : (ofTree tree).graph = some g)
    (reported : Log.ReportsAt (g.links.filterMap (·.diagnostic? g.nodes)) place) :
    ∃ l ∈ g.requiredLinks, l.reference.pointer = place ∧ l.reference.target.pointer ∉ g.tokens := by
  obtain ⟨d, hd, here⟩ := reported
  obtain ⟨l, hl, hd⟩ := List.mem_filterMap.1 hd
  have nodup := nodup_pointers_ofTree h
  have verdict := diagnostic?_eq_verdict? nodup l
  rw [hd, Option.map_some, here] at verdict
  split at verdict
  · next required =>
    have mem : l ∈ g.requiredLinks := by
      rw [← filter_required_links]
      exact List.mem_filter.2 ⟨hl, required⟩
    have pointer_of_verdict {c c' : Code} {p : Pointer}
        (same : some (c, some place) = some (c', some p)) : p = place :=
      (Option.some.inj (Prod.mk.inj (Option.some.inj same)).2).symm
    -- Both faults of a target mean that no token is there.
    unfold verdict? at verdict
    split at verdict
    · next missing =>
      refine ⟨l, mem, pointer_of_verdict verdict, fun there => ?_⟩
      obtain ⟨n, found, _⟩ := (mem_tokens_iff nodup).1 there
      exact missing (isSome_node?_iff.1 (by rw [found]; rfl))
    · split at verdict
      · next other => exact ⟨l, mem, pointer_of_verdict verdict, other⟩
      · cases verdict
  · cases verdict

/-- What is reported when the graph of a tree is built: on its nodes one by one, on its overrides,
and on targets. -/
theorem log_ofTree_alone (nodup : (tree.walk.map Tree.Node.pointer).Nodup)
    (h : (ofTree tree).graph = some g) :
    (ofTree tree).log = tree.walk.flatMap (nodeReports g.uri) ++
      (draftOverrides g.uri tree.overrides).log ++
      g.links.filterMap (·.diagnostic? g.nodes) := by
  have drafted : (draftTree g.uri tree).log =
      tree.walk.flatMap (nodeReports g.uri) ++ (draftOverrides g.uri tree.overrides).log := by
    rw [draftTree, Draft.log_bind, Draft.log_bind, Draft.log_pure, List.append_nil,
      log_draftNodes_alone [] none tree.children (fun _ _ => List.not_mem_nil) nodup]
    rfl
  obtain ⟨anchor, hg⟩ := ofTree_eq_some h
  rw [← drafted, ← pending_draftTree h, ofTree, if_pos anchor, hg]

/-- Nothing is reported at a place if every reference that stands there leads to a token or an
alias. -/
theorem silent_ofTree (nodup : (tree.walk.map Tree.Node.pointer).Nodup)
    (h : (ofTree tree).graph = some g)
    (nodes : ∀ t ∈ tree.walk, ∀ f ∈ t.references, f.pointer = place → g.Finds f)
    (overrides : ∀ o ∈ tree.overrides, (o.token.pointer = place → g.Finds o.token) ∧
      g.OffersFind place o.offer) :
    ¬(ofTree tree).log.ReportsAt place := by
  rw [log_ofTree_alone nodup h, reportsAt_append, reportsAt_append, not_or, not_or]
  refine ⟨⟨?_, draftOverrides_silent overrides⟩, ?_⟩
  · -- A node is reported for a text that is no reference.
    rintro ⟨d, hd, here⟩
    obtain ⟨t, ht, hd⟩ := List.mem_flatMap.1 hd
    obtain ⟨f, hf, same, none⟩ := reportsAt_nodeReports ⟨d, hd, here⟩
    obtain ⟨r, resolved, _⟩ := nodes t ht f hf same
    exact none r resolved
  · -- A target is reported for a reference, and the text of that stands at the same place.
    intro reported
    obtain ⟨l, hl, here, out⟩ := reportsAt_targets h reported
    have found : ∀ f, Reference.resolve g.uri f = .ok l.reference →
        (f.pointer = place → g.Finds f) → False := by
      intro f resolved fine
      obtain ⟨r, resolved', _, there⟩ := fine ((pointer_of_resolve resolved).symm.trans here)
      rw [resolved] at resolved'
      cases resolved'
      exact out there
    rcases text_of_requiredLinks nodup h hl with ⟨t, ht, f, hf, resolved⟩ | ⟨o, ho, resolved⟩
    · exact found f resolved (nodes t ht f hf)
    · exact found o.token resolved (overrides o ho).1

end Trees

/-! ## Documents -/

section Documents

/-- The text of a replacement is one of the texts of the metadata. -/
theorem mem_texts_of_replacement? {m : Tree.Metadata} {f : Field String}
    (h : m.replacement? = some f) : f ∈ m.texts := by
  unfold Tree.Metadata.replacement? at h
  split at h
  · next d set =>
    split at h
    · refine List.mem_append_right _ ?_
      rw [set, Option.bind_some, h]
      exact List.mem_singleton_self f
    · cases h
  · cases h

/-- The references of a node are among its fields. -/
theorem asText_mem_fields {t : Tree.Node} {f : Field String} (hf : f ∈ t.references) :
    f.asText ∈ t.metadata.fields ∨ f.asText ∈ t.fields := by
  rcases List.mem_append.1 hf with hf | hf
  · have text := mem_texts_of_replacement? (Option.mem_toList.1 hf)
    exact .inl (List.mem_append_left _ (List.mem_append_left _ (List.mem_map_of_mem text)))
  · cases t with
    | aliasTo info type field =>
      obtain rfl := List.mem_singleton.1 hf
      exact .inr (List.mem_append_right _ (List.mem_cons_of_mem _ (List.mem_singleton_self _)))
    | _ => exact absurd hf List.not_mem_nil

variable {document : Document} {options : Tree.Options} {tree : Tree}

/-- Nothing is reported on the graph of a document at a place, if the text that stands there, if
there is one, leads to a token or an alias. -/
theorem silent_ofDocument (clear : document.data.unambiguous = true)
    (read : (Tree.ofDocument document options).value = some tree)
    (built : (ofTree tree).graph = some g)
    (fine : ∀ f : Field String, f.pointer = place →
      document.data.at? place = some (.string f.value) → g.Finds f) :
    ¬(ofTree tree).log.ReportsAt place := by
  have stands := Tree.ofDocument_standsIn clear read
  have finds {ctx : Tree.Context} {f : Field String} (shows : f.asText.Shows ctx document.data)
      (here : f.pointer = place) : g.Finds f :=
    fine f here (here ▸ shows.value)
  refine silent_ofTree (Tree.nodup_walk_ofDocument clear read) built ?_ ?_
  · -- What a node refers to is read from the document at its place.
    intro t ht f hf
    have shown := (stands.nodes t ht).shows clear
    rcases asText_mem_fields hf with own | own
    · exact finds (shown.metadata.fields _ own)
    · exact finds (shown.fields _ own)
  · -- So is what an override refers to.
    intro o ho
    obtain ⟨members, object, rfl⟩ := Tree.ofDocument_eq_some read
    have hat : document.data.at? Pointer.root = some (.object members) := by
      rw [Json.at?_root, object]
    have shown := (Tree.readOverrides_standsIn hat o ho).shows
    refine ⟨finds (shown.fields _ List.mem_cons_self), ?_⟩
    refine (stands.offers o ho).imp fun e he f own => finds (he.shows.fields _ ?_)
    exact List.mem_append_left _ (List.mem_map_of_mem (Option.mem_toList.2 own))

end Documents

end Graph

end DesignTokens
