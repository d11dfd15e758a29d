import DesignTokens.Proofs.Graph.Silence
import DesignTokens.Proofs.Pointer.Text
import DesignTokens.Proofs.Text.Utf8

/-!
# DesignTokens.Proofs.Graph.Fragments — which fragments are read as pointers

The fragment of a reference is percent-encoded, and stands for what follows the number sign in the
text of a pointer. All others are reported where the reference stands, with one exception: the text
that a fragment stands for may repeat the number sign.

1. **Fragments** (`Pointer.StandsFor`): the pointers that are read (`Pointer.ofFragment_eq_ok_iff`),
   and the fragments that are read as they should be (`Pointer.readExactly_iff`).
2. **References** (`Reference.resolve_eq_notPointer_iff`): a text is refused for its fragment.
3. **Texts** (`Graph.referenceTexts`): all that is read as a reference when a graph is built.
4. **Reports** (`Graph.FragmentsReported`): there is one for each fragment that is refused, and no
   reference comes from such a text.
5. **All of it** (`Graph.fragments_read_or_reported`).
-/

namespace DesignTokens

/-! ## Fragments -/

namespace Pointer

/-- A fragment stands for a text: undoing its percent-encoding gives the UTF-8 of the text. -/
def StandsFor (fragment : String) (text : List Char) : Prop :=
  Text.Utf8.encode text = Text.Percent.decodeBytes (Text.Utf8.encode fragment.toList)

variable {fragment : String} {text : List Char} {p : Pointer}

/-- A fragment can be decoded to the text that it stands for, and to no other. -/
theorem decode_eq_ok_iff_standsFor :
    Text.Percent.decode fragment.toList = .ok text ↔ StandsFor fragment text :=
  Text.Utf8.decode_eq_ok_iff

/-- A fragment stands for one text at most. -/
theorem StandsFor.eq {text' : List Char} (h : StandsFor fragment text)
    (h' : StandsFor fragment text') : text = text' := by
  rw [← decode_eq_ok_iff_standsFor] at h h'
  exact Except.ok.inj (h.symm.trans h')

/-- A text and the same text after a number sign are the same pointer. -/
theorem afterMark_eq_body_iff :
    afterMark (String.ofList text) = p.body ↔ text = p.body ∨ text = '#' :: p.body := by
  unfold afterMark
  rw [String.toList_ofList]
  constructor
  · -- Reading strips a number sign, if there is one.
    intro h
    split at h
    · exact .inr (by rw [h])
    · exact .inl h
  · rintro (same | same)
    · -- What follows the number sign does not start with one.
      have start := (isBody_body p).start
      rw [same]
      split
      · next rest marked =>
        rw [marked] at start
        rcases start with empty | slash
        · cases empty
        · cases slash
      · rfl
    · subst same
      rfl

/-- A fragment is read as the pointer for whose text it stands, with the number sign or without. -/
theorem ofFragment_eq_ok_iff :
    ofFragment fragment = .ok p ↔
      ∃ text, StandsFor fragment text ∧ (text = p.body ∨ text = '#' :: p.body) := by
  unfold ofFragment
  cases decoded : Text.Percent.decode fragment.toList with
  | error fault =>
    -- What cannot be decoded stands for no text.
    constructor
    · intro h
      cases h
    · rintro ⟨text, stands, _⟩
      rw [← decode_eq_ok_iff_standsFor, decoded] at stands
      cases stands
  | ok text =>
    -- What can be decoded is read without its number sign.
    have stands := decode_eq_ok_iff_standsFor.1 decoded
    dsimp only
    rw [parse_eq_ok_iff, eq_comm, afterMark_eq_body_iff]
    exact ⟨fun same => ⟨text, stands, same⟩, fun ⟨_, stands', same⟩ => stands.eq stands' ▸ same⟩

/-- A fragment is read if and only if it stands for a text that may follow the number sign of a
pointer, and then it is read as the pointer with this text. -/
structure ReadExactly (fragment : String) : Prop where
  accepted : (∃ p, ofFragment fragment = .ok p) ↔ ∃ text, StandsFor fragment text ∧ IsBody text
  text : ∀ p text, ofFragment fragment = .ok p → StandsFor fragment text →
    p.text = "#" ++ String.ofList text

/-- The text of a pointer does not start with a number sign. -/
theorem not_isBody_mark (text : List Char) : ¬IsBody ('#' :: text) := by
  rintro ⟨start, _⟩
  simp at start

/-- This fails only for fragments that stand for the text of a pointer with its number sign. -/
theorem readExactly_iff :
    ReadExactly fragment ↔ ∀ body, IsBody body → ¬StandsFor fragment ('#' :: body) := by
  constructor
  · -- A fragment that stands for a text with a number sign is accepted, although it is no pointer.
    intro exact body isBody marked
    obtain ⟨p, rfl⟩ := exists_body_iff.2 isBody
    have read : ofFragment fragment = .ok p := ofFragment_eq_ok_iff.2 ⟨_, marked, .inr rfl⟩
    obtain ⟨text, stands, isBody'⟩ := exact.accepted.1 ⟨p, read⟩
    exact not_isBody_mark p.body (stands.eq marked ▸ isBody')
  · -- Without a number sign, the text is the pointer.
    intro unmarked
    have body : ∀ {p}, ofFragment fragment = .ok p → StandsFor fragment p.body := by
      intro p read
      obtain ⟨text, stands, rfl | rfl⟩ := ofFragment_eq_ok_iff.1 read
      · exact stands
      · exact absurd stands (unmarked p.body (isBody_body p))
    constructor
    case accepted =>
      constructor
      · rintro ⟨p, read⟩
        exact ⟨p.body, body read, isBody_body p⟩
      · rintro ⟨text, stands, isBody⟩
        obtain ⟨p, rfl⟩ := exists_body_iff.2 isBody
        exact ⟨p, ofFragment_eq_ok_iff.2 ⟨_, stands, .inl rfl⟩⟩
    case text =>
      intro p text read stands
      rw [stands.eq (body read), ← String.toList_inj, Pointer.text]
      simp

/-- A fragment with a second number sign is read as the pointer that the first one would give. -/
theorem marked_fragment_read :
    StandsFor "#/a" ['#', '/', 'a'] ∧ ¬IsBody ['#', '/', 'a'] ∧
      ofFragment "#/a" = .ok (root.child "a") ∧ ¬ReadExactly "#/a" := by
  have stands : StandsFor "#/a" ['#', '/', 'a'] := by
    unfold StandsFor
    decide
  have read : ofFragment "#/a" = .ok (root.child "a") := by decide
  refine ⟨stands, not_isBody_mark _, read, fun exact => ?_⟩
  obtain ⟨text, stands', isBody⟩ := exact.accepted.1 ⟨_, read⟩
  exact not_isBody_mark _ (stands'.eq stands ▸ isBody)

end Pointer

/-! ## References -/

namespace Reference

/-- A text is refused for its fragment: it is a URI reference, and its fragment is no pointer. -/
theorem resolve_eq_notPointer_iff {base : Uri} {field : Field String} {error : Pointer.Error} :
    resolve base field = .error (.notPointer error) ↔
      ∃ joined fragment, Uri.join base field.value = .ok joined ∧
        joined.fragment = some fragment ∧ Pointer.ofFragment fragment = .error error := by
  unfold resolve
  cases Uri.join base field.value with
  | error fault => simp
  | ok joined =>
    cases named : joined.fragment with
    | none => simp [pointerOf, named]
    | some fragment => cases read : Pointer.ofFragment fragment <;> simp [pointerOf, named, read]

end Reference

namespace Graph

variable {base : Uri}

/-! ## Texts -/

/-- The texts that are read as references when a node is visited: that of an alias first, which has
to be one, and then that of its replacement. -/
def Visit.texts (v : Visit) : List (Field String) :=
  match v.fate with
  | .duplicate => []
  | .unresolved => v.node.reference?.toList
  | .kept => v.node.reference?.toList ++ v.node.metadata.replacement?.toList

/-- The texts of an override that are read as references: that of its token, and all that it offers
if it is taken over. -/
def overrideTexts (base : Uri) (entry : Override (Field String)) : List (Field String) :=
  entry.token :: if (takeOver? base entry).isSome then entry.offer.references else []

/-- The texts that are read as references when the graph of a tree is built. -/
def referenceTexts (base : Uri) (tree : Tree) : List (Field String) :=
  (surveyTree tree base).flatMap Visit.texts ++ tree.overrides.flatMap (overrideTexts base)

/-- All references of a graph: those of its nodes, and those of its overrides. -/
def references (g : Graph) : List Reference :=
  g.nodes.flatMap Node.references ++ g.overrides.flatMap fun o => o.token :: o.offer.references

/-! ## Reports -/

/-- The report on a text, at its place, if its fragment is no pointer. -/
def refusal? (base : Uri) (field : Field String) : Option Diagnostic :=
  match Reference.resolve base field with
  | .error (.notPointer error) =>
    some ((Fault.badReference (.notPointer error)).diagnostic field.pointer field.span)
  | _ => none

/-- The reports on fragments. -/
def fragmentReports (log : Log) : List Diagnostic :=
  log.filter (·.code = .invalidPointer)

/-- The reports on fragments are those of both logs. -/
@[simp] theorem fragmentReports_append (log log' : Log) :
    fragmentReports (log ++ log') = fragmentReports log ++ fragmentReports log' :=
  List.filter_append _ _

/-- A field is reported exactly if its fragment is refused. -/
theorem fragmentReports_fieldReports (field : Option (Field String)) :
    fragmentReports (fieldReports base field) = field.toList.filterMap (refusal? base) := by
  cases field with
  | none => rfl
  | some f =>
    unfold fieldReports refusal?
    -- A reference that can be read is not reported, and of the faults only one is about the
    -- fragment.
    cases resolved : Reference.resolve base f with
    | ok r => simp [fragmentReports, resolved]
    | error fault =>
      cases fault <;>
        simp [fragmentReports, resolved, Fault.diagnostic, Fault.code, Reference.Fault.code,
          Diagnostic.new, Diagnostic.located, Diagnostic.withPointer, Diagnostic.withSpan]

/-! ### Overrides -/

mutual

/-- What is reported on the fragments of an offer is reported on its texts, in their order. -/
theorem fragmentReports_draftOffer (owner : Pointer) (kind : Reference.Kind) :
    ∀ e : Offer (Field String), fragmentReports (draftOffer base owner kind e).log =
      e.references.filterMap (refusal? base)
  | .mk pointer span field value entries => by
    rw [draftOffer, Draft.log_bind, Draft.log_bind, Draft.log_pure, List.append_nil,
      log_draftReference?, fragmentReports_append, fragmentReports_fieldReports,
      fragmentReports_draftOffers owner entries, Offer.references, List.filterMap_append]

/-- Of a fallback list, each refused fragment is reported, in order. -/
theorem fragmentReports_draftOffers (owner : Pointer) :
    ∀ es : List (Offer (Field String)), fragmentReports (draftOffers base owner es).log =
      (Offer.referencesOf es).filterMap (refusal? base)
  | [] => rfl
  | e :: rest => by
    rw [draftOffers, Draft.log_bind, Draft.log_bind, Draft.log_pure, List.append_nil,
      fragmentReports_append, fragmentReports_draftOffer owner .fallback e,
      fragmentReports_draftOffers owner rest, Offer.referencesOf, List.filterMap_append]

end

/-- Of an override, the refused fragments are reported: that of its token, and those of the rest if
the token was accepted. -/
theorem fragmentReports_draftOverride (entry : Override (Field String)) :
    fragmentReports (draftOverride base entry).log =
      (overrideTexts base entry).filterMap (refusal? base) := by
  have token : fragmentReports (fieldReports base (some entry.token)) = _ :=
    fragmentReports_fieldReports _
  rw [draftOverride, Draft.log_bind, log_draftReference, value_draftReference,
    fragmentReports_append, token, overrideTexts, ← List.singleton_append, List.filterMap_append]
  congr 1
  unfold takeOver?
  -- The rest of an override is looked at only if its token can be read and is in this document.
  cases Reference.resolve base entry.token with
  | error fault => rfl
  | ok r =>
    simp only [Except.toOption]
    split
    · rfl
    · rw [Draft.log_bind, Draft.log_bind, Draft.log_pure, List.append_nil, fragmentReports_append,
        fragmentReports_draftOffer]
      rfl

/-- Overrides are reported one after the other. -/
theorem fragmentReports_draftOverrides (entries : List (Override (Field String))) :
    fragmentReports (draftOverrides base entries).log =
      (entries.flatMap (overrideTexts base)).filterMap (refusal? base) := by
  induction entries with
  | nil => rfl
  | cons entry rest ih =>
    rw [draftOverrides, Draft.log_bind, Draft.log_bind, Draft.log_pure, List.append_nil,
      fragmentReports_append, fragmentReports_draftOverride, ih, List.flatMap_cons,
      List.filterMap_append]

mutual

/-- The references of an offer come from its texts. -/
theorem text_of_resolvedOffer {r : Reference} :
    ∀ e : Offer (Field String), r ∈ (resolvedOffer base e).references →
      ∃ f ∈ e.references, Reference.resolve base f = .ok r
  | .mk pointer span field value entries, hr => by
    rw [resolvedOffer, Offer.references] at hr
    rw [Offer.references]
    rcases List.mem_append.1 hr with hr | hr
    · obtain ⟨f, rfl, resolved⟩ := Option.bind_eq_some_iff.1 (Option.mem_toList.1 hr)
      exact ⟨f, List.mem_append_left _ (List.mem_singleton_self f), eq_ok_of_toOption resolved⟩
    · obtain ⟨f, hf, resolved⟩ := text_of_resolvedOffers entries hr
      exact ⟨f, List.mem_append_right _ hf, resolved⟩

/-- A reference of a fallback list that was resolved is that of a text of the list. -/
theorem text_of_resolvedOffers {r : Reference} :
    ∀ es : List (Offer (Field String)), r ∈ Offer.referencesOf (resolvedOffers base es) →
      ∃ f ∈ Offer.referencesOf es, Reference.resolve base f = .ok r
  | [], hr => absurd hr List.not_mem_nil
  | e :: rest, hr => by
    rw [resolvedOffers, Offer.referencesOf] at hr
    rw [Offer.referencesOf]
    rcases List.mem_append.1 hr with hr | hr
    · obtain ⟨f, hf, resolved⟩ := text_of_resolvedOffer e hr
      exact ⟨f, List.mem_append_left _ hf, resolved⟩
    · obtain ⟨f, hf, resolved⟩ := text_of_resolvedOffers rest hr
      exact ⟨f, List.mem_append_right _ hf, resolved⟩

end

/-- A reference of an override that was taken over is that of one of its texts. -/
theorem text_of_takeOver? {entry : Override (Field String)} {o : Override Reference}
    (taken : takeOver? base entry = some o) {r : Reference}
    (hr : r ∈ o.token :: o.offer.references) :
    ∃ f ∈ overrideTexts base entry, Reference.resolve base f = .ok r := by
  rw [overrideTexts, taken, Option.isSome_some, if_pos rfl]
  unfold takeOver? at taken
  split at taken
  · cases taken
  · next token resolved =>
    split at taken
    · cases taken
    · cases taken
      rcases List.mem_cons.1 hr with rfl | hr
      · exact ⟨entry.token, List.mem_cons_self, resolved⟩
      · obtain ⟨f, hf, resolved⟩ := text_of_resolvedOffer entry.offer hr
        exact ⟨f, List.mem_cons_of_mem _ hf, resolved⟩

/-! ### Nodes -/

/-- The reference of an alias that is kept is one. -/
theorem refusal?_of_kept {taken : List Pointer} {t : Tree.Node} (kept : fateOf base taken t = .kept)
    {field : Field String} (own : t.reference? = some field) : refusal? base field = none := by
  cases t with
  | aliasTo info type f =>
    cases own
    unfold fateOf at kept
    -- kept, so neither a duplicate nor unresolved
    split at kept
    · cases kept
    · unfold refusal?
      cases resolved : Reference.resolve base field with
      | ok r => rfl
      | error fault =>
        dsimp only at kept
        rw [resolved] at kept
        cases kept
  | _ => cases own

/-- What is reported of a visit are the refused fragments among its texts. -/
theorem fragmentReports_visit {v : Visit} {taken : List Pointer}
    (fate : v.fate = fateOf base taken v.node) :
    fragmentReports (v.reports base) = v.texts.filterMap (refusal? base) := by
  unfold Visit.reports Visit.texts
  -- Which texts are looked at depends on what became of the node.
  cases outcome : v.fate with
  | duplicate => rfl
  | unresolved => exact fragmentReports_fieldReports _
  | kept =>
    -- A node is kept only if its own reference is not refused.
    have own : v.node.reference?.toList.filterMap (refusal? base) = [] := by
      rw [List.filterMap_eq_nil_iff]
      intro field hf
      exact refusal?_of_kept (fate.symm.trans outcome) (Option.mem_toList.1 hf)
    dsimp only
    rw [fragmentReports_fieldReports, List.filterMap_append, own, List.nil_append]

section Trees

variable {tree : Tree} {g : Graph}

/-- The fragments of a tree are accounted for when its graph is built. -/
structure FragmentsReported (tree : Tree) (g : Graph) (log : Log) : Prop where
  /-- There is one report for each text whose fragment is no pointer, at the place of the text. -/
  reports : fragmentReports log = (referenceTexts g.uri tree).filterMap (refusal? g.uri)
  /-- The references of the graph come from texts whose fragments are pointers. -/
  references : ∀ r ∈ g.references, ∃ f ∈ referenceTexts g.uri tree,
    Reference.resolve g.uri f = .ok r ∧ refusal? g.uri f = none

/-- A reference that can be resolved is not refused. -/
theorem refusal?_of_resolve {field : Field String} {r : Reference}
    (resolved : Reference.resolve base field = .ok r) : refusal? base field = none := by
  rw [refusal?, resolved]

/-- A graph is built with a report for each refused fragment, in the order of the texts. -/
theorem fragmentReports_ofTree (h : (ofTree tree).graph = some g) :
    fragmentReports (ofTree tree).log =
      (referenceTexts g.uri tree).filterMap (refusal? g.uri) := by
  have survey := surveyTree_surveys tree g.uri
  -- The reports of the nodes come first, then those of the overrides; targets are another kind.
  have nodes : fragmentReports ((surveyTree tree g.uri).flatMap (Visit.reports g.uri)) =
      ((surveyTree tree g.uri).flatMap Visit.texts).filterMap (refusal? g.uri) := by
    rw [fragmentReports, List.filter_flatMap, List.filterMap_flatMap]
    refine List.flatMap_congr fun v hv => ?_
    obtain ⟨before, after, split⟩ := List.append_of_mem hv
    exact fragmentReports_visit (survey.fates before v after split)
  have targets : fragmentReports
      ((draftTree g.uri tree).pending.filterMap (·.diagnostic? g.nodes)) = [] := by
    rw [fragmentReports, List.filter_eq_nil_iff]
    intro d hd code
    obtain ⟨p, _, reported⟩ := List.mem_filterMap.1 hd
    rcases code_of_pending reported with other | other
    · simp [other] at code
    · simp [other] at code
  rw [log_ofTree h, fragmentReports_append, fragmentReports_append, nodes, targets,
    fragmentReports_draftOverrides, List.append_nil, referenceTexts, List.filterMap_append]

/-- Every reference of a graph is that of a text in the tree. -/
theorem text_of_references (h : (ofTree tree).graph = some g) {r : Reference}
    (hr : r ∈ g.references) :
    ∃ f ∈ referenceTexts g.uri tree, Reference.resolve g.uri f = .ok r := by
  rcases List.mem_append.1 hr with hr | hr
  · -- A reference of a node: what grew from a visit has the references of its texts.
    obtain ⟨n, hn, hr⟩ := List.mem_flatMap.1 hr
    obtain ⟨v, hv, grows⟩ := (matched_of_forall₂ (nodes_grow_ofTree h)).right n hn
    have alone : n.alone.references = n.references := by
      unfold Node.references Node.aliasReference? Node.alone
      cases n.content <;> rfl
    obtain ⟨f, hf, resolved⟩ := references_of_plant? grows.planted (alone ▸ hr)
    obtain ⟨visited, kept⟩ := List.mem_filter.1 hv
    have kept : v.fate = .kept := by simpa using kept
    refine ⟨f, List.mem_append_left _ (List.mem_flatMap.2 ⟨v, visited, ?_⟩), resolved⟩
    rw [Visit.texts, kept]
    exact List.mem_append.2 (List.mem_append.1 hf).symm
  · -- A reference of an override that was taken over.
    obtain ⟨o, ho, hr⟩ := List.mem_flatMap.1 hr
    rw [overrides_ofTree h] at ho
    obtain ⟨entry, hentry, taken⟩ := List.mem_filterMap.1 ho
    obtain ⟨f, hf, resolved⟩ := text_of_takeOver? taken hr
    exact ⟨f, List.mem_append_right _ (List.mem_flatMap.2 ⟨entry, hentry, hf⟩), resolved⟩

/-- A tree is built into a graph with every refused fragment reported. -/
theorem fragmentsReported_ofTree (h : (ofTree tree).graph = some g) :
    FragmentsReported tree g (ofTree tree).log where
  reports := fragmentReports_ofTree h
  references r hr := by
    obtain ⟨f, hf, resolved⟩ := text_of_references h hr
    exact ⟨f, hf, resolved, refusal?_of_resolve resolved⟩

end Trees

/-! ## All of it -/

/-- A fragment is read exactly as it should be, unless it stands for the text of a pointer with its
number sign, which is read as if the number sign was not there. A text is refused for any fragment
that is not read; when a graph is built, each text that is refused is reported once where it stands,
and no reference comes from it. -/
theorem fragments_read_or_reported (fragment : String) :
    (Pointer.ReadExactly fragment ↔
      ∀ body, Pointer.IsBody body → ¬Pointer.StandsFor fragment ('#' :: body)) ∧
    (∀ p, Pointer.ofFragment fragment = .ok p ↔
      ∃ text, Pointer.StandsFor fragment text ∧ (text = p.body ∨ text = '#' :: p.body)) ∧
    (∀ base field error, Reference.resolve base field = .error (.notPointer error) ↔
      ∃ joined part, Uri.join base field.value = .ok joined ∧
        joined.fragment = some part ∧ Pointer.ofFragment part = .error error) ∧
    ∀ tree g, (ofTree tree).graph = some g → FragmentsReported tree g (ofTree tree).log :=
  ⟨Pointer.readExactly_iff, fun _ => Pointer.ofFragment_eq_ok_iff,
    fun _ _ _ => Reference.resolve_eq_notPointer_iff, fun _ _ => fragmentsReported_ofTree⟩

namespace MarkedTwice

open Sample (info place text)

/-- A token, an alias of it with its number sign written twice, and an alias without the slash. -/
def tree : Tree :=
  Sample.tree
    [.token (info (place "a")) none none,
     .aliasTo (info (place "twice")) (text "color") (text "##/a" (place "twice")),
     .aliasTo (info (place "bare")) (text "color") (text "#a" (place "bare"))]
    []

end MarkedTwice

/-- Only the fragment without the slash is reported. -/
theorem marked_fragments_reported :
    Pointer.ReadExactly "/a" ∧
      ∃ g, (ofTree MarkedTwice.tree).graph = some g ∧
        FragmentsReported MarkedTwice.tree g (ofTree MarkedTwice.tree).log ∧
        (fragmentReports (ofTree MarkedTwice.tree).log).map (·.pointer) =
          [some (Sample.place "bare")] := by
  obtain ⟨exactly, _, _, reported⟩ := fragments_read_or_reported "/a"
  have stands : Pointer.StandsFor "/a" ['/', 'a'] := by
    unfold Pointer.StandsFor
    decide
  -- There is only one text that a fragment stands for.
  have unmarked : ∀ body, Pointer.IsBody body → ¬Pointer.StandsFor "/a" ('#' :: body) := by
    intro body _ marked
    cases stands.eq marked
  have built : (ofTree MarkedTwice.tree).graph.isSome = true := by decide +kernel
  obtain ⟨g, hg⟩ := Option.isSome_iff_exists.1 built
  exact ⟨exactly.2 unmarked, g, hg, reported _ g hg, by decide +kernel⟩

end Graph

end DesignTokens
