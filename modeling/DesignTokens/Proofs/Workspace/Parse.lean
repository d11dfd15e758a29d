import DesignTokens.Proofs.Graph.Representation
import DesignTokens.Proofs.Tree.Reports
import DesignTokens.Proofs.Uri.Reader
import DesignTokens.Workspace.Parse

/-!
# DesignTokens.Proofs.Workspace.Parse — what comes of a document that is loaded

1. **Graphs** (`Workspace.load_graph`): the graph is that of the document that was decoded.
2. **URIs** (`Workspace.wellAddressed_load`): if documents have well-formed URIs, their graphs only
   name well-formed ones.
3. **Reports** (`Workspace.says_load`): apart from what the host says, none is on the way that led
   to the document.
-/

namespace DesignTokens

/-! ## Graphs -/

namespace Workspace

variable {w : Workspace} {g : Graph}

/-- The graph of a document is built from it. -/
theorem parse_graph {document : Document} (h : (w.parse document none).graph = some g) :
    g.IsOf document := by
  unfold parse parseFresh at h
  dsimp only [Option.filter_none] at h
  split at h
  · split at h
    · cases h
    · next tree read => exact ⟨_, tree, read, h⟩
  · cases h

/-- The graph of a document that is loaded. -/
theorem load_graph {request : Request} (h : (w.load request).graph = some g) :
    ∃ handle document, w.host.load request = .ok handle ∧ w.host.decode handle = .ok document ∧
      g.IsOf document := by
  unfold load at h
  split at h
  · next handle loaded =>
    unfold parseHandle at h
    split at h
    · next document decoded => exact ⟨handle, document, loaded, decoded, parse_graph h⟩
    · cases h
  · cases h

end Workspace

/-! ## URIs -/

/-- A graph only names well-formed URIs: its own, and those of the documents that it refers to. -/
structure Graph.WellAddressed (g : Graph) : Prop where
  own : g.uri.WellFormed
  references : ∀ r ∈ g.externalReferences, r.target.uri.WellFormed

/-- A reference to a well-formed base leads to a well-formed URI. -/
theorem Reference.wellFormed_of_resolve {base : Uri} (hb : base.WellFormed) {field : Field String}
    {r : Reference} (h : Reference.resolve base field = .ok r) : r.target.uri.WellFormed := by
  unfold Reference.resolve at h
  split at h
  · cases h
  · next joined found =>
    split at h
    · cases h
    · cases h
      exact (Uri.wellFormed_join hb found).withoutFragment

namespace Graph

variable {tree : Tree} {g : Graph}

/-- Every reference of a graph was read in its document. -/
theorem resolved_of_external (h : (ofTree tree).graph = some g) {r : Reference}
    (hr : r ∈ g.externalReferences) : ∃ field, Reference.resolve g.uri field = .ok r := by
  obtain ⟨_, rfl⟩ := ofTree_eq_some h
  rcases List.mem_append.1 (List.mem_filter.1 hr).1 with hr | hr
  · obtain ⟨n, hn, hr⟩ := List.mem_flatMap.1 hr
    exact (draftNodes_sees [] none tree.children n hn r hr).resolved
  · obtain ⟨o, ho, hr⟩ := List.mem_flatMap.1 hr
    exact (draftOverrides_sees ho r hr).resolved

/-- A graph of a well-formed document is well-addressed. -/
theorem IsOf.wellAddressed {d : Document} (h : g.IsOf d) (hd : d.uri.WellFormed) :
    g.WellAddressed := by
  have own : g.uri.WellFormed := by
    rw [h.uri]
    exact hd.withoutFragment
  obtain ⟨options, tree, _, hgraph⟩ := h
  refine ⟨own, fun r hr => ?_⟩
  obtain ⟨field, resolved⟩ := resolved_of_external hgraph hr
  exact Reference.wellFormed_of_resolve own resolved

end Graph

/-- The documents that a host decodes have well-formed URIs. -/
def Host.WellAddressed (host : Host) : Prop :=
  ∀ handle document, host.decode handle = .ok document → document.uri.WellFormed

/-- Every graph that is loaded is well-addressed, if the host is. -/
theorem Workspace.wellAddressed_load {w : Workspace} (hw : w.host.WellAddressed)
    {request : Request} {g : Graph} (h : (w.load request).graph = some g) : g.WellAddressed := by
  obtain ⟨handle, document, _, decoded, isOf⟩ := load_graph h
  exact isOf.wellAddressed (hw handle document decoded)

/-! ## Reports -/

/-- What a host reports itself: when it validates a document, or through its collector. -/
def Host.Says (host : Host) (d : Diagnostic) : Prop :=
  (∃ document, d ∈ (host.validate document).log) ∨
    ∃ collector input outcome, host.collector = some collector ∧
      collector input = .ok (some outcome) ∧ d ∈ outcome.diagnostics

/-- A fault of the reader is none of the loader. -/
theorem Tree.Fault.stage_code (fault : Tree.Fault) : fault.code.stage ≠ .loader := by
  cases fault with
  | blankText key =>
    unfold Tree.Fault.code
    dsimp only
    split
    · decide
    · split <;> decide
  | _ => nofun

/-- All that is reported while a graph is built has the stage of graphs. -/
theorem Graph.stage_of_ofTree {tree : Tree} {d : Diagnostic} (hd : d ∈ (ofTree tree).log) :
    d.code.stage = .graph := by
  have references : ∀ code ∈ referenceCodes, code.stage = .graph := by decide
  cases hg : (ofTree tree).graph with
  | none =>
    -- No root: one report.
    unfold ofTree at hg hd
    dsimp only at hg hd
    split at hg
    · cases hg
    · next anchorless =>
      rw [if_neg anchorless] at hd
      obtain rfl := List.mem_singleton.1 hd
      rfl
  | some g =>
    -- The reports of the nodes, of the overrides, and of what is pending.
    rw [log_ofTree hg] at hd
    rcases List.mem_append.1 hd with hd | hd
    · rcases List.mem_append.1 hd with hd | hd
      · obtain ⟨v, _, hd⟩ := List.mem_flatMap.1 hd
        rcases mem_reports hd with ⟨_, rfl⟩ | known
        · rfl
        · exact references _ known
      · exact references _ (codes_draftOverrides hd)
    · obtain ⟨p, _, hp⟩ := List.mem_filterMap.1 hd
      rcases code_of_pending hp with code | code <;> rw [code] <;> rfl

namespace Workspace

variable {w : Workspace}

/-- What is reported while a tree is read: by the collector of the host, or on the document. -/
theorem says_ofDocument {document : Document} {d : Diagnostic}
    (hd : d ∈ (Tree.ofDocument document w.treeOptions).log) :
    w.host.Says d ∨ d.code.stage ≠ .loader := by
  rcases Tree.says_ofDocument document w.treeOptions with said | ⟨deep, log, code⟩
  · rcases said d hd with ⟨fault, code, _⟩ | collected
    · rw [code]
      exact .inr fault.stage_code
    · exact .inl (.inr collected)
  · rw [log] at hd
    rw [List.mem_singleton.1 hd, code]
    exact .inr nofun

/-- What is reported on a document: by the host, on its content, or that it is not valid. -/
theorem says_parse {document : Document} {d : Diagnostic}
    (hd : d ∈ (w.parse document none).log) :
    w.host.Says d ∨ d.code.stage ≠ .loader ∨ d.code = .schemaInvalid := by
  have validated {log : Log} (hd : d ∈ (w.host.validate document).log ++ log)
      (more : d ∈ log → w.host.Says d ∨ d.code.stage ≠ .loader ∨ d.code = .schemaInvalid) :
      w.host.Says d ∨ d.code.stage ≠ .loader ∨ d.code = .schemaInvalid := by
    rcases List.mem_append.1 hd with hd | hd
    · exact .inl (.inl ⟨document, hd⟩)
    · exact more hd
  have read (hd : d ∈ (Tree.ofDocument document w.treeOptions).log) :
      w.host.Says d ∨ d.code.stage ≠ .loader ∨ d.code = .schemaInvalid := by
    rcases says_ofDocument hd with said | content
    · exact .inl said
    · exact .inr (.inl content)
  unfold parse parseFresh at hd
  dsimp only [Option.filter_none] at hd
  split at hd
  · -- The document is valid, and is read.
    split at hd
    · -- It has no tree.
      exact validated hd read
    · -- It has one, and a graph is built.
      rcases List.mem_append.1 hd with hd | hd
      · exact validated hd read
      · right
        left
        rw [Graph.stage_of_ofTree hd]
        nofun
  · -- It is not valid.
    refine validated hd fun hd => ?_
    rw [List.mem_singleton.1 hd]
    exact .inr (.inr rfl)

/-- What is reported on a document that is loaded: by the host, on its content, or on the way to
it. -/
theorem says_load {request : Request} {d : Diagnostic} (hd : d ∈ (w.load request).log) :
    w.host.Says d ∨ d.code.stage ≠ .loader ∨
      d.code ∈ [.loadFailed, .decodeFailed, .schemaInvalid] := by
  unfold load at hd
  split at hd
  · unfold parseHandle at hd
    split at hd
    · -- The handle is parsed.
      rcases says_parse hd with said | content | invalid
      · exact .inl said
      · exact .inr (.inl content)
      · rw [invalid]
        exact .inr (.inr (by decide))
    · -- It is not decoded.
      rw [List.mem_singleton.1 hd]
      exact .inr (.inr (List.mem_cons_of_mem _ List.mem_cons_self))
  · -- Nothing is loaded.
    rw [List.mem_singleton.1 hd]
    exact .inr (.inr List.mem_cons_self)

end Workspace

end DesignTokens
