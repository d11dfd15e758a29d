import DesignTokens.Graph.Basic
import DesignTokens.Graph.Fault

/-!
# DesignTokens.Graph.OfTree — the graph of a tree

First every node and override is taken over, with its references resolved; a node whose pointer is
taken already, or an alias whose reference is none, is left out with all that is below it. When all
nodes are known, the references inside the document are looked at: those to a token or an alias
become edges. So it does not matter whether a node stands before or after a reference to it.

1. **Drafts** (`Graph.Draft`): a part of the graph, the references that are to be looked at, and
   what was reported.
2. **Nodes** (`Graph.draftNode`) and **overrides** (`Graph.draftOverride`).
3. **References** that were to be looked at: `Pending.edge?`, `Pending.diagnostic?`.
4. **Graphs** (`Graph.ofTree`).
-/

namespace DesignTokens.Graph

/-! ## Drafts -/

/-- A reference inside the document whose target may not be known yet. If it is required, a target
that is missing or a collection is reported. -/
structure Pending where
  source : Option Pointer
  reference : Reference
  kind : Reference.Kind
  required : Bool
deriving Repr, DecidableEq

/-- A part of a graph, with pending references and reports. -/
structure Draft (α : Type) where
  value : α
  pending : List Pending
  log : Log

namespace Draft

instance : Monad Draft where
  pure x := ⟨x, [], []⟩
  bind x f :=
    let y := f x.value
    ⟨y.value, x.pending ++ y.pending, x.log ++ y.log⟩

def report (fault : Fault) (pointer : Pointer) (span : Option Span) : Draft Unit :=
  ⟨(), [], [fault.diagnostic pointer span]⟩

/-- Look at a reference when all nodes are known, unless it leads to another document. -/
def await (source : Option Pointer) (kind : Reference.Kind) (required : Bool)
    (reference : Reference) : Draft Unit :=
  ⟨(), if reference.target.external then [] else [⟨source, reference, kind, required⟩], []⟩

end Draft

/-- The reference that a field stands for. -/
def draftReference (base : Uri) (field : Field String) : Draft (Option Reference) :=
  match Reference.resolve base field with
  | .ok reference => pure (some reference)
  | .error fault => do
    Draft.report (.badReference fault) field.pointer field.span
    pure none

/-- The reference that a field stands for, if there is a field; it belongs to the given source. -/
def draftReference? (base : Uri) (source : Pointer) (kind : Reference.Kind) (required : Bool)
    (field : Option (Field String)) : Draft (Option Reference) :=
  match field with
  | none => pure none
  | some field => do
    let reference ← draftReference base field
    reference.forM (Draft.await (some source) kind required)
    pure reference

/-! ## Nodes -/

/-- Nodes in document order, and the pointers of those that are not below another one of them. -/
structure Planted where
  nodes : List Node
  tops : List Pointer

/-- A node with the given content, whose replacement is resolved. -/
def draftInfo (base : Uri) (parent : Option Pointer) (info : Tree.NodeInfo) :
    Draft (Content → Node) := do
  let field := info.metadata.replacement?
  let replacement ← draftReference? base info.pointer .replacement true field
  pure fun content =>
    { name := info.name, pointer := info.pointer, span := info.span, parent
      metadata := info.metadata, replacement, content }

mutual

/-- A node and all below it, where some pointers are taken already. -/
def draftNode (base : Uri) (taken : List Pointer) (parent : Option Pointer) :
    Tree.Node → Draft Planted
  | .collection info children =>
    if taken.contains info.pointer then do
      Draft.report (.duplicatePointer info.pointer) info.pointer info.span
      pure ⟨[], []⟩
    else do
      let node ← draftInfo base parent info
      let below ← draftNodes base (info.pointer :: taken) (some info.pointer) children
      pure ⟨node (.collection below.tops) :: below.nodes, [info.pointer]⟩
  | .token info type value =>
    if taken.contains info.pointer then do
      Draft.report (.duplicatePointer info.pointer) info.pointer info.span
      pure ⟨[], []⟩
    else do
      let node ← draftInfo base parent info
      pure ⟨[node (.token type value)], [info.pointer]⟩
  | .aliasTo info type field =>
    if taken.contains info.pointer then do
      Draft.report (.duplicatePointer info.pointer) info.pointer info.span
      pure ⟨[], []⟩
    else do
      match ← draftReference base field with
      | none => pure ⟨[], []⟩
      | some reference =>
        -- Among the references of a node, its replacement comes first.
        let node ← draftInfo base parent info
        Draft.await (some info.pointer) .aliasTo true reference
        pure ⟨[node (.aliasTo type reference)], [info.pointer]⟩

def draftNodes (base : Uri) (taken : List Pointer) (parent : Option Pointer) :
    List Tree.Node → Draft Planted
  | [] => pure ⟨[], []⟩
  | node :: rest => do
    let first ← draftNode base taken parent node
    -- What is below the first node counts as taken, too.
    let more ← draftNodes base (first.nodes.map (·.pointer) ++ taken) parent rest
    pure ⟨first.nodes ++ more.nodes, first.tops ++ more.tops⟩

end

/-! ## Overrides -/

mutual

/-- What is on offer for the token of the given pointer, with its references resolved. -/
def draftOffer (base : Uri) (owner : Pointer) (kind : Reference.Kind) :
    Offer (Field String) → Draft (Offer Reference)
  | .mk pointer span field value entries => do
    let reference ← draftReference? base owner kind false field
    let fallback ← draftOffers base owner entries
    pure (.mk pointer span reference value fallback)

/-- The entries of a fallback list, with their references resolved. -/
def draftOffers (base : Uri) (owner : Pointer) :
    List (Offer (Field String)) → Draft (List (Offer Reference))
  | [] => pure []
  | offer :: rest => do
    let first ← draftOffer base owner .fallback offer
    let more ← draftOffers base owner rest
    pure (first :: more)

end

/-- An override with its references resolved; its token has to be in the same document. -/
def draftOverride (base : Uri) (entry : Override (Field String)) :
    Draft (Option (Override Reference)) := do
  match ← draftReference base entry.token with
  | none => pure none
  | some token =>
    if token.target.external then
      Draft.report (.externalOverride token.raw) token.pointer token.span
      pure none
    else
      Draft.await none .override true token
      let offer ← draftOffer base token.target.pointer .override entry.offer
      pure (some { token, conditions := entry.conditions, offer })

def draftOverrides (base : Uri) :
    List (Override (Field String)) → Draft (List (Override Reference))
  | [] => pure []
  | entry :: rest => do
    let first ← draftOverride base entry
    let more ← draftOverrides base rest
    pure (first.toList ++ more)

/-! ## References -/

namespace Pending

/-- The edge that a reference becomes, if both ends are nodes and its target is no collection. -/
def edge? (nodes : List Node) (p : Pending) : Option Edge :=
  match p.source, lookup? nodes p.reference.target.pointer with
  | some source, some target =>
    if target.isCollection || (lookup? nodes source).isNone then none
    else some ⟨source, target.pointer, p.kind⟩
  | _, _ => none

/-- What is wrong with the target of a reference. -/
def fault? (nodes : List Node) (p : Pending) : Option Fault :=
  match lookup? nodes p.reference.target.pointer with
  | none => some (.missingTarget p.reference.raw)
  | some target => if target.isCollection then some (.collectionTarget p.reference.raw) else none

/-- The diagnostic for a required reference whose target is wrong. -/
def diagnostic? (nodes : List Node) (p : Pending) : Option Diagnostic :=
  if p.required then
    (p.fault? nodes).map fun fault =>
      let diagnostic := fault.diagnostic p.reference.pointer p.reference.span
      match p.source with
      | none => diagnostic
      | some source =>
        let span := (lookup? nodes source).bind (·.span)
        diagnostic.withRelated ⟨s!"declared on {source.text}", some source, span⟩
  else none

end Pending

/-! ## Graphs -/

/-- A graph, if there is one, and what was reported. -/
structure Built where
  graph : Option Graph
  log : Log

/-- The nodes and overrides of a tree whose URI is given without its fragment. -/
def draftTree (base : Uri) (tree : Tree) : Draft (Planted × List (Override Reference)) := do
  let planted ← draftNodes base [] none tree.children
  let overrides ← draftOverrides base tree.overrides
  pure (planted, overrides)

/-- The graph of a tree; there is none if references cannot be resolved against its URI. -/
def ofTree (tree : Tree) : Built :=
  let base := tree.uri.withoutFragment
  if base.canAnchor then
    let draft := draftTree base tree
    let (planted, overrides) := draft.value
    let graph : Graph := {
      uri := base
      nodes := planted.nodes
      edges := draft.pending.filterMap (·.edge? planted.nodes)
      roots := planted.tops
      overrides }
    ⟨some graph, draft.log ++ draft.pending.filterMap (·.diagnostic? planted.nodes)⟩
  else
    ⟨none, [(Fault.uriWithoutBase tree.uri).diagnostic tree.pointer tree.span]⟩

end DesignTokens.Graph
