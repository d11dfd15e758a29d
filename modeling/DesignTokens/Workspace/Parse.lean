import DesignTokens.Graph.OfTree
import DesignTokens.Resolution.Resolver
import DesignTokens.Tree.OfDocument
import DesignTokens.Workspace.Basic

/-!
# DesignTokens.Workspace.Parse — from a document to its graph

A document is decoded and validated, its tree is read, and the graph is built. A stage that gives
nothing ends this and leaves out what would come after it.

1. **Parsed documents** (`Parsed`), with the tree to keep for the next time (`CachedTree`).
2. **Parsing**: `Workspace.parse` for a decoded document, `Workspace.parseHandle` for a text,
   `Workspace.load` for a location.
3. **Resolving** (`Workspace.resolver?`).
-/

namespace DesignTokens

/-- The tree of a document, kept by the host. -/
structure CachedTree where
  identity : Identity
  tree : Tree
  log : Log
deriving Repr, Inhabited

/-- What is known of a document: as much as the stages gave. -/
structure Parsed where
  identity : Option Identity := none
  document : Option Document := none
  graph : Option Graph := none
  log : Log := []
  evaluations : List Tree.Evaluation := []
  fromCache : Bool := false
  entry : Option CachedTree := none
deriving Repr, Inhabited

/-- Add the graph of the tree. -/
def Parsed.withGraph (p : Parsed) (tree : Tree) : Parsed :=
  let built := Graph.ofTree tree
  { p with graph := built.graph, log := p.log ++ built.log }

namespace Workspace

variable (w : Workspace)

def treeOptions : Tree.Options :=
  { collector := w.host.collector, maxNesting := w.configuration.maxNesting }

/-- Parse a document without a tree that was kept. -/
def parseFresh (identity : Identity) (document : Document) : Parsed :=
  let validation := w.host.validate document
  let parsed : Parsed := { identity := some identity, document := some document }
  if validation.valid then
    let reading := Tree.ofDocument document w.treeOptions
    let parsed := { parsed with
      log := validation.log ++ reading.log
      evaluations := reading.consultations.filterMap (·.evaluation?) }
    match reading.value with
    | none => parsed
    | some tree =>
      -- What validation reported is not kept: it is no part of reading the tree.
      let parsed := { parsed with entry := some ⟨identity, tree, reading.log⟩ }
      parsed.withGraph tree
  else
    let fault := (Fault.invalid identity.uri).diagnostic.withPointer Pointer.root
    { parsed with log := validation.log ++ [fault] }

/-- Parse a document. A tree that was kept is used if it is that of the same document; validation
and plugins are left out then. -/
def parse (document : Document) (cached : Option CachedTree) : Parsed :=
  let identity := Identity.of document.uri document.text
  match cached.filter (·.identity = identity) with
  | some entry =>
    let parsed : Parsed := {
      identity := some identity, document := some document, log := entry.log, fromCache := true }
    parsed.withGraph entry.tree
  | none => w.parseFresh identity document

def parseHandle (handle : Handle) (cached : Option CachedTree) : Parsed :=
  match w.host.decode handle with
  | .ok document => w.parse document cached
  | .error failure =>
    { identity := some (.of handle.uri handle.text)
      log := [(Fault.decodeFailed handle.uri failure).diagnostic.withPointer Pointer.root] }

/-- Load and parse the document at a location. -/
def load (request : Request) : Parsed :=
  match w.host.load request with
  | .ok handle => w.parseHandle handle none
  | .error failure => { log := [(Fault.loadFailed request.location failure).diagnostic] }

/-- A resolver for the tokens of a document, if it has a graph, with other documents that were
loaded. -/
def resolver? (parsed : Parsed) (externals : List (Uri × Graph)) : Option Resolver :=
  parsed.graph.map fun root =>
    { env := { root, externals, settings := w.configuration.resolver }
      document := parsed.document
      transforms := w.host.transforms }

end Workspace

end DesignTokens
