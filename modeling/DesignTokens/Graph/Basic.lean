import DesignTokens.Graph.Reference
import DesignTokens.Tree.Basic

/-!
# DesignTokens.Graph.Basic — the graph of a document

The nodes of a document with the references between them. A node is found by its pointer, which no
other node of the graph has.

1. **Nodes** (`Graph.Node`): a collection lists the pointers of its children, an alias has the
   reference that its text stands for.
2. **Graphs** (`Graph`): the nodes in document order, an edge for each reference inside the document
   that leads to a token or an alias, and the overrides.
3. **Questions**: `Graph.node?`, `Graph.outgoing`, `Graph.incoming`, `Graph.overridesFor`,
   `Graph.externalReferences`.
-/

namespace DesignTokens

/-! ## Nodes -/

/-- What a node is. -/
inductive Graph.Content where
  | collection (children : List Pointer)
  | token (type : Option (Field String)) (value : Option (Field Json))
  | aliasTo (type : Field String) (reference : Reference)
deriving Repr, Inhabited

structure Graph.Node where
  name : String
  pointer : Pointer
  span : Option Span
  parent : Option Pointer
  metadata : Tree.Metadata
  replacement : Option Reference
  content : Graph.Content
deriving Repr, Inhabited

namespace Graph

def Content.kindText : Content → String
  | .collection _ => "collection"
  | .token _ _ => "token"
  | .aliasTo _ _ => "alias"

/-- Whether a node is a collection; references may lead to all others. -/
def Node.isCollection (n : Node) : Bool :=
  match n.content with
  | .collection _ => true
  | _ => false

/-- The type that is declared on a token or an alias. -/
def Node.type (n : Node) : Option (Field String) :=
  match n.content with
  | .collection _ => none
  | .token type _ => type
  | .aliasTo type _ => some type

def Node.aliasReference? (n : Node) : Option Reference :=
  match n.content with
  | .aliasTo _ reference => some reference
  | _ => none

def lookup? (nodes : List Node) (pointer : Pointer) : Option Node :=
  nodes.find? (·.pointer = pointer)

end Graph

/-! ## References of an override -/

namespace Offer

variable {ρ : Type}

mutual

/-- Every reference that an offer may lead to, in the order in which they are tried. -/
def references : Offer ρ → List ρ
  | .mk _ _ reference _ fallback => reference.toList ++ referencesOf fallback

/-- Every reference that a list of offers may lead to. -/
def referencesOf : List (Offer ρ) → List ρ
  | [] => []
  | offer :: rest => references offer ++ referencesOf rest

end

end Offer

/-! ## Graphs -/

/-- A reference from one node to another one of the same document. -/
structure Graph.Edge where
  source : Pointer
  target : Pointer
  kind : Reference.Kind
deriving Repr, DecidableEq, Inhabited

/-- The graph of a document. -/
structure Graph where
  uri : Uri
  nodes : List Graph.Node
  edges : List Graph.Edge
  roots : List Pointer
  overrides : List (Override Reference)
deriving Repr, Inhabited

namespace Graph

def node? (g : Graph) (pointer : Pointer) : Option Node :=
  lookup? g.nodes pointer

/-- The pointers of all nodes, in document order. -/
def pointers (g : Graph) : List Pointer :=
  g.nodes.map (·.pointer)

/-- The pointers of all tokens and aliases, in document order. -/
def tokens (g : Graph) : List Pointer :=
  (g.nodes.filter (!·.isCollection)).map (·.pointer)

/-- The nodes that a node refers to, with the kind of the reference, the latest edge first. -/
def outgoing (g : Graph) (pointer : Pointer) : List (Pointer × Reference.Kind) :=
  (g.edges.filter (·.source = pointer)).reverse.map fun e => (e.target, e.kind)

/-- The nodes that refer to a node, with the kind of the reference, the latest edge first. -/
def incoming (g : Graph) (pointer : Pointer) : List (Pointer × Reference.Kind) :=
  (g.edges.filter (·.target = pointer)).reverse.map fun e => (e.source, e.kind)

/-- The overrides of a token, in document order. -/
def overridesFor (g : Graph) (pointer : Pointer) : List (Override Reference) :=
  g.overrides.filter (·.token.target.pointer = pointer)

/-- Every reference of a node: of an alias, then to a replacement. -/
def Node.references (n : Node) : List Reference :=
  n.aliasReference?.toList ++ n.replacement.toList

/-- Every reference to another document: those of the nodes, then those of the overrides. -/
def externalReferences (g : Graph) : List Reference :=
  (g.nodes.flatMap Node.references ++ g.overrides.flatMap (·.offer.references)).filter
    (·.target.external)

end Graph

end DesignTokens
