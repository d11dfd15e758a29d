import DesignTokens.Json.Basic
import DesignTokens.Source
import DesignTokens.Uri.Basic

/-!
# DesignTokens.Tree.Basic — the tree of a document

A document describes a tree of collections, tokens and aliases, and a list of overrides. Every part
of the tree keeps the place it was read from.

1. **Metadata** of the document and of each node (`Tree.Metadata`).
2. **Nodes** (`Tree.Node`): a token holds a value, an alias refers to another node.
3. **Overrides** (`Override`): what replaces the value of a token under conditions. What an override
   or an entry of its fallback list has on offer is an `Offer`; the type of its references is a
   parameter, since the graph resolves them.
4. **Trees** (`Tree`), and their nodes in document order (`Tree.walk`).
-/

namespace DesignTokens

/-! ## Metadata -/

/-- Whether a node is deprecated, and the reference to what replaces it. -/
structure Tree.Deprecation where
  active : Bool
  replacement : Option (Field String)
deriving Repr, DecidableEq, Inhabited

/-- What a document says about a node apart from its value. -/
structure Tree.Metadata where
  description : Option (Field String) := none
  extensions : List (String × Field Json) := []
  deprecated : Option (Field Tree.Deprecation) := none
  lastModified : Option (Field String) := none
  lastUsed : Option (Field String) := none
  usageCount : Option (Field Nat) := none
  author : Option (Field String) := none
  tags : List (Field String) := []
  hash : Option (Field String) := none
deriving Repr, Inhabited

namespace Tree.Metadata

def isEmpty (m : Metadata) : Bool :=
  m.description.isNone && m.extensions.isEmpty && m.deprecated.isNone && m.lastModified.isNone &&
    m.lastUsed.isNone && m.usageCount.isNone && m.author.isNone && m.tags.isEmpty && m.hash.isNone

/-- The reference to the replacement of a node that is deprecated. -/
def replacement? (m : Metadata) : Option (Field String) :=
  match m.deprecated with
  | some d => if d.value.active then d.value.replacement else none
  | none => none

end Tree.Metadata

/-! ## Nodes -/

/-- What nodes of all kinds have. -/
structure Tree.NodeInfo where
  name : String
  pointer : Pointer
  span : Option Span
  metadata : Tree.Metadata
deriving Repr, Inhabited

inductive Tree.Node where
  | collection (info : Tree.NodeInfo) (children : List Tree.Node)
  | token (info : Tree.NodeInfo) (type : Option (Field String)) (value : Option (Field Json))
  | aliasTo (info : Tree.NodeInfo) (type : Field String) (reference : Field String)
deriving Repr, Inhabited

namespace Tree.Node

def info : Node → NodeInfo
  | .collection info _ => info
  | .token info _ _ => info
  | .aliasTo info _ _ => info

def pointer (n : Node) : Pointer :=
  n.info.pointer

def name (n : Node) : String :=
  n.info.name

def span (n : Node) : Option Span :=
  n.info.span

def metadata (n : Node) : Metadata :=
  n.info.metadata

mutual

/-- The node and all nodes below it, each before the nodes below it. -/
def walk : Node → List Node
  | .collection info children => .collection info children :: walkList children
  | node => [node]

/-- The nodes of a list and all nodes below them. -/
def walkList : List Node → List Node
  | [] => []
  | node :: rest => walk node ++ walkList rest

end

end Tree.Node

/-! ## Overrides -/

/-- What an override or a fallback entry offers: a reference, a value, and further offers to fall
back on, to be tried in this order. -/
inductive Offer (ρ : Type) where
  | mk (pointer : Pointer) (span : Option Span) (reference : Option ρ) (value : Option (Field Json))
      (fallback : List (Offer ρ))
deriving Repr, Inhabited

namespace Offer

variable {ρ : Type}

def pointer : Offer ρ → Pointer
  | .mk pointer _ _ _ _ => pointer

def span : Offer ρ → Option Span
  | .mk _ span _ _ _ => span

def reference : Offer ρ → Option ρ
  | .mk _ _ reference _ _ => reference

def value : Offer ρ → Option (Field Json)
  | .mk _ _ _ value _ => value

def fallback : Offer ρ → List (Offer ρ)
  | .mk _ _ _ _ fallback => fallback

end Offer

/-- A replacement for the value of a token that applies under conditions on the context. -/
structure Override (ρ : Type) where
  token : ρ
  conditions : Field Json.Members
  offer : Offer ρ
deriving Repr, Inhabited

namespace Override

variable {ρ : Type}

def pointer (o : Override ρ) : Pointer :=
  o.offer.pointer

def span (o : Override ρ) : Option Span :=
  o.offer.span

end Override

/-! ## Trees -/

/-- The tree of a document. -/
structure Tree where
  uri : Uri
  pointer : Pointer
  span : Option Span
  schema : Option (Field String)
  version : Option (Field String)
  metadata : Tree.Metadata
  children : List Tree.Node
  overrides : List (Override (Field String))
deriving Repr, Inhabited

/-- All nodes in document order. -/
def Tree.walk (tree : Tree) : List Tree.Node :=
  Tree.Node.walkList tree.children

end DesignTokens
