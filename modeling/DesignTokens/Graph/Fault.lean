import DesignTokens.Graph.Reference

/-!
# DesignTokens.Graph.Fault — what can be wrong with a tree

Every fault has a code and a wording (`Graph.Fault.code`, `Graph.Fault.message`).
-/

namespace DesignTokens.Graph

/-- A fault found while the graph of a tree is built. -/
inductive Fault where
  /-- The URI of the document is none to resolve references against. -/
  | uriWithoutBase (uri : Uri)
  | duplicatePointer (pointer : Pointer)
  | badReference (fault : Reference.Fault)
  /-- An override of a token of another document. -/
  | externalOverride (raw : String)
  | missingTarget (raw : String)
  /-- A reference to a collection. -/
  | collectionTarget (raw : String)
deriving Repr, DecidableEq

namespace Fault

def code : Fault → Code
  | .uriWithoutBase _ => .invalidDocumentUri
  | .duplicatePointer _ => .duplicatePointer
  | .badReference fault => fault.code
  | .externalOverride _ => .externalOverrideTarget
  | .missingTarget _ => .missingTarget
  | .collectionTarget _ => .invalidTargetKind

def message : Fault → String
  | .uriWithoutBase uri => s!"document URI '{uri.text}' cannot anchor relative references"
  | .duplicatePointer pointer => s!"pointer {pointer.text} is declared more than once"
  | .badReference fault => fault.message
  | .externalOverride raw =>
    s!"override target {raw} is outside this document; override ignored"
  | .missingTarget raw => s!"reference {raw} does not resolve to any node"
  | .collectionTarget raw =>
    s!"reference {raw} points at a collection; expected a token or alias"

def diagnostic (fault : Fault) (pointer : Pointer) (span : Option Span) : Diagnostic :=
  (Diagnostic.new fault.code fault.message).located pointer span

end Fault

end DesignTokens.Graph
