import DesignTokens.Encoding.Tree
import DesignTokens.Graph.Basic

/-!
# DesignTokens.Encoding.Graph — references as JSON

An optional part that is absent is left out.
-/

namespace DesignTokens

def Reference.Target.toJson (t : Reference.Target) : Json :=
  .object [("uri", t.uri.toJson), ("pointer", t.pointer.toJson), ("external", .bool t.external)]

def Reference.toJson (r : Reference) : Json :=
  .record [("target", some r.target.toJson), ("raw", some (.string r.raw)),
    ("pointer", some r.pointer.toJson), ("span", r.span.map Span.toJson)]

end DesignTokens
