import DesignTokens.Encoding.Report
import DesignTokens.Resolution.Environment

/-!
# DesignTokens.Configuration.Basic — what can be configured

The settings for resolving tokens, and the limits for reading and loading documents, with their
defaults (`Configuration`). The object of a configuration (`Configuration.toJson`) has a section for
each of the three.
-/

namespace DesignTokens

/-- How documents are read, loaded and resolved. -/
structure Configuration where
  resolver : Resolution.Settings := {}
  /-- The limit for nesting in a document. -/
  maxNesting : Nat := 256
  /-- The limit for the number of other documents that are loaded. -/
  maxDocuments : Nat := 256
deriving Repr, Inhabited

/-- The section for resolving tokens. -/
def Resolution.Settings.toJson (s : Resolution.Settings) : Json :=
  .object [("max_depth", .nat s.maxDepth), ("allow_network_references", .bool s.allowNetwork),
    ("context", .object s.context)]

namespace Configuration

def sections (c : Configuration) : Json.Members :=
  [("resolver", c.resolver.toJson), ("normalizer", .object [("max_nesting", .nat c.maxNesting)]),
    ("crawl", .object [("max_documents", .nat c.maxDocuments)])]

def toJson (c : Configuration) : Json :=
  .object c.sections

end Configuration

end DesignTokens
