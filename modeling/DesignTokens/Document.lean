import DesignTokens.Json.Basic
import DesignTokens.Source
import DesignTokens.Uri.Basic

/-!
# DesignTokens.Document — documents before and after decoding
-/

namespace DesignTokens

/-- The text of a document, as a loader delivers it. -/
structure Handle where
  uri : Uri
  text : String
deriving Repr, DecidableEq, Inhabited

/-- A decoded document: its data, and where each value stands in its text. -/
structure Document where
  uri : Uri
  text : String
  data : Json
  sourceMap : SourceMap
deriving Repr, Inhabited

end DesignTokens
