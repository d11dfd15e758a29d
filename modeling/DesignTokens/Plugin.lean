/-!
# DesignTokens.Plugin — failures of the host's parts

Loaders, decoders and plugins belong to the host. When one of them fails it gives a chain of
causes, the outermost first.
-/

namespace DesignTokens

/-- A failure of a part of the host: its causes, from the outermost inwards. -/
structure HostFailure where
  causes : List String
deriving Repr, DecidableEq, Inhabited

def HostFailure.text (f : HostFailure) : String :=
  String.intercalate ": " f.causes

end DesignTokens
