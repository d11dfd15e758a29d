import DesignTokens.Condition
import DesignTokens.Graph.Basic
import DesignTokens.Resolution.Fault

/-!
# DesignTokens.Resolution.Environment — what tokens are resolved against

The document and the other documents that were loaded, the context for the conditions of overrides,
and the limits. Documents from the network may be loaded and are still not followed unless this is
allowed.
-/

namespace DesignTokens.Resolution

/-- How tokens are resolved. -/
structure Settings where
  context : Json.Members := []
  maxDepth : Nat := 32
  allowNetwork : Bool := false
deriving Repr, Inhabited

/-- What tokens are resolved against. Other documents are found by their URI; a later entry hides
an earlier one of the same URI, and stands before it. -/
structure Environment where
  root : Graph
  externals : List (Uri × Graph)
  settings : Settings
deriving Repr, Inhabited

namespace Environment

def external? (env : Environment) (uri : Uri) : Option Graph :=
  env.externals.lookup uri

/-- The document that a reference in a document leads to. -/
def follow (env : Environment) (g : Graph) (reference : Reference) : Except Fault Graph :=
  let target := reference.target
  if !target.external then .ok g
  -- This comes before the look at what is loaded: a document may be loaded and still be forbidden.
  else if target.isNetwork && !env.settings.allowNetwork then .error (.networkForbidden target)
  else if target.uri = env.root.uri then .ok env.root
  else match env.external? target.uri with
    | some other => .ok other
    | none => .error (.notLoaded target.uri)

/-- Whether the conditions of an override hold in the context. -/
def enables (env : Environment) (entry : Override Reference) : Bool :=
  (Conditions.ofMembers entry.conditions.value).hold env.settings.context

/-- The override that applies to a node: the last one whose conditions hold. -/
def override? (env : Environment) (g : Graph) (pointer : Pointer) : Option (Override Reference) :=
  ((g.overridesFor pointer).filter env.enables).getLast?

end Environment

end DesignTokens.Resolution
