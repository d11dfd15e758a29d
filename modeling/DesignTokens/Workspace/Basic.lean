import DesignTokens.CacheKey
import DesignTokens.Configuration.Basic
import DesignTokens.Document
import DesignTokens.Resolution.Transform
import DesignTokens.Tree.Reading

/-!
# DesignTokens.Workspace.Basic — the host of a workspace

Fetching, decoding and validating documents is up to the host, and so are plugins. A workspace puts
a host together with a configuration.

1. **Hosts** (`Host`): each part is a function of what it is given.
2. **Workspaces** (`Workspace`).
3. **Faults** (`Workspace.Fault`): what can go wrong on the way from a location to a graph.
-/

namespace DesignTokens

/-- What a host says about the structure of a document. -/
structure Validation where
  valid : Bool := true
  log : Log := []
deriving Repr, Inhabited

/-- A request for a document: where it is, as a text that may be relative to a base. -/
structure Request where
  location : String
  base : Option Uri
deriving Repr, DecidableEq, Inhabited

/-- The parts of a host. -/
structure Host where
  load : Request → Except HostFailure Handle
  decode : Handle → Except HostFailure Document
  validate : Document → Validation := fun _ => {}
  collector : Option Tree.Collector := none
  transforms : List Resolution.Transform := []

/-- A host with a configuration. -/
structure Workspace where
  host : Host
  configuration : Configuration := {}

namespace Workspace

/-- A fault on the way from a location to a graph. -/
inductive Fault where
  | loadFailed (location : String) (failure : HostFailure)
  | decodeFailed (uri : Uri) (failure : HostFailure)
  | invalid (uri : Uri)
  | networkSkipped (uri : Uri)
  | tooManyDocuments (limit : Nat) (uri : Uri)
deriving Repr, DecidableEq

namespace Fault

def code : Fault → Code
  | .loadFailed _ _ => .loadFailed
  | .decodeFailed _ _ => .decodeFailed
  | .invalid _ => .schemaInvalid
  | .networkSkipped _ => .networkReferenceSkipped
  | .tooManyDocuments _ _ => .documentLimit

def message : Fault → String
  | .loadFailed location failure => s!"failed to load {location}: {failure.text}"
  | .decodeFailed uri failure => s!"failed to decode {uri.text}: {failure.text}"
  | .invalid uri => s!"{uri.text} failed schema validation"
  | .networkSkipped uri =>
    s!"network document {uri.text} not loaded; network references are disabled"
  | .tooManyDocuments limit uri =>
    s!"external document limit of {limit} reached; {uri.text} and later documents skipped"

def diagnostic (fault : Fault) : Diagnostic :=
  Diagnostic.new fault.code fault.message

end Fault

end Workspace

end DesignTokens
