import DesignTokens.Graph.Basic

/-!
# DesignTokens.Resolution.Basic — what resolving a token gives

1. **Provenance**: where a value is written (`Resolution.Source`), the steps on the way to it
   (`Resolution.Step`), and the overrides that were applied (`Resolution.Applied`).
2. **Tokens** (`Resolution.Token`): the resolved token.
3. **States** (`Resolution.State`): what is known of a node when its evaluation is done. It has a
   value, or reports why not.
-/

namespace DesignTokens.Resolution

/-! ## Provenance -/

/-- Where a value is written. -/
structure Source where
  uri : Uri
  pointer : Pointer
  span : Option Span
deriving Repr, DecidableEq, Inhabited

/-- The source of a value that is written in the document with the given URI. -/
def Source.ofField {α : Type} (uri : Uri) (field : Field α) : Source :=
  ⟨uri, field.pointer, field.span⟩

inductive Step.Kind where
  | token
  | aliasTo
  | override
  | fallback
deriving Repr, DecidableEq, Inhabited

/-- A step on the way to a value: a node, an override or an entry of a fallback list. -/
structure Step where
  pointer : Pointer
  uri : Uri
  kind : Step.Kind
  span : Option Span
deriving Repr, DecidableEq, Inhabited

inductive Applied.Kind where
  | override
  | fallback
deriving Repr, DecidableEq, Inhabited

/-- An override or an entry of a fallback list that contributed to a value. -/
structure Applied where
  pointer : Pointer
  kind : Applied.Kind
  source : Option Source
deriving Repr, DecidableEq, Inhabited

/-! ## Tokens -/

/-- A resolved token. It has no value if the way to it failed. -/
structure Token where
  pointer : Pointer
  uri : Uri
  type : Option String
  value : Option Json
  source : Option Source
  applied : List Applied
  warnings : Log
  trace : List Step
deriving Repr, Inhabited

/-! ## States -/

/-- What is known of a node when its evaluation is done. It is found if its pointer names a token
or an alias, and truncated if the limit for the depth cut off a way that counts. -/
structure State where
  found : Bool := true
  type : Option String := none
  value : Option Json := none
  source : Option Source := none
  applied : List Applied := []
  trace : List Step := []
  log : Log := []
  truncated : Bool := false
deriving Repr, Inhabited

namespace State

/-- A state without a value, for the given reason. -/
def unresolved (found : Bool) (reason : Diagnostic) : State :=
  { found, log := [reason] }

def report (s : State) (log : Log) : State :=
  { s with log := s.log ++ log }

def token (s : State) (uri : Uri) (pointer : Pointer) : Token :=
  { pointer, uri, type := s.type, value := s.value, source := s.source, applied := s.applied
    warnings := s.log.warnings, trace := s.trace }

end State

end DesignTokens.Resolution
