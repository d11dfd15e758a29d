import DesignTokens.Resolution.Basic
import DesignTokens.Resolution.Environment
import DesignTokens.TokenType

/-!
# DesignTokens.Resolution.Evaluation — one node at a time

What a node evaluates to, given the means to go one level deeper: to visit another node, and to try
a fallback list. The way in which deeper levels are visited is left open, so that it can be the
plain recursion as well as one that remembers.

1. **Candidates**: what an override offers is tried in order, and the first usable value is taken
   (`firstUsable`, `tryOffer`, `tryEntries`).
2. **Tokens and aliases** (`tokenState`, `aliasState`), an override on top (`overriden`), and the
   check of the replacement of a deprecated node (`replacementFault?`).
3. **Nodes** (`evaluate`).
-/

namespace DesignTokens.Resolution

/-! ## Candidates -/

/-- A usable value for a token, with its provenance. -/
structure Payload where
  value : Json
  source : Option Source
  type : Option String := none
  trace : List Step := []
  applied : List Applied := []
  log : Log := []
  truncated : Bool := false
deriving Repr, Inhabited

/-- Why there is no usable value. -/
structure Failure where
  log : Log := []
  truncated : Bool := false
deriving Repr, Inhabited

/-- What was reported for one candidate, then for those after it. -/
def Failure.merge (x y : Failure) : Failure :=
  ⟨x.log ++ y.log, x.truncated || y.truncated⟩

abbrev Outcome := Except Failure Payload

/-- Go one level deeper: visit a node of a document, or try the fallback list of the override or
entry at a pointer for a token of a type. -/
structure Deeper (m : Type → Type) where
  visit : Graph → Pointer → m State
  fallback : Graph → Option String → Pointer → List (Offer Reference) → m Outcome

variable {m : Type → Type} [Monad m]

/-- Visit the node that a reference in a document leads to. -/
def Deeper.follow (deeper : Deeper m) (env : Environment) (g : Graph) (reference : Reference) :
    m State :=
  match env.follow g reference with
  | .ok target => deeper.visit target reference.target.pointer
  | .error fault => pure (.unresolved true (fault.atReference reference))

/-- The first usable value; what was reported for the candidates before it is dropped. -/
def firstUsable : List (m Outcome) → m Outcome
  | [] => pure (.error {})
  | candidate :: rest => do
    match ← candidate with
    | .ok payload => pure (.ok payload)
    | .error failure => do
      let outcome ← firstUsable rest
      pure (outcome.mapError failure.merge)

/-- The report if the target of an override's reference has another type than the token. -/
def overrideTypeFault? (type : Option String) (reference : Reference) (actual : Option String) :
    Option Diagnostic :=
  match type, actual with
  | some expected, some actual =>
    if TokenType.agree expected actual then none
    else some ((Fault.overrideType reference.raw actual expected).atReference reference)
  | _, _ => none

/-- The value of the target of a reference, for a token of a type. -/
def targetOutcome (type : Option String) (reference : Reference) (target : State) : Outcome :=
  match target.value with
  | some value => .ok {
      value, source := target.source, type := target.type, trace := target.trace
      applied := target.applied
      log := target.log ++ (overrideTypeFault? type reference target.type).toList
      truncated := target.truncated }
  | none => .error ⟨target.log, target.truncated⟩

/-- A value that is written out, for a token of a type. -/
def valueOutcome (g : Graph) (type : Option String) (field : Field Json) : Outcome :=
  match type.filter fun type => !TokenType.admits type field.value with
  | none => .ok { value := field.value, source := some (.ofField g.uri field) }
  | some type =>
    .error { log := [(Fault.badValue field.pointer type).located field.pointer field.span] }

/-- Try a reference, then a value, then a fallback list, as far as they are on offer. -/
def tryOffer (deeper : Deeper m) (env : Environment) (g : Graph) (type : Option String)
    (offer : Offer Reference) : m Outcome :=
  firstUsable (
    (offer.reference.toList.map fun reference => do
      let target ← deeper.follow env g reference
      pure (targetOutcome type reference target)) ++
    (offer.value.toList.map fun field => pure (valueOutcome g type field)) ++
    -- A list that is not there is not reported as exhausted.
    (if offer.fallback.isEmpty then []
      else [deeper.fallback g type offer.pointer offer.fallback]))

/-- A payload that an entry of a fallback list gave. -/
def Payload.throughEntry (p : Payload) (g : Graph) (entry : Offer Reference) : Payload :=
  { p with
    trace := ⟨entry.pointer, g.uri, .fallback, entry.span⟩ :: p.trace
    applied := ⟨entry.pointer, .fallback, p.source⟩ :: p.applied }

/-- Try the entries of a fallback list, which belongs to the override or entry at a pointer. -/
def tryEntries (deeper : Deeper m) (env : Environment) (g : Graph) (type : Option String)
    (owner : Pointer) (entries : List (Offer Reference)) : m Outcome :=
  firstUsable (
    (entries.map fun entry => do
      let outcome ← tryOffer deeper env g type entry
      pure (outcome.map (·.throughEntry g entry))) ++
    [pure (.error { log := [(Fault.fallbackExhausted owner).located owner none] })])

/-! ## Tokens and aliases -/

/-- The state of a token with the given type and value. -/
def tokenState (g : Graph) (node : Graph.Node) (type : Option (Field String))
    (value : Option (Field Json)) : State :=
  { type := type.map (·.value)
    value := value.map (·.value)
    source := value.map (.ofField g.uri)
    trace := [⟨node.pointer, g.uri, .token, node.span⟩]
    log :=
      if value.isSome then []
      else [(Fault.missingValue node.pointer).located node.pointer node.span] }

/-- The report if the target of an alias has a value of another type than the alias. -/
def aliasTypeFault? (node : Graph.Node) (type : Field String) (reference : Reference)
    (target : State) : Option Diagnostic :=
  match target.type, target.value with
  | some actual, some _ =>
    if TokenType.agree type.value actual then none
    else some ((Fault.aliasType node.pointer type.value reference.raw actual).located
      type.pointer type.span)
  | _, _ => none

/-- The state of an alias, given that of its target. -/
def aliasState (g : Graph) (node : Graph.Node) (type : Field String) (reference : Reference)
    (target : State) : State :=
  { type := some type.value
    value := target.value
    source := target.source
    applied := target.applied
    trace := ⟨node.pointer, g.uri, .aliasTo, node.span⟩ :: target.trace
    log := target.log ++ (aliasTypeFault? node type reference target).toList
    truncated := target.truncated }

/-! ## Overrides -/

/-- A state after an override gave a value. -/
def State.replaceBy (s : State) (g : Graph) (entry : Override Reference) (p : Payload) : State :=
  { s with
    type := p.type.or s.type
    value := some p.value
    source := p.source
    applied := s.applied ++ ⟨entry.pointer, .override, p.source⟩ :: p.applied
    trace := s.trace ++ ⟨entry.pointer, g.uri, .override, entry.span⟩ :: p.trace
    log := s.log ++ p.log
    truncated := s.truncated || p.truncated }

/-- A state after an override of the given node gave none: it keeps its value. -/
def State.keepDespite (s : State) (pointer : Pointer) (entry : Override Reference) (f : Failure) :
    State :=
  { s with
    log := s.log ++ f.log ++ [(Fault.overrideFailed pointer).located entry.pointer entry.span]
    truncated := s.truncated || f.truncated }

/-- Apply the override of a node, if there is one for the context. -/
def applyOverride (deeper : Deeper m) (env : Environment) (g : Graph) (pointer : Pointer)
    (s : State) : m State :=
  match env.override? g pointer with
  | none => pure s
  | some entry => do
    match ← tryOffer deeper env g s.type entry.offer with
    | .ok payload => pure (s.replaceBy g entry payload)
    | .error failure => pure (s.keepDespite pointer entry failure)

/-! ## Replacements -/

/-- What is wrong with the replacement of a node that resolved to a type. -/
def replacementFault? (env : Environment) (g : Graph) (node : Graph.Node) (reference : Reference)
    (type : String) : Option Fault :=
  match env.follow g reference with
  | .error fault => some fault
  | .ok target =>
    match target.node? reference.target.pointer with
    | none => some (.unknownReplacement reference.raw)
    | some replacement =>
      if replacement.isCollection then some (.collectionReplacement reference.raw)
      else
        match replacement.type.filter fun declared => !TokenType.agree type declared.value with
        | none => none
        | some declared =>
          some (.replacementType reference.raw declared.value node.pointer type)

/-- The report on the replacement of a node, if it has one and resolved to a type. -/
def checkReplacement (env : Environment) (g : Graph) (node : Graph.Node) (s : State) : State :=
  match node.replacement, s.type with
  | some reference, some type =>
    s.report ((replacementFault? env g node reference type).toList.map (·.atReference reference))
  | _, _ => s

/-! ## Nodes -/

/-- The state of a token or an alias, given the one that it has without overrides. -/
def finish (deeper : Deeper m) (env : Environment) (g : Graph) (node : Graph.Node) (s : State) :
    m State := do
  let s ← applyOverride deeper env g node.pointer s
  pure (checkReplacement env g node s)

/-- Evaluate the node of a document at a pointer. -/
def evaluate (deeper : Deeper m) (env : Environment) (g : Graph) (pointer : Pointer) : m State :=
  match g.node? pointer with
  | none => pure (.unresolved false ((Fault.unknownPointer pointer g.uri).located pointer none))
  | some node =>
    match node.content with
    | .collection _ =>
      pure (.unresolved false ((Fault.collection pointer).located pointer node.span))
    | .token type value => finish deeper env g node (tokenState g node type value)
    | .aliasTo type reference => do
      let target ← deeper.follow env g reference
      finish deeper env g node (aliasState g node type reference target)

end DesignTokens.Resolution
