import DesignTokens.Graph.Reference

/-!
# DesignTokens.Resolution.Fault — what can go wrong while a token is resolved

Every fault has a code and a wording (`Resolution.Fault.code`, `Resolution.Fault.message`).
-/

namespace DesignTokens.Resolution

/-- A fault found while a token is resolved. -/
inductive Fault where
  | badPointer (error : Pointer.Error)
  | unknownPointer (pointer : Pointer) (uri : Uri)
  /-- A collection where a token is asked for. -/
  | collection (pointer : Pointer)
  /-- A node that is met again on the way to its own value. -/
  | cycle (pointer : Pointer)
  /-- A node that is too many levels down. -/
  | tooDeep (pointer : Pointer) (limit : Nat)
  /-- A fallback list that is too many levels down. -/
  | fallbackTooDeep (owner : Pointer) (limit : Nat)
  | missingValue (pointer : Pointer)
  | networkForbidden (target : Reference.Target)
  | notLoaded (uri : Uri)
  /-- An alias of one type that leads to a value of another. -/
  | aliasType (pointer : Pointer) (declared raw actual : String)
  /-- A reference of an override that leads to a value of another type. -/
  | overrideType (raw actual expected : String)
  | badValue (pointer : Pointer) (type : String)
  | fallbackExhausted (owner : Pointer)
  | overrideFailed (pointer : Pointer)
  | unknownReplacement (raw : String)
  | collectionReplacement (raw : String)
  | replacementType (raw declared : String) (pointer : Pointer) (actual : String)
deriving Repr, DecidableEq

namespace Fault

def code : Fault → Code
  | .badPointer _ => .resolverInvalidPointer
  | .unknownPointer _ _ => .unknownPointer
  | .collection _ => .invalidNodeKind
  | .cycle _ => .cycleDetected
  | .tooDeep _ _ => .maxDepthExceeded
  | .fallbackTooDeep _ _ => .maxDepthExceeded
  | .missingValue _ => .missingBaseValue
  | .networkForbidden _ => .externalReference
  | .notLoaded _ => .externalReference
  | .aliasType _ _ _ _ => .targetTypeMismatch
  | .overrideType _ _ _ => .targetTypeMismatch
  | .badValue _ _ => .invalidOverrideValue
  | .fallbackExhausted _ => .fallbackExhausted
  | .overrideFailed _ => .overrideFailed
  | .unknownReplacement _ => .unknownPointer
  | .collectionReplacement _ => .invalidNodeKind
  | .replacementType _ _ _ _ => .targetTypeMismatch

def message : Fault → String
  | .badPointer error => error.message
  | .unknownPointer pointer uri => s!"{pointer.text} does not exist in {uri.text}"
  | .collection pointer => s!"{pointer.text} is a collection and has no value"
  | .cycle pointer => s!"reference cycle detected at {pointer.text}"
  | .tooDeep pointer limit =>
    s!"resolution of {pointer.text} exceeds the maximum depth of {limit}"
  | .fallbackTooDeep owner limit =>
    s!"fallback chain of {owner.text} exceeds the maximum depth of {limit}"
  | .missingValue pointer => s!"token {pointer.text} declares no $value"
  | .networkForbidden target => s!"network reference {target.text} is not allowed"
  | .notLoaded uri => s!"external document {uri.text} is not loaded"
  | .aliasType pointer declared raw actual =>
    s!"alias {pointer.text} declares type '{declared}' but {raw} resolves to '{actual}'"
  | .overrideType raw actual expected =>
    s!"override reference {raw} resolves to '{actual}' but the token is '{expected}'"
  | .badValue pointer type => s!"value at {pointer.text} is not a valid '{type}'"
  | .fallbackExhausted owner => s!"no fallback entry of {owner.text} produced a usable value"
  | .overrideFailed pointer =>
    s!"override for {pointer.text} matched but produced no usable value"
  | .unknownReplacement raw => s!"replacement {raw} does not exist"
  | .collectionReplacement raw => s!"replacement {raw} is a collection, not a token"
  | .replacementType raw declared pointer actual =>
    s!"replacement {raw} is '{declared}' but {pointer.text} is '{actual}'"

def diagnostic (fault : Fault) : Diagnostic :=
  Diagnostic.new fault.code fault.message

def located (fault : Fault) (pointer : Pointer) (span : Option Span) : Diagnostic :=
  fault.diagnostic.located pointer span

/-- The diagnostic for a fault where a reference was read from. -/
def atReference (fault : Fault) (reference : Reference) : Diagnostic :=
  fault.located reference.pointer reference.span

end Fault

end DesignTokens.Resolution
