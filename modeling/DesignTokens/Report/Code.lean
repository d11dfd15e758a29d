/-!
# DesignTokens.Report.Code — the kinds of diagnostics

1. **Severities**, in ascending order.
2. **Codes**: one for every kind of problem, each with the text that identifies it
   (`Code.text`), the stage that reports it (`Code.stage`) and its usual severity
   (`Code.severity`).
3. **Reading**: `Code.ofText?` finds the code of a text.
-/

namespace DesignTokens

inductive Severity where
  | info
  | warning
  | error
deriving Repr, DecidableEq, Inhabited

namespace Severity

def text : Severity → String
  | .info => "info"
  | .warning => "warning"
  | .error => "error"

def rank : Severity → Nat
  | .info => 0
  | .warning => 1
  | .error => 2

def max (x y : Severity) : Severity :=
  if x.rank < y.rank then y else x

end Severity

/-- The kind of a diagnostic. -/
inductive Code where
  | invalidRoot
  | invalidNode
  | invalidType
  | invalidRef
  | aliasMissingType
  | conflictingValue
  | missingValue
  | tokenHasChildren
  | unknownProperty
  | invalidSchema
  | invalidVersion
  | invalidDescription
  | invalidExtensions
  | invalidExtensionNamespace
  | invalidDeprecated
  | invalidTimestamp
  | invalidUsageCount
  | lastUsedWithoutUsage
  | usageWithoutLastUsed
  | lastUsedBeforeModified
  | invalidAuthor
  | invalidTags
  | duplicateTag
  | invalidHash
  | misplacedOverrides
  | invalidOverrides
  | invalidOverride
  | overrideMissingToken
  | overrideInvalidWhen
  | overrideConflict
  | overrideMissingPayload
  | invalidFallback
  | fallbackConflict
  | fallbackMissingPayload
  | normaliserInternalError
  | invalidDocumentUri
  | duplicatePointer
  | invalidReference
  | invalidPointer
  | missingTarget
  | invalidTargetKind
  | externalOverrideTarget
  | resolverInvalidPointer
  | unknownPointer
  | invalidNodeKind
  | cycleDetected
  | maxDepthExceeded
  | missingBaseValue
  | targetTypeMismatch
  | externalReference
  | invalidOverrideValue
  | overrideFailed
  | fallbackExhausted
  | extensionFailed
  | transformFailed
  | loadFailed
  | decodeFailed
  | schemaInvalid
  | networkReferenceSkipped
  | documentLimit
deriving Repr, DecidableEq, Inhabited

namespace Code

/-- All codes, stage by stage. -/
def all : List Code :=
  [.invalidRoot, .invalidNode, .invalidType, .invalidRef, .aliasMissingType, .conflictingValue,
   .missingValue, .tokenHasChildren, .unknownProperty, .invalidSchema, .invalidVersion,
   .invalidDescription, .invalidExtensions, .invalidExtensionNamespace, .invalidDeprecated,
   .invalidTimestamp, .invalidUsageCount, .lastUsedWithoutUsage, .usageWithoutLastUsed,
   .lastUsedBeforeModified, .invalidAuthor, .invalidTags, .duplicateTag, .invalidHash,
   .misplacedOverrides, .invalidOverrides, .invalidOverride, .overrideMissingToken,
   .overrideInvalidWhen, .overrideConflict, .overrideMissingPayload, .invalidFallback,
   .fallbackConflict, .fallbackMissingPayload, .normaliserInternalError, .invalidDocumentUri,
   .duplicatePointer, .invalidReference, .invalidPointer, .missingTarget, .invalidTargetKind,
   .externalOverrideTarget, .resolverInvalidPointer, .unknownPointer, .invalidNodeKind,
   .cycleDetected, .maxDepthExceeded, .missingBaseValue, .targetTypeMismatch, .externalReference,
   .invalidOverrideValue, .overrideFailed, .fallbackExhausted, .extensionFailed,
   .transformFailed, .loadFailed, .decodeFailed, .schemaInvalid, .networkReferenceSkipped,
   .documentLimit]

inductive Stage where
  | normaliser
  | graph
  | resolver
  | plugin
  | loader
deriving Repr, DecidableEq, Inhabited

def Stage.text : Stage → String
  | .normaliser => "normaliser"
  | .graph => "graph"
  | .resolver => "resolver"
  | .plugin => "plugin"
  | .loader => "loader"

/-- The stage a code belongs to and the name of the code there. -/
def parts : Code → Stage × String
  | .invalidRoot => (.normaliser, "INVALID_ROOT")
  | .invalidNode => (.normaliser, "INVALID_NODE")
  | .invalidType => (.normaliser, "INVALID_TYPE")
  | .invalidRef => (.normaliser, "INVALID_REF")
  | .aliasMissingType => (.normaliser, "ALIAS_MISSING_TYPE")
  | .conflictingValue => (.normaliser, "CONFLICTING_VALUE")
  | .missingValue => (.normaliser, "MISSING_VALUE")
  | .tokenHasChildren => (.normaliser, "TOKEN_HAS_CHILDREN")
  | .unknownProperty => (.normaliser, "UNKNOWN_PROPERTY")
  | .invalidSchema => (.normaliser, "INVALID_SCHEMA")
  | .invalidVersion => (.normaliser, "INVALID_VERSION")
  | .invalidDescription => (.normaliser, "INVALID_DESCRIPTION")
  | .invalidExtensions => (.normaliser, "INVALID_EXTENSIONS")
  | .invalidExtensionNamespace => (.normaliser, "INVALID_EXTENSION_NAMESPACE")
  | .invalidDeprecated => (.normaliser, "INVALID_DEPRECATED")
  | .invalidTimestamp => (.normaliser, "INVALID_TIMESTAMP")
  | .invalidUsageCount => (.normaliser, "INVALID_USAGE_COUNT")
  | .lastUsedWithoutUsage => (.normaliser, "LAST_USED_WITHOUT_USAGE")
  | .usageWithoutLastUsed => (.normaliser, "USAGE_WITHOUT_LAST_USED")
  | .lastUsedBeforeModified => (.normaliser, "LAST_USED_BEFORE_MODIFIED")
  | .invalidAuthor => (.normaliser, "INVALID_AUTHOR")
  | .invalidTags => (.normaliser, "INVALID_TAGS")
  | .duplicateTag => (.normaliser, "DUPLICATE_TAG")
  | .invalidHash => (.normaliser, "INVALID_HASH")
  | .misplacedOverrides => (.normaliser, "MISPLACED_OVERRIDES")
  | .invalidOverrides => (.normaliser, "INVALID_OVERRIDES")
  | .invalidOverride => (.normaliser, "INVALID_OVERRIDE")
  | .overrideMissingToken => (.normaliser, "OVERRIDE_MISSING_TOKEN")
  | .overrideInvalidWhen => (.normaliser, "OVERRIDE_INVALID_WHEN")
  | .overrideConflict => (.normaliser, "OVERRIDE_CONFLICT")
  | .overrideMissingPayload => (.normaliser, "OVERRIDE_MISSING_PAYLOAD")
  | .invalidFallback => (.normaliser, "INVALID_FALLBACK")
  | .fallbackConflict => (.normaliser, "FALLBACK_CONFLICT")
  | .fallbackMissingPayload => (.normaliser, "FALLBACK_MISSING_PAYLOAD")
  | .normaliserInternalError => (.normaliser, "INTERNAL_ERROR")
  | .invalidDocumentUri => (.graph, "INVALID_DOCUMENT_URI")
  | .duplicatePointer => (.graph, "DUPLICATE_POINTER")
  | .invalidReference => (.graph, "INVALID_REFERENCE")
  | .invalidPointer => (.graph, "INVALID_POINTER")
  | .missingTarget => (.graph, "MISSING_TARGET")
  | .invalidTargetKind => (.graph, "INVALID_TARGET_KIND")
  | .externalOverrideTarget => (.graph, "EXTERNAL_OVERRIDE_TARGET")
  | .resolverInvalidPointer => (.resolver, "INVALID_POINTER")
  | .unknownPointer => (.resolver, "UNKNOWN_POINTER")
  | .invalidNodeKind => (.resolver, "INVALID_NODE_KIND")
  | .cycleDetected => (.resolver, "CYCLE_DETECTED")
  | .maxDepthExceeded => (.resolver, "MAX_DEPTH_EXCEEDED")
  | .missingBaseValue => (.resolver, "MISSING_BASE_VALUE")
  | .targetTypeMismatch => (.resolver, "TARGET_TYPE_MISMATCH")
  | .externalReference => (.resolver, "EXTERNAL_REFERENCE")
  | .invalidOverrideValue => (.resolver, "INVALID_OVERRIDE_VALUE")
  | .overrideFailed => (.resolver, "OVERRIDE_FAILED")
  | .fallbackExhausted => (.resolver, "FALLBACK_EXHAUSTED")
  | .extensionFailed => (.plugin, "EXTENSION_FAILED")
  | .transformFailed => (.plugin, "TRANSFORM_FAILED")
  | .loadFailed => (.loader, "LOAD_FAILED")
  | .decodeFailed => (.loader, "DECODE_FAILED")
  | .schemaInvalid => (.loader, "SCHEMA_INVALID")
  | .networkReferenceSkipped => (.loader, "NETWORK_REFERENCE_SKIPPED")
  | .documentLimit => (.loader, "DOCUMENT_LIMIT")

def stage (c : Code) : Stage :=
  c.parts.1

/-- The text that identifies the code: its stage and its name there. -/
def text (c : Code) : String :=
  c.stage.text ++ "." ++ c.parts.2

/-- The severity of a diagnostic with this code, unless it is given another one. -/
def severity : Code → Severity
  | .networkReferenceSkipped => .info
  | .conflictingValue | .missingValue | .tokenHasChildren | .unknownProperty | .invalidSchema
  | .invalidVersion | .invalidDescription | .invalidExtensions | .invalidExtensionNamespace
  | .invalidDeprecated | .invalidTimestamp | .invalidUsageCount | .lastUsedWithoutUsage
  | .usageWithoutLastUsed | .lastUsedBeforeModified | .invalidAuthor | .invalidTags
  | .duplicateTag | .invalidHash | .misplacedOverrides | .overrideConflict | .fallbackConflict
  | .targetTypeMismatch | .documentLimit => .warning
  | _ => .error

def ofText? (text : String) : Option Code :=
  all.find? (·.text == text)

def unknownMessage (text : String) : String :=
  s!"unknown diagnostic code '{text}'"

end Code

end DesignTokens
