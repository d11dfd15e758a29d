import DesignTokens.Pointer
import DesignTokens.Plugin
import DesignTokens.Report.Code
import DesignTokens.Version

/-!
# DesignTokens.Tree.Fault — what can be wrong with a document

Every fault has a code and a wording (`Tree.Fault.code`, `Tree.Fault.message`).
-/

namespace DesignTokens.Tree

/-- A fault found while the tree of a document is read. -/
inductive Fault where
  /-- The root is no object. -/
  | rootNotObject
  | schemaNotText
  | versionNotText
  | versionInvalid (text : String) (fault : Version.Fault)
  /-- A member with a dollar sign that has no meaning where it stands. -/
  | unknownMember (key : String)
  | nodeNotObject (name : String)
  /-- A list of overrides below the root. -/
  | misplacedOverrides
  /-- Members of a token that would be children of a collection. -/
  | ignoredMembers (names : List String)
  | typeNotText
  /-- An alias whose reference is no text. -/
  | aliasReferenceNotText
  | aliasWithoutType (name : String)
  /-- An alias that declares a value too. -/
  | aliasWithValue
  | tokenWithoutValue (name : String)
  /-- A metadata member that has to be a text with more than blanks. -/
  | blankText (key : String)
  | extensionsNotObject
  | extensionNamespace (key : String)
  | extensionFailed (key : String) (failure : HostFailure)
  | replacementNotText
  | deprecatedNeitherFlagNorObject
  | notTimestamp (key : String)
  | usageCountNotNatural
  | usedBeforeModified
  | usedWithoutCount
  | countedWithoutUse
  | tagsNotArray
  | tagNotText
  | duplicateTag (tag : String)
  | overridesNotArray
  | overrideNotObject
  | overrideWithoutToken
  | overrideWithoutConditions
  /-- An override with a reference and a value. -/
  | overrideConflict
  | overrideWithoutOffer
  | fallbackNeitherObjectNorArray
  | fallbackEntryNotObject
  /-- A fallback entry with a reference and a value. -/
  | fallbackConflict
  | fallbackWithoutOffer
  /-- A reference of an override or of a fallback entry that is no text. -/
  | referenceNotText
  /-- Nodes or fallback lists are nested deeper than allowed. -/
  | nestingTooDeep (limit : Nat) (pointer : Pointer)
deriving Repr, DecidableEq

namespace Fault

def code : Fault → Code
  | .rootNotObject => .invalidRoot
  | .schemaNotText => .invalidSchema
  | .versionNotText => .invalidVersion
  | .versionInvalid _ _ => .invalidVersion
  | .unknownMember _ => .unknownProperty
  | .nodeNotObject _ => .invalidNode
  | .misplacedOverrides => .misplacedOverrides
  | .ignoredMembers _ => .tokenHasChildren
  | .typeNotText => .invalidType
  | .aliasReferenceNotText => .invalidRef
  | .aliasWithoutType _ => .aliasMissingType
  | .aliasWithValue => .conflictingValue
  | .tokenWithoutValue _ => .missingValue
  | .blankText key =>
    if key = "$author" then .invalidAuthor
    else if key = "$hash" then .invalidHash
    else .invalidDescription
  | .extensionsNotObject => .invalidExtensions
  | .extensionNamespace _ => .invalidExtensionNamespace
  | .extensionFailed _ _ => .extensionFailed
  | .replacementNotText => .invalidDeprecated
  | .deprecatedNeitherFlagNorObject => .invalidDeprecated
  | .notTimestamp _ => .invalidTimestamp
  | .usageCountNotNatural => .invalidUsageCount
  | .usedBeforeModified => .lastUsedBeforeModified
  | .usedWithoutCount => .lastUsedWithoutUsage
  | .countedWithoutUse => .usageWithoutLastUsed
  | .tagsNotArray => .invalidTags
  | .tagNotText => .invalidTags
  | .duplicateTag _ => .duplicateTag
  | .overridesNotArray => .invalidOverrides
  | .overrideNotObject => .invalidOverride
  | .overrideWithoutToken => .overrideMissingToken
  | .overrideWithoutConditions => .overrideInvalidWhen
  | .overrideConflict => .overrideConflict
  | .overrideWithoutOffer => .overrideMissingPayload
  | .fallbackNeitherObjectNorArray => .invalidFallback
  | .fallbackEntryNotObject => .invalidFallback
  | .fallbackConflict => .fallbackConflict
  | .fallbackWithoutOffer => .fallbackMissingPayload
  | .referenceNotText => .invalidRef
  | .nestingTooDeep _ _ => .normaliserInternalError

def message : Fault → String
  | .rootNotObject => "DTIF document root must be an object"
  | .schemaNotText => "$schema must be a string"
  | .versionNotText => "$version must be a string"
  | .versionInvalid text fault =>
    s!"$version '{text}' is not a semantic version: {fault.message}"
  | .unknownMember key => s!"unknown member '{key}'"
  | .nodeNotObject name =>
    s!"member '{name}' must be an object describing a token or collection"
  | .misplacedOverrides => "$overrides is only recognised at the document root"
  | .ignoredMembers names => "token members are ignored: " ++ String.intercalate ", " names
  | .typeNotText => "$type must be a string"
  | .aliasReferenceNotText => "$ref must be a string; alias dropped"
  | .aliasWithoutType name => s!"alias '{name}' must declare $type; alias dropped"
  | .aliasWithValue => "alias declares both $ref and $value; $value is ignored"
  | .tokenWithoutValue name => s!"token '{name}' declares no $value"
  | .blankText key => s!"{key} must be a non-empty string"
  | .extensionsNotObject => "$extensions must be an object"
  | .extensionNamespace key => s!"extension key '{key}' is not a reverse-DNS namespace"
  | .extensionFailed key failure => s!"extension '{key}' failed: {failure.text}"
  | .replacementNotText => "$replacement must be a pointer string"
  | .deprecatedNeitherFlagNorObject => "$deprecated must be a boolean or an object"
  | .notTimestamp key => s!"{key} must be an RFC 3339 timestamp"
  | .usageCountNotNatural => "$usageCount must be a non-negative integer"
  | .usedBeforeModified => "$lastUsed must not precede $lastModified"
  | .usedWithoutCount => "$lastUsed requires a positive $usageCount"
  | .countedWithoutUse => "a positive $usageCount requires $lastUsed"
  | .tagsNotArray => "$tags must be an array of strings"
  | .tagNotText => "tags must be non-empty strings"
  | .duplicateTag tag => s!"duplicate tag '{tag}'"
  | .overridesNotArray => "$overrides must be an array"
  | .overrideNotObject => "override entries must be objects"
  | .overrideWithoutToken => "override requires a $token pointer string"
  | .overrideWithoutConditions => "override requires a non-empty $when object"
  | .overrideConflict => "override declares both $ref and $value; $ref takes precedence"
  | .overrideWithoutOffer => "override declares none of $ref, $value or $fallback"
  | .fallbackNeitherObjectNorArray => "$fallback must be an object or an array of objects"
  | .fallbackEntryNotObject => "fallback entries must be objects"
  | .fallbackConflict => "fallback declares both $ref and $value; $ref takes precedence"
  | .fallbackWithoutOffer =>
    "fallback entry declares none of $ref, $value or $fallback; entry dropped"
  | .referenceNotText => "$ref must be a string"
  | .nestingTooDeep limit pointer =>
    s!"failed to normalise document: document nesting exceeds {limit} levels at {pointer.text}"

end Fault

end DesignTokens.Tree
