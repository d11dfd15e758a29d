import DesignTokens.Namespace
import DesignTokens.Text.Blank
import DesignTokens.Timestamp
import DesignTokens.Tree.Basic
import DesignTokens.Tree.Reading

/-!
# DesignTokens.Tree.Metadata — metadata of a node

A member that is not as it has to be is reported and left out; the node itself stays.

1. **Texts**, **extensions**, **deprecation** and **tags**, each read from its own member.
2. **Use** (`Tree.readUsage`): when a node was changed and used, and how often. A node was not used
   before it was last changed, and a time of use and a positive count go together.
3. All of it (`Tree.readMetadata`).
-/

namespace DesignTokens.Tree

variable (ctx : Context) (members : Json.Members) (pointer : Pointer)

/-! ## Texts -/

/-- Read a member that has to be a text with more than blanks. -/
def readText (key : String) : Reading (Option (Field String)) :=
  match members.get? key with
  | none => pure none
  | some (.string text) =>
    if Text.allBlank text then do
      ctx.report (.blankText key) (pointer.child key)
      pure none
    else pure (some (ctx.field text (pointer.child key)))
  | some _ => do
    ctx.report (.blankText key) (pointer.child key)
    pure none

/-! ## Extensions -/

/-- Ask the collector, if there is one, about an entry of `$extensions`. -/
def consultCollector (key : String) (payload : Json) (entry : Pointer) : Reading Unit :=
  match ctx.collector with
  | none => pure ()
  | some collector => do
    match ← Reading.consult collector ⟨ctx.uri, key, payload, entry, ctx.sourceMap.get? entry⟩ with
    | .ok (some outcome) => Reading.tell outcome.diagnostics
    | .ok none => pure ()
    | .error failure => ctx.report (.extensionFailed key failure) entry

/-- Read the entries of `$extensions`, which is at the given pointer. -/
def readExtensionEntries : List (String × Json) → Reading (List (String × Field Json))
  | [] => pure []
  | (key, payload) :: rest => do
    let entry := pointer.child key
    if Namespace.isValid key then
      consultCollector ctx key payload entry
      let more ← readExtensionEntries rest
      pure ((key, ctx.field payload entry) :: more)
    else
      ctx.report (.extensionNamespace key) entry
      readExtensionEntries rest

/-- Read `$extensions`: the payload of each namespace. -/
def readExtensions : Reading (List (String × Field Json)) :=
  match members.get? "$extensions" with
  | none => pure []
  | some (.object entries) => readExtensionEntries ctx (pointer.child "$extensions") entries
  | some _ => do
    ctx.report .extensionsNotObject (pointer.child "$extensions")
    pure []

/-! ## Deprecation -/

/-- Read `$replacement` among the members of `$deprecated`: a text. -/
def readReplacement : Reading (Option (Field String)) :=
  match members.get? "$replacement" with
  | none => pure none
  | some (.string text) => pure (some (ctx.field text (pointer.child "$replacement")))
  | some _ => do
    ctx.report .replacementNotText (pointer.child "$replacement")
    pure none

/-- Read `$deprecated`: a flag, or an object that may name a replacement. -/
def readDeprecated : Reading (Option (Field Deprecation)) :=
  let place := pointer.child "$deprecated"
  match members.get? "$deprecated" with
  | none => pure none
  | some (.bool active) => pure (some (ctx.field ⟨active, none⟩ place))
  | some (.object entry) => do
    let replacement ← readReplacement ctx entry place
    pure (some (ctx.field ⟨true, replacement⟩ place))
  | some _ => do
    ctx.report .deprecatedNeitherFlagNorObject place
    pure none

/-! ## Tags -/

/-- Read the items of `$tags`, counted from an index on, after the tags that are known already. -/
def readTagItems (seen : List String) (i : Nat) : List Json → Reading (List (Field String))
  | [] => pure []
  | item :: rest => do
    let place := pointer.index i
    match item with
    | .string tag =>
      if tag.isEmpty then
        ctx.report .tagNotText place
        readTagItems seen (i + 1) rest
      else if seen.contains tag then
        ctx.report (.duplicateTag tag) place
        readTagItems seen (i + 1) rest
      else
        let more ← readTagItems (tag :: seen) (i + 1) rest
        pure (ctx.field tag place :: more)
    | _ =>
      ctx.report .tagNotText place
      readTagItems seen (i + 1) rest

/-- Read `$tags`: texts, each of them once. -/
def readTags : Reading (List (Field String)) :=
  match members.get? "$tags" with
  | none => pure []
  | some (.array items) => readTagItems ctx (pointer.child "$tags") [] 0 items
  | some _ => do
    ctx.report .tagsNotArray (pointer.child "$tags")
    pure []

/-! ## Use -/

/-- A point in time, with the text it was read from. -/
structure Moment where
  field : Field String
  time : Timestamp

/-- Read a member that has to be a timestamp. -/
def readMoment (key : String) : Reading (Option Moment) :=
  match members.get? key with
  | none => pure none
  | some value =>
    match value.text?.bind fun text => (Timestamp.parse? text).map fun time => (text, time) with
    | some (text, time) => pure (some ⟨ctx.field text (pointer.child key), time⟩)
    | none => do
      ctx.report (.notTimestamp key) (pointer.child key)
      pure none

def readUsageCount : Reading (Option (Field Nat)) :=
  match members.get? "$usageCount" with
  | none => pure none
  | some value =>
    match value.nat? with
    | some count => pure (some (ctx.field count (pointer.child "$usageCount")))
    | none => do
      ctx.report .usageCountNotNatural (pointer.child "$usageCount")
      pure none

/-- A value that is dropped, with a report at its place, if a fault holds of it. -/
def dropIf {α : Type} (condition : Bool) (fault : Fault) (place : Pointer) (value : Option α) :
    Reading (Option α) :=
  if condition then do
    ctx.report fault place
    pure none
  else pure value

/-- When a node was changed and used, and how often it was used. -/
structure Usage where
  modified : Option Moment
  used : Option Moment
  count : Option (Field Nat)

/-- Whether a node was used before it was last changed. -/
def Usage.isEarly (u : Usage) : Bool :=
  match u.modified, u.used with
  | some modified, some used => used.time.isBefore modified.time
  | _, _ => false

/-- Whether a node was used a positive number of times. -/
def Usage.isCounted (u : Usage) : Bool :=
  match u.count with
  | some count => 0 < count.value
  | none => false

/-- Drop a time of use that is before the last change, then one without a positive count, then a
positive count without a time of use. -/
def Usage.settle (usage : Usage) : Reading Usage := do
  let usedAt := pointer.child "$lastUsed"
  let countAt := pointer.child "$usageCount"
  let used ← dropIf ctx usage.isEarly .usedBeforeModified usedAt usage.used
  -- From here on only a time of use that was kept counts.
  let used ← dropIf ctx (used.isSome && !usage.isCounted) .usedWithoutCount usedAt used
  let count ← dropIf ctx (usage.isCounted && used.isNone) .countedWithoutUse countAt usage.count
  pure { usage with used, count }

/-- Read when a node was changed and used, and how often. -/
def readUsage : Reading Usage := do
  let modified ← readMoment ctx members pointer "$lastModified"
  let used ← readMoment ctx members pointer "$lastUsed"
  let count ← readUsageCount ctx members pointer
  Usage.settle ctx pointer { modified, used, count }

/-! ## All of it -/

/-- Read the metadata of the node with the given members. -/
def readMetadata : Reading Metadata := do
  let description ← readText ctx members pointer "$description"
  let extensions ← readExtensions ctx members pointer
  let deprecated ← readDeprecated ctx members pointer
  let author ← readText ctx members pointer "$author"
  let tags ← readTags ctx members pointer
  let hash ← readText ctx members pointer "$hash"
  let usage ← readUsage ctx members pointer
  pure {
    description, extensions, deprecated, author, tags, hash
    lastModified := usage.modified.map (·.field)
    lastUsed := usage.used.map (·.field)
    usageCount := usage.count }

end DesignTokens.Tree
