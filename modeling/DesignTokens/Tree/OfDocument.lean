import DesignTokens.Document
import DesignTokens.Tree.Metadata
import DesignTokens.Tree.Overrides

/-!
# DesignTokens.Tree.OfDocument — the tree of a decoded document

An object with `$type`, `$value` or `$ref` is a token, or an alias if it has `$ref`; every other
object is a collection of the members without a dollar sign. A member that is no node is reported
and left out.

1. **Tokens and aliases** (`Tree.readToken`).
2. **Nodes** (`Tree.readNode`), recursively through the collections.
3. **Documents** (`Tree.ofDocument`): all or nothing at the limit for nesting.
-/

namespace DesignTokens.Tree

variable (ctx : Context)

/-! ## Tokens and aliases -/

def readType (members : Json.Members) (pointer : Pointer) : Reading (Option (Field String)) :=
  match members.get? "$type" with
  | none => pure none
  | some (.string text) => pure (some (ctx.field text (pointer.child "$type")))
  | some _ => do
    ctx.report .typeNotText (pointer.child "$type")
    pure none

/-- The alias with the given `$ref`; without a type, or if the reference is no text, there is
none. -/
def readAlias (info : NodeInfo) (type : Option (Field String)) (reference : Json)
    (hasValue : Bool) : Reading (Option Node) :=
  match reference, type with
  | .string text, some type => do
    ctx.reportIf hasValue .aliasWithValue (info.pointer.child "$value")
    pure (some (.aliasTo info type (ctx.field text (info.pointer.child "$ref"))))
  | .string _, none => do
    ctx.report (.aliasWithoutType info.name) info.pointer
    pure none
  | _, _ => do
    ctx.report .aliasReferenceNotText (info.pointer.child "$ref")
    pure none

/-- Read a token or an alias with the given members. -/
def readToken (name : String) (pointer : Pointer) (members : Json.Members) :
    Reading (Option Node) := do
  let nested := members.names.filter fun key => !isReserved key
  ctx.reportIf (!nested.isEmpty) (.ignoredMembers nested) pointer
  reportUnknown ctx members pointer (tokenKeys ++ metadataKeys ++ ["$overrides"])
  let type ← readType ctx members pointer
  let metadata ← readMetadata ctx members pointer
  let info : NodeInfo := { name, pointer, span := ctx.sourceMap.get? pointer, metadata }
  match members.get? "$ref" with
  | some reference => readAlias ctx info type reference (members.has "$value")
  | none =>
    let value := (members.get? "$value").map (ctx.field · (pointer.child "$value"))
    ctx.reportIf value.isNone (.tokenWithoutValue name) pointer
    pure (some (.token info type value))

/-! ## Nodes -/

/-- Read a collection with the given members, where its children are read as given. -/
def readCollection (name : String) (pointer : Pointer) (members : Json.Members)
    (children : Reading (List Node)) : Reading Node := do
  let metadata ← readMetadata ctx members pointer
  reportUnknown ctx members pointer (metadataKeys ++ ["$overrides"])
  let children ← children
  pure (.collection { name, pointer, span := ctx.sourceMap.get? pointer, metadata } children)

mutual

/-- Read the node of the given name. -/
def readNode (name : String) (pointer : Pointer) : Json → Reading (Option Node)
  | .object members => do
    let hasOverrides := Json.Members.has members "$overrides"
    ctx.reportIf hasOverrides .misplacedOverrides (pointer.child "$overrides")
    -- Misplaced overrides are reported, and the node stays.
    if isTokenLike members then readToken ctx name pointer members
    else do
      let node ← readCollection ctx name pointer members (readChildren pointer members)
      pure (some node)
  | _ => do
    ctx.report (.nodeNotObject name) pointer
    pure none

/-- Read the nodes among the members of a collection. -/
def readChildren (pointer : Pointer) : List (String × Json) → Reading (List Node)
  | [] => pure []
  | (name, value) :: rest =>
    if isReserved name then readChildren pointer rest
    else do
      let node ← readNode name (pointer.child name) value
      let more ← readChildren pointer rest
      pure (node.toList ++ more)

end

/-! ## Documents -/

def readSchema (members : Json.Members) : Reading (Option (Field String)) :=
  let place := Pointer.root.child "$schema"
  match members.get? "$schema" with
  | none => pure none
  | some (.string text) => pure (some (ctx.field text place))
  | some _ => do
    ctx.report .schemaNotText place
    pure none

/-- Read `$version`: a text, which should be a semantic version and is kept in any case. -/
def readVersion (members : Json.Members) : Reading (Option (Field String)) :=
  let place := Pointer.root.child "$version"
  match members.get? "$version" with
  | none => pure none
  | some (.string text) => do
    match Version.parse text with
    | .ok _ => pure ()
    | .error fault => ctx.report (.versionInvalid text fault) place
    pure (some (ctx.field text place))
  | some _ => do
    ctx.report .versionNotText place
    pure none

/-- Read a document whose root has the given members. -/
def readRoot (members : Json.Members) : Reading Tree := do
  let root := Pointer.root
  let schema ← readSchema ctx members
  let version ← readVersion ctx members
  let metadata ← readMetadata ctx members root
  reportUnknown ctx members root (rootKeys ++ metadataKeys)
  let overrides ← readOverrides ctx members root
  let children ← readChildren ctx root members
  pure {
    uri := ctx.uri, pointer := root, span := ctx.sourceMap.get? root
    schema, version, metadata, children, overrides }

/-- How to read a document: the collector for `$extensions`, and the limit for nesting. -/
structure Options where
  collector : Option Collector := none
  maxNesting : Nat := 256

/-- Read the tree of a document. There is none if the root is no object, or if the document is
nested too deep: then this fault is all that is reported. What was reported, and what the collector
was asked and answered, up to the place that is too deep is given up with the tree; since none of it
is part of the result, the search for such a place comes first here. -/
def ofDocument (document : Document) (options : Options) : Reading (Option Tree) :=
  let ctx : Context := ⟨document.uri, document.sourceMap, options.collector⟩
  match document.data with
  | .object members =>
    match tooDeep? options.maxNesting members with
    | some place => do
      ctx.report (.nestingTooDeep options.maxNesting place) Pointer.root
      pure none
    | none => do
      let tree ← readRoot ctx members
      pure (some tree)
  | _ => do
    ctx.report .rootNotObject Pointer.root
    pure none

end DesignTokens.Tree
