import DesignTokens.Json.Basic
import DesignTokens.Pointer

/-!
# DesignTokens.Tree.Nesting — how deep a document is nested

A document is read only if neither its nodes nor the fallback lists of its overrides are nested
deeper than a limit. Members of the root are at depth one, members of a collection one deeper than
the collection; the members of a token do not count. A fallback list of an override is at depth
one, a fallback list of one of its entries one deeper.

`room` is the number of levels that are left; where none is left, a node or fallback list is too
deep.

1. **Fallback lists** (`Tree.deepFallback?`) and **nodes** (`Tree.deepNode?`).
2. **Documents** (`Tree.tooDeep?`): the first place that is too deep, overrides first.
-/

namespace DesignTokens.Tree

/-! ## Keys -/

/-- Keys with a dollar sign are the format's own; all others name nodes. -/
def isReserved (key : String) : Bool :=
  key.toList.head? == some '$'

def metadataKeys : List String :=
  ["$description", "$extensions", "$deprecated", "$lastModified", "$lastUsed", "$usageCount",
   "$author", "$tags", "$hash"]

/-- The keys that make an object a token or an alias. -/
def tokenKeys : List String :=
  ["$type", "$value", "$ref"]

def rootKeys : List String :=
  ["$schema", "$version", "$overrides"]

/-- Whether an object is a token or an alias; all others are collections. -/
def isTokenLike (members : Json.Members) : Bool :=
  tokenKeys.any members.has

/-! ## Fallback lists -/

mutual

/-- The first place in a fallback list that is too deep. -/
def deepFallback? (room : Nat) (pointer : Pointer) : Json → Option Pointer
  | .array items => if room = 0 then some pointer else deepItem? (room - 1) pointer 0 items
  | .object members =>
    if room = 0 then some pointer else deepFallbackMember? (room - 1) pointer members
  | _ => if room = 0 then some pointer else none

/-- The first place in the entries of a fallback list, counted from an index on, that is too
deep. -/
def deepItem? (room : Nat) (pointer : Pointer) (i : Nat) : List Json → Option Pointer
  | [] => none
  | .object members :: rest =>
    (deepFallbackMember? room (pointer.index i) members).or (deepItem? room pointer (i + 1) rest)
  | _ :: rest => deepItem? room pointer (i + 1) rest

/-- The first place in the fallback list of an entry with the given members that is too deep. -/
def deepFallbackMember? (room : Nat) (pointer : Pointer) : List (String × Json) → Option Pointer
  | [] => none
  | (key, value) :: rest =>
    if key = "$fallback" then deepFallback? room (pointer.child key) value
    else deepFallbackMember? room pointer rest

end

/-! ## Nodes -/

mutual

/-- The first place in a member that names a node that is too deep. -/
def deepNode? (room : Nat) (pointer : Pointer) : Json → Option Pointer
  | .object members =>
    if room = 0 then some pointer
    else if isTokenLike members then none
    else deepChild? (room - 1) pointer members
  | _ => if room = 0 then some pointer else none

/-- The first place in the members of a collection that is too deep. -/
def deepChild? (room : Nat) (pointer : Pointer) : List (String × Json) → Option Pointer
  | [] => none
  | (name, value) :: rest =>
    if isReserved name then deepChild? room pointer rest
    else (deepNode? room (pointer.child name) value).or (deepChild? room pointer rest)

end

/-! ## Documents -/

/-- The first place in a document with the given root members that is nested deeper than the
limit. -/
def tooDeep? (limit : Nat) (members : Json.Members) : Option Pointer :=
  let overrides := ((members.get? "$overrides").bind Json.items?).getD []
  (deepItem? limit (Pointer.root.child "$overrides") 0 overrides).or
    (deepChild? limit Pointer.root members)

end DesignTokens.Tree
