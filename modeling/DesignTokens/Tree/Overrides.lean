import DesignTokens.Tree.Basic
import DesignTokens.Tree.Reading

/-!
# DesignTokens.Tree.Overrides — the overrides of a document

An entry of `$overrides` is kept if it names a token and has conditions; what is wrong with its
offer is reported, and the entry stays, so that a later resolution can say what happened. An entry
of a fallback list is kept if it offers something.

1. **Offers** (`Tree.readOffer`): a reference, a value and a fallback list.
2. **Fallback lists** (`Tree.readFallback`): one entry, or an array of entries.
3. **Overrides** (`Tree.readOverrides`).
-/

namespace DesignTokens.Tree

variable (ctx : Context)

/-! ## Offers -/

def readReference (members : Json.Members) (pointer : Pointer) :
    Reading (Option (Field String)) :=
  match members.get? "$ref" with
  | none => pure none
  | some (.string text) => pure (some (ctx.field text (pointer.child "$ref")))
  | some _ => do
    ctx.report .referenceNotText (pointer.child "$ref")
    pure none

/-- Whether an offer is one in name only. -/
def isEmptyOffer {ρ : Type} (offer : Offer ρ) : Bool :=
  offer.reference.isNone && offer.value.isNone && offer.fallback.isEmpty

/-- Read what an object with the given members offers, where its fallback list is read as given. A
reference with a value is a conflict. -/
def readOffer (members : Json.Members) (pointer : Pointer)
    (fallback : Reading (List (Offer (Field String)))) (conflict missing : Fault) :
    Reading (Offer (Field String)) := do
  let reference ← readReference ctx members pointer
  let value := (members.get? "$value").map (ctx.field · (pointer.child "$value"))
  let fallback ← fallback
  let offer := Offer.mk pointer (ctx.sourceMap.get? pointer) reference value fallback
  ctx.reportIf (reference.isSome && value.isSome) conflict pointer
  ctx.reportIf (isEmptyOffer offer) missing pointer
  pure offer

/-! ## Fallback lists -/

def fallbackKeys : List String :=
  ["$ref", "$value", "$fallback"]

/-- Read an entry of a fallback list, where its own fallback list is read as given. -/
def readEntry (members : Json.Members) (pointer : Pointer)
    (fallback : Reading (List (Offer (Field String)))) :
    Reading (Option (Offer (Field String))) := do
  reportUnknown ctx members pointer fallbackKeys
  let offer ← readOffer ctx members pointer fallback .fallbackConflict .fallbackWithoutOffer
  pure (if isEmptyOffer offer then none else some offer)

mutual

/-- Read a fallback list: an array of entries, or a single entry. -/
def readFallback (pointer : Pointer) : Json → Reading (List (Offer (Field String)))
  | .array items => readEntries pointer 0 items
  | .object members => do
    let entry ← readEntry ctx members pointer (readFallbackMember pointer members)
    pure entry.toList
  | _ => do
    ctx.report .fallbackNeitherObjectNorArray pointer
    pure []

/-- Read the entries of a fallback list, counted from an index on. -/
def readEntries (pointer : Pointer) (i : Nat) : List Json → Reading (List (Offer (Field String)))
  | [] => pure []
  | .object members :: rest => do
    let place := pointer.index i
    let entry ← readEntry ctx members place (readFallbackMember place members)
    let more ← readEntries pointer (i + 1) rest
    pure (entry.toList ++ more)
  | _ :: rest => do
    ctx.report .fallbackEntryNotObject (pointer.index i)
    readEntries pointer (i + 1) rest

/-- Read the fallback list of the object with the given members. -/
def readFallbackMember (pointer : Pointer) :
    List (String × Json) → Reading (List (Offer (Field String)))
  | [] => pure []
  | (key, value) :: rest =>
    if key = "$fallback" then readFallback (pointer.child key) value
    else readFallbackMember pointer rest

end

/-! ## Overrides -/

def overrideKeys : List String :=
  ["$token", "$when", "$ref", "$value", "$fallback"]

/-- Read `$token`: a text, which refers to the token. -/
def readTarget (members : Json.Members) (pointer : Pointer) : Reading (Option (Field String)) :=
  match members.get? "$token" with
  | some (.string text) => pure (some (ctx.field text (pointer.child "$token")))
  | _ => do
    ctx.report .overrideWithoutToken (pointer.child "$token")
    pure none

/-- Read `$when`: an object with at least one member. -/
def readConditions (members : Json.Members) (pointer : Pointer) :
    Reading (Option (Field Json.Members)) :=
  match members.get? "$when" with
  | some (.object (condition :: more)) =>
    pure (some (ctx.field (condition :: more) (pointer.child "$when")))
  | _ => do
    ctx.report .overrideWithoutConditions (pointer.child "$when")
    pure none

def readOverride (members : Json.Members) (pointer : Pointer) :
    Reading (Option (Override (Field String))) := do
  reportUnknown ctx members pointer overrideKeys
  let token ← readTarget ctx members pointer
  let conditions ← readConditions ctx members pointer
  let fallback := readFallbackMember ctx pointer members
  let offer ← readOffer ctx members pointer fallback .overrideConflict .overrideWithoutOffer
  match token, conditions with
  | some token, some conditions => pure (some { token, conditions, offer })
  | _, _ => pure none

/-- Read the items of `$overrides`, counted from an index on. -/
def readOverrideItems (pointer : Pointer) (i : Nat) :
    List Json → Reading (List (Override (Field String)))
  | [] => pure []
  | .object members :: rest => do
    let entry ← readOverride ctx members (pointer.index i)
    let more ← readOverrideItems pointer (i + 1) rest
    pure (entry.toList ++ more)
  | _ :: rest => do
    ctx.report .overrideNotObject (pointer.index i)
    readOverrideItems pointer (i + 1) rest

/-- Read `$overrides` among the members of the root, whose pointer is given. -/
def readOverrides (members : Json.Members) (pointer : Pointer) :
    Reading (List (Override (Field String))) :=
  match members.get? "$overrides" with
  | none => pure []
  | some (.array items) => readOverrideItems ctx (pointer.child "$overrides") 0 items
  | some _ => do
    ctx.report .overridesNotArray (pointer.child "$overrides")
    pure []

end DesignTokens.Tree
