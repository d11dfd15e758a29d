import DesignTokens.Proofs.Sample
import DesignTokens.Proofs.Tree.Nesting
import DesignTokens.Proofs.Tree.Reports

/-!
# DesignTokens.Proofs.Tree.GivingUp — reading that gives up on the way

Whether a document is nested too deep is settled before anything is read. It can as well be found
out on the way: the levels are counted at every node and every fallback list, and the first that is
too deep ends the reading, whatever was reported and asked until then. The two ways have the same
result, so a document is read as a whole or not at all.

1. **Attempts** (`Tree.Attempt`): readings that may give up at a place.
2. **Attempts to read** overrides, nodes and documents (`Tree.attemptDocument`), with the levels
   counted on the way.
3. **Following** (`Attempt.Follows`): an attempt gives up where the search finds a place, and is
   otherwise the plain reading.
4. **Documents** (`ofDocument_eq_conclude`, `ofDocument_all_or_nothing`).
-/

namespace DesignTokens.Tree

/-! ## Attempts -/

/-- A reading that may give up at a place. -/
abbrev Attempt := ExceptT Pointer Reading

/-- Go on with as many levels left, and give up if there is none. -/
def descend (room : Nat) (pointer : Pointer) : Attempt Unit :=
  if room = 0 then throw pointer else pure ()

section Attempts

variable (ctx : Context)

/-! ### Overrides -/

/-- Read what an object offers, with an attempt at its fallback list. -/
def attemptOffer (members : Json.Members) (pointer : Pointer)
    (fallback : Attempt (List (Offer (Field String)))) (conflict missing : Fault) :
    Attempt (Offer (Field String)) := do
  let reference ← readReference ctx members pointer
  let value := (members.get? "$value").map (ctx.field · (pointer.child "$value"))
  let fallback ← fallback
  let offer := Offer.mk pointer (ctx.sourceMap.get? pointer) reference value fallback
  ctx.reportIf (reference.isSome && value.isSome) conflict pointer
  ctx.reportIf (isEmptyOffer offer) missing pointer
  pure offer

/-- Read an entry of a fallback list, with an attempt at its own fallback list. -/
def attemptEntry (members : Json.Members) (pointer : Pointer)
    (fallback : Attempt (List (Offer (Field String)))) :
    Attempt (Option (Offer (Field String))) := do
  reportUnknown ctx members pointer fallbackKeys
  let offer ← attemptOffer ctx members pointer fallback .fallbackConflict .fallbackWithoutOffer
  pure (if isEmptyOffer offer then none else some offer)

mutual

/-- Read a fallback list, for which as many levels are left. -/
def attemptFallback (room : Nat) (pointer : Pointer) :
    Json → Attempt (List (Offer (Field String)))
  | .array items => do
    descend room pointer
    attemptEntries (room - 1) pointer 0 items
  | .object members => do
    descend room pointer
    let fallback := attemptFallbackMember (room - 1) pointer members
    let entry ← attemptEntry ctx members pointer fallback
    pure entry.toList
  | _ => do
    descend room pointer
    ctx.report .fallbackNeitherObjectNorArray pointer
    pure []

def attemptEntries (room : Nat) (pointer : Pointer) (i : Nat) :
    List Json → Attempt (List (Offer (Field String)))
  | [] => pure []
  | .object members :: rest => do
    let place := pointer.index i
    let entry ← attemptEntry ctx members place (attemptFallbackMember room place members)
    let more ← attemptEntries room pointer (i + 1) rest
    pure (entry.toList ++ more)
  | _ :: rest => do
    ctx.report .fallbackEntryNotObject (pointer.index i)
    attemptEntries room pointer (i + 1) rest

/-- Read the fallback list of the object with the given members. -/
def attemptFallbackMember (room : Nat) (pointer : Pointer) :
    List (String × Json) → Attempt (List (Offer (Field String)))
  | [] => pure []
  | (key, value) :: rest =>
    if key = "$fallback" then attemptFallback room (pointer.child key) value
    else attemptFallbackMember room pointer rest

end

/-- Read an override with the given members, in whose fallback list the levels are counted. -/
def attemptOverride (limit : Nat) (members : Json.Members) (pointer : Pointer) :
    Attempt (Option (Override (Field String))) := do
  reportUnknown ctx members pointer overrideKeys
  let token ← readTarget ctx members pointer
  let conditions ← readConditions ctx members pointer
  let fallback := attemptFallbackMember ctx limit pointer members
  let offer ← attemptOffer ctx members pointer fallback .overrideConflict .overrideWithoutOffer
  match token, conditions with
  | some token, some conditions => pure (some { token, conditions, offer })
  | _, _ => pure none

/-- Read the items of `$overrides`, counted from an index on. -/
def attemptOverrideItems (limit : Nat) (pointer : Pointer) (i : Nat) :
    List Json → Attempt (List (Override (Field String)))
  | [] => pure []
  | .object members :: rest => do
    let entry ← attemptOverride ctx limit members (pointer.index i)
    let more ← attemptOverrideItems limit pointer (i + 1) rest
    pure (entry.toList ++ more)
  | _ :: rest => do
    ctx.report .overrideNotObject (pointer.index i)
    attemptOverrideItems limit pointer (i + 1) rest

/-- Read `$overrides` among the members of the root, whose pointer is given. -/
def attemptOverrides (limit : Nat) (members : Json.Members) (pointer : Pointer) :
    Attempt (List (Override (Field String))) :=
  match members.get? "$overrides" with
  | none => pure []
  | some (.array items) => attemptOverrideItems ctx limit (pointer.child "$overrides") 0 items
  | some _ => do
    ctx.report .overridesNotArray (pointer.child "$overrides")
    pure []

/-! ### Nodes -/

/-- Read a collection, with an attempt at its children. -/
def attemptCollection (name : String) (pointer : Pointer) (members : Json.Members)
    (children : Attempt (List Node)) : Attempt Node := do
  let metadata ← readMetadata ctx members pointer
  reportUnknown ctx members pointer (metadataKeys ++ ["$overrides"])
  let children ← children
  pure (.collection { name, pointer, span := ctx.sourceMap.get? pointer, metadata } children)

mutual

/-- Read the node of the given name, for which as many levels are left. -/
def attemptNode (room : Nat) (name : String) (pointer : Pointer) :
    Json → Attempt (Option Node)
  | .object members => do
    descend room pointer
    let hasOverrides := Json.Members.has members "$overrides"
    ctx.reportIf hasOverrides .misplacedOverrides (pointer.child "$overrides")
    if isTokenLike members then readToken ctx name pointer members
    else do
      let children := attemptChildren (room - 1) pointer members
      let node ← attemptCollection ctx name pointer members children
      pure (some node)
  | _ => do
    descend room pointer
    ctx.report (.nodeNotObject name) pointer
    pure none

def attemptChildren (room : Nat) (pointer : Pointer) :
    List (String × Json) → Attempt (List Node)
  | [] => pure []
  | (name, value) :: rest =>
    if isReserved name then attemptChildren room pointer rest
    else do
      let node ← attemptNode room name (pointer.child name) value
      let more ← attemptChildren room pointer rest
      pure (node.toList ++ more)

end

/-! ### Documents -/

def attemptRoot (limit : Nat) (members : Json.Members) : Attempt Tree := do
  let root := Pointer.root
  let schema ← readSchema ctx members
  let version ← readVersion ctx members
  let metadata ← readMetadata ctx members root
  reportUnknown ctx members root (rootKeys ++ metadataKeys)
  let overrides ← attemptOverrides ctx limit members root
  let children ← attemptChildren ctx limit root members
  pure {
    uri := ctx.uri, pointer := root, span := ctx.sourceMap.get? root
    schema, version, metadata, children, overrides }

/-- Read a document with the given data. -/
def attemptDocument (limit : Nat) : Json → Attempt (Option Tree)
  | .object members => do
    let tree ← attemptRoot ctx limit members
    pure (some tree)
  | _ => do
    ctx.report .rootNotObject Pointer.root
    pure none

/-- What comes of an attempt to read a document: if it gives up, this is all that is reported. -/
def Attempt.conclude (limit : Nat) (attempt : Attempt (Option Tree)) : Reading (Option Tree) :=
  let outcome := ExceptT.run attempt
  match outcome.value with
  | .ok tree => ⟨tree, outcome.log, outcome.consultations⟩
  | .error place => do
    ctx.report (.nestingTooDeep limit place) Pointer.root
    pure none

end Attempts

/-! ## Following -/

namespace Attempt

variable {α β : Type}

/-- An attempt gives up at the given place, or does what a reading does if there is none. -/
def Follows (attempt : Attempt α) (deep : Option Pointer) (reading : Reading α) : Prop :=
  match deep with
  | some place => (ExceptT.run attempt).value = .error place
  | none => ExceptT.run attempt = ⟨.ok reading.value, reading.log, reading.consultations⟩

theorem follows_pure (a : α) : Follows (pure a) none (pure a) :=
  rfl

theorem follows_lift (reading : Reading α) : Follows (liftM reading) none reading := by
  change Reading.mk _ (reading.log ++ []) (reading.consultations ++ []) = _
  simp

theorem value_bind_of_error {a : Attempt α} {place : Pointer}
    (h : (ExceptT.run a).value = .error place) (f : α → Attempt β) :
    (ExceptT.run (a >>= f)).value = .error place := by
  change (ExceptT.run a >>= ExceptT.bindCont f).value = _
  rw [Reading.value_bind, h]
  rfl

theorem run_bind_of_ok {a : Attempt α} {x : α} (h : (ExceptT.run a).value = .ok x)
    (f : α → Attempt β) :
    ExceptT.run (a >>= f) = ExceptT.run a >>= fun _ => ExceptT.run (f x) := by
  have next : ExceptT.bindCont f (ExceptT.run a).value = ExceptT.run (f x) := by
    rw [h]
    rfl
  change (let y := ExceptT.bindCont f (ExceptT.run a).value
    Reading.mk y.value ((ExceptT.run a).log ++ y.log) (_ ++ y.consultations)) = _
  rw [next]
  rfl

/-- One attempt after another gives up where the first does, or else where the second does. -/
theorem Follows.bind {a : Attempt α} {f : α → Attempt β} {d d' : Option Pointer} {r : Reading α}
    {g : α → Reading β} (h : Follows a d r) (next : Follows (f r.value) d' (g r.value)) :
    Follows (a >>= f) (d.or d') (r >>= g) := by
  cases d with
  -- The first step gives up, and the second is not made.
  | some place => exact value_bind_of_error h f
  | none =>
    have first : ExceptT.run a = ⟨.ok r.value, r.log, r.consultations⟩ := h
    have run := run_bind_of_ok (congrArg Reading.value first) f
    cases d' with
    -- The second step gives up.
    | some place => exact (congrArg Reading.value run).trans next
    | none =>
      -- Neither does.
      have second : ExceptT.run (f r.value) =
        ⟨.ok (g r.value).value, (g r.value).log, (g r.value).consultations⟩ := next
      rw [first, second] at run
      exact run

/-- A plain reading comes first. -/
theorem Follows.after {f : α → Attempt β} {d : Option Pointer} {g : α → Reading β}
    (reading : Reading α) (next : Follows (f reading.value) d (g reading.value)) :
    Follows (liftM reading >>= f) d (reading >>= g) :=
  (follows_lift reading).bind next

/-- What comes after an attempt does not give up. -/
theorem Follows.before {a : Attempt α} {f : α → Attempt β} {d : Option Pointer} {r : Reading α}
    {g : α → Reading β} (h : Follows a d r) (next : Follows (f r.value) none (g r.value)) :
    Follows (a >>= f) d (r >>= g) := by
  simpa using h.bind next

/-- The levels are counted first. -/
theorem Follows.descend {a : Attempt α} {room : Nat} {d : Option Pointer} {r : Reading α}
    (h : Follows a d r) (pointer : Pointer) :
    Follows (Tree.descend room pointer >>= fun _ => a)
      (if room = 0 then some pointer else d) r := by
  unfold Tree.descend
  split
  · rfl
  · exact h

end Attempt

open Attempt

section Reading

variable {ctx : Context} {members : Json.Members} {pointer : Pointer} {deep : Option Pointer}

/-- An offer gives up where its list does. -/
theorem attemptOffer_follows {a : Attempt (List (Offer (Field String)))}
    {r : Reading (List (Offer (Field String)))} (h : Follows a deep r) (conflict missing : Fault) :
    Follows (attemptOffer ctx members pointer a conflict missing) deep
      (readOffer ctx members pointer r conflict missing) :=
  .after _ (h.before (.after _ (.after _ (follows_pure _))))

theorem attemptEntry_follows {a : Attempt (List (Offer (Field String)))}
    {r : Reading (List (Offer (Field String)))} (h : Follows a deep r) :
    Follows (attemptEntry ctx members pointer a) deep (readEntry ctx members pointer r) :=
  .after _ ((attemptOffer_follows h _ _).before (follows_pure _))

mutual

/-- The levels that are left are counted down in a fallback list as in the search. -/
theorem attemptFallback_follows (room : Nat) (pointer : Pointer) : ∀ value,
    Follows (attemptFallback ctx room pointer value) (deepFallback? room pointer value)
      (readFallback ctx pointer value)
  | .array items => by
    rw [attemptFallback, deepFallback?, readFallback]
    exact .descend (attemptEntries_follows (room - 1) pointer 0 items) pointer
  | .object members => by
    rw [attemptFallback, deepFallback?, readFallback]
    have list := attemptFallbackMember_follows (room - 1) pointer members
    refine .descend ((attemptEntry_follows list).before ?_) pointer
    exact follows_pure _
  | .null | .bool _ | .int _ | .double _ | .string _ => by
    simp only [attemptFallback, deepFallback?, readFallback]
    refine .descend (.after _ ?_) pointer
    exact follows_pure _

/-- The entries are tried in order, and the first that gives up ends it. -/
theorem attemptEntries_follows (room : Nat) (pointer : Pointer) (i : Nat) : ∀ items,
    Follows (attemptEntries ctx room pointer i items) (deepItem? room pointer i items)
      (readEntries ctx pointer i items)
  | [] => by
    rw [attemptEntries, deepItem?, readEntries]
    exact follows_pure _
  | .object members :: rest => by
    -- Only an object has a list of its own.
    rw [attemptEntries, deepItem?, readEntries]
    have list := attemptFallbackMember_follows room (pointer.index i) members
    have more := attemptEntries_follows room pointer (i + 1) rest
    exact (attemptEntry_follows list).bind (more.before (follows_pure _))
  -- What is no object is reported and left out.
  | .null :: rest | .bool _ :: rest | .int _ :: rest | .double _ :: rest | .string _ :: rest
  | .array _ :: rest => by
    simp only [attemptEntries, deepItem?, readEntries]
    exact .after _ (attemptEntries_follows room pointer (i + 1) rest)

/-- The list of an object is what may give up. -/
theorem attemptFallbackMember_follows (room : Nat) (pointer : Pointer) :
    ∀ members : List (String × Json),
      Follows (attemptFallbackMember ctx room pointer members)
        (deepFallbackMember? room pointer members) (readFallbackMember ctx pointer members)
  | [] => by
    rw [attemptFallbackMember, deepFallbackMember?, readFallbackMember]
    exact follows_pure _
  | (key, value) :: rest => by
    rw [attemptFallbackMember, deepFallbackMember?, readFallbackMember]
    split
    · exact attemptFallback_follows room (pointer.child key) value
    · exact attemptFallbackMember_follows room pointer rest

end

/-- An override gives up where its list does. -/
theorem attemptOverride_follows (limit : Nat) :
    Follows (attemptOverride ctx limit members pointer) (deepFallbackMember? limit pointer members)
      (readOverride ctx members pointer) := by
  have list : Follows _ _ (readFallbackMember ctx pointer members) :=
    attemptFallbackMember_follows limit pointer members
  refine .after _ (.after _ (.after _ ((attemptOffer_follows list _ _).before ?_)))
  cases (readTarget ctx members pointer).value with
  | none => exact follows_pure _
  | some token => cases (readConditions ctx members pointer).value <;> exact follows_pure _

theorem attemptOverrideItems_follows (limit : Nat) (i : Nat) (items : List Json) :
    Follows (attemptOverrideItems ctx limit pointer i items) (deepItem? limit pointer i items)
      (readOverrideItems ctx pointer i items) := by
  induction items generalizing i with
  | nil => exact follows_pure _
  | cons item rest ih =>
    cases item with
    | object members =>
      rw [attemptOverrideItems, deepItem?, readOverrideItems]
      exact (attemptOverride_follows limit).bind ((ih (i + 1)).before (follows_pure _))
    | _ => exact .after _ (ih (i + 1))

/-- The member holds the overrides, if it is an array. -/
theorem attemptOverrides_follows (limit : Nat) :
    Follows (attemptOverrides ctx limit members pointer)
      (deepItem? limit (pointer.child "$overrides") 0
        (((members.get? "$overrides").bind Json.items?).getD []))
      (readOverrides ctx members pointer) := by
  unfold attemptOverrides readOverrides
  cases members.get? "$overrides" with
  | none => exact follows_pure _
  | some value =>
    cases value with
    | array items => exact attemptOverrideItems_follows limit 0 items
    | _ => exact .after _ (follows_pure _)

mutual

/-- The levels that are left are counted down in a node as in the search. -/
theorem attemptNode_follows (room : Nat) (name : String) (pointer : Pointer) : ∀ value,
    Follows (attemptNode ctx room name pointer value) (deepNode? room pointer value)
      (readNode ctx name pointer value)
  | .object members => by
    rw [attemptNode, deepNode?, readNode]
    refine .descend (.after _ ?_) pointer
    split
    · -- A token or an alias has nothing below it.
      exact follows_lift _
    · -- A collection gives up where its children do.
      have children := attemptChildren_follows (room - 1) pointer members
      refine .before ?_ (follows_pure _)
      exact .after _ (.after _ (children.before (follows_pure _)))
  | .null | .bool _ | .int _ | .double _ | .string _ | .array _ => by
    simp only [attemptNode, deepNode?, readNode]
    refine .descend (.after _ ?_) pointer
    exact follows_pure _

/-- The children are tried in order. -/
theorem attemptChildren_follows (room : Nat) (pointer : Pointer) :
    ∀ members : List (String × Json),
      Follows (attemptChildren ctx room pointer members) (deepChild? room pointer members)
        (readChildren ctx pointer members)
  | [] => by
    rw [attemptChildren, deepChild?, readChildren]
    exact follows_pure _
  | (name, value) :: rest => by
    have more := attemptChildren_follows room pointer rest
    rw [attemptChildren, deepChild?, readChildren]
    split
    · -- A reserved name is no child.
      exact more
    · have first := attemptNode_follows room name (pointer.child name) value
      exact first.bind (more.before (follows_pure _))

end

/-- The root gives up at its overrides or at its children. -/
theorem attemptRoot_follows (limit : Nat) :
    Follows (attemptRoot ctx limit members) (tooDeep? limit members) (readRoot ctx members) := by
  have nodes : Follows _ _ (readChildren ctx Pointer.root members) :=
    attemptChildren_follows limit Pointer.root members
  refine .after _ (.after _ (.after _ (.after _ ?_)))
  exact (attemptOverrides_follows limit).bind (nodes.before (follows_pure _))

end Reading

/-! ## Documents -/

section Documents

variable {document : Document} {options : Options} {members : Json.Members}

/-- A document that is no object is reported. -/
theorem ofDocument_plain (plain : document.data.members? = none) :
    ofDocument document options = (do
      (options.context document).report .rootNotObject Pointer.root
      pure none) := by
  unfold ofDocument
  cases data : document.data with
  | object members => simp [data, Json.members?] at plain
  | _ => rfl

/-- A document that is too deep is reported with the place. -/
theorem ofDocument_deep {place : Pointer} (object : document.data = .object members)
    (found : tooDeep? options.maxNesting members = some place) :
    ofDocument document options = (do
      (options.context document).report (.nestingTooDeep options.maxNesting place) Pointer.root
      pure none) := by
  simp only [ofDocument, object, found, Options.context]

/-- Otherwise the root is read. -/
theorem ofDocument_shallow (object : document.data = .object members)
    (shallow : tooDeep? options.maxNesting members = none) :
    ofDocument document options = (do
      let tree ← readRoot (options.context document) members
      pure (some tree)) := by
  simp only [ofDocument, object, shallow, Options.context]

/-- An attempt that gives up ends in a report of where it does. -/
theorem Attempt.conclude_of_some {attempt : Attempt (Option Tree)} {place : Pointer}
    {reading : Reading (Option Tree)} (h : Follows attempt (some place) reading) (ctx : Context)
    (limit : Nat) :
    attempt.conclude ctx limit = (do
      ctx.report (.nestingTooDeep limit place) Pointer.root
      pure none) := by
  have gaveUp : (ExceptT.run attempt).value = .error place := h
  simp only [Attempt.conclude, gaveUp]

/-- An attempt that does not give up ends as the reading that it follows. -/
theorem Attempt.conclude_of_none {attempt : Attempt (Option Tree)}
    {reading : Reading (Option Tree)} (h : Follows attempt none reading) (ctx : Context)
    (limit : Nat) : attempt.conclude ctx limit = reading := by
  have run : ExceptT.run attempt = ⟨.ok reading.value, reading.log, reading.consultations⟩ := h
  simp only [Attempt.conclude, run]

/-- To look for a place that is too deep first and then to read is the same as to read until there
is such a place. -/
theorem ofDocument_eq_conclude (document : Document) (options : Options) :
    ofDocument document options =
      (attemptDocument (options.context document) options.maxNesting document.data).conclude
        (options.context document) options.maxNesting := by
  cases data : document.data with
  | object members =>
    -- The attempt gives up just where the search finds a place.
    have follows : Follows (attemptDocument (options.context document) options.maxNesting
        (.object members)) (tooDeep? options.maxNesting members) (do
          let tree ← readRoot (options.context document) members
          pure (some tree)) := by
      refine (attemptRoot_follows options.maxNesting).before ?_
      exact follows_pure _
    cases found : tooDeep? options.maxNesting members with
    | some place =>
      rw [found] at follows
      rw [ofDocument_deep data found, Attempt.conclude_of_some follows]
    | none =>
      rw [found] at follows
      rw [ofDocument_shallow data found, Attempt.conclude_of_none follows]
  | _ =>
    rw [ofDocument_plain (by rw [data]; rfl)]
    rfl

end Documents

/-- There is no value, and one report at the root is all that comes of a reading. -/
structure Reading.Fails {α : Type} (reading : Reading (Option α)) (code : Code) : Prop where
  value : reading.value = none
  evaluations : reading.consultations.filterMap Consultation.evaluation? = []
  report : ∃ d, reading.log = [d] ∧ d.code = code ∧ d.pointer = some Pointer.root

/-- No fault but that the document is nested too deep counts as an internal error. -/
theorem Fault.code_ne_internal {fault : Fault}
    (shallow : ∀ limit deep, fault ≠ .nestingTooDeep limit deep) :
    fault.code ≠ .normaliserInternalError := by
  cases fault with
  | nestingTooDeep limit deep => exact absurd rfl (shallow limit deep)
  | blankText key =>
    simp only [Fault.code]
    split_ifs <;> simp
  | _ => simp [Fault.code]

/-- A document that is no object, or is nested too deep, has no tree, and nothing but this is
reported, although the reading may have come far before it gave up. Every other document has one,
and an internal error is reported only if the collector supplies it. -/
theorem ofDocument_all_or_nothing (document : Document) (options : Options) :
    ofDocument document options =
        (attemptDocument (options.context document) options.maxNesting document.data).conclude
          (options.context document) options.maxNesting ∧
      (document.data.members? = none → (ofDocument document options).Fails .invalidRoot) ∧
      (document.data.members? ≠ none → TooDeep options.maxNesting document.data →
        (ofDocument document options).Fails .normaliserInternalError) ∧
      (document.data.members? ≠ none → ¬TooDeep options.maxNesting document.data →
        ∃ tree, (ofDocument document options).value = some tree ∧
          ∀ d ∈ (ofDocument document options).log, d.code = .normaliserInternalError →
            ∃ collector, options.collector = some collector ∧
              ∃ c ∈ (ofDocument document options).consultations, c.Supplies collector d) := by
  refine ⟨ofDocument_eq_conclude document options, ?_⟩
  cases data : document.data with
  | object members =>
    refine ⟨nofun, fun _ deep => ?_, fun _ shallow => ?_⟩
    · -- A document that is too deep for its limit.
      cases found : tooDeep? options.maxNesting members with
      | none => exact absurd deep ((tooDeep?_eq_none_iff _ _).1 found)
      | some place =>
        rw [ofDocument_deep data found]
        exact ⟨rfl, rfl, _, rfl, rfl, rfl⟩
    · -- One that is not: internal errors are then the collector's.
      rw [ofDocument_shallow data ((tooDeep?_eq_none_iff _ _).2 shallow)]
      refine ⟨_, rfl, fun d hd internal => ?_⟩
      rcases Reading.Sourced.bind sourced_readRoot (Reading.sourced_pure _) d hd with
        ⟨fault, code, other⟩ | supplied
      · exact absurd (code.symm.trans internal) (Fault.code_ne_internal other)
      · exact supplied
  | _ =>
    refine ⟨fun plain => ?_, fun object => absurd rfl object, fun object => absurd rfl object⟩
    rw [ofDocument_plain (data ▸ plain)]
    exact ⟨rfl, rfl, _, rfl, rfl, rfl⟩

/-! ### A document with two levels -/

namespace Stepped

/-- What the collector says of every entry. -/
def complaint : Diagnostic :=
  .new .normaliserInternalError "not normalised"

/-- A version that is none and an extension, before an override and a node with two levels each. -/
def document : Document :=
  Sample.document "stepped.json"
    [("$version", .string "one"),
     ("$extensions", .object [("org.example", .null)]),
     ("$overrides", .array [.object
      [("$token", .string "#/brand/red"), ("$when", .object [("theme", .string "dark")]),
       ("$fallback", .object [("$fallback", .array [.object [("$value", .int 1)]])])]]),
     ("brand", .object [("red", .object [("$value", .int 2)])])]

/-- The collector complains, and so many levels are allowed. -/
def options (levels : Nat) : Options where
  collector := some fun _ => .ok (some ⟨"linter", none, [complaint]⟩)
  maxNesting := levels

end Stepped

set_option maxRecDepth 10000 in
/-- With one level, nothing is left of the document, and only this is reported. With two levels it
has a tree, and the internal error is what the collector says. -/
theorem stepped_all_or_nothing :
    (TooDeep 1 Stepped.document.data ∧
        (ofDocument Stepped.document (Stepped.options 1)).Fails .normaliserInternalError) ∧
      (¬TooDeep 2 Stepped.document.data ∧
        (ofDocument Stepped.document (Stepped.options 2)).log.codes =
          [.invalidVersion, .normaliserInternalError] ∧
        ∃ tree, (ofDocument Stepped.document (Stepped.options 2)).value = some tree ∧
          ∀ d ∈ (ofDocument Stepped.document (Stepped.options 2)).log,
            d.code = .normaliserInternalError →
              ∃ collector, (Stepped.options 2).collector = some collector ∧
                ∃ c ∈ (ofDocument Stepped.document (Stepped.options 2)).consultations,
                  c.Supplies collector d) ∧
      (ofDocument { Stepped.document with data := .array [] } {}).Fails .invalidRoot := by
  have deep : TooDeep 1 Stepped.document.data := by
    by_contra shallow
    exact absurd ((tooDeep?_eq_none_iff 1 _).2 shallow) (by decide +kernel)
  have shallow : ¬TooDeep 2 Stepped.document.data :=
    (tooDeep?_eq_none_iff 2 _).1 (by decide +kernel)
  obtain ⟨-, -, fails, -⟩ := ofDocument_all_or_nothing Stepped.document (Stepped.options 1)
  obtain ⟨-, -, -, reads⟩ := ofDocument_all_or_nothing Stepped.document (Stepped.options 2)
  obtain ⟨-, plain, -, -⟩ :=
    ofDocument_all_or_nothing { Stepped.document with data := .array [] } {}
  exact ⟨⟨deep, fails nofun deep⟩, ⟨shallow, by decide +kernel, reads nofun shallow⟩, plain rfl⟩

end DesignTokens.Tree
