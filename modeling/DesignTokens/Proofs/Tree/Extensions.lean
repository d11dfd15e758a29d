import DesignTokens.Proofs.Tree.Listing
import DesignTokens.Proofs.Tree.Reports

/-!
# DesignTokens.Proofs.Tree.Extensions — extensions are collected once

The metadata of an object are read before the nodes below it. So the collector of the host gets to
see the entries of `$extensions` in document order, one by one, also those of objects that become no
node. Its answers are reported; they do not change what is kept of an entry.

1. **Extensions** of the objects that are visited (`Tree.extensions`), with what the collector is
   asked and what is reported on them (`Context.consultations`, `Extension.reports`).
2. **Logs** (`Besides`): the reports on extensions are in a log beside plain reports.
3. **Readings** (`Reading.Hears`): the calls and the reports of a reading are those for some
   extensions.
4. **Payloads** (`keptLines`): nodes keep the extensions of their objects.
5. **Documents** (`Tree.extensions_collected_once`).
-/

namespace DesignTokens.Tree

/-! ## Extensions -/

/-- An entry of `$extensions` of the object at a pointer. -/
structure Extension where
  owner : Pointer
  key : String
  payload : Json
deriving Repr

namespace Extension

def pointer (e : Extension) : Pointer :=
  (e.owner.child "$extensions").child e.key

/-- The key is a namespace; all other entries are reported and left out. -/
def isNamed (e : Extension) : Bool :=
  Namespace.isValid e.key

/-- What a collector gets to see of an entry. -/
def input (ctx : Context) (e : Extension) : ExtensionInput :=
  ⟨ctx.uri, e.key, e.payload, e.pointer, ctx.sourceMap.get? e.pointer⟩

/-- What the metadata of a node keep of an entry. -/
def line (ctx : Context) (e : Extension) : String × Field Json :=
  (e.key, ctx.field e.payload e.pointer)

/-- What is reported on an entry: that its key is no namespace, or what comes of the call. -/
def reports (ctx : Context) (e : Extension) : Log :=
  if e.isNamed then
    match ctx.collector with
    | none => []
    | some collector =>
      match collector (e.input ctx) with
      | .ok (some outcome) => outcome.diagnostics
      | .ok none => []
      | .error failure => (ctx.report (.extensionFailed e.key failure) e.pointer).log
  else (ctx.report (.extensionNamespace e.key) e.pointer).log

end Extension

/-- The calls for some entries: the collector is asked about each one whose key is a namespace. -/
def Context.consultations (ctx : Context) (es : List Extension) : List Consultation :=
  match ctx.collector with
  | none => []
  | some collector =>
    (es.filter (·.isNamed)).map fun e => ⟨e.input ctx, collector (e.input ctx)⟩

def Context.lines (ctx : Context) (es : List Extension) : List (String × Field Json) :=
  (es.filter (·.isNamed)).map (·.line ctx)

/-- The extensions of an object. -/
def extensionsOf (owner : Pointer) (members : Json.Members) : List Extension :=
  match members.get? "$extensions" with
  | some (.object entries) => entries.map fun entry => ⟨owner, entry.1, entry.2⟩
  | _ => []

/-- The extensions of a site, which only has some if it is an object. -/
def Site.extensions (s : Site) : List Extension :=
  match s.value with
  | .object members => extensionsOf s.pointer members
  | _ => []

/-- All that is visited in a document: its root, and its sites. -/
def visited (data : Json) : List Site :=
  ⟨"", Pointer.root, data⟩ :: sites data

/-- The extensions of a document. -/
def extensions (data : Json) : List Extension :=
  (visited data).flatMap Site.extensions

variable {ctx : Context}

/-- The calls for two stretches of extensions are made one after the other. -/
theorem consultations_append (es es' : List Extension) :
    ctx.consultations (es ++ es') = ctx.consultations es ++ ctx.consultations es' := by
  unfold Context.consultations
  split
  · rfl
  · rw [List.filter_append, List.map_append]

/-! ## Logs -/

/-- Some reports are those of a log, in its order; all others are on plain faults. -/
inductive Besides : Log → Log → Prop where
  | nil : Besides [] []
  | report {said log : Log} (d : Diagnostic) (h : Besides said log) : Besides (d :: said) (d :: log)
  | plain {said log : Log} {d : Diagnostic} (fault : Fault) (plain : fault.IsPlain)
      (code : d.code = fault.code) (h : Besides said log) : Besides said (d :: log)

namespace Besides

variable {said said' log log' : Log}

theorem refl : ∀ log : Log, Besides log log
  | [] => .nil
  | d :: rest => .report d (refl rest)

theorem append (h : Besides said log) (h' : Besides said' log') :
    Besides (said ++ said') (log ++ log') := by
  induction h with
  | nil => exact h'
  | report d _ ih => exact .report d ih
  | plain fault plain code _ ih => exact .plain fault plain code ih

/-- A log of plain faults says nothing of extensions. -/
theorem of_plain : ∀ {log : Log},
    (∀ d ∈ log, ∃ fault : Fault, fault.IsPlain ∧ d.code = fault.code) → Besides [] log
  | [], _ => .nil
  | d :: rest, h => by
    obtain ⟨fault, plain, code⟩ := h d List.mem_cons_self
    exact .plain fault plain code (of_plain fun d hd => h d (List.mem_cons_of_mem _ hd))

/-- What is said of extensions stands in the log in its order. -/
theorem sublist (h : Besides said log) : said.Sublist log := by
  induction h with
  | nil => exact .slnil
  | report d _ ih => exact .cons_cons d ih
  | plain _ _ _ _ ih => exact .cons _ ih

end Besides

/-- The diagnostics on entries of `$extensions`: on their keys, and on the calls that failed. -/
def onEntries (log : Log) : Log :=
  log.filter fun d => d.code = .extensionFailed || d.code = .invalidExtensionNamespace

/-- A plain fault is neither of the two that an extension can cause. -/
theorem Fault.IsPlain.code_ne {fault : Fault} (plain : fault.IsPlain) :
    fault.code ≠ .extensionFailed ∧ fault.code ≠ .invalidExtensionNamespace := by
  cases fault with
  | extensionFailed key failure => exact absurd rfl (plain.handled key failure)
  | extensionNamespace key => exact absurd rfl (plain.named key)
  | blankText key =>
    dsimp only [Fault.code]
    split_ifs <;> simp
  | _ => simp [Fault.code]

/-- The reports on extensions in a log are the ones that are said of them. -/
theorem Besides.onEntries_eq {said log : Log} (h : Besides said log) :
    onEntries log = onEntries said := by
  induction h with
  | nil => rfl
  | report d _ ih =>
    unfold onEntries at ih ⊢
    rw [List.filter_cons, List.filter_cons, ih]
  | plain fault plain code _ ih =>
    obtain ⟨failed, named⟩ := plain.code_ne
    unfold onEntries at ih ⊢
    rw [List.filter_cons_of_neg (by simp [code, failed, named]), ih]

/-! ## Readings -/

variable {α β : Type}

/-- What a reading asks the collector, and what it reports on extensions, is that for the given
ones, in their order. -/
structure Reading.Hears (ctx : Context) (es : List Extension) (x : Reading α) : Prop where
  consultations : x.consultations = ctx.consultations es
  log : Besides (es.flatMap (·.reports ctx)) x.log

namespace Reading

/-- A reading that is plain consults nobody. -/
theorem Plain.hears {x : Reading α} (h : x.Plain) : x.Hears ctx [] where
  consultations := by
    rw [h.consultations, Context.consultations]
    cases ctx.collector <;> rfl
  log := .of_plain h.log

/-- Readings one after the other hear of the extensions of both. -/
theorem Hears.bind {es es' : List Extension} {x : Reading α} {f : α → Reading β}
    (hx : x.Hears ctx es) (hf : (f x.value).Hears ctx es') : (x >>= f).Hears ctx (es ++ es') where
  consultations := by
    rw [consultations_append, ← hx.consultations, ← hf.consultations]
    rfl
  log := by
    rw [List.flatMap_append]
    exact hx.log.append hf.log

/-- After a plain reading. -/
theorem Hears.after {es : List Extension} {x : Reading α} {f : α → Reading β} (hx : x.Plain)
    (hf : (f x.value).Hears ctx es) : (x >>= f).Hears ctx es :=
  hx.hears.bind hf

/-- Before a plain reading. -/
theorem Hears.before {es : List Extension} {x : Reading α} {f : α → Reading β}
    (hx : x.Hears ctx es) (hf : (f x.value).Plain) : (x >>= f).Hears ctx es := by
  have both := hx.bind hf.hears
  rwa [List.append_nil] at both

end Reading

section Readings

variable {pointer : Pointer} {members : Json.Members}

/-- The reading of one entry whose key is a namespace. -/
theorem hears_consultCollector {e : Extension} (named : e.isNamed = true) :
    (consultCollector ctx e.key e.payload e.pointer).Hears ctx [e] := by
  -- Nobody is asked.
  cases has : ctx.collector with
  | none =>
    constructor
    · simp only [consultCollector, Context.consultations, has]
      rfl
    · simp only [consultCollector, List.flatMap_singleton, Extension.reports, named, has]
      exact .nil
  | some collector =>
    -- The collector is asked once, whatever it answers.
    constructor
    · -- It hears of the extension.
      have quiet : (consultCollector ctx e.key e.payload e.pointer).consultations =
          ⟨e.input ctx, collector (e.input ctx)⟩ :: [] := by
        simp only [consultCollector, has]
        change [_] ++ (Reading.consultations (match collector (e.input ctx) with
          | .ok (some outcome) => _ | .ok none => _ | .error failure => _)) = _
        split <;> rfl
      simp only [quiet, Context.consultations, has, List.filter_cons_of_pos named]
      rfl
    · -- What it reports stands in the log.
      have log : (consultCollector ctx e.key e.payload e.pointer).log = e.reports ctx := by
        simp only [consultCollector, Extension.reports, named, has]
        change [] ++ (Reading.log (match collector (e.input ctx) with
          | .ok (some outcome) => _ | .ok none => _ | .error failure => _)) = _
        split <;> rfl
      rw [log, List.flatMap_singleton]
      exact .refl _

/-- The reading of one entry whose key is none. -/
theorem hears_report {e : Extension} (unnamed : e.isNamed = false) :
    (ctx.report (.extensionNamespace e.key) e.pointer).Hears ctx [e] where
  consultations := by
    unfold Context.consultations
    rw [List.filter_cons_of_neg (by simp [unnamed])]
    cases ctx.collector <;> rfl
  log := by
    rw [List.flatMap_singleton, Extension.reports, unnamed]
    exact .refl _

/-- Entries are read in order, each with one call if its name is valid. -/
theorem hears_readExtensionEntries (owner : Pointer) (entries : List (String × Json)) :
    (readExtensionEntries ctx (owner.child "$extensions") entries).Hears ctx
      (entries.map fun entry => ⟨owner, entry.1, entry.2⟩) := by
  induction entries with
  | nil => exact (Reading.plain_pure _).hears
  | cons entry rest ih =>
    rw [List.map_cons, ← List.singleton_append]
    unfold readExtensionEntries
    dsimp only
    split
    · next named =>
      have named : (⟨owner, entry.1, entry.2⟩ : Extension).isNamed = true := named
      exact (hears_consultCollector named).bind (ih.before (Reading.plain_pure _))
    · next unnamed =>
      have unnamed : (⟨owner, entry.1, entry.2⟩ : Extension).isNamed = false := by
        simpa [Extension.isNamed] using unnamed
      exact (hears_report unnamed).bind ih

theorem hears_readExtensions :
    (readExtensions ctx members pointer).Hears ctx (extensionsOf pointer members) := by
  unfold readExtensions extensionsOf
  cases members.get? "$extensions" with
  | none => exact (Reading.plain_pure _).hears
  | some value =>
    cases value with
    | object entries => exact hears_readExtensionEntries pointer entries
    | _ => exact Reading.Plain.hears (by simp)

/-- Of the metadata only that member is for a collector. -/
theorem hears_readMetadata :
    (readMetadata ctx members pointer).Hears ctx (extensionsOf pointer members) := by
  unfold readMetadata
  refine .after (by simp) (hears_readExtensions.before ?_)
  iterate 5 refine .bind (by simp) ?_
  simp

/-- A token hears of its own extensions only. -/
theorem hears_readToken (name : String) :
    (readToken ctx name pointer members).Hears ctx (extensionsOf pointer members) := by
  unfold readToken
  iterate 3 refine .after (by simp) ?_
  refine hears_readMetadata.before ?_
  split
  · exact plain_readAlias _ _ _ _
  · simp

mutual

/-- The extensions of a site come before those of the sites below it. -/
theorem hears_readNode (name : String) (pointer : Pointer) : ∀ value,
    (readNode ctx name pointer value).Hears ctx
      ((⟨name, pointer, value⟩ :: sitesBelow pointer value).flatMap Site.extensions)
  | .object members => by
    have below := hears_readChildren pointer members
    rw [readNode, List.flatMap_cons, sitesBelow]
    -- The checks before say nothing of extensions.
    refine .after (by simp) ?_
    split
    · -- A token or an alias.
      rw [List.flatMap_nil, List.append_nil]
      exact hears_readToken name
    · -- A collection: its own extensions, and then those below.
      refine .before ?_ (Reading.plain_pure _)
      exact hears_readMetadata.bind (.after (by simp) (below.before (Reading.plain_pure _)))
  | .null | .bool _ | .int _ | .double _ | .string _ | .array _ => by
    rw [readNode]
    · exact Reading.Plain.hears (by simp)
    · simp

theorem hears_readChildren (pointer : Pointer) : ∀ members : List (String × Json),
    (readChildren ctx pointer members).Hears ctx
      ((sitesAmong pointer members).flatMap Site.extensions)
  | [] => (Reading.plain_pure _).hears
  | (name, value) :: rest => by
    have first := hears_readNode name (pointer.child name) value
    have later := hears_readChildren pointer rest
    unfold readChildren sitesAmong
    split
    · exact later
    · rw [List.flatMap_append]
      exact first.bind (later.before (Reading.plain_pure _))

end

/-- The root comes first. -/
theorem hears_readRoot :
    (readRoot ctx members).Hears ctx (extensions (.object members)) := by
  have children : (readChildren ctx Pointer.root members).Hears ctx _ :=
    hears_readChildren Pointer.root members
  unfold readRoot
  refine .after plain_readSchema (.after plain_readVersion ?_)
  refine hears_readMetadata.bind (.after (by simp) (.after (by simp) ?_))
  exact children.before (Reading.plain_pure _)

/-! ## Payloads -/

/-- A valid name gives one payload. -/
theorem lines_cons (e : Extension) (es : List Extension) :
    ctx.lines (e :: es) = if e.isNamed then e.line ctx :: ctx.lines es else ctx.lines es := by
  unfold Context.lines
  rw [List.filter_cons]
  split <;> rfl

/-- What is kept of the entries are the payloads of the valid names. -/
theorem value_readExtensionEntries (owner : Pointer) (entries : List (String × Json)) :
    (readExtensionEntries ctx (owner.child "$extensions") entries).value =
      ctx.lines (entries.map fun entry => ⟨owner, entry.1, entry.2⟩) := by
  induction entries with
  | nil => rfl
  | cons entry rest ih =>
    rw [readExtensionEntries, List.map_cons, lines_cons, ← ih]
    cases named : Namespace.isValid entry.1 <;>
      simp [Extension.isNamed, Extension.line, Extension.pointer, named]

/-- The extensions that the metadata of an object keep, whatever the collector says. -/
theorem extensions_readMetadata :
    (readMetadata ctx members pointer).value.extensions =
      ctx.lines (extensionsOf pointer members) := by
  change (readExtensions ctx members pointer).value = _
  unfold readExtensions extensionsOf
  cases members.get? "$extensions" with
  | none => rfl
  | some value =>
    cases value with
    | object entries => exact value_readExtensionEntries pointer entries
    | _ => rfl

/-- What a node keeps, and what it has to keep of the site it comes from. -/
def Node.keeps (n : Node) : String × Pointer × List (String × Field Json) :=
  (n.name, n.pointer, n.metadata.extensions)

def Site.keeps (ctx : Context) (s : Site) : String × Pointer × List (String × Field Json) :=
  (s.name, s.pointer, ctx.lines s.extensions)

/-- A token or an alias keeps the payloads of its own extensions. -/
theorem keeps_readToken {name : String} {n : Node}
    (read : (readToken ctx name pointer members).value = some n) :
    n.keeps = Site.keeps ctx ⟨name, pointer, .object members⟩ := by
  have info : n.info = nodeInfo ctx members pointer name := by
    rw [value_readToken] at read
    split at read
    · split at read <;> cases read
      rfl
    · cases read
      rfl
  simp only [Node.keeps, Node.name, Node.pointer, Node.metadata, info, nodeInfo,
    extensions_readMetadata]
  rfl

mutual

/-- The nodes that are read are some of the sites, in their order, each with the extensions of its
site. -/
theorem keeps_readWalk (name : String) (pointer : Pointer) : ∀ value,
    ((readWalk ctx name pointer value).map Node.keeps).Sublist
      ((⟨name, pointer, value⟩ :: sitesBelow pointer value).map (Site.keeps ctx))
  | .object members => by
    have below := keeps_childWalk pointer members
    rw [readWalk_object, sitesBelow, List.map_cons]
    split
    · -- A token or an alias, which may be dropped.
      cases read : (readToken ctx name pointer members).value with
      | none => exact List.nil_sublist _
      | some n =>
        rw [Option.toList_some, List.map_singleton, keeps_readToken read]
        exact List.Sublist.refl _
    · -- A collection, which is always kept.
      rw [List.map_cons]
      have kept : ∀ children, Node.keeps (.collection
          { name, pointer, span := ctx.sourceMap.get? pointer
            metadata := (readMetadata ctx members pointer).value } children) =
          Site.keeps ctx ⟨name, pointer, .object members⟩ := by
        intro children
        simp only [Node.keeps, Node.name, Node.pointer, Node.metadata, Node.info,
          extensions_readMetadata]
        rfl
      rw [kept]
      exact .cons_cons _ below
  | .null | .bool _ | .int _ | .double _ | .string _ | .array _ => by
    rw [readWalk_plain rfl]
    exact List.nil_sublist _

theorem keeps_childWalk (pointer : Pointer) : ∀ members : List (String × Json),
    ((childWalk ctx pointer members).map Node.keeps).Sublist
      ((sitesAmong pointer members).map (Site.keeps ctx))
  | [] => List.Sublist.refl _
  | (name, value) :: rest => by
    have first := keeps_readWalk name (pointer.child name) value
    have later := keeps_childWalk pointer rest
    unfold sitesAmong
    cases reserved : isReserved name with
    | true =>
      -- A reserved name is not visited.
      have skipped : childWalk ctx pointer ((name, value) :: rest) =
          childWalk ctx pointer rest := by simp [childWalk, named, reserved]
      rw [skipped]
      exact later
    | false =>
      -- Another one gives its node and all below it.
      have split : childWalk ctx pointer ((name, value) :: rest) =
          readWalk ctx name (pointer.child name) value ++ childWalk ctx pointer rest := by
        simp [childWalk, named, reserved]
      rw [split, List.map_append, if_neg (by simp), List.map_append]
      exact first.append later

end

end Readings

/-! ## Documents -/

section Documents

variable {document : Document} {options : Options} {tree : Tree}

/-- The extensions of a document are collected. -/
structure Collects (document : Document) (options : Options) (tree : Tree) : Prop where
  /-- The collector is asked once about each entry whose key is a namespace, in document order, and
  about nothing else. -/
  calls : (ofDocument document options).consultations =
    (options.context document).consultations (extensions document.data)
  /-- What comes of the calls that gave an outcome, in their order. -/
  evaluations : ∀ collector, options.collector = some collector →
    (ofDocument document options).consultations.filterMap Consultation.evaluation? =
      ((extensions document.data).filter (·.isNamed)).filterMap fun e =>
        match collector (e.input (options.context document)) with
        | .ok (some outcome) => some ⟨outcome.plugin, e.key, e.pointer, outcome.normalized⟩
        | _ => none
  /-- What is reported on the entries is in the log, in their order; all else is on plain faults,
  and so on no entry. -/
  reports : Besides
    ((extensions document.data).flatMap (·.reports (options.context document)))
    (ofDocument document options).log
  onEntries : onEntries (ofDocument document options).log =
    onEntries ((extensions document.data).flatMap (·.reports (options.context document)))
  /-- Nodes and the tree itself keep exactly the entries of their objects whose keys are
  namespaces. -/
  payloads : (("", Pointer.root, tree.metadata.extensions) :: tree.walk.map Node.keeps).Sublist
    ((visited document.data).map (Site.keeps (options.context document)))

/-- What comes of the calls for some entries. -/
theorem evaluations_consultations {collector : Collector} (has : ctx.collector = some collector)
    (es : List Extension) :
    (ctx.consultations es).filterMap Consultation.evaluation? =
      (es.filter (·.isNamed)).filterMap fun e =>
        match collector (e.input ctx) with
        | .ok (some outcome) => some ⟨outcome.plugin, e.key, e.pointer, outcome.normalized⟩
        | _ => none := by
  rw [Context.consultations, has]
  dsimp only
  rw [List.filterMap_map]
  rfl

/-- A document with a tree is read like its root. -/
theorem reading_of_tree (h : (ofDocument document options).value = some tree) :
    ∃ members, document.data = .object members ∧
      (readRoot (options.context document) members).value = tree ∧
      ofDocument document options = (do
        let tree ← readRoot (options.context document) members
        pure (some tree)) := by
  obtain ⟨members, hdata, value⟩ := ofDocument_eq_some h
  refine ⟨members, hdata, value, ?_⟩
  unfold ofDocument at h ⊢
  rw [hdata] at h ⊢
  dsimp only at h ⊢
  split at h
  · cases h
  · rfl

/-- For any collector: it is asked exactly once about each entry of `$extensions` of a visited
object whose key is a namespace; each outcome is evaluated and each failure is reported once, as is
each other entry; and nodes keep the entries with namespaces in any case. -/
theorem extensions_collected_once (h : (ofDocument document options).value = some tree) :
    Collects document options tree := by
  obtain ⟨members, hdata, rfl, reading⟩ := reading_of_tree h
  have hears : (ofDocument document options).Hears (options.context document)
      (extensions document.data) := by
    rw [reading, hdata]
    exact hears_readRoot.before (Reading.plain_pure _)
  constructor
  case calls => exact hears.consultations
  case evaluations =>
    intro collector has
    rw [hears.consultations]
    exact evaluations_consultations has _
  case reports => exact hears.log
  case onEntries => exact hears.log.onEntries_eq
  case payloads =>
    -- The payloads below, and then those of the root.
    have below : ((childWalk (options.context document) Pointer.root members).map
        Node.keeps).Sublist _ := keeps_childWalk Pointer.root members
    rw [← walkList_readChildren] at below
    have root : ((readRoot (options.context document) members).value).metadata.extensions =
        (options.context document).lines (extensionsOf Pointer.root members) :=
      extensions_readMetadata
    rw [hdata, visited, List.map_cons, root]
    exact .cons_cons _ below

end Documents

/-! ### A document with all kinds of entries -/

namespace Extended

def color : Pointer :=
  Sample.place "color"

/-- Entries at the root, at a collection, at an alias that is dropped, and below a token. -/
def document : Document :=
  Sample.document "extended.json"
    [("$extensions", .object [("org.known", .int 1), ("Unnamed", .int 2)]),
     ("color", .object
      [("$extensions", .object [("org.broken", .int 3), ("org.other", .int 4)]),
       ("alias", .object [("$ref", .int 5), ("$extensions", .object [("org.known", .int 6)])]),
       ("token", .object
        [("$value", .int 7),
         ("below", .object [("$extensions", .object [("org.known", .int 8)])])])])]

/-- The collector knows one namespace, fails at a second one, and passes over all others. -/
def options : Options where
  collector := some fun input =>
    if input.namespaceKey = "org.known" then .ok (some ⟨"plugin", some input.value, []⟩)
    else if input.namespaceKey = "org.broken" then .error ⟨["broken"]⟩
    else .ok none

end Extended

/-- The alias is dropped after its entry was collected; what is below the token is not visited. -/
theorem extended_collected_once :
    ∃ tree, (ofDocument Extended.document Extended.options).value = some tree ∧
      Collects Extended.document Extended.options tree ∧
      (ofDocument Extended.document Extended.options).consultations.map (·.input.pointer) =
        [(Pointer.root.child "$extensions").child "org.known",
         (Extended.color.child "$extensions").child "org.broken",
         (Extended.color.child "$extensions").child "org.other",
         ((Extended.color.child "alias").child "$extensions").child "org.known"] ∧
      (ofDocument Extended.document Extended.options).log.codes =
        [.invalidExtensionNamespace, .extensionFailed, .invalidRef, .tokenHasChildren] := by
  have known : (ofDocument Extended.document Extended.options).value.isSome = true := by
    decide +kernel
  obtain ⟨tree, read⟩ := Option.isSome_iff_exists.1 known
  exact ⟨tree, read, extensions_collected_once read, by decide +kernel, by decide +kernel⟩

end DesignTokens.Tree
