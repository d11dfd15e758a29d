import DesignTokens.Proofs.Sample
import DesignTokens.Proofs.Tree.Children
import DesignTokens.Proofs.Tree.Likeness

/-!
# DesignTokens.Proofs.Tree.Listing — a tree lists the nodes of its document

Which members of a document name nodes, and what becomes of each, is said here without reading them.
The tree has exactly those nodes, in document order, and each member that is left out is reported.

1. **Sites** (`Site`): the members that name nodes, in document order (`sites`), which are those of
   the root and of all collections below it (`mem_sites_iff`).
2. **Fates** (`Site.fate`): a site is kept as a node of some kind, or dropped for a reason.
3. **Readings** (`Lists`): what is read from some sites are the nodes that are kept of them, and the
   reasons for the others.
4. **Documents** (`walk_accounts_for_sites`).
-/

namespace DesignTokens.Tree

/-! ## Sites -/

/-- A member that names a node. -/
structure Site where
  name : String
  pointer : Pointer
  value : Json
deriving Repr

mutual

/-- The sites below a value: only an object that is a collection has any. -/
def sitesBelow (pointer : Pointer) : Json → List Site
  | .object members => if isTokenLike members then [] else sitesAmong pointer members
  | _ => []

/-- The sites among the members of a collection, each before those below it. -/
def sitesAmong (pointer : Pointer) : List (String × Json) → List Site
  | [] => []
  | (name, value) :: rest =>
    if isReserved name then sitesAmong pointer rest
    else ⟨name, pointer.child name, value⟩ :: sitesBelow (pointer.child name) value ++
      sitesAmong pointer rest

end

/-- The sites of a document, whose root is a collection in any case. -/
def sites : Json → List Site
  | .object members => sitesAmong Pointer.root members
  | _ => []

/-- A site of a document: a named member of the root, or of a site that is a collection. -/
inductive Site.IsIn (data : Json) : Site → Prop where
  | root {members : Json.Members} {name : String} {value : Json} (object : data = .object members)
      (mem : (name, value) ∈ members) (named : isReserved name = false) :
      IsIn data ⟨name, Pointer.root.child name, value⟩
  | nested {s : Site} {members : Json.Members} {name : String} {value : Json} (above : IsIn data s)
      (object : s.value = .object members) (collection : isTokenLike members = false)
      (mem : (name, value) ∈ members) (named : isReserved name = false) :
      IsIn data ⟨name, s.pointer.child name, value⟩

section Sites

variable {data : Json} {pointer : Pointer} {name : String} {value : Json} {s : Site}

/-- A named member is a site, and what is below it is among those of the object. -/
theorem mem_sitesAmong {members : Json.Members} (mem : (name, value) ∈ members)
    (named : isReserved name = false) :
    ⟨name, pointer.child name, value⟩ ∈ sitesAmong pointer members ∧
      sitesBelow (pointer.child name) value ⊆ sitesAmong pointer members := by
  induction members with
  | nil => exact absurd mem List.not_mem_nil
  | cons first rest ih =>
    obtain ⟨key, json⟩ := first
    unfold sitesAmong
    rcases List.mem_cons.1 mem with same | later
    · cases same
      rw [if_neg (by simp [named])]
      exact ⟨by simp, fun s hs => by simp [hs]⟩
    · obtain ⟨here, below⟩ := ih later
      split
      · exact ⟨here, below⟩
      · exact ⟨List.mem_append_right _ here, fun s hs => List.mem_append_right _ (below hs)⟩

mutual

/-- What is below a site is a site. -/
theorem isIn_of_mem_below (pointer : Pointer) : ∀ value, ∀ name,
    Site.IsIn data ⟨name, pointer, value⟩ → ∀ s ∈ sitesBelow pointer value, s.IsIn data
  | .object members, name, above, s, hs => by
    unfold sitesBelow at hs
    split at hs
    · exact absurd hs List.not_mem_nil
    · next collection =>
      refine isIn_of_mem_among pointer members (fun m hm named => ?_) s hs
      exact .nested (s := ⟨name, pointer, .object members⟩) above rfl (by simpa using collection)
        hm named
  | .null, _, _, _, hs | .bool _, _, _, _, hs | .int _, _, _, _, hs | .double _, _, _, _, hs
  | .string _, _, _, _, hs | .array _, _, _, _, hs => by simp [sitesBelow] at hs

/-- What is listed among the members is a site below one of them. -/
theorem isIn_of_mem_among (pointer : Pointer) : ∀ members : List (String × Json),
    (∀ m ∈ members, isReserved m.1 = false → Site.IsIn data ⟨m.1, pointer.child m.1, m.2⟩) →
      ∀ s ∈ sitesAmong pointer members, s.IsIn data
  | [], _, _, hs => by simp [sitesAmong] at hs
  | (name, value) :: rest, each, s, hs => by
    have later := isIn_of_mem_among pointer rest fun m hm => each m (List.mem_cons_of_mem _ hm)
    unfold sitesAmong at hs
    split at hs
    · exact later s hs
    · next named =>
      have here := each _ List.mem_cons_self (by simpa using named)
      rcases List.mem_append.1 hs with hs | hs
      · rcases List.mem_cons.1 hs with rfl | hs
        · exact here
        · exact isIn_of_mem_below (pointer.child name) value name here s hs
      · exact later s hs

end

/-- The list of sites has all sites of a document, and nothing else. -/
theorem mem_sites_iff : s ∈ sites data ↔ s.IsIn data := by
  constructor
  · intro hs
    cases data with
    | object members =>
      exact isIn_of_mem_among Pointer.root members (fun m hm named => .root rfl hm named) s hs
    | _ => exact absurd hs List.not_mem_nil
  · intro hs
    -- With a site, all that is below it is in the list.
    suffices s ∈ sites data ∧ sitesBelow s.pointer s.value ⊆ sites data from this.1
    induction hs with
    | root object mem named =>
      subst object
      exact mem_sitesAmong mem named
    | nested _ object collection mem named ih =>
      have inside := ih.2
      rw [object, sitesBelow, if_neg (by simp [collection])] at inside
      obtain ⟨here, below⟩ := mem_sitesAmong mem named
      exact ⟨inside here, List.Subset.trans below inside⟩

/-- A site stands in the document at its pointer, if no name is repeated. -/
theorem Site.IsIn.at? (clear : data.unambiguous = true) (h : s.IsIn data) :
    data.at? s.pointer = some s.value := by
  induction h with
  | root object mem _ => exact Json.at?_of_mem clear (by rw [Json.at?_root, object]) mem
  | nested _ object _ mem _ ih => exact Json.at?_of_mem clear (ih.trans (by rw [object])) mem

end Sites

/-! ## Fates -/

/-- What kind of node a node is. -/
inductive Kind where
  | collection
  | token
  | aliasTo
deriving Repr, DecidableEq

/-- What becomes of a site: a node, or the code and the place of a report. -/
inductive Fate where
  | kept (kind : Kind)
  | dropped (code : Code) (place : Pointer)
deriving Repr, DecidableEq

/-- An object with a reference is an alias; its type and its reference have to be texts. An object
without one is a token if it has a type or a value, and else a collection. -/
def Site.fate (s : Site) : Fate :=
  match s.value with
  | .object members =>
    match Json.Members.get? members "$ref" with
    | none =>
      .kept (if Json.Members.has members "$type" || Json.Members.has members "$value" then .token
        else .collection)
    | some (.string _) =>
      match Json.Members.get? members "$type" with
      | some (.string _) => .kept .aliasTo
      | _ => .dropped .aliasMissingType s.pointer
    | some _ => .dropped .invalidRef (s.pointer.child "$ref")
  | _ => .dropped .invalidNode s.pointer

/-- A line of the list of nodes. -/
structure Entry where
  name : String
  pointer : Pointer
  kind : Kind
deriving Repr, DecidableEq

def Node.kind : Node → Kind
  | .collection _ _ => .collection
  | .token _ _ _ => .token
  | .aliasTo _ _ _ => .aliasTo

def Node.entry (n : Node) : Entry :=
  ⟨n.name, n.pointer, n.kind⟩

/-- The line for a site that is kept. -/
def Site.entry? (s : Site) : Option Entry :=
  match s.fate with
  | .kept kind => some ⟨s.name, s.pointer, kind⟩
  | .dropped _ _ => none

/-- If a site is dropped, an error says why. -/
def Site.Reported (s : Site) (log : Log) : Prop :=
  ∀ code place, s.fate = .dropped code place →
    ∃ d ∈ log, d.isError = true ∧ d.code = code ∧ d.pointer = some place

theorem Site.Reported.mono {s : Site} {log log' : Log} (h : s.Reported log) (sub : log ⊆ log') :
    s.Reported log' := by
  intro code place dropped
  obtain ⟨d, hd, error⟩ := h code place dropped
  exact ⟨d, sub hd, error⟩

/-! ## Readings -/

/-- Some nodes are those that are kept of some sites, in the same order, and a log has the reasons
for the other sites. -/
structure Lists (ss : List Site) (nodes : List Node) (log : Log) : Prop where
  entries : nodes.map Node.entry = ss.filterMap Site.entry?
  reported : ∀ s ∈ ss, s.Reported log

namespace Lists

variable {ss ss' : List Site} {s : Site} {nodes nodes' : List Node} {n : Node} {log log' : Log}

theorem nil (log : Log) : Lists [] [] log :=
  ⟨rfl, fun _ h => absurd h List.not_mem_nil⟩

theorem mono (h : Lists ss nodes log) (sub : log ⊆ log') : Lists ss nodes log' :=
  ⟨h.entries, fun s hs => (h.reported s hs).mono sub⟩

theorem append (h : Lists ss nodes log) (h' : Lists ss' nodes' log') :
    Lists (ss ++ ss') (nodes ++ nodes') (log ++ log') := by
  constructor
  · rw [List.map_append, List.filterMap_append, h.entries, h'.entries]
  · intro s hs
    rcases List.mem_append.1 hs with hs | hs
    · exact (h.reported s hs).mono (List.subset_append_left _ _)
    · exact (h'.reported s hs).mono (List.subset_append_right _ _)

/-- A site that is kept, before those below it. -/
theorem kept (fate : s.fate = .kept n.kind) (name : n.name = s.name)
    (pointer : n.pointer = s.pointer) (h : Lists ss nodes log) :
    Lists (s :: ss) (n :: nodes) log := by
  have entry : s.entry? = some n.entry := by simp [Site.entry?, fate, Node.entry, name, pointer]
  constructor
  · rw [List.map_cons, List.filterMap_cons_some entry, h.entries]
  · intro s' hs'
    rcases List.mem_cons.1 hs' with rfl | hs'
    · intro code place dropped
      rw [fate] at dropped
      cases dropped
    · exact h.reported s' hs'

/-- A site that is dropped with a report, and has nothing below it. -/
theorem dropped (fault : Fault) {place : Pointer} (fate : s.fate = .dropped fault.code place)
    (error : fault.code.severity = .error) {ctx : Context}
    (sub : (ctx.report fault place).log ⊆ log) : Lists [s] [] log := by
  have entry : s.entry? = none := by simp [Site.entry?, fate]
  constructor
  · simp [entry]
  · intro s' hs' code place' other
    rw [List.mem_singleton.1 hs'] at other
    obtain ⟨rfl, rfl⟩ := Fate.dropped.inj (fate.symm.trans other)
    exact ⟨_, sub (List.mem_singleton_self _), decide_eq_true error, rfl, rfl⟩

end Lists

variable {ctx : Context} {name : String} {pointer : Pointer} {members : Json.Members}

/-- An object with a reference and without a type is no alias, and that is reported. -/
theorem readAlias_untyped {text : String} (href : members.get? "$ref" = some (.string text))
    (other : ∀ type, members.get? "$type" ≠ some (.string type)) (hasValue : Bool) :
    let reading := readAlias ctx (nodeInfo ctx members pointer name)
      (textField ctx members pointer "$type") (.string text) hasValue
    Lists [⟨name, pointer, .object members⟩] reading.value.toList reading.log := by
  intro reading
  have fate : (⟨name, pointer, .object members⟩ : Site).fate =
      .dropped .aliasMissingType pointer := by
    simp only [Site.fate, href]
  have missing : textField ctx members pointer "$type" = none := by
    unfold textField
    cases htype : members.get? "$type" with
    | none => rfl
    | some value =>
      cases value with
      | string type => exact absurd htype (other type)
      | _ => rfl
  have dropped : reading.value = none ∧
      (ctx.report (.aliasWithoutType name) pointer).log ⊆ reading.log := by
    simp [reading, missing, readAlias, nodeInfo]
  rw [dropped.1]
  exact .dropped (.aliasWithoutType name) fate rfl dropped.2

/-- An object with a reference is read as what its site says. -/
theorem readAlias_lists {reference : Json} (href : members.get? "$ref" = some reference)
    (hasValue : Bool) :
    let reading := readAlias ctx (nodeInfo ctx members pointer name)
      (textField ctx members pointer "$type") reference hasValue
    Lists [⟨name, pointer, .object members⟩] reading.value.toList reading.log := by
  intro reading
  cases reference with
  | string text =>
    cases htype : members.get? "$type" with
    | none => exact readAlias_untyped href (by simp [htype]) hasValue
    | some value =>
      cases value with
      | string type =>
        -- A text with a type gives an alias.
        have fate : (⟨name, pointer, .object members⟩ : Site).fate = .kept .aliasTo := by
          simp [Site.fate, href, htype]
        have typed : textField ctx members pointer "$type" =
            some (ctx.field type (pointer.child "$type")) := by
          simp [textField, htype, Json.text?]
        simp only [reading, typed, readAlias, Reading.value_bind, Reading.value_pure]
        exact .kept fate rfl rfl (Lists.nil _)
      | _ => exact readAlias_untyped href (by simp [htype]) hasValue
  | _ =>
    -- A reference must be a text.
    have fate : (⟨name, pointer, .object members⟩ : Site).fate =
        .dropped .invalidRef (pointer.child "$ref") := by
      simp [Site.fate, href]
    have dropped : reading.value = none ∧
        (ctx.report .aliasReferenceNotText (pointer.child "$ref")).log ⊆ reading.log := by
      simp [reading, readAlias, nodeInfo]
    rw [dropped.1]
    exact .dropped .aliasReferenceNotText fate rfl dropped.2

/-- A token or an alias is read as what its site says. -/
theorem readToken_lists (token : isTokenLike members = true) :
    Lists [⟨name, pointer, .object members⟩] (readToken ctx name pointer members).value.toList
      (readToken ctx name pointer members).log := by
  simp only [readToken, Reading.value_bind, Reading.log_bind, value_readType]
  cases href : members.get? "$ref" with
  | none =>
    -- Without a reference it is a token.
    have keys : (members.has "$type" || members.has "$value") = true := by
      simpa [isTokenLike, tokenKeys, Json.Members.has, href] using token
    have fate : (⟨name, pointer, .object members⟩ : Site).fate = .kept .token := by
      simp [Site.fate, href, keys]
    exact .kept fate rfl rfl (Lists.nil _)
  | some reference =>
    -- With one it is an alias, or is dropped.
    refine (readAlias_lists href (members.has "$value")).mono ?_
    intro d hd
    simp only [List.mem_append]
    exact .inr (.inr (.inr (.inr hd)))

mutual

/-- A value is read as what its site and those below it say. -/
theorem readNode_lists (name : String) (pointer : Pointer) : ∀ value,
    Lists (⟨name, pointer, value⟩ :: sitesBelow pointer value)
      (readWalk ctx name pointer value) (readNode ctx name pointer value).log
  | .object members => by
    rw [readWalk_object, sitesBelow, readNode]
    cases token : isTokenLike members with
    | true =>
      -- A token or an alias is alone.
      simp only [if_true]
      refine (readToken_lists token).mono ?_
      simp only [Reading.log_bind]
      exact List.subset_append_right _ _
    | false =>
      -- A collection is kept, and then the sites below it follow.
      have fate : (⟨name, pointer, .object members⟩ : Site).fate = .kept .collection := by
        have keys : Json.Members.get? members "$type" = none ∧
            Json.Members.get? members "$value" = none ∧
              Json.Members.get? members "$ref" = none := by
          simpa [isTokenLike, tokenKeys, Json.Members.has] using token
        simp [Site.fate, Json.Members.has, keys]
      have below := readChildren_lists pointer members
      rw [walkList_readChildren] at below
      refine .kept fate rfl rfl (below.mono fun d hd => ?_)
      simp only [Bool.false_eq_true, if_false, readCollection, Reading.log_bind, List.mem_append]
      exact .inr (.inl (.inr (.inr (.inl hd))))
  | .null | .bool _ | .int _ | .double _ | .string _ | .array _ => by
    rw [readWalk_plain rfl]
    exact .dropped (.nodeNotObject name) rfl rfl (List.subset_append_left _ _)

/-- The members of a collection are read as what the sites among them say. -/
theorem readChildren_lists (pointer : Pointer) : ∀ members : List (String × Json),
    Lists (sitesAmong pointer members) (Node.walkList (readChildren ctx pointer members).value)
      (readChildren ctx pointer members).log
  | [] => Lists.nil _
  | (name, value) :: rest => by
    have later := readChildren_lists pointer rest
    unfold readChildren sitesAmong
    split
    · -- A reserved name is no site.
      exact later
    · -- A named member: its own node and all below, before those of the rest.
      have first := readNode_lists name (pointer.child name) value
      have walk : ∀ (node : Option Node) (more : List Node),
          Node.walkList (node.toList ++ more) =
            node.toList.flatMap Node.walk ++ Node.walkList more := by
        intro node more
        rw [walkList_eq_flatMap, walkList_eq_flatMap, List.flatMap_append]
      simp only [Reading.value_bind, Reading.value_pure, Reading.log_bind, Reading.log_pure,
        List.append_nil, walk]
      exact first.append later

end

/-! ## Documents -/

section Documents

variable {document : Document} {options : Options} {tree : Tree}

/-- A document with a tree is read as what its sites say. -/
theorem ofDocument_lists (h : (ofDocument document options).value = some tree) :
    Lists (sites document.data) tree.walk (ofDocument document options).log := by
  obtain ⟨members, hdata, rfl⟩ := ofDocument_eq_some h
  rw [hdata, sites]
  refine (readChildren_lists Pointer.root members).mono fun d hd => ?_
  have read : d ∈ (readRoot (options.context document) members).log := by
    simp only [readRoot, Reading.log_bind, List.mem_append]
    exact .inr (.inr (.inr (.inr (.inr (.inl hd)))))
  unfold ofDocument at h ⊢
  simp only [hdata] at h ⊢
  -- A document that is too deep has no tree.
  split at h
  · cases h
  · next shallow =>
    simp only [Reading.log_bind]
    exact List.mem_append_left _ read

/-- What becomes of a site depends on where it stands and on its value. -/
theorem Site.fate_congr {s s' : Site} (pointer : s.pointer = s'.pointer)
    (value : s.value = s'.value) : s.fate = s'.fate := by
  simp only [Site.fate, pointer, value]

/-- An entry of the list comes from a site that is kept. -/
theorem Site.entry?_eq_some {s : Site} {e : Entry} (h : s.entry? = some e) :
    s.fate = .kept e.kind ∧ e.name = s.name ∧ e.pointer = s.pointer := by
  unfold Site.entry? at h
  split at h
  · next kind fate =>
    cases h
    exact ⟨fate, rfl, rfl⟩
  · cases h

/-- The tree of a document without repeated names lists the sites that are kept, in document order
and each at a pointer of its own; a site that is dropped is not listed, and an error says why. -/
theorem walk_accounts_for_sites (clear : document.data.unambiguous = true)
    (h : (ofDocument document options).value = some tree) :
    tree.walk.map Node.entry = (sites document.data).filterMap Site.entry? ∧
      (tree.walk.map Node.pointer).Nodup ∧
      (∀ s : Site, s.IsIn document.data → ∀ kind, s.fate = .kept kind →
        (tree.walk.map Node.entry).count ⟨s.name, s.pointer, kind⟩ = 1) ∧
      ∀ s : Site, s.IsIn document.data → ∀ code place, s.fate = .dropped code place →
        (∀ n ∈ tree.walk, n.pointer ≠ s.pointer) ∧
          ∃ d ∈ (ofDocument document options).log,
            d.isError = true ∧ d.code = code ∧ d.pointer = some place := by
  obtain ⟨entries, reported⟩ := ofDocument_lists h
  have nodup : (tree.walk.map Node.pointer).Nodup := by
    obtain ⟨members, hdata, rfl⟩ := ofDocument_eq_some h
    change ((Node.walkList (readChildren _ _ members).value).map Node.pointer).Nodup
    rw [walkList_readChildren]
    exact nodup_childWalk Pointer.root (hdata ▸ clear)
  refine ⟨entries, nodup, ?_, ?_⟩
  · -- A kept site gives one node, since no two nodes share a pointer.
    intro s inside kind fate
    have distinct : (tree.walk.map Node.entry).Nodup := by
      refine List.Nodup.of_map Entry.pointer ?_
      rw [List.map_map]
      exact nodup
    refine List.count_eq_one_of_mem distinct ?_
    rw [entries]
    exact List.mem_filterMap.2 ⟨s, mem_sites_iff.2 inside, by simp [Site.entry?, fate]⟩
  · intro s inside code place dropped
    refine ⟨fun n hn here => ?_, reported s (mem_sites_iff.2 inside) code place dropped⟩
    -- The node comes from a site at the same pointer, which has the same value and so is dropped.
    have line : n.entry ∈ (sites document.data).filterMap Site.entry? :=
      entries ▸ List.mem_map_of_mem hn
    obtain ⟨s', hs', entry⟩ := List.mem_filterMap.1 line
    obtain ⟨kept, _, pointer⟩ := Site.entry?_eq_some entry
    have same : s'.pointer = s.pointer := pointer.symm.trans here
    have place' := (mem_sites_iff.1 hs').at? clear
    rw [same, inside.at? clear] at place'
    have value : s'.value = s.value := (Option.some.inj place').symm
    rw [Site.fate_congr same value, dropped] at kept
    cases kept

end Documents

/-! ### A document with all kinds of members -/

namespace Mixed

open Sample (color place)

/-- A collection with a token, an alias whose name has a slash, and three members that are no nodes,
before another token. -/
def document : Document :=
  Sample.document "mixed.json"
    [("$version", .string "1.0.0"),
     ("brand", .object
      [("red", color "$value" "#ff0000"),
       ("on/off", color "$ref" "#/brand/red"),
       ("number", .int 3),
       ("untyped", .object [("$ref", .string "#/brand/red")]),
       ("numbered", .object [("$type", .string "color"), ("$ref", .int 3)])]),
     ("plain", .object [("$value", .bool true), ("ignored", .object [])])]

def brand : Pointer :=
  place "brand"

def tree : Tree :=
  Sample.treeOf document

end Mixed

set_option maxRecDepth 10000 in
/-- Four of the members are nodes, and the three others are reported. -/
theorem mixed_accounted :
    Mixed.document.data.unambiguous = true ∧
      (ofDocument Mixed.document {}).value = some Mixed.tree ∧
      (sites Mixed.document.data).map Site.fate =
        [.kept .collection, .kept .token, .kept .aliasTo,
         .dropped .invalidNode (Mixed.brand.child "number"),
         .dropped .aliasMissingType (Mixed.brand.child "untyped"),
         .dropped .invalidRef ((Mixed.brand.child "numbered").child "$ref"), .kept .token] ∧
      Mixed.tree.walk.map Node.entry = (sites Mixed.document.data).filterMap Site.entry? ∧
      (Mixed.tree.walk.map Node.entry).map (·.pointer.text) =
        ["#/brand", "#/brand/red", "#/brand/on~1off", "#/plain"] ∧
      ∀ s : Site, s.IsIn Mixed.document.data → ∀ code place, s.fate = .dropped code place →
        (∀ n ∈ Mixed.tree.walk, n.pointer ≠ s.pointer) ∧
          ∃ d ∈ (ofDocument Mixed.document {}).log,
            d.isError = true ∧ d.code = code ∧ d.pointer = some place := by
  have clear : Mixed.document.data.unambiguous = true := by decide
  have read : (ofDocument Mixed.document {}).value = some Mixed.tree :=
    Sample.ofDocument_treeOf (by decide +kernel)
  have fates : (sites Mixed.document.data).map Site.fate =
      [.kept .collection, .kept .token, .kept .aliasTo,
       .dropped .invalidNode (Mixed.brand.child "number"),
       .dropped .aliasMissingType (Mixed.brand.child "untyped"),
       .dropped .invalidRef ((Mixed.brand.child "numbered").child "$ref"), .kept .token] := by
    decide +kernel
  obtain ⟨entries, _, _, dropped⟩ := walk_accounts_for_sites clear read
  exact ⟨clear, read, fates, entries, by decide +kernel, dropped⟩

end DesignTokens.Tree
