import DesignTokens.Proofs.Sample
import DesignTokens.Proofs.Tree.Likeness

/-!
# DesignTokens.Proofs.Tree.Fields — every field points at what it was read from

A field keeps the pointer of the value it was read from, and its span. Following the pointer in the
document gives that value again, and the span is the one that the source map has for it.

1. **Fields** (`Field.Shows`): what it means, and that it is so of what is looked up under a key.
2. **Lists of fields**: those of metadata, nodes, offers, overrides and trees, as JSON.
3. **Metadata** (`shows_readMetadata`): texts, extensions, tags and use.
4. **Owners**: nodes, offers and overrides that stand in a document show it, and so does the root.
5. **Documents** (`fields_show_document`).
-/

namespace DesignTokens

open DesignTokens.Tree

/-! ## Fields -/

/-- A field shows the value that stands at its pointer, with the span that is known for it. -/
structure Field.Shows (ctx : Context) (data : Json) (f : Field Json) : Prop where
  value : data.at? f.pointer = some f.value
  span : f.span = ctx.sourceMap.get? f.pointer

/-- A text, as a field of JSON. -/
def Field.asText (f : Field String) : Field Json :=
  f.map .string

namespace Tree

variable {ctx : Context} {data : Json} {pointer : Pointer} {members : Json.Members} {key : String}

theorem shows_field {value : Json} (hat : data.at? pointer = some value) :
    (ctx.field value pointer).Shows ctx data :=
  ⟨hat, rfl⟩

section Member

variable (hat : data.at? pointer = some (.object members))

include hat

theorem shows_valueField {f : Field Json} (h : f ∈ valueField ctx members pointer key) :
    f.Shows ctx data := by
  obtain ⟨value, hget, rfl⟩ := Option.map_eq_some_iff.1 h
  exact shows_field (by rw [Json.at?_member hat, hget])

/-- A text is shown at its own member. -/
theorem shows_textField {f : Field String} (h : f ∈ textField ctx members pointer key) :
    f.asText.Shows ctx data := by
  obtain ⟨text, hget, rfl⟩ := Option.map_eq_some_iff.1 h
  obtain ⟨value, hmember, htext⟩ := Option.bind_eq_some_iff.1 hget
  cases value with
  | string text' =>
    cases htext
    have place : data.at? (pointer.child key) = some (.string text) := by
      rw [Json.at?_member hat, hmember]
    exact shows_field place
  | _ => cases htext

end Member

end Tree

/-! ## Lists of fields -/

namespace Tree

/-- The fields of metadata that are texts. -/
def Metadata.texts (m : Metadata) : List (Field String) :=
  m.description.toList ++ m.lastModified.toList ++ m.lastUsed.toList ++ m.author.toList ++
    m.tags ++ m.hash.toList ++ (m.deprecated.bind (·.value.replacement)).toList

/-- The fields of metadata, apart from `$deprecated` as a whole. -/
def Metadata.fields (m : Metadata) : List (Field Json) :=
  m.texts.map Field.asText ++ m.extensions.map (·.2) ++
    m.usageCount.toList.map (·.map fun n : Nat => .int n)

/-- The fields of a node, and not of those below it. -/
def Node.fields : Node → List (Field Json)
  | .collection info _ => info.metadata.fields
  | .token info type value => info.metadata.fields ++ type.toList.map Field.asText ++ value.toList
  | .aliasTo info type reference => info.metadata.fields ++ [type.asText, reference.asText]

end Tree

/-- The fields of an offer, and not of the entries of its fallback list. -/
def Offer.fields (o : Offer (Field String)) : List (Field Json) :=
  o.reference.toList.map Field.asText ++ o.value.toList

/-- The fields of an override, apart from its fallback list. -/
def Override.fields (o : Override (Field String)) : List (Field Json) :=
  [o.token.asText, o.conditions.map .object] ++ o.offer.fields

def Tree.fields (tree : Tree) : List (Field Json) :=
  tree.schema.toList.map Field.asText ++ tree.version.toList.map Field.asText ++
    tree.metadata.fields

/-- A flag, or an object, which is read as set. -/
def Tree.Deprecation.Reads (d : Deprecation) (value : Json) : Prop :=
  value = .bool d.active ∧ d.replacement = none ∨ value.isObject = true ∧ d.active = true

/-- All fields of metadata show what they were read from. -/
structure Tree.Metadata.Shows (ctx : Context) (data : Json) (m : Metadata) : Prop where
  fields : ∀ f ∈ m.fields, f.Shows ctx data
  deprecated : ∀ f, m.deprecated = some f →
    f.span = ctx.sourceMap.get? f.pointer ∧
      ∃ value, data.at? f.pointer = some value ∧ f.value.Reads value

/-! ## Metadata -/

namespace Tree

variable {ctx : Context} {data : Json} {pointer : Pointer} {members : Json.Members} {key : String}

/-- A text that is read is one of those under the key that are not blank. -/
theorem textField_of_readText {f : Field String}
    (h : f ∈ (readText ctx members pointer key).value) :
    f ∈ textField ctx members pointer key := by
  unfold readText at h
  unfold textField
  split at h
  · cases h
  · next text hget =>
    split at h
    · cases h
    · simpa [hget, Json.text?] using h
  · cases h

/-- A moment is read from a text. -/
theorem textField_of_readMoment {m : Moment} (h : m ∈ (readMoment ctx members pointer key).value) :
    m.field ∈ textField ctx members pointer key := by
  unfold readMoment at h
  unfold textField
  split at h
  · cases h
  · next value hget =>
    -- The text is read as a moment in time.
    split at h
    · next text time htext =>
      obtain ⟨text', hvalue, htime⟩ := Option.bind_eq_some_iff.1 htext
      obtain ⟨_, _, heq⟩ := Option.map_eq_some_iff.1 htime
      cases heq
      cases h
      simp [hget, hvalue, Context.field]
    · cases h

/-- What is not dropped is what was there. -/
theorem mem_of_mem_dropIf {α : Type} {condition : Bool} {fault : Fault} {place : Pointer}
    {value : Option α} {x : α} (h : x ∈ (dropIf ctx condition fault place value).value) :
    x ∈ value := by
  unfold dropIf at h
  split at h
  · cases h
  · exact h

/-- Of the use of a node, only what is read is kept. -/
theorem mem_of_mem_readUsage (ctx : Context) (members : Json.Members) (pointer : Pointer) :
    (∀ m ∈ (readUsage ctx members pointer).value.modified,
      m ∈ (readMoment ctx members pointer "$lastModified").value) ∧
      (∀ m ∈ (readUsage ctx members pointer).value.used,
        m ∈ (readMoment ctx members pointer "$lastUsed").value) ∧
      ∀ f ∈ (readUsage ctx members pointer).value.count,
        f ∈ (readUsageCount ctx members pointer).value := by
  refine ⟨fun _ h => h, ?_, ?_⟩
  · intro m hm
    exact mem_of_mem_dropIf (mem_of_mem_dropIf hm)
  · intro f hf
    exact mem_of_mem_dropIf hf

section Member

variable (hat : data.at? pointer = some (.object members))

include hat

/-- A count is shown at its own member. -/
theorem shows_readUsageCount {f : Field Nat} (h : f ∈ (readUsageCount ctx members pointer).value) :
    (f.map fun n : Nat => Json.int n).Shows ctx data := by
  unfold readUsageCount at h
  split at h
  · cases h
  · next value hget =>
    split at h
    · next count hcount =>
      cases h
      -- Only an integer is read as a count.
      have number : value = .int count := by
        unfold Json.nat? at hcount
        split at hcount
        · cases hcount
          rfl
        · cases hcount
      refine ⟨?_, rfl⟩
      change data.at? (pointer.child "$usageCount") = some (.int count)
      rw [Json.at?_member hat, hget, number]
    · cases h

end Member

/-- The entries of `$extensions` stand in it, as far as they are members of it. -/
theorem shows_readExtensionEntries (clear : data.unambiguous = true) {all : Json.Members}
    (hat : data.at? pointer = some (.object all)) {entries : List (String × Json)}
    (sub : entries ⊆ all) :
    ∀ e ∈ (readExtensionEntries ctx pointer entries).value, e.2.Shows ctx data := by
  induction entries with
  | nil => simp [readExtensionEntries]
  | cons entry rest ih =>
    obtain ⟨name, payload⟩ := entry
    intro e he
    have later := ih fun x hx => sub (List.mem_cons_of_mem _ hx)
    simp only [readExtensionEntries] at he
    split at he
    · -- A valid name keeps its payload, where it stands.
      simp only [Reading.value_bind, Reading.value_pure, List.mem_cons] at he
      rcases he with rfl | he
      · exact shows_field (Json.at?_of_mem clear hat (sub List.mem_cons_self))
      · exact later e he
    · exact later e he

/-- The items of `$tags` are read from an index on. -/
theorem shows_readTagItems {all : List Json} (hat : data.at? pointer = some (.array all))
    {seen : List String} {i : Nat} {items : List Json} (suffix : ∀ k, items[k]? = all[i + k]?) :
    ∀ f ∈ (readTagItems ctx pointer seen i items).value, f.asText.Shows ctx data := by
  induction items generalizing seen i with
  | nil => simp [readTagItems]
  | cons item rest ih =>
    intro f hf
    have later : ∀ seen, ∀ f ∈ (readTagItems ctx pointer seen (i + 1) rest).value,
        f.asText.Shows ctx data :=
      fun _ => ih (rest_of_cons suffix)
    unfold readTagItems at hf
    dsimp only at hf
    split at hf
    · -- A text, which is kept unless it is empty or was seen before.
      next tag =>
      split at hf
      · exact later _ f hf
      · split at hf
        · exact later _ f hf
        · simp only [Reading.value_bind, Reading.value_pure, List.mem_cons] at hf
          rcases hf with rfl | hf
          · have place : data.at? (pointer.index i) = some (.string tag) := by
              rw [Json.at?_item hat]
              exact (suffix 0).symm
            exact shows_field place
          · exact later _ f hf
    · exact later _ f hf

section Read

variable (hat : data.at? pointer = some (.object members))

include hat

theorem shows_readExtensions (clear : data.unambiguous = true) :
    ∀ e ∈ (readExtensions ctx members pointer).value, e.2.Shows ctx data := by
  unfold readExtensions
  split
  · simp
  · next entries hget =>
    have place : data.at? (pointer.child "$extensions") = some (.object entries) := by
      rw [Json.at?_member hat, hget]
    exact shows_readExtensionEntries clear place (List.Subset.refl _)
  · simp

theorem shows_readTags :
    ∀ f ∈ (readTags ctx members pointer).value, f.asText.Shows ctx data := by
  unfold readTags
  split
  · simp
  · next items hget =>
    have place : data.at? (pointer.child "$tags") = some (.array items) := by
      rw [Json.at?_member hat, hget]
    exact shows_readTagItems place fun k => by rw [Nat.zero_add]
  · simp

/-- The deprecation that is read shows its flag or object, and so does its replacement. -/
theorem shows_readDeprecated {f : Field Deprecation}
    (h : f ∈ (readDeprecated ctx members pointer).value) :
    (f.span = ctx.sourceMap.get? f.pointer ∧
        ∃ value, data.at? f.pointer = some value ∧ f.value.Reads value) ∧
      ∀ t, f.value.replacement = some t → t.asText.Shows ctx data := by
  unfold readDeprecated at h
  dsimp only at h
  split at h
  · -- The member may be a flag, or an object with a replacement, or something else.
    cases h
  · next active hget =>
    cases h
    refine ⟨⟨rfl, .bool active, ?_, .inl ⟨rfl, rfl⟩⟩, fun t ht => absurd ht nofun⟩
    exact (Json.at?_member hat _).trans hget
  · next entry hget =>
    have place : data.at? (pointer.child "$deprecated") = some (.object entry) := by
      rw [Json.at?_member hat, hget]
    cases h
    refine ⟨⟨rfl, .object entry, place, .inr ⟨rfl, rfl⟩⟩, fun t ht => ?_⟩
    have text : t ∈ textField ctx entry (pointer.child "$deprecated") "$replacement" := by
      rw [← value_readReplacement]
      exact ht
    exact shows_textField place text
  · cases h

/-- The texts among the metadata that is read. -/
theorem shows_texts : ∀ t ∈ (readMetadata ctx members pointer).value.texts,
    t.asText.Shows ctx data := by
  intro t ht
  have text : ∀ key, t ∈ (readText ctx members pointer key).value → t.asText.Shows ctx data :=
    fun key h => shows_textField hat (textField_of_readText h)
  have moment : ∀ key, ∀ m ∈ (readMoment ctx members pointer key).value,
      m.field.asText.Shows ctx data :=
    fun key m h => shows_textField hat (textField_of_readMoment h)
  obtain ⟨modified, used, _⟩ := mem_of_mem_readUsage ctx members pointer
  simp only [Metadata.texts, List.mem_append, Option.mem_toList] at ht
  rcases ht with (((((ht | ht) | ht) | ht) | ht) | ht) | ht
  · -- Description, the two moments, author, tags, hash and replacement.
    exact text "$description" ht
  · obtain ⟨m, hm, rfl⟩ := Option.map_eq_some_iff.1 ht
    exact moment _ m (modified m hm)
  · obtain ⟨m, hm, rfl⟩ := Option.map_eq_some_iff.1 ht
    exact moment _ m (used m hm)
  · exact text "$author" ht
  · exact shows_readTags hat t ht
  · exact text "$hash" ht
  · obtain ⟨f, hf, replacement⟩ := Option.bind_eq_some_iff.1 ht
    exact (shows_readDeprecated hat hf).2 t replacement

/-- All metadata that is read shows what it was read from. -/
theorem shows_readMetadata (clear : data.unambiguous = true) :
    (readMetadata ctx members pointer).value.Shows ctx data := by
  constructor
  · intro f hf
    simp only [Metadata.fields, List.mem_append, List.mem_map] at hf
    rcases hf with (⟨t, ht, rfl⟩ | ⟨e, he, rfl⟩) | ⟨count, hcount, rfl⟩
    · exact shows_texts hat t ht
    · exact shows_readExtensions hat clear e he
    · obtain ⟨_, _, counted⟩ := mem_of_mem_readUsage ctx members pointer
      exact shows_readUsageCount hat (counted count (Option.mem_toList.1 hcount))
  · intro f hf
    exact (shows_readDeprecated hat hf).1

end Read

end Tree

/-! ## Owners -/

/-- A node shows its place and all that it has. -/
structure Tree.Node.Shows (ctx : Context) (data : Json) (n : Node) : Prop where
  span : n.span = ctx.sourceMap.get? n.pointer
  metadata : n.metadata.Shows ctx data
  fields : ∀ f ∈ n.fields, f.Shows ctx data

/-- An offer shows its place and what is on offer, apart from its fallback list. -/
structure Offer.Shows (ctx : Context) (data : Json) (o : Offer (Field String)) : Prop where
  span : o.span = ctx.sourceMap.get? o.pointer
  fields : ∀ f ∈ o.fields, f.Shows ctx data

/-- An override shows its place and what it has, apart from its fallback list. -/
structure Override.Shows (ctx : Context) (data : Json) (o : Override (Field String)) : Prop where
  span : o.span = ctx.sourceMap.get? o.pointer
  fields : ∀ f ∈ o.fields, f.Shows ctx data

/-- The root shows its place and all that it has. -/
structure Tree.Shows (ctx : Context) (data : Json) (tree : Tree) : Prop where
  span : tree.span = ctx.sourceMap.get? tree.pointer
  metadata : tree.metadata.Shows ctx data
  fields : ∀ f ∈ tree.fields, f.Shows ctx data

namespace Tree

variable {ctx : Context} {data : Json} {name : String} {pointer : Pointer}
  {members : Json.Members} (hat : data.at? pointer = some (.object members))

include hat

/-- Every field of a token or an alias is shown. -/
theorem shows_readToken (clear : data.unambiguous = true) {n : Node}
    (h : (readToken ctx name pointer members).value = some n) : n.Shows ctx data := by
  have metadata : (readMetadata ctx members pointer).value.Shows ctx data :=
    shows_readMetadata hat clear
  rw [value_readToken] at h
  split at h
  · split at h
    · -- An alias has its metadata, its type and its reference.
      next reference type href htype =>
      cases h
      refine ⟨rfl, metadata, fun f hf => ?_⟩
      simp only [Node.fields, List.mem_append, List.mem_cons, List.not_mem_nil, or_false] at hf
      rcases hf with hf | rfl | rfl
      · exact metadata.fields f hf
      · exact shows_textField hat htype
      · exact shows_textField hat href
    · cases h
  · -- A token has its metadata and may have a type and a value.
    cases h
    refine ⟨rfl, metadata, fun f hf => ?_⟩
    simp only [Node.fields, List.mem_append, List.mem_map, Option.mem_toList] at hf
    rcases hf with (hf | ⟨type, htype, rfl⟩) | hf
    · exact metadata.fields f hf
    · exact shows_textField hat htype
    · exact shows_valueField hat hf

/-- Every field of a node is shown, whatever kind it is. -/
theorem shows_readNode (clear : data.unambiguous = true) {n : Node}
    (h : (readNode ctx name pointer (.object members)).value = some n) : n.Shows ctx data := by
  rw [value_readNode_object] at h
  split at h
  · exact shows_readToken hat clear h
  · cases h
    have metadata : (readMetadata ctx members pointer).value.Shows ctx data :=
      shows_readMetadata hat clear
    exact ⟨rfl, metadata, metadata.fields⟩

/-- Every field of an offer is shown. -/
theorem shows_readOffer {span : Option Span} {fallback : List (Offer (Field String))} :
    ∀ f ∈ (Offer.mk pointer span (textField ctx members pointer "$ref")
      (valueField ctx members pointer "$value") fallback).fields, f.Shows ctx data := by
  intro f hf
  simp only [Offer.fields, List.mem_append, List.mem_map, Option.mem_toList] at hf
  rcases hf with ⟨reference, href, rfl⟩ | hf
  · exact shows_textField hat href
  · exact shows_valueField hat hf

theorem shows_readConditions {c : Field Json.Members}
    (h : c ∈ (readConditions ctx members pointer).value) :
    (c.map Json.object).Shows ctx data := by
  rw [value_readConditions] at h
  obtain ⟨conditions, hmembers, rfl⟩ := Option.map_eq_some_iff.1 h
  obtain ⟨hobject, _⟩ := Option.filter_eq_some_iff.1 hmembers
  obtain ⟨value, hget, hvalue⟩ := Option.bind_eq_some_iff.1 hobject
  have place : data.at? (pointer.child "$when") = some (.object conditions) := by
    rw [Json.at?_member hat, hget, Json.eq_object_of_members? hvalue]
  exact shows_field place

theorem shows_readOverride {o : Override (Field String)}
    (h : (readOverride ctx members pointer).value = some o) : o.Shows ctx data := by
  simp only [readOverride, Reading.value_bind, value_readOffer_eq] at h
  split at h
  · next token conditions htoken hconditions =>
    cases h
    refine ⟨rfl, fun f hf => ?_⟩
    rw [value_readTarget] at htoken
    simp only [Override.fields, List.mem_append, List.mem_cons, List.not_mem_nil, or_false] at hf
    rcases hf with (rfl | rfl) | hf
    · exact shows_textField hat htoken
    · exact shows_readConditions hat hconditions
    · exact shows_readOffer hat f hf
  · cases h

end Tree

namespace Tree

variable {ctx : Context} {data : Json}

/-- A node that stands in a document shows it. -/
theorem Node.StandsIn.shows {n : Node} (clear : data.unambiguous = true)
    (h : n.StandsIn ctx data) : n.Shows ctx data := by
  obtain ⟨members, hat, read⟩ := h
  exact shows_readNode hat clear read

theorem value_readSchema (ctx : Context) (members : Json.Members) :
    (readSchema ctx members).value = textField ctx members Pointer.root "$schema" := by
  unfold readSchema textField
  split <;> simp_all [Json.text?]

theorem value_readVersion (ctx : Context) (members : Json.Members) :
    (readVersion ctx members).value = textField ctx members Pointer.root "$version" := by
  unfold readVersion textField
  split
  · simp_all
  · -- A text that is no version is kept, too.
    dsimp only
    split <;> simp_all [Json.text?]
  · simp_all [Json.text?]

/-- Every field of the root is shown. -/
theorem shows_readRoot {members : Json.Members} (clear : data.unambiguous = true)
    (object : data = .object members) : (readRoot ctx members).value.Shows ctx data := by
  have hat : data.at? Pointer.root = some (.object members) := by rw [Json.at?_root, object]
  have metadata : (readMetadata ctx members Pointer.root).value.Shows ctx data :=
    shows_readMetadata hat clear
  refine ⟨rfl, metadata, fun f hf => ?_⟩
  simp only [Tree.fields, List.mem_append, List.mem_map, Option.mem_toList] at hf
  rcases hf with (⟨t, ht, rfl⟩ | ⟨t, ht, rfl⟩) | hf
  · have schema : (readSchema ctx members).value = some t := ht
    exact shows_textField hat (value_readSchema ctx members ▸ schema)
  · have version : (readVersion ctx members).value = some t := ht
    exact shows_textField hat (value_readVersion ctx members ▸ version)
  · exact metadata.fields f hf

end Tree

/-- An offer that stands in a document shows it. -/
theorem Offer.StandsIn.shows {ctx : Context} {data : Json} {o : Offer (Field String)}
    (h : o.StandsIn ctx data) : o.Shows ctx data := by
  obtain ⟨members, hat, eq⟩ := h
  rw [value_readReference] at eq
  constructor
  · exact congrArg Offer.span eq
  · intro f hf
    rw [eq] at hf
    exact shows_readOffer hat f hf

theorem Override.StandsIn.shows {ctx : Context} {data : Json} {o : Override (Field String)}
    (h : o.StandsIn ctx data) : o.Shows ctx data := by
  obtain ⟨members, hat, read⟩ := h
  exact shows_readOverride hat read

/-! ## Documents -/

namespace Tree

/-- In the tree of a document without repeated names, every field of the root, of a node, of an
override and of an entry of a fallback list shows what stands at its pointer, with the span that the
source map has for it. The root, the nodes, the overrides and the entries were read from the objects
at their pointers. -/
theorem fields_show_document {document : Document} {options : Options} {tree : Tree}
    (clear : document.data.unambiguous = true)
    (h : (ofDocument document options).value = some tree) :
    let ctx := options.context document
    let data := document.data
    (∃ members, data.at? tree.pointer = some (.object members) ∧
        (readRoot ctx members).value = tree) ∧ tree.Shows ctx data ∧
      (∀ n ∈ tree.walk, n.StandsIn ctx data ∧ n.Shows ctx data) ∧
      ∀ o ∈ tree.overrides, o.StandsIn ctx data ∧ o.Shows ctx data ∧
        o.offer.Every fun e => e.StandsIn ctx data ∧ e.Shows ctx data := by
  intro ctx data
  obtain ⟨members, hdata, rfl⟩ := ofDocument_eq_some h
  have hat : data.at? Pointer.root = some (.object members) := by rw [Json.at?_root, ← hdata]
  have stands := ofDocument_standsIn clear h
  refine ⟨⟨members, hat, rfl⟩, shows_readRoot clear hdata, fun n hn => ?_, fun o ho => ?_⟩
  · have node := stands.nodes n hn
    exact ⟨node, node.shows clear⟩
  · have override := readOverrides_standsIn hat o ho
    refine ⟨override, override.shows, ?_⟩
    exact (stands.offers o ho).imp fun e he => ⟨he, he.shows⟩

/-! ### A document with fields of all kinds -/

namespace Detailed

/-- A token whose name has a slash, and an alias of it. The second of the tags is there already, the
first item of the overrides is none, and a fallback list is an object in an array. -/
def members : Json.Members :=
  let metadata : Json.Members :=
    [("$lastUsed", .string "2024-01-02T00:00:00Z"), ("$usageCount", .int 3),
     ("$tags", .array [.string "warm", .string "warm", .string "loud"]),
     ("$extensions", .object [("com.example.tool", .null)]),
     ("$deprecated", .object [("$replacement", .string "#/link")])]
  let inner : Json := .object [("$value", .string "#ffffff")]
  let entry : Json := .object [("$ref", .string "#/gone"), ("$fallback", inner)]
  [("$version", .string "1.0.0"),
   ("on/off", .object (("$type", .string "color") :: ("$value", .string "#000000") :: metadata)),
   ("link", Sample.color "$ref" "#/on~1off"),
   ("$overrides", .array
    [.int 0,
     .object [("$token", .string "#/link"), ("$when", .object [("mode", .string "on")]),
       ("$fallback", .array [entry])]])]

def span : Span :=
  ⟨"file:///detailed.json", ⟨90, 4, 13⟩, ⟨101, 4, 24⟩⟩

def document : Document :=
  { Sample.document "detailed.json" members with
    sourceMap := SourceMap.empty.insert ((Sample.place "link").child "$ref") span }

def tree : Tree :=
  Sample.treeOf document

def context : Context :=
  Options.context {} document

end Detailed

set_option maxRecDepth 10000 in
/-- The fields of the token and the alias, the override and its two fallback entries. -/
theorem fields_show_detailed :
    Detailed.document.data.unambiguous = true ∧
      (ofDocument Detailed.document {}).value = some Detailed.tree ∧
      (Detailed.tree.walk.flatMap Node.fields).map (·.pointer.text) =
        ["#/on~1off/$lastUsed", "#/on~1off/$tags/0", "#/on~1off/$tags/2",
         "#/on~1off/$deprecated/$replacement", "#/on~1off/$extensions/com.example.tool",
         "#/on~1off/$usageCount", "#/on~1off/$type", "#/on~1off/$value",
         "#/link/$type", "#/link/$ref"] ∧
      (Detailed.tree.walk.flatMap Node.fields).getLast?.bind (·.span) = some Detailed.span ∧
      (Detailed.tree.overrides.flatMap fun o => o.fields ++
          (o.offer.fallback.flatMap fun e => e.fields ++ e.fallback.flatMap Offer.fields)).map
        (·.pointer.text) =
        ["#/$overrides/1/$token", "#/$overrides/1/$when", "#/$overrides/1/$fallback/0/$ref",
         "#/$overrides/1/$fallback/0/$fallback/$value"] ∧
      Detailed.tree.Shows Detailed.context Detailed.document.data ∧
      (∀ n ∈ Detailed.tree.walk, n.Shows Detailed.context Detailed.document.data) ∧
      ∀ o ∈ Detailed.tree.overrides, o.Shows Detailed.context Detailed.document.data ∧
        o.offer.Every (Offer.Shows Detailed.context Detailed.document.data) := by
  have clear : Detailed.document.data.unambiguous = true := by decide
  have read : (ofDocument Detailed.document {}).value = some Detailed.tree :=
    Sample.ofDocument_treeOf (by decide +kernel)
  obtain ⟨_, root, nodes, overrides⟩ := fields_show_document clear read
  refine ⟨clear, read, by decide +kernel, by decide +kernel, by decide +kernel, root, ?_, ?_⟩
  · intro n hn
    exact (nodes n hn).2
  · intro o ho
    obtain ⟨_, override, entries⟩ := overrides o ho
    exact ⟨override, entries.imp fun _ he => he.2⟩

end Tree

end DesignTokens
