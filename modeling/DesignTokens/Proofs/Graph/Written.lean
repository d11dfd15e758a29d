import DesignTokens.Proofs.Graph.Silence
import DesignTokens.Proofs.Pointer.Text
import DesignTokens.Proofs.Sample
import DesignTokens.Proofs.Text.Percent
import DesignTokens.Proofs.Uri.Path
import Mathlib.Data.List.DropRight

/-!
# DesignTokens.Proofs.Graph.Written — references that stay in the document

Every pointer can be written as a reference: a number sign, then the bytes of its text, encoded
unless they are letters, digits or one of five signs. Three readers undo this one after the other:
joining leaves such a text as it is, decoding gives the bytes back, and these are read as the
pointer. So an alias with this text gets its edge, whatever the names on the way to its target are.

1. **Writing** (`Pointer.written`), and the characters that are written (`keeps_of_mem_written`).
2. **Joining** (`Uri.join_mark`): a fragment of such characters is taken as it stands.
3. **Reading** (`Reference.resolve_written`).
4. **Aliases** (`Graph.AliasSettled`): an alias of a node with its edge, and nothing reported.
5. **Documents** (`Graph.written_leads_back`).
-/

namespace DesignTokens

open Text (Percent.write Utf8.encode)

/-! ## Writing -/

/-- A byte that is written as it is: that of a letter or digit of ASCII, or of one of five signs. -/
def Reference.isPlain (b : UInt8) : Bool :=
  let c := Char.ofNat b.toNat
  c.isAlphanum || "-._~/".toList.contains c

/-- The text of a reference that leads to a pointer of the same document. -/
def Pointer.written (p : Pointer) : String :=
  String.ofList ('#' :: Percent.write Reference.isPlain (Utf8.encode p.body))

/-- The characters that a fragment may hold as they are. -/
def Uri.keepsInFragment : Char → Bool :=
  Uri.keepOutside " \"<>\x60"

namespace Reference

/-- Plain bytes are those of characters that a fragment keeps, other than the percent sign. -/
theorem isPlain_cases {b : UInt8} (plain : isPlain b = true) :
    (b < 128 ∧ b ≠ 37) ∧ Uri.keepsInFragment (Char.ofNat b.toNat) = true := by
  have all : ∀ n < 256, isPlain (UInt8.ofNat n) = true →
      (UInt8.ofNat n < 128 ∧ UInt8.ofNat n ≠ 37) ∧
        Uri.keepsInFragment (Char.ofNat (UInt8.ofNat n).toNat) = true := by
    decide +kernel
  have same := all b.toNat b.toNat_lt
  rw [UInt8.ofNat_toNat] at same
  exact same plain

/-- A fragment keeps all that is written in one. -/
theorem keeps_of_mem_written {bytes : List UInt8} {c : Char}
    (hc : c ∈ Percent.write isPlain bytes) : Uri.keepsInFragment c = true := by
  have digits : "%0123456789ABCDEF".toList.all Uri.keepsInFragment = true := by decide
  obtain ⟨b, _, hc⟩ := List.mem_flatMap.1 hc
  split at hc
  · next plain =>
    obtain rfl := List.mem_singleton.1 hc
    exact (isPlain_cases plain).2
  · exact List.all_eq_true.1 digits c (Text.Percent.mem_encodeByte hc)

end Reference

/-! ## Joining -/

namespace Uri

/-- What a fragment keeps is not trimmed from its ends. -/
theorem not_edge_of_keepsInFragment {c : Char} (h : keepsInFragment c = true) : ¬c ≤ ' ' := by
  intro edge
  have blank : ' ' ∈ " \"<>\x60".toList := by decide
  have excluded := not_mem_of_keepOutside h
  unfold keepsInFragment keepOutside at h
  simp only [Bool.and_eq_true, decide_eq_true_eq] at h
  -- The characters up to the blank are control characters, except for the blank itself.
  have same : ' ' = c := Char.le_antisymm h.1.1 edge
  exact excluded (same ▸ blank)

/-- What a fragment keeps does not end the line. -/
theorem isBreak_of_keepsInFragment {c : Char} (h : keepsInFragment c = true) :
    isBreak c = false := by
  by_contra broken
  have cases : c = '\t' ∨ c = '\n' ∨ c = '\r' := by
    rw [Bool.not_eq_false, isBreak, Bool.or_eq_true, Bool.or_eq_true, or_assoc] at broken
    simpa using broken
  rcases cases with rfl | rfl | rfl
  · exact absurd h (by decide)
  · exact absurd h (by decide)
  · exact absurd h (by decide)

/-- A fragment of characters that it may hold is taken as it stands. -/
theorem encodeFragment_of_keeps {text : List Char} (keeps : ∀ c ∈ text, keepsInFragment c = true) :
    encodeFragment text = String.ofList text := by
  have whole : clean text = text :=
    List.filter_eq_self.2 fun c hc => by rw [isBreak_of_keepsInFragment (keeps c hc)]; rfl
  have same : Text.Percent.encode keepsInFragment text = text := by
    rw [Text.Percent.encode, List.flatMap_congr fun c hc => if_pos (keeps c hc)]
    exact List.flatMap_singleton' text
  rw [encodeFragment, whole]
  exact congrArg String.ofList same

/-- A text without edges is not trimmed. -/
theorem trimEnds_of_no_edges {input : String} (free : ∀ c ∈ input.toList, ¬c ≤ ' ') :
    trimEnds input = input.toList := by
  have whole {text : List Char} (free : ∀ c ∈ text, ¬c ≤ ' ') :
      text.dropWhile (fun c => decide (c ≤ ' ')) = text :=
    List.dropWhile_eq_self_iff.2 fun bound =>
      decide_eq_true_iff.not.2 (free _ (List.getElem_mem bound))
  rw [trimEnds]
  dsimp only
  rw [whole free, whole fun c hc => free c (List.mem_reverse.1 hc), List.reverse_reverse]

/-- A reference that is a fragment alone leads into the document itself. -/
theorem join_mark (base : Uri) {text : List Char} (keeps : ∀ c ∈ text, keepsInFragment c = true) :
    join base (String.ofList ('#' :: text)) =
      .ok { base with fragment := some (String.ofList text) } := by
  have free : ∀ c ∈ (String.ofList ('#' :: text)).toList, ¬c ≤ ' ' := by
    rw [String.toList_ofList, List.forall_mem_cons]
    exact ⟨by decide, fun c hc => not_edge_of_keepsInFragment (keeps c hc)⟩
  -- No scheme starts with a number sign.
  have noScheme : splitScheme? ('#' :: text) = none := rfl
  have trimmed : trimEnds (String.ofList ('#' :: text)) = '#' :: text := by
    rw [trimEnds_of_no_edges free, String.toList_ofList]
  unfold join read
  dsimp only
  rw [trimmed, noScheme]
  show Except.ok { base with fragment := some (encodeFragment text) } = _
  rw [encodeFragment_of_keeps keeps]

theorem withoutFragment_withoutFragment (u : Uri) :
    u.withoutFragment.withoutFragment = u.withoutFragment := by
  obtain ⟨scheme, authority, path, query, fragment⟩ := u
  cases path with
  | rooted segments => rfl
  | rootless text =>
    cases query with
    | some query => rfl
    | none => simp [withoutFragment, List.dropWhile_idempotent]

end Uri

/-! ## Reading -/

/-- A written pointer is read back. -/
theorem Pointer.ofFragment_written (p : Pointer) :
    ofFragment (String.ofList (Percent.write Reference.isPlain (Utf8.encode p.body))) = .ok p := by
  have safe : ∀ b, Reference.isPlain b = true → b < 128 ∧ b ≠ 37 :=
    fun b plain => (Reference.isPlain_cases plain).1
  rw [ofFragment, String.toList_ofList, Text.Percent.decode_write safe]
  exact parse_eq_ok_iff.2 (afterMark_body p).symm

/-- A pointer as it is written is read as a reference to it, which stays in the document. -/
theorem Reference.resolve_written (u : Uri) (p : Pointer) {field : Field String}
    (h : field.value = p.written) :
    resolve u.withoutFragment field =
      .ok { target := ⟨u.withoutFragment, p, false⟩, raw := field.value
            pointer := field.pointer, span := field.span } := by
  have joined : Uri.join u.withoutFragment p.written = _ :=
    Uri.join_mark u.withoutFragment fun _ hc => keeps_of_mem_written hc
  have same : ∀ f, ({ u.withoutFragment with fragment := f } : Uri).withoutFragment =
      u.withoutFragment :=
    fun _ => Uri.withoutFragment_withoutFragment u
  rw [resolve, h, joined]
  dsimp only
  rw [pointerOf, Pointer.ofFragment_written]
  dsimp only
  rw [same, bne_self_eq_false]

/-! ## Aliases -/

namespace Graph

/-- A node that references may lead to: a token, or an alias whose own text is a reference. -/
inductive IsTarget (base : Uri) : Tree.Node → Prop where
  | token (info : Tree.NodeInfo) (type : Option (Field String)) (value : Option (Field Json)) :
    IsTarget base (.token info type value)
  | aliasTo (info : Tree.NodeInfo) (type field : Field String) {r : Reference}
    (resolved : Reference.resolve base field = .ok r) : IsTarget base (.aliasTo info type field)

variable {base : Uri}

/-- These are the nodes that become nodes of the graph other than collections. -/
theorem isTarget_iff {t : Tree.Node} :
    IsTarget base t ↔ ∃ n, plant? base t = some n ∧ n.isCollection = false := by
  constructor
  · -- Tokens are always planted, and aliases if their references can be resolved.
    rintro (_ | ⟨info, type, field, resolved⟩)
    · exact ⟨_, rfl, rfl⟩
    · exact ⟨_, by rw [plant?, resolved]; rfl, rfl⟩
  · rintro ⟨n, planted, valued⟩
    cases t with
    | collection info children =>
      cases planted
      cases valued
    | token info type value => exact .token info type value
    | aliasTo info type field =>
      obtain ⟨r, resolved, _⟩ := Option.map_eq_some_iff.1 planted
      exact .aliasTo info type field (eq_ok_of_toOption resolved)

/-- An alias of the node at a pointer has its edge, and nothing is reported on it or its text. -/
structure AliasSettled (g : Graph) (log : Log) (info : Tree.NodeInfo) (field : Field String)
    (p : Pointer) : Prop where
  edge : ⟨info.pointer, p, .aliasTo⟩ ∈ g.edges
  node : ¬log.ReportsAt info.pointer
  text : ¬log.ReportsAt field.pointer

section Aliases

variable {tree : Tree} {g : Graph}

section Trees

variable (nodup : (tree.walk.map Tree.Node.pointer).Nodup) (built : (ofTree tree).graph = some g)

include nodup built

/-- The tokens of the graph are the nodes of the tree that references may lead to. -/
theorem mem_tokens_iff_isTarget {t : Tree.Node} (mem : t ∈ tree.walk) :
    t.pointer ∈ g.tokens ↔ IsTarget g.uri t := by
  rw [isTarget_iff, tokens_ofTree nodup built, ← uri_ofTree built]
  -- A token of the graph was planted from a node of the tree; this one is the only one there.
  constructor
  · intro there
    obtain ⟨n, hn, same⟩ := List.mem_map.1 there
    obtain ⟨hn, valued⟩ := List.mem_filter.1 hn
    obtain ⟨t', mem', planted⟩ := List.mem_filterMap.1 hn
    obtain rfl : t' = t :=
      List.inj_on_of_nodup_map nodup mem' mem ((pointer_plant? planted).symm.trans same)
    exact ⟨n, planted, by simpa using valued⟩
  · -- The planted node is in the graph, and is no collection.
    rintro ⟨n, planted, valued⟩
    rw [← pointer_plant? planted]
    refine List.mem_map_of_mem (List.mem_filter.2 ⟨List.mem_filterMap.2 ⟨t, mem, planted⟩, ?_⟩)
    rw [valued]
    rfl

/-- An alias that leads to a token or an alias has its edge. -/
theorem edge_of_alias {info : Tree.NodeInfo} {type field : Field String} {r : Reference}
    (mem : .aliasTo info type field ∈ tree.walk) (resolved : Reference.resolve g.uri field = .ok r)
    (internal : r.target.external = false) (there : r.target.pointer ∈ g.tokens) :
    ⟨info.pointer, r.target.pointer, .aliasTo⟩ ∈ g.edges := by
  have planted : (draftInfo g.uri none info).value (.aliasTo type r) ∈ g.nodes.map Node.alone := by
    rw [nodes_ofTree nodup built, ← uri_ofTree built]
    exact List.mem_filterMap.2 ⟨_, mem, by rw [plant?, resolved]; rfl⟩
  -- The node of the graph differs from the planted one in its parent at most.
  obtain ⟨n, hn, alone⟩ := List.mem_map.1 planted
  have here : n.pointer = info.pointer := congrArg Node.pointer alone
  have content : n.content.alone = .aliasTo type r := congrArg Node.content alone
  have own : n.aliasReference? = some r := by
    unfold Node.aliasReference?
    cases kind : n.content with
    | collection children =>
      rw [kind] at content
      cases content
    | token type value =>
      rw [kind] at content
      cases content
    | aliasTo type' r' =>
      rw [kind] at content
      cases content
      rfl
  have link : ⟨some n.pointer, r, .aliasTo, true⟩ ∈ g.links := by
    refine List.mem_filter.2 ⟨List.mem_append_left _ ?_, by rw [internal]; rfl⟩
    refine List.mem_flatMap.2 ⟨n, hn, List.mem_append_right _ ?_⟩
    rw [own]
    exact List.mem_singleton_self _
  rw [edges_ofTree built, ← here]
  refine List.mem_filterMap.2 ⟨_, link, ?_⟩
  exact if_pos ⟨List.mem_map_of_mem hn, there⟩

end Trees

/-! ## Documents -/

/-- An alias of a written pointer has its edge, and nothing is reported at its place or its text. -/
theorem aliasSettled_of_written {document : Document} {options : Tree.Options}
    (clear : document.data.unambiguous = true)
    (read : (Tree.ofDocument document options).value = some tree)
    (built : (ofTree tree).graph = some g) {info : Tree.NodeInfo} {type field : Field String}
    (mem : .aliasTo info type field ∈ tree.walk) {p : Pointer} (target : p ∈ g.tokens)
    (written : field.value = p.written) : g.AliasSettled (ofTree tree).log info field p := by
  have resolved {f : Field String} (h : f.value = p.written) : Reference.resolve g.uri f = _ :=
    uri_ofTree built ▸ Reference.resolve_written tree.uri p h
  have stands := (Tree.ofDocument_standsIn clear read).nodes _ mem
  constructor
  case edge =>
    exact edge_of_alias (Tree.nodup_walk_ofDocument clear read) built mem (resolved written) rfl
      target
  case node =>
    -- An object stands there, and no text.
    obtain ⟨members, object, _⟩ := stands
    have object : document.data.at? info.pointer = some (.object members) := object
    refine silent_ofDocument clear read built fun f _ text => ?_
    rw [object] at text
    cases text
  case text =>
    have shown : field.asText.Shows _ document.data :=
      (stands.shows clear).fields _ (List.mem_append_right _ (by simp))
    have value : document.data.at? field.pointer = some (.string field.value) := shown.value
    -- Whatever was read from there is the text of the alias.
    refine silent_ofDocument clear read built fun f _ text => ?_
    rw [value] at text
    have same : f.value = field.value := (Json.string.inj (Option.some.inj text)).symm
    exact ⟨_, resolved (same.trans written), rfl, target⟩

end Aliases

/-- Every pointer, written as a reference, is read as a reference to it that stays in the document,
whatever the URI is. In a document whose URI is a base, an alias that is written so and leads to a
token or an alias has its edge, and nothing is reported on it. -/
theorem written_leads_back :
    (∀ (u : Uri) (p : Pointer) (field : Field String), field.value = p.written →
      Reference.resolve u.withoutFragment field =
        .ok { target := ⟨u.withoutFragment, p, false⟩, raw := field.value
              pointer := field.pointer, span := field.span }) ∧
    ∀ (document : Document) (options : Tree.Options) (tree : Tree),
      document.data.unambiguous = true → document.uri.canAnchor = true →
      (Tree.ofDocument document options).value = some tree →
      ∃ g, (ofTree tree).graph = some g ∧ g.uri = document.uri.withoutFragment ∧
        (∀ t ∈ tree.walk, t.pointer ∈ g.tokens ↔ IsTarget g.uri t) ∧
        ∀ (info : Tree.NodeInfo) (type field : Field String) (p : Pointer),
          .aliasTo info type field ∈ tree.walk → p ∈ g.tokens → field.value = p.written →
          g.AliasSettled (ofTree tree).log info field p := by
  -- The references come first, and then what becomes of the documents that have them.
  refine ⟨fun u p field => Reference.resolve_written u p, ?_⟩
  intro document options tree clear anchor read
  have exists_graph : (ofTree tree).graph.isSome = true := by
    rw [isSome_ofTree, canAnchor_withoutFragment, Tree.uri_ofDocument read, anchor]
  obtain ⟨g, built⟩ := Option.isSome_iff_exists.1 exists_graph
  refine ⟨g, built, by rw [uri_ofTree built, Tree.uri_ofDocument read], ?_, ?_⟩
  · intro t mem
    exact mem_tokens_iff_isTarget (Tree.nodup_walk_ofDocument clear read) built mem
  · intro info type field p mem target written
    exact aliasSettled_of_written clear read built mem target written

/-! ### A name that has to be encoded -/

namespace Marked

open Sample (color info place text)

/-- A name with signs of all kinds: that of encoding, that of fragments, those of pointers, a blank,
a letter beyond ASCII, and a line end. -/
def name : String :=
  "50% #1 ~é/\n"

def target : Pointer :=
  (place "a b").child name

/-- What the alias refers to. -/
def written : String :=
  "#/a%20b/50%25%20%231%20~0%C3%A9~1%0A"

def document : Document :=
  Sample.document "marked.json"
    [("a b", .object [(name, color "$value" "#000000")]), ("link", color "$ref" written)]

def tree : Tree :=
  Sample.treeOf document

def type : Field String :=
  text "color" ((place "link").child "$type")

def reference : Field String :=
  text written ((place "link").child "$ref")

end Marked

set_option maxRecDepth 10000 in
/-- The alias of the token has its edge, and nothing is reported on it. -/
theorem marked_leads_back :
    Marked.document.data.unambiguous = true ∧ Marked.document.uri.canAnchor = true ∧
      (Tree.ofDocument Marked.document {}).value = some Marked.tree ∧
      .aliasTo (Sample.info (Sample.place "link")) Marked.type Marked.reference ∈ Marked.tree.walk ∧
      Marked.reference.value = Marked.target.written ∧
      ∃ g, (ofTree Marked.tree).graph = some g ∧ Marked.target ∈ g.tokens ∧
        g.AliasSettled (ofTree Marked.tree).log (Sample.info (Sample.place "link")) Marked.reference
          Marked.target := by
  have clear : Marked.document.data.unambiguous = true := by decide
  have anchor : Marked.document.uri.canAnchor = true := by decide
  have read : (Tree.ofDocument Marked.document {}).value = some Marked.tree := rfl
  have link : .aliasTo (Sample.info (Sample.place "link")) Marked.type Marked.reference ∈
      Marked.tree.walk :=
    List.mem_of_getElem? (i := 2) rfl
  have written : Marked.reference.value = Marked.target.written := by decide +kernel
  obtain ⟨_, reads⟩ := written_leads_back
  obtain ⟨g, built, _, tokens, aliases⟩ := reads Marked.document {} Marked.tree clear anchor read
  obtain ⟨info, type, value, token, here⟩ : ∃ info type value,
      .token info type value ∈ Marked.tree.walk ∧ info.pointer = Marked.target :=
    ⟨_, _, _, List.mem_of_getElem? (i := 1) rfl, rfl⟩
  have target : Marked.target ∈ g.tokens := here ▸ (tokens _ token).2 (.token info type value)
  exact ⟨clear, anchor, read, link, written, g, built, target,
    aliases _ _ _ _ link target written⟩

end Graph

end DesignTokens
