import DesignTokens.Proofs.Json.Place
import DesignTokens.Tree.OfDocument

/-!
# DesignTokens.Proofs.Tree.Places — everything stands where it was read

The parts of a tree carry pointers. In a document without ambiguous names, the object at such a
pointer is the one that the part was read from.

1. **Readings**: the value of a reading, and its reports.
2. **Nodes** (`Tree.Node.StandsIn`, `readChildren_standsIn`).
3. **Offers** (`Offer.Every`, `Offer.StandsIn`, `readFallback_standsIn`), at any depth of fallback
   lists.
4. **Documents** (`ofDocument_standsIn`).
5. **Values** (`Field.StandsUnder`): the values of tokens and offers stand under their `$value`.
-/

namespace DesignTokens

open DesignTokens.Tree

/-! ## Readings -/

namespace Tree.Reading

variable {α β : Type}

@[simp] theorem value_pure (a : α) : (pure a : Reading α).value = a :=
  rfl

@[simp] theorem value_bind (x : Reading α) (f : α → Reading β) :
    (x >>= f).value = (f x.value).value :=
  rfl

@[simp] theorem log_pure (a : α) : (pure a : Reading α).log = [] :=
  rfl

@[simp] theorem log_bind (x : Reading α) (f : α → Reading β) :
    (x >>= f).log = x.log ++ (f x.value).log :=
  rfl

end Tree.Reading

/-! ## Nodes -/

namespace Tree

/-- A node is what is read from the object at its pointer. -/
def Node.StandsIn (ctx : Context) (data : Json) (n : Node) : Prop :=
  ∃ members, data.at? n.pointer = some (.object members) ∧
    (readNode ctx n.name n.pointer (.object members)).value = some n

variable {ctx : Context} {name : String} {pointer : Pointer} {members : Json.Members} {n : Node}

theorem value_readNode_object :
    (readNode ctx name pointer (.object members)).value =
      if isTokenLike members then (readToken ctx name pointer members).value
      else some (.collection
        { name, pointer, span := ctx.sourceMap.get? pointer
          metadata := (readMetadata ctx members pointer).value }
        (readChildren ctx pointer members).value) := by
  simp only [readNode, readCollection, Reading.value_bind]
  split <;> rfl

/-- What a token or an alias is read as. -/
theorem readToken_cases (h : (readToken ctx name pointer members).value = some n) :
    ∃ info : NodeInfo, info.name = name ∧ info.pointer = pointer ∧
      ((∃ type, members.get? "$ref" = none ∧ n = .token info type
          ((members.get? "$value").map (ctx.field · (pointer.child "$value")))) ∨
        ∃ type text, members.get? "$ref" = some (.string text) ∧
          n = .aliasTo info type (ctx.field text (pointer.child "$ref"))) := by
  simp only [readToken, Reading.value_bind] at h
  cases href : members.get? "$ref" with
  | none =>
    simp only [href, Reading.value_bind, Reading.value_pure, Option.some.injEq] at h
    exact ⟨_, rfl, rfl, .inl ⟨_, rfl, h.symm⟩⟩
  | some reference =>
    simp only [href] at h
    unfold readAlias at h
    split at h
    · -- A text, and there is a type.
      simp only [Reading.value_bind, Reading.value_pure, Option.some.injEq] at h
      exact ⟨_, rfl, rfl, .inr ⟨_, _, rfl, h.symm⟩⟩
    · cases h
    · cases h

/-- A token or an alias has the name and the pointer it is read at, and nothing below it. -/
theorem readToken_info (h : (readToken ctx name pointer members).value = some n) :
    n.name = name ∧ n.pointer = pointer ∧ n.walk = [n] := by
  obtain ⟨info, rfl, rfl, ⟨type, _, rfl⟩ | ⟨type, text, _, rfl⟩⟩ := readToken_cases h
  · exact ⟨rfl, rfl, by simp [Node.walk]⟩
  · exact ⟨rfl, rfl, by simp [Node.walk]⟩

variable {data : Json}

mutual

/-- A node and all below it stand in the document where the node was read. -/
theorem readNode_standsIn (clear : data.unambiguous = true) (name : String) (pointer : Pointer) :
    ∀ json, data.at? pointer = some json → ∀ n, (readNode ctx name pointer json).value = some n →
      ∀ m ∈ n.walk, m.StandsIn ctx data
  | .object members, hat, n, hn => by
    intro m hm
    have read := hn
    rw [value_readNode_object] at hn
    split at hn
    · -- A token or an alias.
      obtain ⟨rfl, rfl, walk⟩ := readToken_info hn
      rw [walk, List.mem_singleton] at hm
      subst hm
      exact ⟨members, hat, read⟩
    · -- A collection: the node itself, or one below it.
      cases hn
      rcases List.mem_cons.1 (by simpa only [Node.walk] using hm) with rfl | hm
      · exact ⟨members, hat, read⟩
      · exact readChildren_standsIn clear pointer members hat members (fun _ h => h) m hm
  | .null, _, _, hn | .bool _, _, _, hn | .int _, _, _, hn | .double _, _, _, hn
  | .string _, _, _, hn | .array _, _, _, hn => by simp [readNode] at hn

/-- All nodes that are read from members of an object stand in the document. -/
theorem readChildren_standsIn (clear : data.unambiguous = true) (pointer : Pointer)
    (all : Json.Members) (hat : data.at? pointer = some (.object all)) :
    ∀ members : List (String × Json), members ⊆ all →
      ∀ m ∈ Node.walkList (readChildren ctx pointer members).value, m.StandsIn ctx data
  | [], _ => by simp [readChildren, Node.walkList]
  | (name, value) :: rest, sub => by
    intro m hm
    have below := readChildren_standsIn clear pointer all hat rest
      fun x hx => sub (List.mem_cons_of_mem _ hx)
    unfold readChildren at hm
    split at hm
    · -- A reserved name is no node.
      exact below m hm
    · simp only [Reading.value_bind, Reading.value_pure] at hm
      cases hread : (readNode ctx name (pointer.child name) value).value with
      | none =>
        rw [hread] at hm
        exact below m hm
      | some n =>
        rw [hread] at hm
        rcases List.mem_append.1 (by simpa [Node.walkList] using hm) with hm | hm
        · have place := Json.at?_of_mem clear hat (sub List.mem_cons_self)
          exact readNode_standsIn clear name (pointer.child name) value place n hread m hm
        · exact below m hm

end

end Tree

/-! ## Offers -/

namespace Offer

variable {ρ : Type}

/-- A property holds of an offer and of all entries of its fallback list, at any depth. -/
inductive Every (P : Offer ρ → Prop) : Offer ρ → Prop where
  | intro {offer : Offer ρ} (here : P offer) (entries : ∀ e ∈ offer.fallback, Every P e) :
    Every P offer

variable {P Q : Offer ρ → Prop} {offer : Offer ρ}

theorem Every.here (h : Every P offer) : P offer := by
  cases h with
  | intro here _ => exact here

theorem Every.entry (h : Every P offer) {e : Offer ρ} (he : e ∈ offer.fallback) : Every P e := by
  cases h with
  | intro _ entries => exact entries e he

theorem Every.imp (h : Every P offer) (imp : ∀ o, P o → Q o) : Every Q offer := by
  induction h with
  | intro here _ ih => exact .intro (imp _ here) ih

/-- An offer is what is read from the object at its pointer. -/
def StandsIn (ctx : Context) (data : Json) (o : Offer (Field String)) : Prop :=
  ∃ members : Json.Members, data.at? o.pointer = some (.object members) ∧
    o = .mk o.pointer (ctx.sourceMap.get? o.pointer) (readReference ctx members o.pointer).value
      ((members.get? "$value").map (ctx.field · (o.pointer.child "$value")))
      (readFallbackMember ctx o.pointer members).value

end Offer

namespace Tree

variable {ctx : Context} {pointer : Pointer} {members : Json.Members} {data : Json}

@[simp] theorem value_readOffer (fallback : Reading (List (Offer (Field String))))
    (conflict missing : Fault) :
    (readOffer ctx members pointer fallback conflict missing).value =
      .mk pointer (ctx.sourceMap.get? pointer) (readReference ctx members pointer).value
        ((members.get? "$value").map (ctx.field · (pointer.child "$value"))) fallback.value := by
  simp [readOffer]

/-- What an object offers stands there, if its fallback list does. -/
theorem readOffer_standsIn (hat : data.at? pointer = some (.object members))
    (entries : ∀ e ∈ (readFallbackMember ctx pointer members).value,
      e.Every (Offer.StandsIn ctx data))
    (conflict missing : Fault) :
    (readOffer ctx members pointer (readFallbackMember ctx pointer members) conflict
      missing).value.Every (Offer.StandsIn ctx data) := by
  rw [value_readOffer]
  exact .intro ⟨members, hat, rfl⟩ entries

/-- If some items are those of an array from an index on, then the rest of them is that from the
next index on. -/
theorem rest_of_cons {α : Type} {x : α} {rest all : List α} {i : Nat}
    (h : ∀ k, (x :: rest)[k]? = all[i + k]?) (k : Nat) : rest[k]? = all[i + 1 + k]? := by
  have next := h (k + 1)
  rw [List.getElem?_cons_succ] at next
  rw [next]
  congr 1
  omega

/-- An entry stands in the document with the entries of its list. -/
theorem readEntry_standsIn (hat : data.at? pointer = some (.object members))
    (entries : ∀ e ∈ (readFallbackMember ctx pointer members).value,
      e.Every (Offer.StandsIn ctx data)) :
    ∀ e ∈ (readEntry ctx members pointer (readFallbackMember ctx pointer members)).value,
      e.Every (Offer.StandsIn ctx data) := by
  intro e he
  simp only [readEntry, Reading.value_bind, Reading.value_pure, Option.mem_def] at he
  split at he
  · cases he
  · cases he
    exact readOffer_standsIn hat entries .fallbackConflict .fallbackWithoutOffer

mutual

/-- All entries of a fallback list stand in the document where the list was read. -/
theorem readFallback_standsIn (clear : data.unambiguous = true) (pointer : Pointer) :
    ∀ json, data.at? pointer = some json →
      ∀ e ∈ (readFallback ctx pointer json).value, e.Every (Offer.StandsIn ctx data)
  | .array items, hat => by
    simpa only [readFallback] using
      readEntries_standsIn clear pointer items hat 0 items fun k => by rw [Nat.zero_add]
  | .object members, hat => by
    intro e he
    have entries := readFallbackMember_standsIn clear pointer members hat members
      fun _ h => h
    simp only [readFallback, Reading.value_bind, Reading.value_pure, Option.mem_toList] at he
    exact readEntry_standsIn hat entries e he
  | .null, _ | .bool _, _ | .int _, _ | .double _, _ | .string _, _ => by simp [readFallback]

/-- The items of an array are read from an index on. -/
theorem readEntries_standsIn (clear : data.unambiguous = true) (pointer : Pointer)
    (all : List Json) (hat : data.at? pointer = some (.array all)) (i : Nat) :
    ∀ items : List Json, (∀ k, items[k]? = all[i + k]?) →
      ∀ e ∈ (readEntries ctx pointer i items).value, e.Every (Offer.StandsIn ctx data)
  | [], _ => by simp [readEntries]
  | .object members :: rest, suffix => by
    intro e he
    have place : data.at? (pointer.index i) = some (.object members) := by
      rw [Json.at?_item hat]
      exact (suffix 0).symm
    have entries := readFallbackMember_standsIn clear (pointer.index i) members place
      members fun _ h => h
    simp only [readEntries, Reading.value_bind, Reading.value_pure, List.mem_append,
      Option.mem_toList] at he
    -- The entry of this object, and then those after it.
    rcases he with he | he
    · exact readEntry_standsIn place entries e he
    · exact readEntries_standsIn clear pointer all hat (i + 1) rest (rest_of_cons suffix) e he
  | .null :: rest, suffix | .bool _ :: rest, suffix | .int _ :: rest, suffix
  | .double _ :: rest, suffix | .string _ :: rest, suffix | .array _ :: rest, suffix => by
    intro e he
    simp only [readEntries, Reading.value_bind] at he
    exact readEntries_standsIn clear pointer all hat (i + 1) rest (rest_of_cons suffix) e he

/-- The fallback list is looked for among the members of an object. -/
theorem readFallbackMember_standsIn (clear : data.unambiguous = true) (pointer : Pointer)
    (all : Json.Members) (hat : data.at? pointer = some (.object all)) :
    ∀ members : List (String × Json), members ⊆ all →
      ∀ e ∈ (readFallbackMember ctx pointer members).value, e.Every (Offer.StandsIn ctx data)
  | [], _ => by simp [readFallbackMember]
  | (key, value) :: rest, sub => by
    intro e he
    unfold readFallbackMember at he
    split at he
    · have place := Json.at?_of_mem clear hat (sub List.mem_cons_self)
      exact readFallback_standsIn clear (pointer.child key) value place e he
    · exact readFallbackMember_standsIn clear pointer all hat rest
        (fun x hx => sub (List.mem_cons_of_mem _ hx)) e he

end

/-- An override stands in the document with the entries of its list. -/
theorem readOverride_standsIn (clear : data.unambiguous = true)
    (hat : data.at? pointer = some (.object members)) :
    ∀ o ∈ (readOverride ctx members pointer).value, o.offer.Every (Offer.StandsIn ctx data) := by
  intro o ho
  simp only [readOverride, Reading.value_bind, Option.mem_def] at ho
  split at ho
  · cases ho
    have entries : ∀ e ∈ (readFallbackMember ctx pointer members).value,
        e.Every (Offer.StandsIn ctx data) :=
      readFallbackMember_standsIn clear pointer members hat members fun _ h => h
    exact readOffer_standsIn hat entries .overrideConflict .overrideWithoutOffer
  · cases ho

/-- What is read from a list of overrides is read from one of its items. -/
theorem mem_readOverrideItems {i : Nat} {items : List Json} {o : Override (Field String)}
    (ho : o ∈ (readOverrideItems ctx pointer i items).value) :
    ∃ k members, items[k]? = some (.object members) ∧
      (readOverride ctx members (pointer.index (i + k))).value = some o := by
  induction items generalizing i with
  | nil => simp [readOverrideItems] at ho
  | cons item rest ih =>
    have later (ho : o ∈ (readOverrideItems ctx pointer (i + 1) rest).value) :
        ∃ k members, (item :: rest)[k]? = some (.object members) ∧
          (readOverride ctx members (pointer.index (i + k))).value = some o := by
      obtain ⟨k, members, found, read⟩ := ih ho
      have same : i + (k + 1) = i + 1 + k := by omega
      exact ⟨k + 1, members, by simpa using found, by rwa [same]⟩
    unfold readOverrideItems at ho
    -- There is a first item, which is an object or not.
    split at ho
    · cases ‹_ = _›
    · next members rest' heq =>
      cases heq
      simp only [Reading.value_bind, Reading.value_pure, List.mem_append, Option.mem_toList] at ho
      rcases ho with ho | ho
      · exact ⟨0, members, rfl, ho⟩
      · exact later ho
    · next heq =>
      cases heq
      exact later ho

end Tree

/-- An override is what is read from the object at its pointer. -/
def Override.StandsIn (ctx : Context) (data : Json) (o : Override (Field String)) : Prop :=
  ∃ members : Json.Members, data.at? o.pointer = some (.object members) ∧
    (readOverride ctx members o.pointer).value = some o

/-- The offer of an override stands in the document it stands in. -/
theorem Override.StandsIn.offer {ctx : Context} {data : Json} {o : Override (Field String)}
    (clear : data.unambiguous = true) (h : o.StandsIn ctx data) :
    o.offer.Every (Offer.StandsIn ctx data) := by
  obtain ⟨members, hat, read⟩ := h
  exact readOverride_standsIn clear hat o read

namespace Tree

variable {ctx : Context} {pointer : Pointer} {members : Json.Members} {data : Json}

theorem pointer_of_readOverride {o : Override (Field String)}
    (h : (readOverride ctx members pointer).value = some o) : o.pointer = pointer := by
  simp only [readOverride, Reading.value_bind] at h
  split at h
  · cases h
    simp [Override.pointer, Offer.pointer]
  · cases h

/-- All overrides of a document stand where they were read. -/
theorem readOverrides_standsIn (hat : data.at? pointer = some (.object members)) :
    ∀ o ∈ (readOverrides ctx members pointer).value, o.StandsIn ctx data := by
  unfold readOverrides
  split
  · simp
  · next items hget =>
    have list : data.at? (pointer.child "$overrides") = some (.array items) := by
      rw [Json.at?_member hat, hget]
    intro o ho
    obtain ⟨k, entry, item, read⟩ := mem_readOverrideItems ho
    rw [Nat.zero_add] at read
    have place := pointer_of_readOverride read
    refine ⟨entry, ?_, place ▸ read⟩
    rw [place, Json.at?_item list, item]
  · simp

/-! ## Documents -/

def Options.context (options : Options) (document : Document) : Context :=
  ⟨document.uri, document.sourceMap, options.collector⟩

/-- Every node and every offer of a tree stands where it was read. -/
structure StandsIn (ctx : Context) (data : Json) (tree : Tree) : Prop where
  nodes : ∀ n ∈ tree.walk, n.StandsIn ctx data
  offers : ∀ o ∈ tree.overrides, o.offer.Every (Offer.StandsIn ctx data)

variable {document : Document} {options : Options} {tree : Tree}

/-- A document with a tree is an object, which the tree is read from. -/
theorem ofDocument_eq_some (h : (ofDocument document options).value = some tree) :
    ∃ members, document.data = .object members ∧
      (readRoot (options.context document) members).value = tree := by
  unfold ofDocument at h
  dsimp only at h
  split at h
  · next members hdata =>
    split at h
    · cases h
    · cases h
      exact ⟨members, hdata, rfl⟩
  · cases h

theorem uri_ofDocument (h : (ofDocument document options).value = some tree) :
    tree.uri = document.uri := by
  obtain ⟨members, _, rfl⟩ := ofDocument_eq_some h
  rfl

/-- The tree of a document stands in its data. -/
theorem ofDocument_standsIn (clear : document.data.unambiguous = true)
    (h : (ofDocument document options).value = some tree) :
    tree.StandsIn (options.context document) document.data := by
  obtain ⟨members, hdata, rfl⟩ := ofDocument_eq_some h
  have hat : document.data.at? Pointer.root = some (.object members) := by
    rw [Json.at?_root, hdata]
  refine ⟨?_, ?_⟩
  · intro n hn
    exact readChildren_standsIn clear Pointer.root members hat members (fun _ h => h) n hn
  · intro o ho
    exact (readOverrides_standsIn hat o ho).offer clear

end Tree

/-! ## Values -/

/-- A value that stands in a document as the `$value` of the object at a pointer. -/
structure Field.StandsUnder (data : Json) (owner : Pointer) (field : Field Json) : Prop where
  pointer : field.pointer = owner.child "$value"
  value : data.at? field.pointer = some field.value

variable {ctx : Context} {data : Json}

/-- A value that is read from the object at a pointer stands under it. -/
theorem standsUnder_of_read {owner : Pointer} {members : Json.Members}
    (hat : data.at? owner = some (.object members)) {field : Field Json}
    (h : (members.get? "$value").map (ctx.field · (owner.child "$value")) = some field) :
    field.StandsUnder data owner := by
  obtain ⟨value, hget, rfl⟩ := Option.map_eq_some_iff.1 h
  refine ⟨rfl, ?_⟩
  change data.at? (owner.child "$value") = some value
  rw [Json.at?_member hat, hget]

/-- The value of a token stands under it. -/
theorem Tree.Node.StandsIn.value {info : NodeInfo} {type : Option (Field String)}
    {field : Field Json} (h : (Node.token info type (some field)).StandsIn ctx data) :
    field.StandsUnder data info.pointer := by
  obtain ⟨members, hat, read⟩ := h
  rw [value_readNode_object] at read
  split at read
  · obtain ⟨info', _, hp, ⟨type', _, heq⟩ | ⟨type', text, _, heq⟩⟩ := readToken_cases read
    · obtain ⟨_, _, hvalue⟩ := Node.token.inj heq
      exact standsUnder_of_read hat hvalue.symm
    · cases heq
  · cases read

/-- The value of an offer stands under it. -/
theorem Offer.StandsIn.value {o : Offer (Field String)} (h : o.StandsIn ctx data)
    {field : Field Json} (hv : o.value = some field) : field.StandsUnder data o.pointer := by
  obtain ⟨members, hat, eq⟩ := h
  rw [eq] at hv
  exact standsUnder_of_read hat hv

end DesignTokens
