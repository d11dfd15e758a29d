import DesignTokens.Proofs.Graph.Likeness
import DesignTokens.Proofs.Tree.Places

/-!
# DesignTokens.Proofs.Tree.Likeness — what alike values are read as

Of the members of an object a reading looks at a few keys only, and each of them is looked up by its
name. So alike values under these keys give alike tokens, aliases, offers and overrides, wherever
they stand among the members. Of the metadata only the replacement matters, and only for reports.

1. **Members** that a reading looks up: a text, and the replacement of a deprecated node.
2. **Contexts** (`Likeness.Contexts`): spans are looked up in the same source map, if they are
   compared.
3. **Nodes** (`Likeness.TreeNodes`): tokens and aliases (`Contexts.readToken`).
4. **Fallback lists** (`Contexts.readFallback`), by induction on the value, and **overrides**
   (`Contexts.readOverrides`).
-/

namespace DesignTokens

open DesignTokens.Tree

/-! ## Members -/

namespace Tree

variable (ctx : Context) (members : Json.Members) (pointer : Pointer)

def textField (key : String) : Option (Field String) :=
  ((members.get? key).bind Json.text?).map (ctx.field · (pointer.child key))

theorem value_readReference :
    (readReference ctx members pointer).value = textField ctx members pointer "$ref" := by
  unfold readReference textField
  split <;> simp_all [Json.text?]

theorem value_readType :
    (readType ctx members pointer).value = textField ctx members pointer "$type" := by
  unfold readType textField
  split <;> simp_all [Json.text?]

theorem value_readTarget :
    (readTarget ctx members pointer).value = textField ctx members pointer "$token" := by
  unfold readTarget textField
  cases members.get? "$token" with
  | none => rfl
  | some value => cases value <;> rfl

/-- The members of the object under a key, unless it is empty. -/
theorem value_readConditions :
    (readConditions ctx members pointer).value =
      (((members.get? "$when").bind Json.members?).filter (!·.isEmpty)).map
        (ctx.field · (pointer.child "$when")) := by
  unfold readConditions
  cases members.get? "$when" with
  | none => rfl
  | some value =>
    cases value with
    | object conditions => cases conditions <;> rfl
    | _ => rfl

def valueField (key : String) : Option (Field Json) :=
  (members.get? key).map (ctx.field · (pointer.child key))

/-- An offer is read from two members and its list. -/
theorem value_readOffer_eq (fallback : Reading (List (Offer (Field String))))
    (conflict missing : Fault) :
    (readOffer ctx members pointer fallback conflict missing).value =
      .mk pointer (ctx.sourceMap.get? pointer) (textField ctx members pointer "$ref")
        (valueField ctx members pointer "$value") fallback.value := by
  rw [value_readOffer, value_readReference]
  rfl

/-- The fallback list of an object is read under its key. -/
theorem readFallbackMember_eq :
    readFallbackMember ctx pointer members =
      match members.get? "$fallback" with
      | none => pure []
      | some list => readFallback ctx (pointer.child "$fallback") list := by
  induction members with
  | nil => rfl
  | cons member rest ih =>
    obtain ⟨key, value⟩ := member
    rw [readFallbackMember, Json.Members.get?_cons]
    split
    · next here => rw [here]
    · exact ih

/-- Without a list there are no entries. -/
theorem value_readFallbackMember :
    (readFallbackMember ctx pointer members).value =
      match members.get? "$fallback" with
      | none => []
      | some value => (readFallback ctx (pointer.child "$fallback") value).value := by
  rw [readFallbackMember_eq]
  cases members.get? "$fallback" <;> rfl

/-- The entries that an object in a fallback list stands for: one, if it offers something. -/
theorem value_readFallback_object :
    (readFallback ctx pointer (.object members)).value =
      (readEntry ctx members pointer (readFallbackMember ctx pointer members)).value.toList := by
  simp [readFallback]

/-- The entries of an array are those of the objects among its items. -/
theorem value_readEntries_cons (i : Nat) (item : Json) (rest : List Json) :
    (readEntries ctx pointer i (item :: rest)).value =
      (if item.isObject then (readFallback ctx (pointer.index i) item).value else []) ++
        (readEntries ctx pointer (i + 1) rest).value := by
  cases item <;> simp [readEntries, Json.isObject, value_readFallback_object]

/-- What is neither an array nor an object gives no entries. -/
theorem value_readFallback_plain {ctx : Context} {pointer : Pointer} {x : Json}
    (array : x.isArray = false) (object : x.isObject = false) :
    (readFallback ctx pointer x).value = [] := by
  cases x <;> simp_all [readFallback, Json.isArray, Json.isObject]

/-- An override is read from each object of the array. -/
theorem value_readOverrideItems_cons (i : Nat) (item : Json) (rest : List Json) :
    (readOverrideItems ctx pointer i (item :: rest)).value =
      (item.members?.bind fun entry =>
          (readOverride ctx entry (pointer.index i)).value).toList ++
        (readOverrideItems ctx pointer (i + 1) rest).value := by
  cases item <;> simp [readOverrideItems, Json.members?]

/-- Overrides are read from an array only. -/
theorem value_readOverrides :
    (readOverrides ctx members pointer).value =
      match (members.get? "$overrides").bind Json.items? with
      | none => []
      | some items => (readOverrideItems ctx (pointer.child "$overrides") 0 items).value := by
  unfold readOverrides
  cases members.get? "$overrides" with
  | none => rfl
  | some value => cases value <;> rfl

/-- The replacement is a text member of its own. -/
theorem value_readReplacement :
    (readReplacement ctx members pointer).value =
      textField ctx members pointer "$replacement" := by
  unfold readReplacement textField
  split <;> simp_all [Json.text?]

/-- The replacement of a deprecated node is looked up in the object under `$deprecated`. -/
theorem replacement?_readMetadata :
    (readMetadata ctx members pointer).value.replacement? =
      ((members.get? "$deprecated").bind Json.members?).bind fun entry =>
        textField ctx entry (pointer.child "$deprecated") "$replacement" := by
  have read : (readMetadata ctx members pointer).value.deprecated =
      (readDeprecated ctx members pointer).value := by
    simp [readMetadata]
  unfold Metadata.replacement?
  rw [read, readDeprecated]
  cases members.get? "$deprecated" with
  | none => rfl
  | some value =>
    cases value with
    | bool active => cases active <;> rfl
    | object entry =>
      have text := value_readReplacement ctx entry (pointer.child "$deprecated")
      simpa [Context.field, Json.members?] using text
    | _ => rfl

/-- What a node has besides its content. -/
def nodeInfo (name : String) : NodeInfo :=
  { name, pointer, span := ctx.sourceMap.get? pointer
    metadata := (readMetadata ctx members pointer).value }

/-- With a reference an alias is read, which must be a text and needs a type; else a token. -/
theorem value_readToken (name : String) :
    (readToken ctx name pointer members).value =
      if members.has "$ref" then
        match textField ctx members pointer "$ref", textField ctx members pointer "$type" with
        | some reference, some type =>
          some (.aliasTo (nodeInfo ctx members pointer name) type reference)
        | _, _ => none
      else some (.token (nodeInfo ctx members pointer name)
        (textField ctx members pointer "$type") (valueField ctx members pointer "$value")) := by
  simp only [readToken, Reading.value_bind, value_readType]
  cases href : members.get? "$ref" with
  | none => simp [Json.Members.has, href, nodeInfo, valueField]
  | some reference =>
    have text : textField ctx members pointer "$ref" =
        reference.text?.map (ctx.field · (pointer.child "$ref")) := by
      rw [textField, href, Option.bind_some]
    rw [text]
    cases htype : textField ctx members pointer "$type" <;> cases reference <;>
      simp [Json.Members.has, href, readAlias, Json.text?, nodeInfo]

end Tree

namespace Likeness

variable (L : Likeness)

/-! ## Contexts -/

/-- Contexts of one document, with the same spans if these are compared. -/
structure Contexts (ctx ctx' : Context) : Prop where
  uri : ctx.uri = ctx'.uri
  span : ∀ pointer, L.span (ctx.sourceMap.get? pointer) = L.span (ctx'.sourceMap.get? pointer)

/-- Fields with the same text, from the same place. -/
def Fields (f f' : Field String) : Prop :=
  L.field f = L.field f'

variable {L} {ctx ctx' : Context} {xs ys : Json.Members} {key : String}

theorem map_field_eq {x y : Option (Field String)} (h : Option.Rel L.Fields x y) :
    x.map L.field = y.map L.field := by
  exact optionRel_map_eq h fun _ _ like => like

namespace Contexts

variable (h : L.Contexts ctx ctx')

include h

theorem textField (pointer : Pointer) (like : Option.Rel L.value (xs.get? key) (ys.get? key)) :
    Option.Rel L.Fields (textField ctx xs pointer key) (textField ctx' ys pointer key) := by
  have text : Option.Rel Eq ((xs.get? key).bind Json.text?) ((ys.get? key).bind Json.text?) := by
    refine optionRel_bind like fun x y alike => ?_
    rw [L.respectful.text? alike]
    exact optionRel_refl (fun _ => rfl) _
  exact optionRel_map text fun _ _ same => (L.field_eq_iff).2 ⟨same, rfl, h.span _⟩

theorem valueField (pointer : Pointer) (like : Option.Rel L.value (xs.get? key) (ys.get? key)) :
    Option.Rel L.Values (valueField ctx xs pointer key) (valueField ctx' ys pointer key) := by
  exact optionRel_map like fun _ _ alike => ⟨alike, rfl, h.span _⟩

end Contexts

/-! ## Nodes -/

variable (L) in
/-- Nodes at one place, with the same replacement if reports are compared. -/
structure Infos (i i' : NodeInfo) : Prop where
  pointer : i.pointer = i'.pointer
  span : L.span i.span = L.span i'.span
  replacement : L.reports = true →
    Option.Rel L.Fields i.metadata.replacement? i'.metadata.replacement?

variable (L) in
/-- Nodes of the same kind with alike contents; the children of a collection are nodes of their
own. -/
inductive TreeNodes : Tree.Node → Tree.Node → Prop where
  | collection {i i' : NodeInfo} {children children' : List Tree.Node} (info : L.Infos i i') :
      TreeNodes (.collection i children) (.collection i' children')
  | token {i i' : NodeInfo} {type type' : Option (Field String)}
      {value value' : Option (Field Json)} (info : L.Infos i i')
      (htype : Option.Rel L.Fields type type') (hvalue : Option.Rel L.Values value value') :
      TreeNodes (.token i type value) (.token i' type' value')
  | aliasTo {i i' : NodeInfo} {type type' reference reference' : Field String}
      (info : L.Infos i i') (htype : L.Fields type type')
      (href : L.Fields reference reference') :
      TreeNodes (.aliasTo i type reference) (.aliasTo i' type' reference')

/-- Alike nodes stand at the same pointer. -/
theorem TreeNodes.pointer {n n' : Tree.Node} (h : L.TreeNodes n n') : n.pointer = n'.pointer := by
  cases h with
  | collection info => exact info.pointer
  | token info _ _ => exact info.pointer
  | aliasTo info _ _ => exact info.pointer

namespace Contexts

variable (h : L.Contexts ctx ctx') (name : String) (pointer : Pointer)
variable (deprecated : L.reports = true →
  Option.Rel L.value (xs.get? "$deprecated") (ys.get? "$deprecated"))

include h deprecated

/-- Alike members are read to alike information. -/
theorem nodeInfo : L.Infos (nodeInfo ctx xs pointer name) (nodeInfo ctx' ys pointer name) where
  pointer := rfl
  span := h.span pointer
  replacement compared := by
    change Option.Rel L.Fields (readMetadata ctx xs pointer).value.replacement?
      (readMetadata ctx' ys pointer).value.replacement?
    rw [replacement?_readMetadata, replacement?_readMetadata]
    have entries := optionRel_bind (deprecated compared) fun _ _ => L.respectful.members?
    exact optionRel_bind entries fun _ _ like => h.textField _ (like.get? _)

/-- Objects with alike values under the keys of tokens are read as alike tokens or aliases. -/
theorem readToken
    (keys : ∀ key ∈ tokenKeys, Option.Rel L.value (xs.get? key) (ys.get? key)) :
    Option.Rel L.TreeNodes (readToken ctx name pointer xs).value
      (readToken ctx' name pointer ys).value := by
  have info := h.nodeInfo name pointer deprecated
  have type := h.textField pointer (keys "$type" (by decide))
  have value := h.valueField pointer (keys "$value" (by decide))
  have reference := h.textField pointer (keys "$ref" (by decide))
  have linked : xs.has "$ref" = ys.has "$ref" := optionRel_isSome (keys "$ref" (by decide))
  rw [value_readToken, value_readToken, linked]
  split
  · -- Without a text as reference there is no alias.
    rcases optionRel_cases reference with ⟨hr, hr'⟩ | ⟨r, r', hr, hr', href⟩
    · rw [hr, hr']
      exact .none
    · -- Without a type there is none either.
      rcases optionRel_cases type with ⟨ht, ht'⟩ | ⟨t, t', ht, ht', htype⟩
      · rw [hr, hr', ht, ht']
        exact .none
      · rw [hr, hr', ht, ht']
        exact .some (.aliasTo info htype href)
  · exact .some (.token info type value)

end Contexts

/-! ## Fallback lists -/

namespace Contexts

/-- The entries of alike arrays, if those of their items are alike. -/
theorem readEntries (pointer : Pointer) {items items' : List Json}
    (like : List.Forall₂ L.value items items')
    (each : ∀ x ∈ items, ∀ (y : Json) (pointer : Pointer), L.value x y →
      List.Forall₂ (L.Offers L.Fields) (Tree.readFallback ctx pointer x).value
        (Tree.readFallback ctx' pointer y).value) (i : Nat) :
    List.Forall₂ (L.Offers L.Fields) (Tree.readEntries ctx pointer i items).value
      (Tree.readEntries ctx' pointer i items').value := by
  induction like generalizing i with
  | nil => exact .nil
  | cons head _ ih =>
    rw [List.forall_mem_cons] at each
    rw [value_readEntries_cons, value_readEntries_cons, L.respectful.isObject_eq head]
    refine List.rel_append ?_ (ih each.2 (i + 1))
    split
    · exact each.1 _ _ head
    · exact .nil

/-- The fallback lists of alike objects, if those of their members are alike. -/
theorem readFallbackMember_of (pointer : Pointer) (like : Json.Members.Alike L.value xs ys)
    (each : ∀ m ∈ xs, ∀ (y : Json) (pointer : Pointer), L.value m.2 y →
      List.Forall₂ (L.Offers L.Fields) (Tree.readFallback ctx pointer m.2).value
        (Tree.readFallback ctx' pointer y).value) :
    List.Forall₂ (L.Offers L.Fields) (readFallbackMember ctx pointer xs).value
      (readFallbackMember ctx' pointer ys).value := by
  rw [value_readFallbackMember, value_readFallbackMember]
  rcases optionRel_cases (like.get? "$fallback") with ⟨hx, hy⟩ | ⟨u, v, hx, hy, inner⟩
  · rw [hx, hy]
    exact .nil
  · rw [hx, hy]
    exact each _ (Json.Members.mem_of_get? hx) v _ inner

variable (h : L.Contexts ctx ctx')

include h

/-- Objects offer alike things if their fallback lists are alike. -/
theorem readOffer (pointer : Pointer) (like : Json.Members.Alike L.value xs ys)
    {fallback fallback' : Reading (List (Offer (Field String)))}
    (list : List.Forall₂ (L.Offers L.Fields) fallback.value fallback'.value)
    (conflict missing : Fault) :
    L.Offers L.Fields (readOffer ctx xs pointer fallback conflict missing).value
      (readOffer ctx' ys pointer fallback' conflict missing).value := by
  rw [value_readOffer_eq, value_readOffer_eq]
  exact .mk (h.span pointer) (h.textField pointer (like.get? _))
    (h.valueField pointer (like.get? _)) list

/-- Alike entries are kept on both sides or on neither. -/
theorem readEntry (pointer : Pointer) (like : Json.Members.Alike L.value xs ys)
    {fallback fallback' : Reading (List (Offer (Field String)))}
    (list : List.Forall₂ (L.Offers L.Fields) fallback.value fallback'.value) :
    List.Forall₂ (L.Offers L.Fields) (readEntry ctx xs pointer fallback).value.toList
      (readEntry ctx' ys pointer fallback').value.toList := by
  have offer := h.readOffer pointer like list .fallbackConflict .fallbackWithoutOffer
  simp only [Tree.readEntry, Reading.value_bind, Reading.value_pure]
  generalize (Tree.readOffer ctx xs pointer fallback _ _).value = o,
    (Tree.readOffer ctx' ys pointer fallback' _ _).value = o' at offer
  -- What the two offer is alike, so both or neither is empty.
  have empty : isEmptyOffer o = isEmptyOffer o' := by
    have reference : o.reference.isSome = o'.reference.isSome := optionRel_isSome offer.reference
    have value : o.value.isSome = o'.value.isSome := optionRel_isSome offer.value
    have fallback : o.fallback.isEmpty = o'.fallback.isEmpty := by
      have list := offer.fallback
      generalize o.fallback = es, o'.fallback = es' at list
      cases list <;> rfl
    simp only [isEmptyOffer, ← Option.not_isSome, reference, value, fallback]
  rw [empty]
  split
  · exact .nil
  · exact .cons offer .nil

/-- Alike values are read as alike fallback lists. -/
theorem readFallback (x : Json) : ∀ (y : Json) (pointer : Pointer), L.value x y →
    List.Forall₂ (L.Offers L.Fields) (readFallback ctx pointer x).value
      (readFallback ctx' pointer y).value := by
  induction x using Json.induction with
  | array items ih =>
    intro y pointer like
    rcases optionRel_cases (L.respectful.items? like) with ⟨none, _⟩ | ⟨_, items', ⟨⟩, hy, alike⟩
    · cases none
    · rw [Json.eq_array_of_items? hy, Tree.readFallback, Tree.readFallback]
      exact readEntries pointer alike ih 0
  | object members ih =>
    intro y pointer like
    rcases optionRel_cases (L.respectful.members? like) with ⟨none, _⟩ | ⟨_, ys, ⟨⟩, hy, alike⟩
    · cases none
    · rw [Json.eq_object_of_members? hy, value_readFallback_object, value_readFallback_object]
      exact h.readEntry pointer alike (readFallbackMember_of pointer alike ih)
  | _ =>
    -- A scalar lists nothing, and what is like it is one as well.
    intro y pointer like
    have array := L.respectful.isArray_eq like
    have object := L.respectful.isObject_eq like
    rw [value_readFallback_plain rfl rfl, value_readFallback_plain array.symm object.symm]
    exact .nil

theorem readFallbackMember (pointer : Pointer) (like : Json.Members.Alike L.value xs ys) :
    List.Forall₂ (L.Offers L.Fields) (Tree.readFallbackMember ctx pointer xs).value
      (Tree.readFallbackMember ctx' pointer ys).value :=
  readFallbackMember_of pointer like fun m _ => h.readFallback m.2

end Contexts

/-! ## Overrides -/

namespace Contexts

/-- Conditions that are read from alike objects hold in the same contexts. -/
theorem readConditions (pointer : Pointer) (like : Json.Members.Alike L.value xs ys) :
    Option.Rel (fun c c' => ∀ context, (Conditions.ofMembers c.value).hold context =
        (Conditions.ofMembers c'.value).hold context)
      (readConditions ctx xs pointer).value (readConditions ctx' ys pointer).value := by
  rw [value_readConditions, value_readConditions]
  have members := optionRel_bind (like.get? "$when") fun _ _ => L.respectful.members?
  rcases optionRel_cases members with ⟨hx, hy⟩ | ⟨us, vs, hx, hy, inner⟩
  · rw [hx, hy]
    exact .none
  · rw [hx, hy, Option.filter_some, Option.filter_some, inner.isEmpty_eq]
    split
    · exact .some (L.respectful.hold_eq inner)
    · exact .none

variable (h : L.Contexts ctx ctx')

include h

/-- Alike overrides are kept on both sides or on neither. -/
theorem readOverride (pointer : Pointer) (like : Json.Members.Alike L.value xs ys) :
    Option.Rel (L.Overrides L.Fields) (readOverride ctx xs pointer).value
      (readOverride ctx' ys pointer).value := by
  have list := h.readFallbackMember pointer like
  have offer := h.readOffer pointer like list .overrideConflict .overrideWithoutOffer
  have target := h.textField pointer (like.get? "$token")
  simp only [Tree.readOverride, Reading.value_bind, value_readTarget]
  rcases optionRel_cases target with ⟨ht, ht'⟩ | ⟨t, t', ht, ht', token⟩
  · -- Without a target there is no override.
    rw [ht, ht']
    exact .none
  · rcases optionRel_cases (readConditions pointer like) with
      ⟨hc, hc'⟩ | ⟨c, c', hc, hc', conditions⟩
    · -- Without conditions there is none either.
      rw [ht, ht', hc, hc']
      exact .none
    · rw [ht, ht', hc, hc']
      exact .some ⟨token, conditions, offer⟩

/-- Overrides are read alike from alike items. -/
theorem readOverrideItems (pointer : Pointer) {items items' : List Json}
    (like : List.Forall₂ L.value items items') (i : Nat) :
    List.Forall₂ (L.Overrides L.Fields) (readOverrideItems ctx pointer i items).value
      (readOverrideItems ctx' pointer i items').value := by
  induction like generalizing i with
  | nil => exact .nil
  | cons head _ ih =>
    rw [value_readOverrideItems_cons, value_readOverrideItems_cons]
    refine List.rel_append (forall₂_toList ?_) (ih (i + 1))
    exact optionRel_bind (L.respectful.members? head) fun _ _ alike => h.readOverride _ alike

/-- Alike values under `$overrides` are read as alike overrides. -/
theorem readOverrides (pointer : Pointer)
    (like : Option.Rel L.value (xs.get? "$overrides") (ys.get? "$overrides")) :
    List.Forall₂ (L.Overrides L.Fields) (readOverrides ctx xs pointer).value
      (readOverrides ctx' ys pointer).value := by
  rw [value_readOverrides, value_readOverrides]
  have lists := optionRel_bind like fun _ _ => L.respectful.items?
  rcases optionRel_cases lists with ⟨hx, hy⟩ | ⟨_, _, hx, hy, items⟩
  · rw [hx, hy]
    exact .nil
  · rw [hx, hy]
    exact h.readOverrideItems _ items 0

end Contexts

end Likeness

end DesignTokens
