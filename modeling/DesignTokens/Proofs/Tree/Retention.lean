import DesignTokens.Proofs.Tree.Entries
import DesignTokens.Proofs.Tree.Metadata

/-!
# DesignTokens.Proofs.Tree.Retention — which overrides and fallback entries are kept

Which of the overrides of a document are kept, and which entries of fallback lists, is said here
without reading them. The tree has exactly those, in order, and whatever is left out is reported.

1. **What is kept** of overrides (`IsOverride`) and of fallback lists (`Item.Offers`), where an
   entry may be kept for an entry of its own list.
2. **What it is kept as** (`Keeps`, `KeepsOverride`).
3. **Reports** of what is left out (`Item.Dropped`).
4. **Fallback lists** (`Retains`), by induction on the value.
5. **Documents** (`overrides_retained`).
-/

namespace DesignTokens.Tree

/-! ## What is kept -/

/-- An entry of a fallback list offers something if it has a text as its reference, a value, or an
entry in its own list that offers something. -/
inductive Item.Offers : Item → Prop where
  | reference {item : Item} {text : String} (h : item.value.get? "$ref" = some (.string text)) :
    Offers item
  | value {item : Item} (h : (item.value.get? "$value").isSome) : Offers item
  | fallback {item entry : Item} (mem : entry ∈ item.entries) (h : Offers entry) : Offers item

/-- An override names a token and has at least one condition. -/
def IsOverride (item : Item) : Prop :=
  ∃ text condition more, item.value.get? "$token" = some (.string text) ∧
    item.value.get? "$when" = some (.object (condition :: more))

/-! ## What it is kept as -/

def Item.text (ctx : Context) (item : Item) (key : String) : Option (Field String) :=
  ((item.value.get? key).bind Json.text?).map (ctx.field · (item.pointer.child key))

open scoped Classical in
/-- An offer is what an item has: its reference if that is a text, its value, and those entries of
its fallback list that offer something, in order. -/
inductive Keeps (ctx : Context) : Item → Offer (Field String) → Prop where
  | intro {item : Item} {offers : List (Offer (Field String))}
    (entries : List.Forall₂ (Keeps ctx) (item.entries.filter fun e => e.Offers) offers) :
    Keeps ctx item (.mk item.pointer (ctx.sourceMap.get? item.pointer) (item.text ctx "$ref")
      ((item.value.get? "$value").map (ctx.field · (item.pointer.child "$value"))) offers)

/-- An override is what an item has: its token, its conditions and what it offers. -/
structure KeepsOverride (ctx : Context) (item : Item) (o : Override (Field String)) : Prop where
  token : item.text ctx "$token" = some o.token
  conditions : ((item.value.get? "$when").bind Json.members?).map
    (ctx.field · (item.pointer.child "$when")) = some o.conditions
  offer : Keeps ctx item o.offer

/-! ## Reports -/

/-- The code for an entry that is left out. -/
def Item.droppedCode (item : Item) : Code :=
  if item.value.isObject then .fallbackMissingPayload else .invalidFallback

/-- It is reported that an entry was left out. -/
def Item.Dropped (item : Item) (log : Log) : Prop :=
  ∃ d ∈ log, d.code = item.droppedCode ∧ d.pointer = some item.pointer

theorem Item.Dropped.mono {item : Item} {log log' : Log} (h : item.Dropped log)
    (sub : log ⊆ log') : item.Dropped log' := by
  obtain ⟨d, hd, dropped⟩ := h
  exact ⟨d, sub hd, dropped⟩

/-- An error says that an item is no override. -/
def Item.Rejected (item : Item) (log : Log) : Prop :=
  ∃ d ∈ log, d.isError = true ∧
    (d.pointer = some item.pointer ∨ d.pointer = some (item.pointer.child "$token") ∨
      d.pointer = some (item.pointer.child "$when"))

theorem Item.Rejected.mono {item : Item} {log log' : Log} (h : item.Rejected log)
    (sub : log ⊆ log') : item.Rejected log' := by
  obtain ⟨d, hd, rejected⟩ := h
  exact ⟨d, sub hd, rejected⟩

/-! ## Fallback lists -/

open scoped Classical in
/-- Some offers are those that are kept of some entries, in the same order, and a log has reports
of the other entries, and of those that are reached from there. -/
structure Retains (ctx : Context) (entries : List Item) (offers : List (Offer (Field String)))
    (log : Log) : Prop where
  kept : List.Forall₂ (Keeps ctx) (entries.filter fun e => e.Offers) offers
  dropped : ∀ e, Item.Among entries e → ¬e.Offers → e.Dropped log

namespace Retains

variable {ctx : Context} {entries entries' : List Item} {item : Item}
  {offers offers' : List (Offer (Field String))} {log log' : Log}

theorem nil (log : Log) : Retains ctx [] [] log where
  kept := .nil
  dropped e among := by
    rcases among with mem | ⟨_, mem, _⟩
    · exact absurd mem List.not_mem_nil
    · exact absurd mem List.not_mem_nil

theorem mono (h : Retains ctx entries offers log) (sub : log ⊆ log') :
    Retains ctx entries offers log' where
  kept := h.kept
  dropped e among free := (h.dropped e among free).mono sub

theorem append (h : Retains ctx entries offers log) (h' : Retains ctx entries' offers' log') :
    Retains ctx (entries ++ entries') (offers ++ offers') (log ++ log') where
  kept := by
    rw [List.filter_append]
    exact List.rel_append h.kept h'.kept
  dropped e among free := by
    -- An entry below is below one of the two stretches.
    have sides : Item.Among entries e ∨ Item.Among entries' e := by
      simpa only [Item.Among, List.mem_append, or_and_right, exists_or, or_or_or_comm] using among
    rcases sides with left | right
    · exact (h.dropped e left free).mono (List.subset_append_left _ _)
    · exact (h'.dropped e right free).mono (List.subset_append_right _ _)

/-- An entry that offers something, with those of its own list. -/
theorem kept_singleton {offer : Offer (Field String)} (offers : item.Offers)
    (keeps : Keeps ctx item offer) (h : Retains ctx item.entries offer.fallback log) :
    Retains ctx [item] [offer] log where
  kept := by
    rw [List.filter_cons_of_pos (by simpa using offers)]
    exact .cons keeps .nil
  dropped e among free := by
    rcases Item.among_singleton among with rfl | among
    · exact absurd offers free
    · exact h.dropped e among free

/-- An entry that is left out with a report, after those of its own list. -/
theorem dropped_singleton (free : ¬item.Offers) (reported : item.Dropped log)
    (h : Retains ctx item.entries offers log) : Retains ctx [item] [] log where
  kept := by
    rw [List.filter_cons_of_neg (by simpa using free)]
    exact .nil
  dropped e among other := by
    rcases Item.among_singleton among with rfl | among
    · exact reported
    · exact h.dropped e among other

end Retains

section Readings

variable {ctx : Context} {members : Json.Members} {pointer : Pointer} {item : Item}

/-- An item offers something if it has a reference, a value, or an entry that does. -/
theorem Item.offers_iff (ctx : Context) (item : Item) :
    item.Offers ↔ (item.text ctx "$ref").isSome ∨ (item.value.get? "$value").isSome ∨
      ∃ entry ∈ item.entries, entry.Offers := by
  have text : (item.text ctx "$ref").isSome ↔
      ∃ text, item.value.get? "$ref" = some (.string text) := by
    rw [Item.text, Option.isSome_map, Option.isSome_iff_exists]
    cases item.value.get? "$ref" with
    | none => simp
    | some value => cases value <;> simp [Json.text?]
  rw [text]
  constructor
  · intro offers
    cases offers with
    | reference h => exact .inl ⟨_, h⟩
    | value h => exact .inr (.inl h)
    | fallback mem h => exact .inr (.inr ⟨_, mem, h⟩)
  · rintro (⟨_, h⟩ | h | ⟨entry, mem, h⟩)
    · exact .reference h
    · exact .value h
    · exact .fallback mem h

/-- Some entry of a list is kept exactly if some entry offers something. -/
theorem Retains.ne_nil_iff {entries : List Item} {offers : List (Offer (Field String))} {log : Log}
    (h : Retains ctx entries offers log) : offers ≠ [] ↔ ∃ e ∈ entries, e.Offers := by
  have length := h.kept.length_eq
  rw [← List.length_pos_iff, ← length, List.length_pos_iff_exists_mem]
  simp

variable {fallback : Reading (List (Offer (Field String)))}

/-- An object offers something exactly if what is read from it is no empty offer. -/
theorem isEmptyOffer_readOffer {log : Log}
    (h : Retains ctx (Item.entries ⟨pointer, .object members⟩) fallback.value log)
    (conflict missing : Fault) :
    isEmptyOffer (readOffer ctx members pointer fallback conflict missing).value = true ↔
      ¬Item.Offers ⟨pointer, .object members⟩ := by
  have value : (valueField ctx members pointer "$value").isNone =
      (members.get? "$value").isNone := by
    rw [valueField, Option.isNone_map]
  rw [Item.offers_iff ctx, ← h.ne_nil_iff, value_readOffer_eq, isEmptyOffer,
    Offer.reference, Offer.value, Offer.fallback, value]
  simp [Item.text, textField, Json.get?, Json.members?, and_assoc]

/-- What is read from an object is what it has, if its fallback list is read as it says. -/
theorem keeps_readOffer {log : Log}
    (h : Retains ctx (Item.entries ⟨pointer, .object members⟩) fallback.value log)
    (conflict missing : Fault) :
    Keeps ctx ⟨pointer, .object members⟩
      (readOffer ctx members pointer fallback conflict missing).value := by
  rw [value_readOffer_eq]
  exact .intro h.kept

/-- The reports of a list stay in those of its offer. -/
theorem log_fallback_subset_readOffer (conflict missing : Fault) :
    fallback.log ⊆ (readOffer ctx members pointer fallback conflict missing).log := by
  intro d hd
  simp only [readOffer, Reading.log_bind, List.mem_append]
  exact .inr (.inl hd)

/-- An offer without anything is reported. -/
theorem log_missing_subset_readOffer {conflict missing : Fault}
    (empty :
      isEmptyOffer (readOffer ctx members pointer fallback conflict missing).value = true) :
    (ctx.report missing pointer).log ⊆
      (readOffer ctx members pointer fallback conflict missing).log := by
  rw [value_readOffer] at empty
  intro d hd
  simp only [readOffer, Reading.log_bind, List.mem_append]
  refine .inr (.inr (.inr (.inl ?_)))
  rw [Context.reportIf, if_pos empty]
  exact hd

/-- An entry is kept if it offers something, and else it is reported. -/
theorem readEntry_retains
    (h : Retains ctx (Item.entries ⟨pointer, .object members⟩) fallback.value fallback.log) :
    Retains ctx [⟨pointer, .object members⟩]
      (readEntry ctx members pointer fallback).value.toList
      (readEntry ctx members pointer fallback).log := by
  have empty := isEmptyOffer_readOffer h .fallbackConflict .fallbackWithoutOffer
  have sub : (readOffer ctx members pointer fallback .fallbackConflict .fallbackWithoutOffer).log ⊆
      (readEntry ctx members pointer fallback).log := by
    intro d hd
    simp only [readEntry, Reading.log_bind, List.mem_append]
    exact .inr (.inl hd)
  have below := h.mono (List.Subset.trans
    (log_fallback_subset_readOffer .fallbackConflict .fallbackWithoutOffer) sub)
  simp only [readEntry, Reading.value_bind, Reading.value_pure]
  -- The reader drops an empty offer, and by induction that is one of an object that offers nothing.
  by_cases offers : Item.Offers ⟨pointer, .object members⟩
  · rw [if_neg fun he => empty.1 he offers]
    refine .kept_singleton offers (keeps_readOffer h _ _) ?_
    rw [value_readOffer_eq]
    exact below
  · have free := empty.2 offers
    rw [if_pos free]
    refine .dropped_singleton offers ?_ below
    exact ⟨_, sub (log_missing_subset_readOffer free (List.mem_singleton_self _)), rfl, rfl⟩

/-- A value that is no object is no entry, which is reported. -/
theorem dropped_plain {x : Json} (plain : x.isObject = false) {fault : Fault}
    (code : fault.code = .invalidFallback) :
    Retains ctx [⟨pointer, x⟩] [] (ctx.report fault pointer).log := by
  have members : x.members? = none := by
    cases x <;> first | rfl | cases plain
  have none : Item.list? ⟨pointer, x⟩ = none := Item.list?_plain members
  have free : ¬Item.Offers ⟨pointer, x⟩ := by
    rw [Item.offers_iff ctx, Item.entries_eq_nil none]
    simp [Item.text, Json.get?, members]
  have reported : Item.Dropped ⟨pointer, x⟩ (ctx.report fault pointer).log := by
    refine ⟨_, List.mem_singleton_self _, ?_, rfl⟩
    rw [Item.droppedCode, plain]
    exact code
  have below : Retains ctx (Item.entries ⟨pointer, x⟩) [] (ctx.report fault pointer).log := by
    rw [Item.entries_eq_nil none]
    exact .nil _
  exact .dropped_singleton free reported below

/-- The items of an array are read one by one. -/
theorem readEntries_retains {items : List Json}
    (each : ∀ x ∈ items, ∀ pointer, Retains ctx (listed pointer x)
      (readFallback ctx pointer x).value (readFallback ctx pointer x).log) (i : Nat) :
    Retains ctx (itemsFrom pointer i items) (readEntries ctx pointer i items).value
      (readEntries ctx pointer i items).log := by
  induction items generalizing i with
  | nil => exact .nil _
  | cons x rest ih =>
    rw [List.forall_mem_cons] at each
    have more := ih each.2 (i + 1)
    have plain (other : x.isObject = false)
        (read : readEntries ctx pointer i (x :: rest) = (do
          ctx.report .fallbackEntryNotObject (pointer.index i)
          readEntries ctx pointer (i + 1) rest)) :
        Retains ctx (itemsFrom pointer i (x :: rest)) (readEntries ctx pointer i (x :: rest)).value
          (readEntries ctx pointer i (x :: rest)).log := by
      rw [read]
      exact (dropped_plain other rfl).append more
    -- An object is read as a list of one entry is.
    cases x with
    | object members =>
      have first := each.1 (pointer.index i)
      rw [readFallback] at first
      rw [readEntries]
      simpa [itemsFrom, listed] using first.append more
    | _ => exact plain rfl (by simp only [readEntries])

/-- The fallback list of an object is read as it says, if the values of its members are. -/
theorem readFallbackMember_retains
    (each : ∀ m ∈ members, ∀ pointer, Retains ctx (listed pointer m.2)
      (readFallback ctx pointer m.2).value (readFallback ctx pointer m.2).log) :
    Retains ctx (Item.entries ⟨pointer, .object members⟩)
      (readFallbackMember ctx pointer members).value
      (readFallbackMember ctx pointer members).log := by
  have list? : Item.list? ⟨pointer, .object members⟩ = members.get? "$fallback" := rfl
  rw [readFallbackMember_eq]
  cases has : members.get? "$fallback" with
  | none =>
    rw [Item.entries_eq_nil (list?.trans has)]
    exact .nil _
  | some list =>
    rw [Item.entries_of_list? (list?.trans has)]
    exact each _ (Json.Members.mem_of_get? has) _

/-- What is read from a fallback list is what is kept of it. -/
theorem readFallback_retains (list : Json) : ∀ pointer,
    Retains ctx (listed pointer list) (readFallback ctx pointer list).value
      (readFallback ctx pointer list).log := by
  induction list using Json.induction with
  | array items ih =>
    intro pointer
    rw [readFallback]
    exact readEntries_retains ih 0
  | object members ih =>
    intro pointer
    rw [readFallback]
    simpa [listed] using readEntry_retains (readFallbackMember_retains ih)
  | _ =>
    intro pointer
    simp only [readFallback]
    simpa [listed] using dropped_plain rfl rfl

/-- What is read from the fallback list of an object is what is kept of it. -/
theorem fallback_retains (ctx : Context) (pointer : Pointer) (members : Json.Members) :
    Retains ctx (Item.entries ⟨pointer, .object members⟩)
      (readFallbackMember ctx pointer members).value
      (readFallbackMember ctx pointer members).log :=
  readFallbackMember_retains fun m _ => readFallback_retains m.2

end Readings

/-! ## Overrides -/

open scoped Classical in
/-- Some overrides are those that are kept of some items, in the same order, and a log has reports
of the other items, and of the entries that are left out of any fallback list. -/
structure RetainsOverrides (ctx : Context) (items : List Item)
    (overrides : List (Override (Field String))) (log : Log) : Prop where
  kept : List.Forall₂ (KeepsOverride ctx) (items.filter fun item => IsOverride item) overrides
  rejected : ∀ item ∈ items, ¬IsOverride item → item.Rejected log
  dropped : ∀ item ∈ items, ∀ e, item.HasEntry e → ¬e.Offers → e.Dropped log

namespace RetainsOverrides

variable {ctx : Context} {items : List Item} {item : Item}
  {overrides : List (Override (Field String))} {log log' : Log}

theorem nil (log : Log) : RetainsOverrides ctx [] [] log where
  kept := .nil
  rejected _ mem := absurd mem List.not_mem_nil
  dropped _ mem := absurd mem List.not_mem_nil

theorem mono (h : RetainsOverrides ctx items overrides log) (sub : log ⊆ log') :
    RetainsOverrides ctx items overrides log' where
  kept := h.kept
  rejected item mem other := (h.rejected item mem other).mono sub
  dropped item mem e has free := (h.dropped item mem e has free).mono sub

/-- An item is kept as an override or is rejected, before other items. -/
theorem cons {first : Option (Override (Field String))}
    (kept : IsOverride item → ∃ o, first = some o ∧ KeepsOverride ctx item o)
    (rejected : ¬IsOverride item → first = none ∧ item.Rejected log)
    (dropped : ∀ e, item.HasEntry e → ¬e.Offers → e.Dropped log)
    (h : RetainsOverrides ctx items overrides log') :
    RetainsOverrides ctx (item :: items) (first.toList ++ overrides) (log ++ log') := by
  have later := h.mono (List.subset_append_right log log')
  constructor
  · -- The first item is kept, or is no override.
    by_cases is : IsOverride item
    · obtain ⟨o, rfl, keeps⟩ := kept is
      rw [List.filter_cons_of_pos (by simpa using is)]
      exact .cons keeps h.kept
    · rw [List.filter_cons_of_neg (by simpa using is), (rejected is).1]
      exact h.kept
  · -- An item that is no override is rejected with a report.
    intro i mem other
    rcases List.mem_cons.1 mem with rfl | mem
    · exact (rejected other).2.mono (List.subset_append_left _ _)
    · exact later.rejected i mem other
  · -- An entry below that offers nothing is dropped with a report.
    intro i mem e has free
    rcases List.mem_cons.1 mem with rfl | mem
    · exact (dropped e has free).mono (List.subset_append_left _ _)
    · exact later.dropped i mem e has free

end RetainsOverrides

section Overrides

variable {ctx : Context} {members : Json.Members} {pointer : Pointer}

/-- Without a text as target that is reported. -/
theorem readTarget_of_ne (other : ∀ text, members.get? "$token" ≠ some (.string text)) :
    readTarget ctx members pointer = (do
      ctx.report .overrideWithoutToken (pointer.child "$token")
      pure none) := by
  unfold readTarget
  split
  · next text has => exact absurd has (other text)
  · rfl

/-- Without conditions that is reported. -/
theorem readConditions_of_ne
    (other : ∀ condition more, members.get? "$when" ≠ some (.object (condition :: more))) :
    readConditions ctx members pointer = (do
      ctx.report .overrideWithoutConditions (pointer.child "$when")
      pure none) := by
  unfold readConditions
  split
  · next condition more has => exact absurd has (other condition more)
  · rfl

/-- An object with a token and conditions is kept as an override. -/
theorem readOverride_keeps (is : IsOverride ⟨pointer, .object members⟩) :
    ∃ o, (readOverride ctx members pointer).value = some o ∧
      KeepsOverride ctx ⟨pointer, .object members⟩ o := by
  obtain ⟨text, condition, more, token, conditions⟩ := is
  change members.get? "$token" = _ at token
  change members.get? "$when" = _ at conditions
  have list := fallback_retains ctx pointer members
  let offer := readOffer ctx members pointer (readFallbackMember ctx pointer members)
    .overrideConflict .overrideWithoutOffer
  have read : (readOverride ctx members pointer).value = some
      { token := ctx.field text (pointer.child "$token")
        conditions := ctx.field (condition :: more) (pointer.child "$when")
        offer := offer.value } := by
    simp [readOverride, readTarget, readConditions, token, conditions, offer]
  refine ⟨_, read, ?_, ?_, ?_⟩
  · simp [Item.text, Json.get?, Json.members?, token, Json.text?]
  · simp [Json.get?, Json.members?, conditions]
  · exact keeps_readOffer list .overrideConflict .overrideWithoutOffer

/-- An object without a token or conditions is rejected. -/
theorem readOverride_rejects (other : ¬IsOverride ⟨pointer, .object members⟩) :
    (readOverride ctx members pointer).value = none ∧
      Item.Rejected ⟨pointer, .object members⟩ (readOverride ctx members pointer).log := by
  -- With a token it is the conditions that are missing.
  by_cases token : ∃ text, members.get? "$token" = some (.string text)
  · obtain ⟨text, token⟩ := token
    have none : readConditions ctx members pointer = _ := readConditions_of_ne
      fun condition more conditions => other ⟨text, condition, more, token, conditions⟩
    have reported : (ctx.report .overrideWithoutConditions (pointer.child "$when")).log ⊆
        (readOverride ctx members pointer).log := by
      intro d hd
      simp only [readOverride, none, Reading.log_bind, List.mem_append]
      exact .inr (.inr (.inl (.inl hd)))
    exact ⟨by simp [readOverride, none],
      _, reported (List.mem_singleton_self _), rfl, .inr (.inr rfl)⟩
  · have none : readTarget ctx members pointer = _ := readTarget_of_ne (not_exists.1 token)
    have reported : (ctx.report .overrideWithoutToken (pointer.child "$token")).log ⊆
        (readOverride ctx members pointer).log := by
      intro d hd
      simp only [readOverride, none, Reading.log_bind, List.mem_append]
      exact .inr (.inl (.inl hd))
    exact ⟨by simp [readOverride, none],
      _, reported (List.mem_singleton_self _), rfl, .inr (.inl rfl)⟩

/-- Every entry of an override that is left out is reported, whether the override is kept or not. -/
theorem readOverride_drops {e : Item} (has : Item.HasEntry ⟨pointer, .object members⟩ e)
    (free : ¬e.Offers) : e.Dropped (readOverride ctx members pointer).log := by
  have list := fallback_retains ctx pointer members
  refine (list.dropped e has.among free).mono fun d hd => ?_
  simp only [readOverride, Reading.log_bind, List.mem_append]
  exact .inr (.inr (.inr (.inl (log_fallback_subset_readOffer _ _ hd))))

/-- Each item is kept as an override or rejected, in order. -/
theorem readOverrideItems_retains (i : Nat) (items : List Json) :
    RetainsOverrides ctx (itemsFrom pointer i items)
      (readOverrideItems ctx pointer i items).value
      (readOverrideItems ctx pointer i items).log := by
  induction items generalizing i with
  | nil => exact .nil _
  | cons x rest ih =>
    -- What is no object is rejected as a whole.
    have plain (members : x.members? = none) (read : readOverrideItems ctx pointer i (x :: rest) =
        (do
          ctx.report .overrideNotObject (pointer.index i)
          readOverrideItems ctx pointer (i + 1) rest)) :
        RetainsOverrides ctx (itemsFrom pointer i (x :: rest))
          (readOverrideItems ctx pointer i (x :: rest)).value
          (readOverrideItems ctx pointer i (x :: rest)).log := by
      have list : Item.list? ⟨pointer.index i, x⟩ = none := Item.list?_plain members
      rw [read]
      refine .cons (fun is => ?_) (fun _ => ⟨Eq.refl none, ?_⟩) (fun e has => ?_) (ih (i + 1))
      · obtain ⟨_, _, _, token, _⟩ := is
        simp [Json.get?, members] at token
      · exact ⟨_, List.mem_singleton_self _, rfl, .inl rfl⟩
      · exact absurd has (Item.not_hasEntry list)
    cases x with
    | object members =>
      rw [readOverrideItems]
      have both : RetainsOverrides ctx (⟨pointer.index i, .object members⟩ :: itemsFrom _ _ rest)
          _ _ :=
        .cons readOverride_keeps readOverride_rejects (fun _ => readOverride_drops) (ih (i + 1))
      simpa [itemsFrom] using both
    | _ => exact plain rfl (by simp only [readOverrideItems])

/-- The overrides of a document are those that are kept of the items of its array. -/
theorem readOverrides_retains (ctx : Context) (members : Json.Members) :
    RetainsOverrides ctx (overrideItems (.object members))
      (readOverrides ctx members Pointer.root).value
      (readOverrides ctx members Pointer.root).log := by
  change RetainsOverrides ctx
    (itemsFrom _ 0 (((members.get? "$overrides").bind Json.items?).getD [])) _ _
  unfold readOverrides
  cases members.get? "$overrides" with
  | none => exact .nil _
  | some value =>
    cases value with
    | array items => exact readOverrideItems_retains 0 items
    | _ => exact .nil _

end Overrides

/-! ## Documents -/

/-- Something is on offer. -/
def OffersSomething (offer : Offer (Field String)) : Prop :=
  offer.reference.isSome ∨ offer.value.isSome ∨ offer.fallback ≠ []

section Every

variable {ctx : Context} {item : Item}

/-- What is kept of an item that offers something offers something. -/
theorem Keeps.offersSomething {o : Offer (Field String)} (h : Keeps ctx item o)
    (offers : item.Offers) : OffersSomething o := by
  classical
  cases h with
  | intro entries =>
    rcases (Item.offers_iff ctx item).1 offers with text | value | ⟨e, mem, has⟩
    · exact .inl text
    · exact .inr (.inl (by simpa [Offer.value] using value))
    · -- The entry that offers something is among those that are kept.
      refine .inr (.inr fun empty => ?_)
      change _ = [] at empty
      subst empty
      have none := List.forall₂_nil_right_iff.1 entries
      exact List.not_mem_nil (none ▸ List.mem_filter.2 ⟨mem, decide_eq_true has⟩)

mutual

/-- All that is kept of the fallback list of an item offers something, at any depth. -/
theorem Keeps.every_fallback : ∀ (o : Offer (Field String)) (item : Item), Keeps ctx item o →
    ∀ e ∈ o.fallback, e.Every OffersSomething
  | .mk _ _ _ _ fallback, item, h => by
    classical
    cases h with
    | intro entries =>
      exact Keeps.every_of_forall₂ fallback _ entries fun i hi =>
        of_decide_eq_true (List.mem_filter.1 hi).2

theorem Keeps.every_of_forall₂ : ∀ (offers : List (Offer (Field String))) (items : List Item),
    List.Forall₂ (Keeps ctx) items offers → (∀ i ∈ items, i.Offers) →
      ∀ e ∈ offers, e.Every OffersSomething
  | [], _, _, _ => nofun
  | o :: rest, items, h, offers => by
    cases h with
    | cons first more =>
      rw [List.forall_mem_cons] at offers ⊢
      exact ⟨.intro (first.offersSomething offers.1) (Keeps.every_fallback o _ first),
        Keeps.every_of_forall₂ rest _ more offers.2⟩

end

end Every

section Documents

variable {document : Document} {options : Options} {tree : Tree}

/-- What is reported on the overrides of a document with a tree is reported on the document. -/
theorem overrides_ofDocument (h : (ofDocument document options).value = some tree) :
    RetainsOverrides (options.context document) (overrideItems document.data) tree.overrides
      (ofDocument document options).log := by
  obtain ⟨members, data, rfl⟩ := ofDocument_eq_some h
  have retains := readOverrides_retains (options.context document) members
  rw [data]
  refine retains.mono fun d hd => ?_
  have read : d ∈ (readRoot (options.context document) members).log := by
    simp only [readRoot, Reading.log_bind, List.mem_append]
    exact .inr (.inr (.inr (.inr (.inl hd))))
  unfold ofDocument at h ⊢
  simp only [data] at h ⊢
  split at h
  · cases h
  · simp only [Reading.log_bind]
    exact List.mem_append_left _ read

open scoped Classical in
/-- The overrides of a document are the items of its `$overrides` that name a token and have
conditions, in order. What each offers has, at every level, the entries that offer something, in
order. All other items and entries are reported at their places. -/
theorem overrides_retained (h : (ofDocument document options).value = some tree) :
    List.Forall₂ (KeepsOverride (options.context document))
        ((overrideItems document.data).filter fun item => IsOverride item) tree.overrides ∧
      (∀ item ∈ overrideItems document.data, ¬IsOverride item →
        item.Rejected (ofDocument document options).log) ∧
      (∀ item ∈ overrideItems document.data, ∀ e, item.HasEntry e → ¬e.Offers →
        e.Dropped (ofDocument document options).log) ∧
      ∀ o ∈ tree.overrides, ∀ e ∈ o.offer.fallback, e.Every OffersSomething := by
  obtain ⟨kept, rejected, dropped⟩ := overrides_ofDocument h
  refine ⟨kept, rejected, dropped, fun o ho => ?_⟩
  obtain ⟨item, _, keeps⟩ := (matched_of_forall₂ kept).right o ho
  exact keeps.offer.every_fallback _ _

end Documents

/-! ### A document with items that are kept and items that are not -/

namespace Patchy

/-- A text, an object without a token, and an override. Of the four entries in the list of the
override, the second has nothing that is kept, and the last is no object. -/
def document : Document :=
  Sample.document "patchy.json"
    [("$overrides", .array
      [.string "#/brand",
       .object [("$when", .object [("theme", .string "dark")]), ("$fallback", .array [.int 3])],
       .object
        [("$token", .string "#/brand"), ("$when", .object [("theme", .string "dark")]),
         ("$fallback", .array
          [.object [("$ref", .int 3), ("$value", .null)],
           .object [("$fallback", .array [.object []])],
           .object [("$fallback", .object [("$ref", .string "#/accent")])],
           .string "#/accent"])]])]

def tree : Tree :=
  Sample.treeOf document

def list : Pointer :=
  Sample.place "$overrides"

def fallback (i : Nat) : Pointer :=
  (list.index i).child "$fallback"

end Patchy

open scoped Classical in
set_option maxRecDepth 10000 in
/-- One override is kept, with two entries, and everything else is reported. -/
theorem patchy_retained :
    (ofDocument Patchy.document {}).value = some Patchy.tree ∧
      Patchy.tree.overrides.map Override.pointer = [Patchy.list.index 2] ∧
      (Patchy.tree.overrides.flatMap fun o => o.offer.fallback.map Offer.pointer) =
        [(Patchy.fallback 2).index 0, (Patchy.fallback 2).index 2] ∧
      (ofDocument Patchy.document {}).log.map (fun d => (d.code, d.pointer)) =
        [(.invalidOverride, some (Patchy.list.index 0)),
         (.overrideMissingToken, some ((Patchy.list.index 1).child "$token")),
         (.invalidFallback, some ((Patchy.fallback 1).index 0)),
         (.overrideMissingPayload, some (Patchy.list.index 1)),
         (.invalidRef, some (((Patchy.fallback 2).index 0).child "$ref")),
         (.fallbackMissingPayload,
           some ((((Patchy.fallback 2).index 1).child "$fallback").index 0)),
         (.fallbackMissingPayload, some ((Patchy.fallback 2).index 1)),
         (.invalidFallback, some ((Patchy.fallback 2).index 3))] ∧
      List.Forall₂ (KeepsOverride (Options.context {} Patchy.document))
        ((overrideItems Patchy.document.data).filter fun item => IsOverride item)
        Patchy.tree.overrides ∧
      (∀ item ∈ overrideItems Patchy.document.data, ¬IsOverride item →
        item.Rejected (ofDocument Patchy.document {}).log) ∧
      (∀ item ∈ overrideItems Patchy.document.data, ∀ e, item.HasEntry e → ¬e.Offers →
        e.Dropped (ofDocument Patchy.document {}).log) ∧
      ∀ o ∈ Patchy.tree.overrides, ∀ e ∈ o.offer.fallback, e.Every OffersSomething := by
  have read : (ofDocument Patchy.document {}).value = some Patchy.tree := rfl
  exact ⟨read, by decide +kernel, by decide +kernel, by decide +kernel, overrides_retained read⟩

end DesignTokens.Tree
