import DesignTokens.Proofs.Lists
import DesignTokens.Proofs.Tree.Children
import DesignTokens.Proofs.Tree.Fields

/-!
# DesignTokens.Proofs.Tree.Metadata — what metadata says together

The members of metadata are read one by one, and some of them depend on each other. What is kept
fits together, and what is left out is reported at its place.

1. **Reports** (`Log.ReportsAt`): a place that a log has a diagnostic for.
2. **Sound metadata** (`Metadata.Sound`): a time of use goes with a positive count and is not before
   the last change, tags and texts are not empty, extensions have namespaces.
3. **Accounts** (`Metadata.Accounted`): a member of an object is in the metadata, or is reported.
4. **Texts, extensions and tags**, each read from its own member.
5. **Use** (`Usage.Settled`): what is left when the times and the count have been compared.
6. **Documents** (`metadata_sound_and_accounted`): metadata of the root and of every node.
-/

namespace DesignTokens

open DesignTokens.Tree

/-! ## Reports -/

/-- A log has a diagnostic for a place. -/
def Log.ReportsAt (log : Log) (place : Pointer) : Prop :=
  ∃ d ∈ log, d.pointer = some place

section Reports

variable {log log' : Log} {place : Pointer}

theorem Log.ReportsAt.mono (h : log.ReportsAt place) (sub : log ⊆ log') : log'.ReportsAt place := by
  obtain ⟨d, hd, here⟩ := h
  exact ⟨d, sub hd, here⟩

theorem Log.ReportsAt.left (h : log.ReportsAt place) : Log.ReportsAt (log ++ log') place :=
  h.mono (List.subset_append_left _ _)

theorem Log.ReportsAt.right (h : log'.ReportsAt place) : Log.ReportsAt (log ++ log') place :=
  h.mono (List.subset_append_right _ _)

theorem Tree.Context.reportsAt_report (ctx : Context) (fault : Fault) (place : Pointer) :
    (ctx.report fault place).log.ReportsAt place :=
  ⟨_, List.mem_singleton_self _, rfl⟩

end Reports

namespace Tree

/-! ## Sound metadata -/

/-- The tags that an object has: the texts in its `$tags` other than the empty one, each where it
occurs first. -/
def tagTexts (members : Json.Members) : List String :=
  match members.get? "$tags" with
  | some (.array items) => ((items.filterMap Json.text?).filter (· ≠ "")).eraseDups
  | _ => []

/-- No tag is listed twice. -/
theorem nodup_tagTexts (members : Json.Members) : (tagTexts members).Nodup := by
  unfold tagTexts
  split
  · exact nodup_eraseDups _
  · exact List.nodup_nil

/-- No tag is empty. -/
theorem ne_empty_of_mem_tagTexts {members : Json.Members} {text : String}
    (h : text ∈ tagTexts members) : text ≠ "" := by
  unfold tagTexts at h
  split at h
  · simpa using (List.mem_filter.1 (List.mem_eraseDups.1 h)).2
  · cases h

/-- The metadata of an object with the given members fits together. -/
structure Metadata.Sound (members : Json.Members) (m : Metadata) : Prop where
  used_iff_counted : m.lastUsed.isSome ↔ ∃ count, m.usageCount = some count ∧ 0 < count.value
  not_early : ∀ modified used, m.lastModified = some modified → m.lastUsed = some used →
    ∃ changed atUse, Timestamp.parse? modified.value = some changed ∧
      Timestamp.parse? used.value = some atUse ∧ atUse.isBefore changed = false
  tags_eq : m.tags.map (·.value) = tagTexts members
  tags_nonempty : ∀ t ∈ m.tags, t.value ≠ ""
  tags_nodup : (m.tags.map (·.value)).Nodup
  namespaces : ∀ e ∈ m.extensions, Namespace.isValid e.1 = true
  texts : ∀ t ∈ m.description.toList ++ m.author.toList ++ m.hash.toList,
    Text.allBlank t.value = false

/-! ## Accounts -/

/-- The members of metadata that are not read entry by entry, and whether they are there. -/
def Metadata.singles (m : Metadata) : List (String × Bool) :=
  [("$description", m.description.isSome), ("$deprecated", m.deprecated.isSome),
   ("$lastModified", m.lastModified.isSome), ("$lastUsed", m.lastUsed.isSome),
   ("$usageCount", m.usageCount.isSome), ("$author", m.author.isSome), ("$hash", m.hash.isSome)]

/-- What metadata leaves out of the members of an object is reported: a member as a whole, or an
entry of `$extensions` or `$tags`. -/
structure Metadata.Accounted (members : Json.Members) (pointer : Pointer) (log : Log)
    (m : Metadata) : Prop where
  singles : ∀ key kept, (key, kept) ∈ m.singles → members.has key = true → kept = false →
    log.ReportsAt (pointer.child key)
  extensions : ∀ value, members.get? "$extensions" = some value →
    value.isObject = false ∧ log.ReportsAt (pointer.child "$extensions") ∨
      ∃ entries, value = .object entries ∧ ∀ e ∈ entries, e.1 ∈ m.extensions.map (·.1) ∨
        log.ReportsAt ((pointer.child "$extensions").child e.1)
  tags : ∀ value, members.get? "$tags" = some value →
    value.isArray = false ∧ log.ReportsAt (pointer.child "$tags") ∨
      ∃ items, value = .array items ∧ ∀ i, i < items.length →
        (pointer.child "$tags").index i ∈ m.tags.map (·.pointer) ∨
          log.ReportsAt ((pointer.child "$tags").index i)

theorem Metadata.Accounted.mono {members : Json.Members} {pointer : Pointer} {log log' : Log}
    {m : Metadata} (h : m.Accounted members pointer log) (sub : log ⊆ log') :
    m.Accounted members pointer log' where
  singles key kept hkey has dropped := (h.singles key kept hkey has dropped).mono sub
  extensions value hget := by
    rcases h.extensions value hget with ⟨other, reported⟩ | ⟨entries, object, each⟩
    · exact .inl ⟨other, reported.mono sub⟩
    · exact .inr ⟨entries, object, fun e he => (each e he).imp_right fun r => r.mono sub⟩
  tags value hget := by
    rcases h.tags value hget with ⟨other, reported⟩ | ⟨items, array, each⟩
    · exact .inl ⟨other, reported.mono sub⟩
    · exact .inr ⟨items, array, fun i hi => (each i hi).imp_right fun r => r.mono sub⟩

/-! ## Texts -/

variable {ctx : Context} {members : Json.Members} {pointer : Pointer} {key : String}

/-- A text that is kept is not blank. -/
theorem not_allBlank_of_readText {f : Field String}
    (h : f ∈ (readText ctx members pointer key).value) : Text.allBlank f.value = false := by
  unfold readText at h
  split at h
  · cases h
  · split at h
    · cases h
    · -- A text that is not blank is kept as it is.
      next text _ filled =>
      cases h
      change Text.allBlank text = false
      simpa using filled
  · cases h

/-- A text that is left out is reported. -/
theorem reported_readText (has : members.has key = true)
    (dropped : (readText ctx members pointer key).value.isSome = false) :
    (readText ctx members pointer key).log.ReportsAt (pointer.child key) := by
  unfold readText at dropped ⊢
  split at dropped
  · -- The member is missing after all.
    next missing => simp [Json.Members.has, missing] at has
  · split at dropped
    · -- The text is blank.
      next blank =>
      rw [if_pos blank]
      exact (ctx.reportsAt_report _ _).left
    · cases dropped
  · -- The member is no text.
    exact (ctx.reportsAt_report _ _).left

/-- A deprecation that is left out is reported. -/
theorem reported_readDeprecated (has : members.has "$deprecated" = true)
    (dropped : (readDeprecated ctx members pointer).value.isSome = false) :
    (readDeprecated ctx members pointer).log.ReportsAt (pointer.child "$deprecated") := by
  unfold readDeprecated at dropped ⊢
  dsimp only at dropped ⊢
  split at dropped
  · next missing => simp [Json.Members.has, missing] at has
  · cases dropped
  · cases dropped
  · exact (ctx.reportsAt_report _ _).left

/-! ## Extensions -/

/-- Every extension that is kept has a valid name. -/
theorem isValid_of_readExtensionEntries {entries : List (String × Json)} :
    ∀ e ∈ (readExtensionEntries ctx pointer entries).value, Namespace.isValid e.1 = true := by
  induction entries with
  | nil => simp [readExtensionEntries]
  | cons entry rest ih =>
    obtain ⟨name, payload⟩ := entry
    intro e he
    simp only [readExtensionEntries] at he
    split at he
    · next valid =>
      simp only [Reading.value_bind, Reading.value_pure, List.mem_cons] at he
      rcases he with rfl | he
      · exact valid
      · exact ih e he
    · exact ih e he

theorem isValid_of_readExtensions :
    ∀ e ∈ (readExtensions ctx members pointer).value, Namespace.isValid e.1 = true := by
  unfold readExtensions
  split
  · simp
  · exact isValid_of_readExtensionEntries
  · simp

/-- An entry of `$extensions` is read, or is reported for its key. -/
theorem accounted_readExtensionEntries {entries : List (String × Json)} :
    ∀ e ∈ entries, e.1 ∈ (readExtensionEntries ctx pointer entries).value.map (·.1) ∨
      (readExtensionEntries ctx pointer entries).log.ReportsAt (pointer.child e.1) := by
  induction entries with
  | nil => simp
  | cons entry rest ih =>
    obtain ⟨name, payload⟩ := entry
    intro e he
    simp only [readExtensionEntries]
    split
    · -- A valid name is kept.
      simp only [Reading.value_bind, Reading.value_pure, Reading.log_bind, List.map_cons,
        List.mem_cons]
      rcases List.mem_cons.1 he with rfl | he
      · exact .inl (.inl rfl)
      · rcases ih e he with kept | reported
        · exact .inl (.inr kept)
        · exact .inr reported.left.right
    · rcases List.mem_cons.1 he with rfl | he
      · -- Another one is reported.
        exact .inr (ctx.reportsAt_report _ _).left
      · exact (ih e he).imp_right Log.ReportsAt.right

variable (ctx pointer) in
/-- Each extension is kept or reported, or the member is no object. -/
theorem accounted_readExtensions {value : Json} (hget : members.get? "$extensions" = some value) :
    value.isObject = false ∧
        (readExtensions ctx members pointer).log.ReportsAt (pointer.child "$extensions") ∨
      ∃ entries, value = .object entries ∧ ∀ e ∈ entries,
        e.1 ∈ (readExtensions ctx members pointer).value.map (·.1) ∨
          (readExtensions ctx members pointer).log.ReportsAt
            ((pointer.child "$extensions").child e.1) := by
  simp only [readExtensions, hget]
  cases value with
  | object entries => exact .inr ⟨entries, rfl, accounted_readExtensionEntries⟩
  | _ => exact .inl ⟨rfl, (ctx.reportsAt_report _ _).left⟩

/-! ## Tags -/

/-- The tags that are read are the texts that were not seen before, each where it occurs first. -/
theorem tags_readTagItems (seen : List String) (i : Nat) (items : List Json) :
    (readTagItems ctx pointer seen i items).value.map (·.value) =
      (((items.filterMap Json.text?).filter (· ≠ "")).filter (!seen.contains ·)).eraseDups := by
  induction items generalizing seen i with
  | nil => simp [readTagItems]
  | cons item rest ih =>
    unfold readTagItems
    dsimp only
    split
    · -- A text may be empty, known or new.
      next tag =>
      split
      · next empty =>
        have blank : tag = "" := by simpa using empty
        simp [ih, Json.text?, blank]
      · next some_text =>
        have filled : tag ≠ "" := by simpa using some_text
        split
        · next known =>
          have old : tag ∈ seen := by simpa using known
          simp [ih, Json.text?, filled, old]
        · next unknown =>
          have new : tag ∉ seen := by simpa using unknown
          simp only [Reading.value_bind, Reading.value_pure, List.map_cons, ih]
          -- What comes later is not seen before and is another tag.
          have other : ∀ text : String, (!text == tag) = !decide (text = tag) := fun _ => rfl
          simp [Json.text?, filled, new, List.eraseDups_cons, List.filter_filter, Context.field,
            other, Bool.and_assoc]
    · next other =>
      have plain : item.text? = none := by
        cases item with
        | string tag => exact absurd rfl (other tag)
        | _ => rfl
      simp [ih, plain]

variable (ctx pointer) in
/-- An item of `$tags` is read, or is reported at its index. -/
theorem accounted_readTagItems (seen : List String) (i : Nat) (items : List Json) :
    ∀ k, k < items.length →
      pointer.index (i + k) ∈ (readTagItems ctx pointer seen i items).value.map (·.pointer) ∨
        (readTagItems ctx pointer seen i items).log.ReportsAt (pointer.index (i + k)) := by
  induction items generalizing seen i with
  | nil => simp
  | cons item rest ih =>
    intro k hk
    have later : ∀ seen, ∀ k, k < rest.length →
        pointer.index (i + (k + 1)) ∈
            (readTagItems ctx pointer seen (i + 1) rest).value.map (·.pointer) ∨
          (readTagItems ctx pointer seen (i + 1) rest).log.ReportsAt
            (pointer.index (i + (k + 1))) := by
      intro seen k hk
      have step : i + (k + 1) = i + 1 + k := by omega
      rw [step]
      exact ih seen (i + 1) k hk
    -- An item that is left out is reported at once, and the rest goes on as it is.
    have left_out : ∀ fault seen,
        let reading := do
          ctx.report fault (pointer.index i)
          readTagItems ctx pointer seen (i + 1) rest
        pointer.index (i + k) ∈ reading.value.map (·.pointer) ∨
          reading.log.ReportsAt (pointer.index (i + k)) := by
      intro fault seen reading
      cases k with
      | zero => exact .inr (ctx.reportsAt_report _ _).left
      | succ k =>
        have rest := later seen k (by simpa using hk)
        exact rest.imp_right Log.ReportsAt.right
    unfold readTagItems
    dsimp only
    split
    · -- A text is left out if it is empty or known.
      split
      · exact left_out _ _
      · split
        · exact left_out _ _
        · simp only [Reading.value_bind, Reading.value_pure, Reading.log_bind, List.map_cons,
            List.mem_cons]
          cases k with
          | zero => exact .inl (.inl rfl)
          | succ k =>
            rcases later _ k (by simpa using hk) with kept | reported
            · exact .inl (.inr kept)
            · exact .inr reported.left
    · exact left_out _ _

/-- The tags that are kept are the texts of the member, each once. -/
theorem tags_readTags :
    (readTags ctx members pointer).value.map (·.value) = tagTexts members := by
  unfold readTags tagTexts
  cases hget : members.get? "$tags" with
  | none => rfl
  | some value =>
    cases value with
    | array items => simp [tags_readTagItems]
    | _ => rfl

variable (ctx pointer) in
/-- Each tag is kept or reported, or the member is no array. -/
theorem accounted_readTags {value : Json} (hget : members.get? "$tags" = some value) :
    value.isArray = false ∧
        (readTags ctx members pointer).log.ReportsAt (pointer.child "$tags") ∨
      ∃ items, value = .array items ∧ ∀ i, i < items.length →
        (pointer.child "$tags").index i ∈
            (readTags ctx members pointer).value.map (·.pointer) ∨
          (readTags ctx members pointer).log.ReportsAt ((pointer.child "$tags").index i) := by
  simp only [readTags, hget]
  cases value with
  | array items =>
    refine .inr ⟨items, rfl, fun i hi => ?_⟩
    have item := accounted_readTagItems ctx (pointer.child "$tags") [] 0 items i hi
    rwa [Nat.zero_add] at item
  | _ => exact .inl ⟨rfl, (ctx.reportsAt_report _ _).left⟩

/-! ## Use -/

/-- A moment that is kept is a moment in time. -/
theorem time_of_readMoment {m : Moment} (h : m ∈ (readMoment ctx members pointer key).value) :
    Timestamp.parse? m.field.value = some m.time := by
  unfold readMoment at h
  split at h
  · cases h
  · split at h
    · next text time read =>
      obtain ⟨text', _, htime⟩ := Option.bind_eq_some_iff.1 read
      obtain ⟨time', parsed, same⟩ := Option.map_eq_some_iff.1 htime
      cases same
      cases h
      exact parsed
    · cases h

/-- A moment that is left out is reported. -/
theorem reported_readMoment (has : members.has key = true)
    (dropped : (readMoment ctx members pointer key).value.isSome = false) :
    (readMoment ctx members pointer key).log.ReportsAt (pointer.child key) := by
  unfold readMoment at dropped ⊢
  split at dropped
  · next missing => simp [Json.Members.has, missing] at has
  · split at dropped
    · cases dropped
    · exact (ctx.reportsAt_report _ _).left

/-- A count that is left out is reported. -/
theorem reported_readUsageCount (has : members.has "$usageCount" = true)
    (dropped : (readUsageCount ctx members pointer).value.isSome = false) :
    (readUsageCount ctx members pointer).log.ReportsAt (pointer.child "$usageCount") := by
  unfold readUsageCount at dropped ⊢
  split at dropped
  · next missing => simp [Json.Members.has, missing] at has
  · split at dropped
    · cases dropped
    · exact (ctx.reportsAt_report _ _).left

theorem value_dropIf {α : Type} (condition : Bool) (fault : Fault) (place : Pointer)
    (value : Option α) :
    (dropIf ctx condition fault place value).value = if condition then none else value := by
  unfold dropIf
  split <;> rfl

/-- A value that is dropped is reported. -/
theorem reported_dropIf {α : Type} {condition : Bool} {fault : Fault} {place : Pointer}
    {value : Option α} (has : value.isSome = true)
    (dropped : (dropIf ctx condition fault place value).value.isSome = false) :
    (dropIf ctx condition fault place value).log.ReportsAt place := by
  unfold dropIf at dropped ⊢
  split at dropped
  · next faulty =>
    rw [if_pos faulty]
    exact (ctx.reportsAt_report _ _).left
  · simp [has] at dropped

/-- Times and a count that fit together. -/
structure Usage.Settled (u : Usage) : Prop where
  not_early : u.isEarly = false
  used_iff_counted : u.used.isSome = u.isCounted

/-- What is kept of times and a count fits together, whatever they are. -/
theorem settled_settle (u : Usage) : (u.settle ctx pointer).value.Settled := by
  simp only [Usage.settle, Reading.value_bind, Reading.value_pure, value_dropIf]
  cases early : u.isEarly <;> cases counted : u.isCounted <;> cases used : u.used <;>
    constructor <;> simp_all [Usage.isEarly, Usage.isCounted]

/-- A time of use that is dropped is reported. -/
theorem reported_used {u : Usage} (has : u.used.isSome = true)
    (dropped : (u.settle ctx pointer).value.used.isSome = false) :
    (u.settle ctx pointer).log.ReportsAt (pointer.child "$lastUsed") := by
  simp only [Usage.settle, Reading.value_bind, Reading.value_pure, Reading.log_bind,
    Reading.log_pure] at dropped ⊢
  cases first : (dropIf ctx u.isEarly .usedBeforeModified (pointer.child "$lastUsed") u.used).value
      with
  | none => exact (reported_dropIf has (by simp [first])).left
  | some used =>
    rw [first] at dropped
    exact (reported_dropIf rfl dropped).left.right

/-- A count that is dropped is reported. -/
theorem reported_count {u : Usage} (has : u.count.isSome = true)
    (dropped : (u.settle ctx pointer).value.count.isSome = false) :
    (u.settle ctx pointer).log.ReportsAt (pointer.child "$usageCount") := by
  simp only [Usage.settle, Reading.value_bind, Reading.value_pure, Reading.log_bind,
    Reading.log_pure] at dropped ⊢
  exact (reported_dropIf has dropped).left.right.right

/-- What is left of the usage is settled. -/
theorem settled_readUsage : (readUsage ctx members pointer).value.Settled :=
  settled_settle _

/-- A moment of change that is left out is reported. -/
theorem reported_readUsage_modified (has : members.has "$lastModified" = true)
    (dropped : (readUsage ctx members pointer).value.modified.isSome = false) :
    (readUsage ctx members pointer).log.ReportsAt (pointer.child "$lastModified") :=
  (reported_readMoment has dropped).left

theorem reported_readUsage_used (has : members.has "$lastUsed" = true)
    (dropped : (readUsage ctx members pointer).value.used.isSome = false) :
    (readUsage ctx members pointer).log.ReportsAt (pointer.child "$lastUsed") := by
  simp only [readUsage, Reading.value_bind, Reading.log_bind] at dropped ⊢
  cases read : (readMoment ctx members pointer "$lastUsed").value with
  | none => exact (reported_readMoment has (by simp [read])).left.right
  | some used =>
    rw [read] at dropped
    exact (reported_used rfl dropped).right.right.right

theorem reported_readUsage_count (has : members.has "$usageCount" = true)
    (dropped : (readUsage ctx members pointer).value.count.isSome = false) :
    (readUsage ctx members pointer).log.ReportsAt (pointer.child "$usageCount") := by
  simp only [readUsage, Reading.value_bind, Reading.log_bind] at dropped ⊢
  cases read : (readUsageCount ctx members pointer).value with
  | none => exact (reported_readUsageCount has (by simp [read])).left.right.right
  | some count =>
    rw [read] at dropped
    exact (reported_count rfl dropped).right.right.right

/-! ## All of it -/

variable (ctx members pointer)

/-- The metadata that is read from an object fits together. -/
theorem sound_readMetadata : (readMetadata ctx members pointer).value.Sound members := by
  obtain ⟨modified_read, used_read, _⟩ := mem_of_mem_readUsage ctx members pointer
  have settled : (readUsage ctx members pointer).value.Settled := settled_readUsage
  have tags_eq : (readTags ctx members pointer).value.map (·.value) = tagTexts members :=
    tags_readTags
  constructor
  · -- The moment of use is kept if and only if the count is positive.
    change ((readUsage ctx members pointer).value.used.map (·.field)).isSome = true ↔
      ∃ count, (readUsage ctx members pointer).value.count = some count ∧ 0 < count.value
    rw [Option.isSome_map, settled.used_iff_counted]
    unfold Usage.isCounted
    split
    · next count hcount => simp [hcount]
    · next hcount => simp [hcount]
  · -- The moment of use is not before the moment of change.
    intro modified used hmodified hused
    obtain ⟨m, hm, rfl⟩ := Option.map_eq_some_iff.1 hmodified
    obtain ⟨m', hm', rfl⟩ := Option.map_eq_some_iff.1 hused
    refine ⟨m.time, m'.time, time_of_readMoment (modified_read m hm),
      time_of_readMoment (used_read m' hm'), ?_⟩
    have ordered := settled.not_early
    simpa only [Usage.isEarly, hm, hm'] using ordered
  · -- The tags are texts, none of them empty and none listed twice.
    exact tags_eq
  · intro t ht
    exact ne_empty_of_mem_tagTexts (tags_eq ▸ List.mem_map_of_mem ht)
  · exact tags_eq ▸ nodup_tagTexts members
  · -- Extensions have valid names.
    exact isValid_of_readExtensions
  · -- The texts are not blank.
    intro t ht
    simp only [List.mem_append, Option.mem_toList] at ht
    rcases ht with (ht | ht) | ht
    · exact not_allBlank_of_readText ht
    · exact not_allBlank_of_readText ht
    · exact not_allBlank_of_readText ht

/-- What the metadata that is read from an object leaves out is reported. -/
theorem accounted_readMetadata :
    (readMetadata ctx members pointer).value.Accounted members pointer
      (readMetadata ctx members pointer).log := by
  simp only [readMetadata, Reading.log_bind, Reading.log_pure, List.append_nil]
  constructor
  · intro key kept hkey has dropped
    subst dropped
    simp only [Metadata.singles, List.mem_cons, Prod.mk.injEq, List.not_mem_nil, or_false] at hkey
    rcases hkey with ⟨rfl, none⟩ | ⟨rfl, none⟩ | ⟨rfl, none⟩ | ⟨rfl, none⟩ | ⟨rfl, none⟩ |
      ⟨rfl, none⟩ | ⟨rfl, none⟩
    · -- Description, deprecation, the moments and the count, author and hash.
      exact (reported_readText has none.symm).left
    · exact (reported_readDeprecated has none.symm).left.right.right
    · have dropped := (Option.isSome_map (f := Moment.field)).symm.trans none.symm
      exact (reported_readUsage_modified has dropped).right.right.right.right.right.right
    · have dropped := (Option.isSome_map (f := Moment.field)).symm.trans none.symm
      exact (reported_readUsage_used has dropped).right.right.right.right.right.right
    · exact (reported_readUsage_count has none.symm).right.right.right.right.right.right
    · exact (reported_readText has none.symm).left.right.right.right
    · exact (reported_readText has none.symm).left.right.right.right.right.right
  · -- Extensions: the member is no object, or each entry has its fate.
    intro value hget
    rcases accounted_readExtensions ctx pointer hget with
      ⟨other, reported⟩ | ⟨entries, object, each⟩
    · exact .inl ⟨other, reported.left.right⟩
    · exact .inr ⟨entries, object, fun e he => (each e he).imp_right fun r => r.left.right⟩
  · -- Tags: the member is no array, or each item has its fate.
    intro value hget
    rcases accounted_readTags ctx pointer hget with
      ⟨other, reported⟩ | ⟨items, array, each⟩
    · exact .inl ⟨other, reported.left.right.right.right.right⟩
    · refine .inr ⟨items, array, fun i hi => ?_⟩
      exact (each i hi).imp_right fun r => r.left.right.right.right.right

/-! ## Documents -/

/-- Metadata was read from the object at a pointer: it fits together, and what it leaves out is
reported. -/
def Metadata.Drawn (data : Json) (log : Log) (pointer : Pointer) (m : Metadata) : Prop :=
  ∃ members, data.at? pointer = some (.object members) ∧ m.Sound members ∧
    m.Accounted members pointer log

variable {ctx members pointer} {data : Json} {log : Log}

/-- The metadata of an object draw on its members and on the log. -/
theorem drawn_readMetadata (hat : data.at? pointer = some (.object members))
    (sub : (readMetadata ctx members pointer).log ⊆ log) :
    (readMetadata ctx members pointer).value.Drawn data log pointer :=
  ⟨members, hat, sound_readMetadata ctx members pointer,
    (accounted_readMetadata ctx members pointer).mono sub⟩

/-- A token or an alias has the metadata of its object. -/
theorem metadata_readToken {name : String} {n : Node}
    (h : (readToken ctx name pointer members).value = some n) :
    n.metadata = (readMetadata ctx members pointer).value := by
  rw [value_readToken] at h
  split at h
  · split at h
    · cases h
      rfl
    · cases h
  · cases h
    rfl

mutual

/-- The metadata of a node and of all below it was read where they stand. -/
theorem readNode_drawn (clear : data.unambiguous = true) (name : String) (pointer : Pointer) :
    ∀ json, data.at? pointer = some json → (readNode ctx name pointer json).log ⊆ log →
      ∀ n, (readNode ctx name pointer json).value = some n →
        ∀ m ∈ n.walk, m.metadata.Drawn data log m.pointer
  | .object members, hat, sub, n, hn => by
    intro m hm
    rw [value_readNode_object] at hn
    rw [readNode] at sub
    cases token : isTokenLike members with
    | true =>
      -- A token or an alias.
      simp only [token, if_true] at hn sub
      obtain ⟨-, rfl, walk⟩ := readToken_info hn
      rw [walk, List.mem_singleton] at hm
      subst hm
      rw [metadata_readToken hn]
      refine drawn_readMetadata hat fun d hd => sub ?_
      simp only [readToken, Reading.log_bind, List.mem_append]
      exact .inr (.inr (.inr (.inr (.inl hd))))
    | false =>
      -- A collection, and then all below it.
      simp only [token, Bool.false_eq_true, if_false, Option.some.injEq] at hn sub
      subst hn
      simp only [readCollection, Reading.log_bind] at sub
      rcases List.mem_cons.1 (by simpa only [Node.walk] using hm) with rfl | hm
      · refine drawn_readMetadata hat fun d hd => sub ?_
        simp only [List.mem_append]
        exact .inr (.inl (.inl hd))
      · refine readChildren_drawn clear pointer members hat members (fun _ h => h) ?_ m hm
        intro d hd
        refine sub ?_
        simp only [List.mem_append]
        exact .inr (.inl (.inr (.inr (.inl hd))))
  | .null, _, _, _, hn | .bool _, _, _, _, hn | .int _, _, _, _, hn | .double _, _, _, _, hn
  | .string _, _, _, _, hn | .array _, _, _, _, hn => by simp [readNode] at hn

/-- The metadata of all nodes below an object was read where they stand. -/
theorem readChildren_drawn (clear : data.unambiguous = true) (pointer : Pointer)
    (all : Json.Members) (hat : data.at? pointer = some (.object all)) :
    ∀ members : List (String × Json), members ⊆ all →
      (readChildren ctx pointer members).log ⊆ log →
        ∀ m ∈ Node.walkList (readChildren ctx pointer members).value,
          m.metadata.Drawn data log m.pointer
  | [], _, _ => by simp [readChildren, Node.walkList]
  | (name, value) :: rest, sub, logged => by
    intro m hm
    have later := readChildren_drawn clear pointer all hat rest
      fun x hx => sub (List.mem_cons_of_mem _ hx)
    unfold readChildren at hm logged
    split at hm
    · next reserved =>
      rw [if_pos reserved] at logged
      exact later logged m hm
    · next named =>
      rw [if_neg named] at logged
      simp only [Reading.value_bind, Reading.value_pure] at hm
      simp only [Reading.log_bind] at logged
      rw [walkList_eq_flatMap, List.flatMap_append, List.mem_append] at hm
      rcases hm with hm | hm
      · -- The node of this member.
        have place := Json.at?_of_mem clear hat (sub List.mem_cons_self)
        obtain ⟨n, hn, hm⟩ := List.mem_flatMap.1 hm
        refine readNode_drawn clear name (pointer.child name) value place (fun d hd => ?_) n
          (Option.mem_toList.1 hn) m hm
        exact logged (List.mem_append_left _ hd)
      · -- The nodes of the members after it.
        rw [← walkList_eq_flatMap] at hm
        refine later (fun d hd => ?_) m hm
        exact logged (List.mem_append_right _ (List.mem_append_left _ hd))

end

/-- In the tree of a document without repeated names, the metadata of the root and of every node at
any depth fits together, and each member or entry that it leaves out is reported. -/
theorem metadata_sound_and_accounted {document : Document} {options : Options} {tree : Tree}
    (clear : document.data.unambiguous = true)
    (h : (ofDocument document options).value = some tree) :
    let log := (ofDocument document options).log
    tree.metadata.Drawn document.data log tree.pointer ∧
      ∀ n ∈ tree.walk, n.metadata.Drawn document.data log n.pointer := by
  intro log
  obtain ⟨members, hdata, rfl⟩ := ofDocument_eq_some h
  have hat : document.data.at? Pointer.root = some (.object members) := by
    rw [Json.at?_root, ← hdata]
  have read : (readRoot (options.context document) members).log ⊆ log := by
    intro d hd
    simp only [log, ofDocument, hdata] at h ⊢
    split at h
    · cases h
    · exact List.mem_append_left _ hd
  simp only [readRoot, Reading.log_bind] at read
  constructor
  · -- The root itself.
    refine drawn_readMetadata hat fun d hd => read ?_
    simp only [List.mem_append]
    exact .inr (.inr (.inl hd))
  · -- All below it.
    refine readChildren_drawn clear Pointer.root members hat members (fun _ h => h) ?_
    refine fun d hd => read ?_
    simp only [List.mem_append]
    exact .inr (.inr (.inr (.inr (.inr (.inl hd)))))

/-! ### A document with metadata that does not fit together -/

namespace Worn

/-- A collection that was used before it was last changed, and a token whose times are one instant.
The root has a tag twice, and the token has an extension without a namespace. -/
def document : Document :=
  Sample.document "worn.json"
    [("$tags", .array [.string "warm", .string "", .string "loud", .string "warm"]),
     ("$description", .string " "),
     ("brand", .object
      [("$lastModified", .string "2024-03-01T00:00:00Z"),
       ("$lastUsed", .string "2024-02-01T00:00:00Z"),
       ("$usageCount", .int 1),
       ("red", .object
        [("$type", .string "color"), ("$value", .string "#ff0000"),
         ("$lastModified", .string "2024-01-01T01:00:00+01:00"),
         ("$lastUsed", .string "2024-01-01T00:00:00Z"),
         ("$usageCount", .int 2),
         ("$extensions", .object [("com.example.tool", .null), ("tool", .null)])])])]

def tree : Tree :=
  Sample.treeOf document

def reports : Log :=
  (ofDocument document {}).log

end Worn

set_option maxRecDepth 10000 in
/-- The use of the collection is dropped together with its count, that of the token is kept. -/
theorem worn_drawn :
    Worn.document.data.unambiguous = true ∧
      (ofDocument Worn.document {}).value = some Worn.tree ∧
      Worn.tree.metadata.tags.map (·.value) = ["warm", "loud"] ∧
      Worn.tree.walk.map (fun n => (n.metadata.lastUsed.isSome, n.metadata.usageCount.isSome)) =
        [(false, false), (true, true)] ∧
      (Worn.reports.filterMap (·.pointer)).map Pointer.text =
        ["#/$description", "#/$tags/1", "#/$tags/3", "#/brand/$lastUsed", "#/brand/$usageCount",
         "#/brand/red/$extensions/tool"] ∧
      Worn.tree.metadata.Drawn Worn.document.data Worn.reports Worn.tree.pointer ∧
      ∀ n ∈ Worn.tree.walk, n.metadata.Drawn Worn.document.data Worn.reports n.pointer := by
  have clear : Worn.document.data.unambiguous = true := by decide
  have read : (ofDocument Worn.document {}).value = some Worn.tree :=
    Sample.ofDocument_treeOf (by decide +kernel)
  obtain ⟨root, nodes⟩ := metadata_sound_and_accounted clear read
  exact ⟨clear, read, by decide +kernel, by decide +kernel, by decide +kernel, root, nodes⟩

end Tree

end DesignTokens
