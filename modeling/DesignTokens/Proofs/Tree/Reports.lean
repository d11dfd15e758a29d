import DesignTokens.Proofs.Tree.Places

/-!
# DesignTokens.Proofs.Tree.Reports — what is reported while a tree is read

1. **Readings** whose reports all have a property (`Reading.Within`), such as to be what a context
   can say (`Context.Says`).
2. **Plain readings** (`Reading.Plain`) have nothing to do with extensions: they report faults, and
   ask no collector. **Sources** (`Reading.Sourced`) of all readings: each report is on a fault, or
   comes from the collector of the host, which was asked in the course of the reading.
3. **Metadata**, **overrides** and **nodes**, reading by reading.
4. **Documents** (`Tree.says_ofDocument`): one that is nested too deep is reported as such, and
   nothing else is.
-/

namespace DesignTokens.Tree

/-! ## Readings -/

variable {α β : Type}

/-- All that is reported in the course of a reading has a property. -/
def Reading.Within (P : Diagnostic → Prop) (x : Reading α) : Prop :=
  ∀ d ∈ x.log, P d

/-- What may be reported in a context: a fault other than that the document is nested too deep, or
what the collector of the host says. -/
def Context.Says (ctx : Context) (d : Diagnostic) : Prop :=
  (∃ fault : Fault, d.code = fault.code ∧ ∀ limit deep, fault ≠ .nestingTooDeep limit deep) ∨
    ∃ collector input outcome, ctx.collector = some collector ∧
      collector input = .ok (some outcome) ∧ d ∈ outcome.diagnostics

/-! ## Sources -/

/-- A collector was asked, and has a diagnostic among its answer. -/
def Consultation.Supplies (collector : Collector) (c : Consultation) (d : Diagnostic) : Prop :=
  c.answer = collector c.input ∧ ∃ outcome, c.answer = .ok (some outcome) ∧ d ∈ outcome.diagnostics

namespace Reading

variable {ctx : Context}

/-- All that is reported in the course of a reading is on a fault other than that the document is
nested too deep, or is supplied by the collector when it is asked in the course of the reading. -/
def Sourced (ctx : Context) (x : Reading α) : Prop :=
  ∀ d ∈ x.log,
    (∃ fault : Fault, d.code = fault.code ∧ ∀ limit deep, fault ≠ .nestingTooDeep limit deep) ∨
      ∃ collector, ctx.collector = some collector ∧ ∃ c ∈ x.consultations, c.Supplies collector d

@[simp] theorem sourced_pure (a : α) : (pure a : Reading α).Sourced ctx :=
  fun _ hd => absurd hd List.not_mem_nil

/-- What is asked on the way is asked in the course of the whole. -/
@[simp] theorem Sourced.bind {x : Reading α} {f : α → Reading β} (hx : x.Sourced ctx)
    (hf : (f x.value).Sourced ctx) : (x >>= f).Sourced ctx := by
  intro d hd
  rcases List.mem_append.1 hd with hd | hd
  · exact (hx d hd).imp_right fun ⟨collector, has, c, hc, supplies⟩ =>
      ⟨collector, has, c, List.mem_append_left _ hc, supplies⟩
  · exact (hf d hd).imp_right fun ⟨collector, has, c, hc, supplies⟩ =>
      ⟨collector, has, c, List.mem_append_right _ hc, supplies⟩

/-- What has a source is within what the context may say. -/
theorem Sourced.within {x : Reading α} (h : x.Sourced ctx) : x.Within ctx.Says := by
  intro d hd
  rcases h d hd with fault | ⟨collector, has, c, _, answer, outcome, known, mem⟩
  · exact .inl fault
  · exact .inr ⟨collector, c.input, outcome, has, answer ▸ known, mem⟩

end Reading

/-! ## Plain readings -/

/-- A fault in the document itself: not that it is nested too deep, and not in an entry of
`$extensions`. -/
structure Fault.IsPlain (fault : Fault) : Prop where
  shallow : ∀ limit deep, fault ≠ .nestingTooDeep limit deep
  handled : ∀ key failure, fault ≠ .extensionFailed key failure
  named : ∀ key, fault ≠ .extensionNamespace key

@[simp] theorem Fault.isPlain_iff {fault : Fault} : fault.IsPlain ↔
    (∀ limit deep, fault ≠ .nestingTooDeep limit deep) ∧
      (∀ key failure, fault ≠ .extensionFailed key failure) ∧
      ∀ key, fault ≠ .extensionNamespace key :=
  ⟨fun h => ⟨h.shallow, h.handled, h.named⟩, fun h => ⟨h.1, h.2.1, h.2.2⟩⟩

/-- A reading that has nothing to do with extensions: it only reports plain faults. -/
structure Reading.Plain (x : Reading α) : Prop where
  consultations : x.consultations = []
  log : ∀ d ∈ x.log, ∃ fault : Fault, fault.IsPlain ∧ d.code = fault.code

namespace Reading

@[simp] theorem plain_pure (a : α) : (pure a : Reading α).Plain :=
  ⟨rfl, fun _ hd => absurd hd List.not_mem_nil⟩

/-- Plain readings one after the other. -/
@[simp] theorem Plain.bind {x : Reading α} {f : α → Reading β} (hx : x.Plain)
    (hf : (f x.value).Plain) : (x >>= f).Plain where
  consultations := by
    change x.consultations ++ (f x.value).consultations = []
    rw [hx.consultations, hf.consultations, List.append_nil]
  log d hd := by
    rcases List.mem_append.1 hd with hd | hd
    · exact hx.log d hd
    · exact hf.log d hd

/-- A plain reading reports faults of the reader only. -/
@[simp] theorem Plain.sourced {ctx : Context} {x : Reading α} (h : x.Plain) : x.Sourced ctx := by
  intro d hd
  obtain ⟨fault, plain, code⟩ := h.log d hd
  exact .inl ⟨fault, code, plain.shallow⟩

end Reading

section Readings

variable {ctx : Context} {members : Json.Members} {pointer : Pointer}

@[simp] theorem plain_report {fault : Fault} (plain : fault.IsPlain) (place : Pointer) :
    (ctx.report fault place).Plain where
  consultations := rfl
  log d hd := by
    rw [List.mem_singleton.1 hd]
    exact ⟨fault, plain, rfl⟩

@[simp] theorem plain_reportIf {fault : Fault} (condition : Bool) (plain : fault.IsPlain)
    (place : Pointer) : (ctx.reportIf condition fault place).Plain := by
  unfold Context.reportIf
  split
  · exact plain_report plain place
  · exact Reading.plain_pure ()

@[simp] theorem plain_reportUnknown (known : List String) :
    (reportUnknown ctx members pointer known).Plain := by
  unfold reportUnknown
  induction members.names with
  | nil => exact Reading.plain_pure _
  | cons key rest ih => exact .bind (plain_reportIf _ (by simp) _) ih

/-! ## Metadata -/

@[simp] theorem plain_readText (key : String) : (readText ctx members pointer key).Plain := by
  unfold readText
  split
  · simp
  · split <;> simp
  · simp

/-- A collector reports what it supplies, and its failure is a fault. -/
@[simp] theorem sourced_consultCollector (key : String) (payload : Json) (entry : Pointer) :
    (consultCollector ctx key payload entry).Sourced ctx := by
  unfold consultCollector
  split
  · simp
  · next collector has =>
    intro d hd
    simp only [Reading.log_bind, Reading.consult, List.nil_append] at hd
    split at hd
    · -- The collector gave an outcome with reports of its own.
      next outcome answer =>
      exact .inr ⟨collector, has, _, List.mem_cons_self, rfl, outcome, answer, hd⟩
    · -- It had nothing to say.
      exact absurd hd List.not_mem_nil
    · -- It failed.
      next failure _ =>
      obtain rfl := List.mem_singleton.1 hd
      exact .inl ⟨.extensionFailed key failure, rfl, by simp⟩

/-- Names that are not valid are reported, and the others are for the collector. -/
@[simp] theorem sourced_readExtensionEntries (entries : List (String × Json)) :
    (readExtensionEntries ctx pointer entries).Sourced ctx := by
  induction entries with
  | nil => simp [readExtensionEntries]
  | cons entry rest ih =>
    unfold readExtensionEntries
    dsimp only
    split
    · simp [ih]
    · refine .bind (fun d hd => ?_) ih
      obtain rfl := List.mem_singleton.1 hd
      exact .inl ⟨.extensionNamespace entry.1, rfl, by simp⟩

@[simp] theorem sourced_readExtensions : (readExtensions ctx members pointer).Sourced ctx := by
  unfold readExtensions
  split
  · simp
  · simp
  · exact Reading.Plain.sourced (by simp)

@[simp] theorem plain_readReplacement : (readReplacement ctx members pointer).Plain := by
  unfold readReplacement
  split <;> simp

@[simp] theorem plain_readDeprecated : (readDeprecated ctx members pointer).Plain := by
  unfold readDeprecated
  dsimp only
  split <;> simp

@[simp] theorem plain_readTagItems (seen : List String) (i : Nat) (items : List Json) :
    (readTagItems ctx pointer seen i items).Plain := by
  induction items generalizing seen i with
  | nil => simp [readTagItems]
  | cons item rest ih =>
    unfold readTagItems
    dsimp only
    split
    · split
      · simp [ih]
      · split <;> simp [ih]
    · simp [ih]

@[simp] theorem plain_readTags : (readTags ctx members pointer).Plain := by
  unfold readTags
  split <;> simp

@[simp] theorem plain_readMoment (key : String) :
    (readMoment ctx members pointer key).Plain := by
  unfold readMoment
  split
  · simp
  · split <;> simp

@[simp] theorem plain_readUsageCount : (readUsageCount ctx members pointer).Plain := by
  unfold readUsageCount
  split
  · simp
  · split <;> simp

@[simp] theorem plain_dropIf {α : Type} (condition : Bool) {fault : Fault}
    (plain : fault.IsPlain) (place : Pointer)
    (value : Option α) :
    (dropIf ctx condition fault place value).Plain := by
  unfold dropIf
  split
  · exact .bind (plain_report plain place) (Reading.plain_pure _)
  · exact Reading.plain_pure _

@[simp] theorem plain_readUsage : (readUsage ctx members pointer).Plain := by
  -- Three members are read, and then what does not go together is dropped in three steps.
  iterate 3 refine .bind (by simp) ?_
  iterate 3 refine .bind (by simp) ?_
  simp

@[simp] theorem sourced_readMetadata : (readMetadata ctx members pointer).Sourced ctx := by
  unfold readMetadata
  iterate 7 refine .bind (by simp) ?_
  simp

/-! ## Overrides -/

@[simp] theorem plain_readReference : (readReference ctx members pointer).Plain := by
  unfold readReference
  split <;> simp

theorem plain_readOffer {fallback : Reading (List (Offer (Field String)))}
    (h : fallback.Plain) {conflict missing : Fault}
    (hc : conflict.IsPlain) (hm : missing.IsPlain) :
    (readOffer ctx members pointer fallback conflict missing).Plain := by
  refine .bind (by simp) (.bind h ?_)
  exact .bind (plain_reportIf _ hc _) (.bind (plain_reportIf _ hm _) (by simp))

theorem plain_readEntry {fallback : Reading (List (Offer (Field String)))}
    (h : fallback.Plain) :
    (readEntry ctx members pointer fallback).Plain := by
  exact .bind (by simp) (.bind (plain_readOffer h (by simp) (by simp)) (by simp))

mutual

theorem plain_readFallback (pointer : Pointer) :
    ∀ value, (readFallback ctx pointer value).Plain
  | .array items => by
    rw [readFallback]
    exact plain_readEntries pointer 0 items
  | .object members => by
    simp [readFallback, plain_readEntry (plain_readFallbackMember pointer members)]
  | .null | .bool _ | .int _ | .double _ | .string _ => by simp [readFallback]

theorem plain_readEntries (pointer : Pointer) (i : Nat) :
    ∀ items, (readEntries ctx pointer i items).Plain
  | [] => by simp [readEntries]
  | .object members :: rest => by
    simp [readEntries, plain_readEntry (plain_readFallbackMember (pointer.index i) members),
      plain_readEntries pointer (i + 1) rest]
  | .null :: rest | .bool _ :: rest | .int _ :: rest | .double _ :: rest | .string _ :: rest
  | .array _ :: rest => by
    simp [readEntries, plain_readEntries pointer (i + 1) rest]

theorem plain_readFallbackMember (pointer : Pointer) :
    ∀ members, (readFallbackMember ctx pointer members).Plain
  | [] => by simp [readFallbackMember]
  | (key, value) :: rest => by
    rw [readFallbackMember]
    split
    · exact plain_readFallback _ value
    · exact plain_readFallbackMember pointer rest

end

@[simp] theorem plain_readTarget : (readTarget ctx members pointer).Plain := by
  unfold readTarget
  split <;> simp

@[simp] theorem plain_readConditions : (readConditions ctx members pointer).Plain := by
  unfold readConditions
  split <;> simp

theorem plain_readOverride : (readOverride ctx members pointer).Plain := by
  have fallback : (readFallbackMember ctx pointer members).Plain :=
    plain_readFallbackMember pointer members
  refine .bind (by simp) (.bind (by simp) (.bind (by simp) (.bind ?_ ?_)))
  · exact plain_readOffer fallback (by simp) (by simp)
  · split <;> simp

theorem plain_readOverrideItems (i : Nat) (items : List Json) :
    (readOverrideItems ctx pointer i items).Plain := by
  induction items generalizing i with
  | nil => simp [readOverrideItems]
  | cons item rest ih => cases item <;> simp [readOverrideItems, plain_readOverride, ih]

@[simp] theorem plain_readOverrides : (readOverrides ctx members pointer).Plain := by
  unfold readOverrides
  split <;> simp [plain_readOverrideItems]

/-! ## Nodes -/

@[simp] theorem plain_readType : (readType ctx members pointer).Plain := by
  unfold readType
  split <;> simp

theorem plain_readAlias (info : NodeInfo) (type : Option (Field String)) (reference : Json)
    (hasValue : Bool) : (readAlias ctx info type reference hasValue).Plain := by
  unfold readAlias
  split <;> simp

theorem sourced_readToken (name : String) :
    (readToken ctx name pointer members).Sourced ctx := by
  iterate 4 refine .bind (by simp) ?_
  split
  · exact (plain_readAlias _ _ _ _).sourced
  · exact Reading.Plain.sourced (by simp)

mutual

theorem sourced_readNode (name : String) (pointer : Pointer) :
    ∀ value, (readNode ctx name pointer value).Sourced ctx
  | .object members => by
    have below := sourced_readChildren pointer members
    rw [readNode]
    refine .bind (by simp) ?_
    split
    · exact sourced_readToken name
    · exact .bind (.bind (by simp) (.bind (by simp) (.bind below (by simp)))) (by simp)
  | .null | .bool _ | .int _ | .double _ | .string _ | .array _ => by
    rw [readNode]
    · exact Reading.Plain.sourced (by simp)
    · simp

/-- The members of an object are read in order. -/
theorem sourced_readChildren (pointer : Pointer) :
    ∀ members, (readChildren ctx pointer members).Sourced ctx
  | [] => by simp [readChildren]
  | (name, value) :: rest => by
    have first := sourced_readNode name (pointer.child name) value
    have more := sourced_readChildren pointer rest
    rw [readChildren]
    split
    · exact more
    · simp [first, more]

end

/-! ## Documents -/

theorem plain_readSchema : (readSchema ctx members).Plain := by
  unfold readSchema
  dsimp only
  split <;> simp

theorem plain_readVersion : (readVersion ctx members).Plain := by
  unfold readVersion
  dsimp only
  split
  · simp
  · split <;> simp
  · simp

/-- Whatever the root reports is a fault of the reader or supplied by the collector. -/
theorem sourced_readRoot : (readRoot ctx members).Sourced ctx := by
  refine .bind plain_readSchema.sourced (.bind plain_readVersion.sourced ?_)
  iterate 3 refine .bind (by simp) ?_
  exact .bind (sourced_readChildren _ _) (by simp)

end Readings

/-- What is reported on a document: only that it is nested too deep, if it is. -/
theorem says_ofDocument (document : Document) (options : Options) :
    (ofDocument document options).Within (options.context document).Says ∨
      ∃ d, (ofDocument document options).log = [d] ∧ d.code = .normaliserInternalError := by
  unfold ofDocument
  rw [← Options.context]
  dsimp only
  split
  · split
    · exact .inr ⟨_, rfl, rfl⟩
    · exact .inl (Reading.Sourced.bind sourced_readRoot (by simp)).within
  · exact .inl (Reading.Sourced.bind (plain_report (by simp) _).sourced (by simp)).within

end DesignTokens.Tree
