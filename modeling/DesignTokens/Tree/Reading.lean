import DesignTokens.Document
import DesignTokens.Plugin
import DesignTokens.Report.Diagnostic
import DesignTokens.Tree.Fault
import DesignTokens.Tree.Nesting

/-!
# DesignTokens.Tree.Reading — values read from a document, with what was reported

1. **Extensions**: a collector of the host looks at the entries of `$extensions`
   (`Tree.Collector`). Each time it is asked is a `Tree.Consultation`, and what comes of it a
   `Tree.Evaluation`.
2. **Readings** (`Tree.Reading`): a value with the diagnostics and consultations of the way to it.
   Nothing that was reported can be read again, so the value never depends on it.
3. **Context** of a reading (`Tree.Context`), and the basic readings `Context.report`,
   `Context.field` and `Tree.reportUnknown`.
-/

namespace DesignTokens.Tree

/-! ## Extensions -/

/-- An entry of `$extensions`, as a collector gets to see it. -/
structure ExtensionInput where
  uri : Uri
  namespaceKey : String
  value : Json
  pointer : Pointer
  span : Option Span
deriving Repr, Inhabited

/-- What a collector makes of an entry. -/
structure ExtensionOutcome where
  plugin : String
  normalized : Option Json
  diagnostics : List Diagnostic
deriving Repr, Inhabited

/-- The host's handling of `$extensions`: nothing for an entry it does not know. -/
abbrev Collector := ExtensionInput → Except HostFailure (Option ExtensionOutcome)

/-- An entry of `$extensions` that a collector was asked about, and its answer. -/
structure Consultation where
  input : ExtensionInput
  answer : Except HostFailure (Option ExtensionOutcome)

/-- The outcome of one entry of `$extensions`. -/
structure Evaluation where
  plugin : String
  namespaceKey : String
  pointer : Pointer
  normalized : Option Json
deriving Repr, Inhabited

/-- What comes of a consultation, if the collector knew the entry. -/
def Consultation.evaluation? (c : Consultation) : Option Evaluation :=
  match c.answer with
  | .ok (some outcome) =>
    some ⟨outcome.plugin, c.input.namespaceKey, c.input.pointer, outcome.normalized⟩
  | _ => none

/-! ## Readings -/

/-- A value read from a document, with the diagnostics and consultations of the way to it. -/
structure Reading (α : Type) where
  value : α
  log : Log
  consultations : List Consultation

namespace Reading

instance : Monad Reading where
  pure x := ⟨x, [], []⟩
  bind x f :=
    let y := f x.value
    ⟨y.value, x.log ++ y.log, x.consultations ++ y.consultations⟩

def tell (log : Log) : Reading Unit :=
  ⟨(), log, []⟩

/-- Ask the collector about an entry of `$extensions`. -/
def consult (collector : Collector) (input : ExtensionInput) :
    Reading (Except HostFailure (Option ExtensionOutcome)) :=
  ⟨collector input, [], [⟨input, collector input⟩]⟩

end Reading

/-! ## Context -/

/-- What the reading of a document refers to. -/
structure Context where
  uri : Uri
  sourceMap : SourceMap
  collector : Option Collector

namespace Context

def report (ctx : Context) (fault : Fault) (pointer : Pointer) : Reading Unit :=
  .tell [(Diagnostic.new fault.code fault.message).located pointer (ctx.sourceMap.get? pointer)]

def reportIf (ctx : Context) (condition : Bool) (fault : Fault) (pointer : Pointer) :
    Reading Unit :=
  if condition then ctx.report fault pointer else pure ()

/-- A value with the place it was read from. -/
def field {α : Type} (ctx : Context) (value : α) (pointer : Pointer) : Field α :=
  ⟨value, pointer, ctx.sourceMap.get? pointer⟩

end Context

/-! ## Unknown members -/

/-- Report the reserved keys that are not among the known ones. -/
def reportUnknown (ctx : Context) (members : Json.Members) (pointer : Pointer)
    (known : List String) : Reading Unit :=
  members.names.forM fun key =>
    ctx.reportIf (isReserved key && !known.contains key) (.unknownMember key) (pointer.child key)

end DesignTokens.Tree
