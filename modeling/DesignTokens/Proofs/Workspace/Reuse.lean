import DesignTokens.Proofs.Sample
import DesignTokens.Workspace.Parse

/-!
# DesignTokens.Proofs.Workspace.Reuse — parsing a document again with the tree that was kept

The tree that comes of parsing a document stands for validation and for the reading of the tree when
the document is parsed again: the graph is the same, and so is what the library reports.

1. **Fresh parses** (`Workspace.parse_of_entry`): what is known of one that gives a tree to keep.
2. **Parses with a tree** (`Workspace.parse_again`): of the same document, or of another one.
3. **Silence of the host** (`parse_again_is_silent`): what the host said the first time is not
   repeated.
-/

namespace DesignTokens

namespace Workspace

variable {w : Workspace} {document : Document} {entry : CachedTree}

/-! ## Fresh parses -/

/-- A tree of another document is as good as none. -/
theorem parse_of_other (other : entry.identity ≠ Identity.of document.uri document.text) :
    w.parse document (some entry) = w.parse document none := by
  have unused : (some entry).filter (·.identity = Identity.of document.uri document.text) =
      none := by
    rw [Option.filter_some, if_neg (by simpa using other)]
  simp only [parse, unused, Option.filter_none]

/-- A document with a tree to keep is valid; its tree and what was reported of it are kept. -/
theorem parse_of_entry (kept : (w.parse document none).entry = some entry) :
    (w.host.validate document).valid = true ∧
      entry.identity = Identity.of document.uri document.text ∧
      (Tree.ofDocument document w.treeOptions).value = some entry.tree ∧
      entry.log = (Tree.ofDocument document w.treeOptions).log := by
  unfold parse parseFresh at kept
  dsimp only [Option.filter_none] at kept
  split at kept
  · next valid =>
    split at kept
    · cases kept
    · next tree read =>
      cases kept
      exact ⟨valid, rfl, read, rfl⟩
  · cases kept

/-! ## Parses with a tree -/

/-- What a parse with a kept tree gives, besides a fresh one where the host reports `said` when it
validates the document: the same, except for the answers of the host. -/
structure Repeats (said : Log) (fresh again : Parsed) : Prop where
  identity : again.identity = fresh.identity
  document : again.document = fresh.document
  graph : again.graph = fresh.graph
  log : fresh.log = said ++ again.log
  evaluations : again.evaluations = []
  fromCache : fresh.fromCache = false ∧ again.fromCache = true
  entry : again.entry = none

/-- A document that is parsed with the tree that was kept of it has the same graph, and the same is
reported but for what the host says when it validates the document. Its collector is not asked
again. The tree of another document is not used. -/
theorem parse_again (w : Workspace) (document : Document) (entry : CachedTree) :
    ((w.parse document none).entry = some entry →
      Repeats (w.host.validate document).log (w.parse document none)
        (w.parse document (some entry))) ∧
      (entry.identity ≠ Identity.of document.uri document.text →
        w.parse document (some entry) = w.parse document none) := by
  constructor
  · intro kept
    -- The entry has the identity of the document, so it is used.
    rcases parse_of_entry kept with ⟨valid, identity, read, log⟩
    have used : (some entry).filter (·.identity = Identity.of document.uri document.text) =
        some entry := by
      rw [Option.filter_some, if_pos (by simpa using identity)]
    constructor <;>
      simp [parse, parseFresh, used, valid, read, log, Parsed.withGraph]
  · intro other
    exact parse_of_other other

end Workspace

/-! ### A host that has something to say -/

namespace Talkative

def document : Document :=
  { Sample.document "tokens.json" [("a", .object [("$type", .string "color"),
      ("$extensions", .object [("org.example", .int 1)])])] with text := "tokens" }

/-- The host accepts every document with a warning, and knows every extension. -/
def workspace : Workspace where
  host := {
    load := fun _ => .error ⟨["gone"]⟩
    decode := fun _ => .ok document
    validate := fun _ => { log := [Diagnostic.new .conflictingValue "deprecated schema"] }
    collector := some fun _ => .ok (some ⟨"plugin", none, []⟩) }

def fresh : Parsed :=
  workspace.parse document none

def again : Parsed :=
  workspace.parse document fresh.entry

end Talkative

/-- The missing value is reported both times, and the tree of another document is not used. -/
theorem talkative_parsed_again :
    Talkative.fresh.entry.isSome = true ∧
      Talkative.again.log.codes = [.missingValue] ∧
      Talkative.again.graph.isSome = true ∧
      ∀ entry, Talkative.fresh.entry = some entry →
        Workspace.Repeats (Talkative.workspace.host.validate Talkative.document).log
            Talkative.fresh Talkative.again ∧
          Talkative.workspace.parse Talkative.document
              (some { entry with identity := .of Sample.home "other" }) = Talkative.fresh := by
  have different : Identity.of Sample.home "other" ≠
      Identity.of Talkative.document.uri Talkative.document.text := by
    decide +kernel
  refine ⟨by decide +kernel, by decide +kernel, by decide +kernel, fun entry kept => ?_⟩
  constructor
  · have repeats := (Workspace.parse_again Talkative.workspace Talkative.document entry).1 kept
    rw [← kept] at repeats
    exact repeats
  · exact (Workspace.parse_again Talkative.workspace Talkative.document
      { entry with identity := .of Sample.home "other" }).2 different

/-- With the tree that was kept, the warning of the host is missing, and so is the value of its
extension. -/
theorem parse_again_is_silent :
    (¬ ∀ (w : Workspace) (document : Document) (entry : CachedTree),
      (w.parse document none).entry = some entry →
        (w.parse document (some entry)).log = (w.parse document none).log) ∧
      ¬ ∀ (w : Workspace) (document : Document) (entry : CachedTree),
        (w.parse document none).entry = some entry →
          (w.parse document (some entry)).evaluations = (w.parse document none).evaluations := by
  have kept : Talkative.fresh.entry.isSome = true := by decide +kernel
  rcases Option.isSome_iff_exists.1 kept with ⟨entry, kept⟩
  constructor
  · intro claim
    have said : Talkative.again.log.length ≠ Talkative.fresh.log.length := by decide +kernel
    have log := claim Talkative.workspace Talkative.document entry kept
    rw [← kept] at log
    exact said (congrArg List.length log)
  · intro claim
    have asked : Talkative.again.evaluations.length ≠ Talkative.fresh.evaluations.length := by
      decide +kernel
    have evaluations := claim Talkative.workspace Talkative.document entry kept
    rw [← kept] at evaluations
    exact asked (congrArg List.length evaluations)

end DesignTokens
