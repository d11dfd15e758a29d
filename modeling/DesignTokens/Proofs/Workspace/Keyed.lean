import DesignTokens.Proofs.CacheKey
import DesignTokens.Proofs.Resolution.Context
import DesignTokens.Proofs.Resolution.Network
import DesignTokens.Workspace.Parse

/-!
# DesignTokens.Proofs.Workspace.Keyed — what the key of a token leaves open

The key of a token stands for its document and for the settings it is resolved with. It says nothing
of the other documents that are loaded.

1. **Keyed environments** (`Environment.congruent_of_settings`): settings with the same key cannot
   be told apart.
2. **Inquiries** (`Workspace.Inquiry`) for the tokens of documents that one host decoded.
3. **Answers** (`Workspace.answer_of_key`): those with the same key are the same, as long as the
   same other documents are loaded.
-/

namespace DesignTokens

namespace Resolution.Environment

/-! ## Keyed environments -/

/-- A URI of another document that references may be followed to. -/
def Reaches (env : Environment) (uri : Uri) : Prop :=
  uri ≠ env.root.uri ∧ (uri.isNetwork = true → env.settings.allowNetwork = true)

variable {env env' : Environment}

/-- Where the same documents can be reached, references lead to the same documents. -/
theorem follow_of_reached (root : env'.root = env.root)
    (network : env'.settings.allowNetwork = env.settings.allowNetwork)
    (reached : ∀ uri, env.Reaches uri → env'.external? uri = env.external? uri) (g : Graph)
    (reference : Reference) : env'.follow g reference = env.follow g reference := by
  unfold follow
  rw [root, network]
  dsimp only
  by_cases reachable : env.Reaches reference.target.uri
  · rw [reached _ reachable]
  · by_cases home : reference.target.uri = env.root.uri
    · simp only [if_pos home]
    · -- The reference stays in its document, or is refused.
      have forbidden : reference.target.isNetwork = true ∧ env.settings.allowNetwork = false := by
        rw [Reaches, not_and, Classical.not_imp, Bool.not_eq_true] at reachable
        exact reachable home
      simp [forbidden]

/-- Settings that differ in the order of members of the context cannot be told apart. -/
theorem congruent_of_settings (root : env'.root = env.root)
    (clear : (Json.object env.settings.context).unambiguous = true)
    (clear' : (Json.object env'.settings.context).unambiguous = true)
    (same : (Json.object env.settings.context).same (.object env'.settings.context) = true)
    (maxDepth : env.settings.maxDepth = env'.settings.maxDepth)
    (network : env.settings.allowNetwork = env'.settings.allowNetwork)
    (reached : ∀ uri, env.Reaches uri → env'.external? uri = env.external? uri) :
    env.Congruent env' where
  root := root
  maxDepth := maxDepth.symm
  follow := follow_of_reached root network.symm reached
  override? := by
    intro g _ pointer
    have alike := Json.members_alike_of_same clear clear' same
    have enables : env'.enables = env.enables := by
      funext entry
      exact (Conditions.hold_of_agree fun key _ => alike.get? key).symm
    rw [override?, override?, enables]

end Resolution.Environment

namespace Workspace

/-! ## Inquiries -/

/-- What a token is resolved with: the graph of a document that the host decoded, settings whose
context names nothing twice, and the other documents that are loaded. -/
structure Inquiry (w : Workspace) where
  document : Document
  decoded : w.host.decode ⟨document.uri, document.text⟩ = .ok document
  addressed : document.uri.WellFormed
  graph : Graph
  built : (w.parse document none).graph = some graph
  settings : Resolution.Settings
  clear : (Json.object settings.context).unambiguous = true
  externals : List (Uri × Graph)

namespace Inquiry

variable {w : Workspace} (a : w.Inquiry)

def environment : Resolution.Environment :=
  ⟨a.graph, a.externals, a.settings⟩

def key (pointer : Pointer) : String :=
  (Identity.of a.document.uri a.document.text).tokenKey a.settings pointer

def answer (pointer : Pointer) : Resolution :=
  ((Resolver.new a.environment).resolve pointer).1

end Inquiry

variable {w : Workspace} {a b : w.Inquiry}

/-- A document is known by its URI and its text, and so is its graph. -/
theorem Inquiry.graph_eq (uri : a.document.uri = b.document.uri)
    (text : a.document.text = b.document.text) : a.graph = b.graph := by
  have document : a.document = b.document := by
    have decoded := a.decoded
    rw [uri, text, b.decoded] at decoded
    exact (Except.ok.inj decoded).symm
  have built := a.built
  rw [document, b.built] at built
  exact (Option.some.inj built).symm

/-! ## Answers -/

/-- Inquiries under one key have the same answer if the same documents can be reached, and neither
the texts of the documents nor those of the settings collide. -/
theorem answer_of_key (pointer : Pointer)
    (contents : ContentHash.Separates [a.document.text, b.document.text])
    (settings : ContentHash.Separates [a.settings.keyText, b.settings.keyText])
    (reached : ∀ uri, a.environment.Reaches uri → b.externals.lookup uri = a.externals.lookup uri)
    (key : a.key pointer = b.key pointer) : a.answer pointer = b.answer pointer := by
  obtain ⟨uri, hashes, keys⟩ := Identity.parts_of_tokenKey_at a.addressed b.addressed key
  -- Equal keys give equal texts and settings, if the two hashes tell them apart.
  have graph : a.graph = b.graph := Inquiry.graph_eq uri (contents.eq hashes)
  have texts := Resolution.Settings.keyText_of_key settings keys
  obtain ⟨same, maxDepth, network⟩ := Resolution.Settings.parts_of_keyText b.clear texts
  have congruent : a.environment.Congruent b.environment :=
    Resolution.Environment.congruent_of_settings graph.symm a.clear b.clear same maxDepth network
      reached
  have moved := Resolver.resolve_moved (r := Resolver.new a.environment) congruent pointer
  exact (congrArg Prod.fst moved).symm

end Workspace

/-! ### A document that refers to another one -/

open Resolution

namespace Linked

open Sample (color file graph isDocument_file place token valueText)

def document : Document :=
  { Sample.document "tokens.json" [("link", color "$ref" "base.json#/x")] with text := "tokens" }

def workspace : Workspace where
  host := {
    load := fun _ => .error ⟨["gone"]⟩
    decode := fun _ => .ok document }

def base : Graph :=
  graph (file "base.json") [token "x" "#111111"] []

/-- The document in a context, with other documents loaded. -/
def inquiry (context : Json.Members) (clear : (Json.object context).unambiguous = true)
    (loaded : List Graph) : workspace.Inquiry where
  document := document
  decoded := rfl
  addressed := (isDocument_file (by decide +kernel)).wellFormed
  graph := (workspace.parse document none).graph.get (by decide +kernel)
  built := (Option.some_get _).symm
  settings := { context }
  clear := clear
  externals := loaded.map fun g => (g.uri, g)

def dark (loaded : List Graph) : workspace.Inquiry :=
  inquiry Themes.dark.context (by decide) loaded

def turned (loaded : List Graph) : workspace.Inquiry :=
  inquiry Themes.turned.context (by decide) loaded

def linkText (a : workspace.Inquiry) : Option String :=
  valueText (a.answer (place "link"))

end Linked

/-- The order of members in the context makes no difference, and neither does a document of the
network, which is not allowed. -/
theorem linked_answers :
    (Linked.dark [Linked.base]).key (Sample.place "link") =
        (Linked.turned [Online.base, Linked.base]).key (Sample.place "link") ∧
      (Linked.dark [Linked.base]).answer (Sample.place "link") =
        (Linked.turned [Online.base, Linked.base]).answer (Sample.place "link") ∧
      Linked.linkText (Linked.dark [Linked.base]) = some "#111111" := by
  have reached : ∀ uri, (Linked.dark [Linked.base]).environment.Reaches uri →
      (Linked.turned [Online.base, Linked.base]).externals.lookup uri =
        (Linked.dark [Linked.base]).externals.lookup uri := by
    rintro uri ⟨_, allowed⟩
    have other : uri ≠ Online.base.uri := by
      rintro rfl
      exact absurd (allowed (by decide)) (by decide)
    have miss : (uri == Online.base.uri) = false := beq_false_of_ne other
    simp [Linked.turned, Linked.dark, Linked.inquiry, List.lookup_cons, miss]
  have key : (Linked.dark [Linked.base]).key (Sample.place "link") =
      (Linked.turned [Online.base, Linked.base]).key (Sample.place "link") := by
    have settings : Themes.dark.key = Themes.turned.key :=
      congrArg (fun text => (ContentHash.ofText text).text) Themes.keyText_turned.symm
    show (Identity.of _ _).tokenKey Themes.dark _ = (Identity.of _ _).tokenKey Themes.turned _
    rw [Identity.tokenKey, Identity.tokenKey, settings]
    rfl
  refine ⟨key, ?_, by decide +kernel⟩
  exact Workspace.answer_of_key (Sample.place "link") (ContentHash.separates_of_eq rfl)
    (ContentHash.separates_of_eq Themes.keyText_turned.symm) reached key

/-- Whether the other document is loaded makes a difference, and the key does not tell. -/
theorem key_omits_loaded_documents :
    ¬ ∀ (w : Workspace) (a b : w.Inquiry) (pointer : Pointer),
      ContentHash.Separates [a.document.text, b.document.text] →
        ContentHash.Separates [a.settings.keyText, b.settings.keyText] →
          a.key pointer = b.key pointer → (a.answer pointer).token = (b.answer pointer).token := by
  intro claim
  have token := claim Linked.workspace (Linked.dark [Linked.base]) (Linked.dark [])
    (Sample.place "link") (ContentHash.separates_of_eq rfl) (ContentHash.separates_of_eq rfl) rfl
  have values :
      Linked.linkText (Linked.dark [Linked.base]) ≠ Linked.linkText (Linked.dark []) := by
    decide +kernel
  refine values ?_
  rw [Linked.linkText, Linked.linkText, Sample.valueText, Sample.valueText, token]

end DesignTokens
