import DesignTokens.Proofs.Resolution.History
import DesignTokens.Proofs.Resolution.Lockstep
import DesignTokens.Proofs.Tree.Erasure

/-!
# DesignTokens.Proofs.Resolution.Erasure — metadata and positions do not influence tokens

Two documents of which the same is left without their metadata have graphs that are alike in
everything that values depend on. So resolvers for them, when they are asked the same, find the same
tokens on the same way, and differ in spans and reports only.

1. **Tokens without positions** (`Token.bare`).
2. **Graphs** of documents of which the same is left are alike (`graphs_of_erased`), and their
   tokens are listed in the same order (`tokens_of_erased`).
3. **Independence** (`tokens_independent_of_metadata`).
-/

namespace DesignTokens

open DesignTokens.Tree (erase eraseMembers silent)

/-! ## Tokens without positions -/

namespace Resolution

def Source.bare (s : Source) : Source :=
  { s with span := none }

def Step.bare (s : Step) : Step :=
  { s with span := none }

def Applied.bare (a : Applied) : Applied :=
  { a with source := a.source.map Source.bare }

/-- A token without spans and reports. -/
def Token.bare (t : Token) : Token :=
  { t with
    source := t.source.map Source.bare
    applied := t.applied.map Applied.bare
    warnings := []
    trace := t.trace.map Step.bare }

/-- Tokens that are alike when reports are not compared are the same without them. -/
theorem bare_eq {t t' : Token} (h : silent.Tokens t t') : t.bare = t'.bare := by
  have value : t.value = t'.value := by
    simpa using optionRel_map_eq (f := id) (g := id) h.value fun _ _ same => same
  have source : t.source.map Source.bare = t'.source.map Source.bare := h.source
  have applied : t.applied.map Applied.bare = t'.applied.map Applied.bare := h.applied
  have trace : t.trace.map Step.bare = t'.trace.map Step.bare := h.trace
  simp only [Token.bare, h.pointer, h.uri, h.type, value, source, applied, trace]

def bareTokens (answers : List Resolution) : List (Option Token) :=
  answers.map fun answer => answer.token.map Token.bare

/-- Answers that are alike have the same bare tokens. -/
theorem bareTokens_eq {answers answers' : List Resolution}
    (h : List.Forall₂ silent.Answers answers answers') :
    bareTokens answers = bareTokens answers' := by
  induction h with
  | nil => rfl
  | cons head _ ih =>
    exact List.cons_eq_cons.2 ⟨optionRel_map_eq head.token fun _ _ => bare_eq, ih⟩

end Resolution

/-! ## Graphs -/

section Graphs

variable {d d' : Document} {options options' : Tree.Options}

/-- Spans and collectors are not compared. -/
theorem contexts_of_uri (options options' : Tree.Options) (uri : d.uri = d'.uri) :
    silent.Contexts (options.context d) (options'.context d') :=
  ⟨uri, fun _ => rfl⟩

/-- Documents of which the same is left are both objects of which the same is left, or both none. -/
theorem members?_of_erased (same : erase d.data = erase d'.data) :
    (d.data.members? = none ∧ d'.data.members? = none) ∨
      ∃ xs ys, d.data = .object xs ∧ d'.data = .object ys ∧ eraseMembers xs = eraseMembers ys := by
  generalize d.data = x, d'.data = y at same
  -- Erasing keeps the kind of a value.
  cases x with
  | object xs =>
    cases y with
    | object ys => exact .inr ⟨xs, ys, rfl, rfl, Json.object.inj same⟩
    | _ => cases same
  | _ =>
    cases y with
    | object ys => cases same
    | _ => exact .inl ⟨rfl, rfl⟩

variable (uri : d.uri = d'.uri) (clear : d.data.unambiguous = true)
  (clear' : d'.data.unambiguous = true) (same : erase d.data = erase d'.data)

include uri clear clear' same

/-- Documents of which the same is left have alike graphs, or both have none. -/
theorem graphs_of_erased (nesting : options.maxNesting = options'.maxNesting) :
    Option.Rel silent.Graphs (Graph.ofDocument? d options) (Graph.ofDocument? d' options') := by
  have contexts := contexts_of_uri options options' uri
  refine Likeness.ofDocument? contexts nesting clear clear' ?_
  rcases members?_of_erased same with ⟨hx, hy⟩ | ⟨xs, ys, hx, hy, left⟩
  · rw [hx, hy]
    exact .none
  · rw [hx, hy]
    exact .some (Tree.roots_of_erased contexts options.maxNesting left)

/-- Documents of which the same is left list their tokens in the same order. -/
theorem tokens_of_erased {g g' : Graph} (hg : Graph.ofDocument? d options = some g)
    (hg' : Graph.ofDocument? d' options' = some g') : g.tokens = g'.tokens := by
  have contexts := contexts_of_uri options options' uri
  rcases members?_of_erased same with ⟨hx, _⟩ | ⟨xs, ys, hx, hy, left⟩
  · rw [Graph.ofDocument?, Tree.value_ofDocument, hx] at hg
    cases hg
  · exact Likeness.tokens_ofDocument? contexts hx hy clear clear'
      (Tree.roots_of_erased contexts options.maxNesting left)
      (Tree.childWalk_of_erased contexts left) hg hg'

end Graphs

/-! ## Independence -/

namespace Resolution

/-- Resolvers without transforms for two graphs give the same tokens after the same calls, with any
other documents and settings. -/
def SameTokens (g g' : Graph) : Prop :=
  ∀ (externals : List (Uri × Graph)) (settings : Settings) (document document' : Option Document)
    (calls : List Resolver.Call) (call : Resolver.Call),
    let r : Resolver := { env := ⟨g, externals, settings⟩, document }
    let r' : Resolver := { env := ⟨g', externals, settings⟩, document := document' }
    bareTokens ((r.performAll calls).answers call) =
      bareTokens ((r'.performAll calls).answers call)

/-- Documents of one URI of which the same is left without their metadata have graphs with the same
tokens, or both have none, whatever their metadata, source maps and collectors are. -/
theorem tokens_independent_of_metadata {d d' : Document} {options options' : Tree.Options}
    (uri : d.uri = d'.uri) (nesting : options.maxNesting = options'.maxNesting)
    (clear : d.data.unambiguous = true) (clear' : d'.data.unambiguous = true)
    (same : erase d.data = erase d'.data) :
    Option.Rel SameTokens (Graph.ofDocument? d options) (Graph.ofDocument? d' options') := by
  rcases optionRel_cases (graphs_of_erased uri clear clear' same nesting) with
    ⟨hg, hg'⟩ | ⟨g, g', hg, hg', graphs⟩
  · -- Neither document has a graph.
    rw [hg, hg']
    exact .none
  · -- Both have one, and their tokens stand at the same pointers.
    have tokens := tokens_of_erased uri clear clear' same hg hg'
    rw [hg, hg']
    refine .some fun externals settings document document' calls call => bareTokens_eq ?_
    have resolvers : silent.Resolvers { env := ⟨g, externals, settings⟩, document }
        { env := ⟨g', externals, settings⟩, document := document' } :=
      ⟨⟨graphs, rfl, rfl⟩, .nil, rfl, rfl⟩
    -- A call asks for the same pointers in both; only a call for all tokens depends on the graph.
    refine resolvers.answers_performAll fun c _ => ?_
    cases c with
    | node pointer => rfl
    | named text => rfl
    | all => exact tokens

/-! ### A document with notes -/

namespace Noted

open Sample (color place valueText)

/-- An alias `link` of a token, which stands in a collection. -/
def plain : Document :=
  Sample.document "tokens.json"
    [("palette", .object [("base", color "$value" "#111111")]),
     ("link", color "$ref" "#/palette/base")]

def noted : Document :=
  { Sample.document "tokens.json"
      [("$description", .string "colours"),
       ("palette", .object
        [("$extensions", .object [("org.example.tool", .null)]),
         ("base", .object
          [("$type", .string "color"), ("$value", .string "#111111"), ("note", .null),
           ("$deprecated", .object [("$replacement", .string "#/nowhere")])])]),
       ("link", color "$ref" "#/palette/base")] with
    sourceMap := .insert .empty (place "link") ⟨"tokens.json", default, default⟩ }

def options : Tree.Options where
  collector := some fun _ => .ok none

def linkText (g : Graph) : Option String :=
  valueText (((Resolver.new ⟨g, [], {}⟩).resolve (place "link")).1)

end Noted

/-- Both documents have a graph, in which `link` has the value of the token. -/
theorem noted_same_tokens :
    erase Noted.noted.data = erase Noted.plain.data ∧
      Noted.noted.data.unambiguous = true ∧ Noted.plain.data.unambiguous = true ∧
      Option.Rel SameTokens (Graph.ofDocument? Noted.noted Noted.options)
        (Graph.ofDocument? Noted.plain {}) ∧
      (Graph.ofDocument? Noted.noted Noted.options).bind Noted.linkText = some "#111111" ∧
      (Graph.ofDocument? Noted.plain {}).bind Noted.linkText = some "#111111" := by
  have same : erase Noted.noted.data = erase Noted.plain.data := by rfl
  have clear : Noted.noted.data.unambiguous = true := by decide
  have clear' : Noted.plain.data.unambiguous = true := by decide
  exact ⟨same, clear, clear', tokens_independent_of_metadata rfl rfl clear clear' same,
    by decide +kernel, by decide +kernel⟩

end Resolution

end DesignTokens
