import DesignTokens.Proofs.Resolution.History
import DesignTokens.Proofs.Resolution.Lockstep
import DesignTokens.Proofs.Tree.MemberOrder

/-!
# DesignTokens.Proofs.Resolution.MemberOrder — the order of members does not influence answers

A node may be declared before or after the nodes that refer to it. Documents that differ only in the
order of members, at any level, have graphs that are alike, and resolvers for them answer alike.

1. **Equal answers** (`Resolution.Equal`): equal but for the order of members in the value.
2. **Graphs** of equal documents are alike (`graphs_of_same`).
3. **Independence** (`answers_independent_of_member_order`).
-/

namespace DesignTokens

/-! ## Equal answers -/

/-- Values may differ in the order of members; reports and positions are compared. -/
def unordered : Likeness :=
  ⟨Json.Equal, Json.respectful_equal, true⟩

namespace Resolution

/-- Tokens that are the same, but for the order of members in their values. -/
structure Token.Equal (t t' : Token) : Prop where
  value : Option.Rel Json.Equal t.value t'.value
  rest : { t with value := none } = { t' with value := none }

/-- Tokens that are alike up to the order of members are equal but for that order. -/
theorem equal_of_tokens {t t' : Token} (h : unordered.Tokens t t') : t.Equal t' := by
  have sources : unordered.source = id := rfl
  have applications : unordered.applied = id := by
    funext a
    cases a with
    | mk pointer kind source => cases source <;> rfl
  have steps : unordered.step = id := rfl
  have source := h.source
  have applied := h.applied
  have trace := h.trace
  have warnings : t.warnings = t'.warnings := h.warnings
  rw [sources, Option.map_id, id, id] at source
  rw [applications, List.map_id, List.map_id] at applied
  rw [steps, List.map_id, List.map_id] at trace
  refine ⟨h.value, ?_⟩
  simp only [h.pointer, h.uri, h.type, source, applied, trace, warnings]

/-- Answers that are the same, but for the order of members in the values of tokens. -/
structure Equal (a a' : Resolution) : Prop where
  token : Option.Rel Token.Equal a.token a'.token
  log : a.log = a'.log
  derived : a.derived = a'.derived

theorem equal_of_answers {a a' : Resolution} (h : unordered.Answers a a') : a.Equal a' where
  token := optionRel_imp (fun _ _ => equal_of_tokens) h.token
  log := h.log
  derived := h.derived

end Resolution

/-! ## Graphs -/

/-- Equal documents have alike graphs, or both have none. -/
theorem graphs_of_same {d d' : Document} {options options' : Tree.Options} (uri : d.uri = d'.uri)
    (sourceMap : d.sourceMap = d'.sourceMap) (nesting : options.maxNesting = options'.maxNesting)
    (clear : d.data.unambiguous = true) (clear' : d'.data.unambiguous = true)
    (same : d.data.same d'.data = true) :
    Option.Rel unordered.Graphs (Graph.ofDocument? d options) (Graph.ofDocument? d' options') := by
  have contexts : unordered.Contexts (options.context d) (options'.context d') :=
    ⟨uri, fun pointer => by rw [Tree.Options.context, Tree.Options.context, sourceMap]⟩
  refine Likeness.ofDocument? contexts nesting clear clear' ?_
  have equal : Json.Equal d.data d'.data := .inr ⟨clear, clear', same⟩
  -- Equal documents are objects on both sides or on neither.
  rcases optionRel_cases (Json.respectful_equal.members? equal) with
    ⟨hx, hy⟩ | ⟨xs, ys, hx, hy, alike⟩
  · rw [hx, hy]
    exact .none
  · rw [hx, hy]
    exact .some (contexts.roots options.maxNesting alike)

/-! ## Independence -/

namespace Resolution

/-- Resolvers without transforms for two graphs give equal answers after the same calls, with any
other documents and settings. A call for all tokens asks for them in the order of the document, and
an answer may depend on what was asked before; so these calls are left out. -/
def SameAnswers (g g' : Graph) : Prop :=
  ∀ (externals : List (Uri × Graph)) (settings : Settings) (document document' : Option Document)
    (calls : List Resolver.Call) (call : Resolver.Call), (∀ c ∈ call :: calls, c ≠ .all) →
    let r : Resolver := { env := ⟨g, externals, settings⟩, document }
    let r' : Resolver := { env := ⟨g', externals, settings⟩, document := document' }
    List.Forall₂ Equal ((r.performAll calls).answers call) ((r'.performAll calls).answers call)

/-- Documents of one URI and source map that differ only in the order of members have graphs with
the same answers, or both have none. -/
theorem answers_independent_of_member_order {d d' : Document} {options options' : Tree.Options}
    (uri : d.uri = d'.uri) (sourceMap : d.sourceMap = d'.sourceMap)
    (nesting : options.maxNesting = options'.maxNesting) (clear : d.data.unambiguous = true)
    (clear' : d'.data.unambiguous = true) (same : d.data.same d'.data = true) :
    Option.Rel SameAnswers (Graph.ofDocument? d options) (Graph.ofDocument? d' options') := by
  refine optionRel_imp ?_ (graphs_of_same uri sourceMap nesting clear clear' same)
  intro g g' graphs externals settings document document' calls call single
  have resolvers : unordered.Resolvers { env := ⟨g, externals, settings⟩, document }
      { env := ⟨g', externals, settings⟩, document := document' } :=
    ⟨⟨graphs, rfl, rfl⟩, .nil, rfl, rfl⟩
  refine (resolvers.answers_performAll fun c hc => ?_).imp fun _ _ => equal_of_answers
  cases c with
  | node pointer => rfl
  | named text => rfl
  | all => exact absurd rfl (single .all hc)

/-! ### A document, and the same in another order -/

namespace Shuffled

def colour : List (String × Json) :=
  [("colorSpace", .string "srgb"), ("components", .array [.int 1, .int 0, .int 0])]

/-- The token `base`, with its value given by some members. -/
def base (value : List (String × Json)) : String × Json :=
  ("base", .object [("$type", .string "color"), ("$value", .object value)])

/-- The alias `link` stands after the token that it refers to. -/
def backward : Document :=
  Sample.document "tokens.json" [base colour, ("link", Sample.color "$ref" "#/base")]

/-- The alias `link` stands before the token that it refers to, and the members of all objects are
in the other order. -/
def forward : Document :=
  Sample.document "tokens.json"
    [("link", .object [("$ref", .string "#/base"), ("$type", .string "color")]),
     base colour.reverse]

def firstName (g : Graph) : Option String := do
  let token ← ((Resolver.new ⟨g, [], {}⟩).resolve (Sample.place "link")).1.token
  let value ← token.value
  let members ← value.members?
  members.names.head?

end Shuffled

/-- Both documents have a graph, in which `link` has the value of `base`, as it is written there. -/
theorem shuffled_same_answers :
    Shuffled.backward.data.unambiguous = true ∧ Shuffled.forward.data.unambiguous = true ∧
      Shuffled.backward.data.same Shuffled.forward.data = true ∧
      Option.Rel SameAnswers (Graph.ofDocument? Shuffled.backward {})
        (Graph.ofDocument? Shuffled.forward {}) ∧
      (Graph.ofDocument? Shuffled.backward {}).bind Shuffled.firstName = some "colorSpace" ∧
      (Graph.ofDocument? Shuffled.forward {}).bind Shuffled.firstName = some "components" := by
  have clear : Shuffled.backward.data.unambiguous = true := by decide
  have clear' : Shuffled.forward.data.unambiguous = true := by decide
  have same : Shuffled.backward.data.same Shuffled.forward.data = true := by decide
  exact ⟨clear, clear', same,
    answers_independent_of_member_order rfl rfl rfl clear clear' same, by decide +kernel,
    by decide +kernel⟩

end Resolution

end DesignTokens
