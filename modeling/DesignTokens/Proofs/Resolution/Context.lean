import DesignTokens.Proofs.Json.Same
import DesignTokens.Proofs.Resolution.Congruence
import DesignTokens.Proofs.Resolution.History

/-!
# DesignTokens.Proofs.Resolution.Context — what the context is looked at for

A resolution looks at the context only to see whether the conditions of an override hold, and these
look up the keys that they name. So contexts with equal values for the named keys give the same
answers, whatever else they say.

1. **Conditions** (`Conditions.hold_of_agree`).
2. **Environments in another context** (`Environment.within`): they cannot be told apart if the
   contexts agree on the keys that are named (`Environment.congruent_within`).
3. **Answers** (`answers_independent_of_unnamed_keys`), for any calls before, with any transforms.
-/

namespace DesignTokens

/-! ## Conditions -/

/-- Two contexts both have no value for a key, or equal values. -/
def Json.Members.AgreeAt (context context' : Json.Members) (key : String) : Prop :=
  Option.Rel Json.Equal (context.get? key) (context'.get? key)

/-- A condition does not tell equal values apart. -/
theorem Condition.holds_of_equal (condition : Condition) {x y : Json} (h : Json.Equal x y) :
    condition.holds x = condition.holds y := by
  cases condition with
  | equals expected => exact h.same_eq expected
  | oneOf candidates =>
    have each : (fun candidate : Json => candidate.same x) = fun candidate => candidate.same y :=
      funext fun candidate => h.same_eq candidate
    simp only [Condition.holds, each]

/-- Conditions hold if there are some, and the context has a value for each of them that satisfies
it. -/
theorem Conditions.hold_ofMembers_iff {named context : Json.Members} :
    (Conditions.ofMembers named).hold context = true ↔ named ≠ [] ∧ ∀ member ∈ named,
      ∃ actual, context.get? member.1 = some actual ∧
        (Condition.ofJson member.2).holds actual = true := by
  simp only [Conditions.hold, Conditions.ofMembers, Bool.and_eq_true, Bool.not_eq_true',
    List.isEmpty_eq_false_iff, ne_eq, List.map_eq_nil_iff, List.all_eq_true,
    List.forall_mem_map]
  refine and_congr_right fun _ => forall₂_congr fun member _ => ?_
  cases context.get? member.1 with
  | none => simp
  | some actual => simp

/-- Conditions hold in both of two contexts that agree on the keys that they name, or in none. -/
theorem Conditions.hold_of_agree {named context context' : Json.Members}
    (agree : ∀ key ∈ named.names, context.AgreeAt context' key) :
    (Conditions.ofMembers named).hold context = (Conditions.ofMembers named).hold context' := by
  -- Each condition looks at one key, and both contexts have the same there.
  have each : ∀ member ∈ named,
      ((∃ actual, context.get? member.1 = some actual ∧
          (Condition.ofJson member.2).holds actual = true) ↔
        ∃ actual, context'.get? member.1 = some actual ∧
          (Condition.ofJson member.2).holds actual = true) := by
    intro member hm
    have here : context.AgreeAt context' member.1 := agree _ (List.mem_map_of_mem hm)
    rcases optionRel_cases here with ⟨hx, hy⟩ | ⟨x, y, hx, hy, equal⟩
    · rw [hx, hy]
    · have holds := Condition.holds_of_equal (Condition.ofJson member.2) equal
      simp [hx, hy, holds]
  rw [Bool.eq_iff_iff, Conditions.hold_ofMembers_iff, Conditions.hold_ofMembers_iff]
  exact and_congr_right fun _ => forall₂_congr each

/-- A key that the conditions of some override of a document name. -/
def Graph.Names (g : Graph) (key : String) : Prop :=
  ∃ entry ∈ g.overrides, key ∈ entry.conditions.value.names

namespace Resolution

/-! ## Environments in another context -/

namespace Environment

def within (env : Environment) (context : Json.Members) : Environment :=
  { env with settings := { env.settings with context } }

/-- Contexts that agree on all keys that are named in a loaded document. -/
def AgreesWith (env : Environment) (context : Json.Members) : Prop :=
  ∀ g, env.Loads g → ∀ key, g.Names key → env.settings.context.AgreeAt context key

variable {env : Environment} {context : Json.Members}

/-- In a loaded document, an override applies in both contexts or in none. -/
theorem enables_within (agrees : env.AgreesWith context) {g : Graph} (loaded : env.Loads g)
    {entry : Override Reference} (he : entry ∈ g.overrides) :
    (env.within context).enables entry = env.enables entry := by
  have named : ∀ key ∈ entry.conditions.value.names, env.settings.context.AgreeAt context key := by
    intro key hkey
    exact agrees g loaded key ⟨entry, he, hkey⟩
  exact (Conditions.hold_of_agree named).symm

/-- The context matters for the named keys only. -/
theorem congruent_within (agrees : env.AgreesWith context) :
    env.Congruent (env.within context) where
  root := rfl
  maxDepth := rfl
  follow := fun _ _ => rfl
  override? := by
    intro g loaded pointer
    -- The same overrides are enabled, so the last of them is the same.
    have same : ∀ entry ∈ g.overridesFor pointer,
        (env.within context).enables entry = env.enables entry := by
      intro entry he
      exact enables_within agrees loaded (List.mem_of_mem_filter he)
    rw [Environment.override?, Environment.override?, List.filter_congr same]

end Environment

/-! ## Answers -/

/-- If two contexts have equal values, or none, for every key that the conditions of some override
in a loaded document name, then every answer after any calls is the same in both: in the token, the
reports and what transforms make of it. -/
theorem answers_independent_of_unnamed_keys {env : Environment} {context : Json.Members}
    (agrees : env.AgreesWith context) (document : Option Document) (transforms : List Transform)
    (calls : List Resolver.Call) (call : Resolver.Call) :
    (({ env := env.within context, document, transforms } : Resolver).performAll
        calls).answers call =
      (({ env, document, transforms } : Resolver).performAll calls).answers call := by
  let r : Resolver := { env, document, transforms }
  have same : r.env.Congruent (env.within context) := Environment.congruent_within agrees
  exact Resolver.answers_performAll_moved same calls call

/-! ### A document for some screens -/

namespace Screened

open Sample (linkTo other overridePlace place valueText)

/-- The description of a screen; as a value, the order of its members does not matter. -/
def screen : Json.Members :=
  [("kind", .string "oled"), ("depth", .int 10)]

def replaced : Override Reference :=
  let entry := Sample.override "base" [("screen", .array [.string "none", .object screen])]
    (.mk overridePlace none none (some ⟨.string "#000000", overridePlace.child "$value", none⟩) [])
  { entry with token := { entry.token with target := ⟨other, place "base", false⟩ } }

/-- A token with an override, in the other document. -/
def screens : Graph :=
  Sample.graph other [Sample.token "base" "#ffffff"] [replaced]

def graph : Graph :=
  Sample.graph Sample.home [linkTo "link" other "base"] []

def environment (context : Json.Members) : Environment where
  root := graph
  externals := [(other, screens)]
  settings := { context }

/-- The texts of the values of all tokens in a context. -/
def valueTexts (context : Json.Members) : List (Option String) :=
  ((Resolver.new (environment context)).answers .all).map valueText

/-- A context that names the screen, and a user. -/
def first : Json.Members :=
  [("user", .string "ann"), ("screen", .object screen)]

/-- A context that names the screen in other words, and no user. -/
def second : Json.Members :=
  [("screen", .object screen.reverse), ("zoom", .int 2)]

/-- The two contexts have the same for the only key that is named. -/
theorem agrees : (environment first).AgreesWith second := by
  rintro g loaded key ⟨entry, he, hkey⟩
  -- The root document has no overrides, and the other one has this one.
  have overrides : g.overrides ⊆ [replaced] := by
    rcases loaded with rfl | ⟨uri, found⟩
    · exact List.nil_subset _
    · obtain ⟨front, back, happ, _⟩ := List.lookup_eq_some_iff.1 found
      have mem : (uri, g) ∈ (environment first).externals :=
        happ ▸ List.mem_append_right front List.mem_cons_self
      obtain ⟨_, rfl⟩ := Prod.mk.inj (List.mem_singleton.1 mem)
      exact List.Subset.refl _
  obtain rfl := List.mem_singleton.1 (overrides he)
  obtain rfl : key = "screen" := List.mem_singleton.1 hkey
  exact .some (.inr ⟨by decide, by decide, by decide⟩)

end Screened

/-- A user, a zoom and the order of members make no difference, and the screen does. -/
theorem answers_on_screen :
    (Screened.environment Screened.first).AgreesWith Screened.second ∧
      ((Resolver.new (Screened.environment Screened.second)).performAll [.named "#/link"]).answers
          .all =
        ((Resolver.new (Screened.environment Screened.first)).performAll [.named "#/link"]).answers
          .all ∧
      Screened.valueTexts Screened.second = [some "#000000"] ∧
      Screened.valueTexts [("user", .string "ann")] = [some "#ffffff"] := by
  have same := answers_independent_of_unnamed_keys Screened.agrees none [] [.named "#/link"] .all
  exact ⟨Screened.agrees, same, by decide, by decide⟩

end Resolution

end DesignTokens
