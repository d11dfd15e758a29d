import DesignTokens.Json.Basic

/-!
# DesignTokens.Condition — when an override applies

A condition names a key of the context and what its value has to be. A set of conditions holds if
it is not empty and each of them does.

1. **One condition** (`Condition.holds`): equal to a value, or to one of several.
2. **A set** (`Conditions.hold`), read from the members of a `$when` object.
-/

namespace DesignTokens

/-- What the value of a context key has to be. -/
inductive Condition where
  | equals (expected : Json)
  | oneOf (candidates : List Json)
deriving Repr, Inhabited

namespace Condition

/-- An array lists the values that are allowed; all else is the value itself. -/
def ofJson : Json → Condition
  | .array candidates => .oneOf candidates
  | expected => .equals expected

def holds (condition : Condition) (actual : Json) : Bool :=
  match condition with
  | .equals expected => expected.same actual
  | .oneOf candidates => candidates.any (·.same actual)

end Condition

/-- Conditions on keys of the context. -/
structure Conditions where
  entries : List (String × Condition)
deriving Repr, Inhabited

namespace Conditions

/-- The conditions of a `$when` object. -/
def ofMembers (whenMembers : Json.Members) : Conditions :=
  ⟨whenMembers.map fun (key, expected) => (key, Condition.ofJson expected)⟩

/-- Whether every condition holds in the context; without conditions nothing holds. -/
def hold (conditions : Conditions) (context : Json.Members) : Bool :=
  !conditions.entries.isEmpty && conditions.entries.all fun (key, condition) =>
    match context.get? key with
    | some actual => condition.holds actual
    | none => false

end Conditions

end DesignTokens
