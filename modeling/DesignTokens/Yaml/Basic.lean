import DesignTokens.Number.Extended

/-!
# DesignTokens.Yaml.Basic — the values of YAML

1. **Values** (`Yaml`): scalars, lists, and tables whose keys are values too.
2. **Scalars**: the value of a plain text (`Yaml.ofPlain`), and of one with a tag
   (`Yaml.ofTagged`).
-/

namespace DesignTokens

/-- A value of a YAML text. A number with a fraction keeps the text that it was written as. -/
inductive Yaml where
  | nothing
  /-- A text that has not the form that its tag asks for, or an alias within its own value. -/
  | unreadable
  | flag (value : Bool)
  | int (value : Int)
  | decimal (content : String)
  | text (value : String)
  | list (items : List Yaml)
  | table (entries : List (Yaml × Yaml))
deriving Repr, Inhabited

namespace Yaml

/-- Whether two scalars are the same; as a key, a list or a table is the same as none. -/
def sameScalar : Yaml → Yaml → Bool
  | .nothing, .nothing => true
  | .flag x, .flag y => x == y
  | .int x, .int y => x == y
  | .decimal x, .decimal y => x == y
  | .text x, .text y => x == y
  | _, _ => false

/-! ## Scalars -/

/-- An integer of 64 bits with or without a sign. -/
def integer? (base : Nat) (text : List Char) : Option Int :=
  let (sign, digits) := Numeral.splitSign text
  (Numeral.value? base digits).bind fun n => Numeral.fits64? (Numeral.signed sign n)

/-- An integer to a base that its start says. -/
def basedInteger? : List Char → Option Int
  | '0' :: 'x' :: rest => integer? 16 rest
  | '0' :: 'o' :: rest => integer? 8 rest
  | '+' :: rest => integer? 10 rest
  | decimalDigits => integer? 10 decimalDigits

/-- The names of numbers that are not finite. -/
def isUnboundedName (text : String) : Bool :=
  [".inf", ".Inf", ".INF", "+.inf", "+.Inf", "+.INF", "-.inf", "-.Inf", "-.INF",
    ".nan", ".NaN", ".NAN"].contains text

def isDecimal (text : String) : Bool :=
  isUnboundedName text ||
    (text.toList.any Char.isDigit && (Extended.ofText? text.toList).isSome)

def flag? (text : String) : Option Bool :=
  if text = "true" then some true else if text = "false" then some false else none

/-- The value of a plain text. -/
def ofPlain (text : String) : Yaml :=
  match basedInteger? text.toList with
  | some n => .int n
  | none =>
    if text = "~" || text = "null" then .nothing
    else match flag? text with
      | some value => .flag value
      | none => if isDecimal text then .decimal text else .text text

/-- The value of a plain text with one of the tags that are known; any other tag makes a text. -/
def ofTagged (tag text : String) : Yaml :=
  if tag = "bool" then ((flag? text).map Yaml.flag).getD .unreadable
  else if tag = "int" then ((integer? 10 text.toList).map Yaml.int).getD .unreadable
  else if tag = "float" then if isDecimal text then .decimal text else .unreadable
  else if tag = "null" then if text = "~" || text = "null" then .nothing else .unreadable
  else .text text

end Yaml

end DesignTokens
