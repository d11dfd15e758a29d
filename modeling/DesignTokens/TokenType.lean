import DesignTokens.Json.Basic
import DesignTokens.Text.Digit

/-!
# DesignTokens.TokenType — which values a type admits

The structure of a value is checked against the declared type of the token it is for. A type that
is not listed admits every value, so documents with types of their own still resolve.

1. **Measures** (`TokenType.isMeasureText`): a number with a unit, as text.
2. **Values of a type** (`TokenType.admits`), and types that agree (`TokenType.agree`).
-/

namespace DesignTokens.TokenType

/-! ## Measures -/

/-- A unit: letters of ASCII, or a percent sign. -/
def isUnit (text : List Char) : Bool :=
  (!text.isEmpty && text.all Char.isAlpha) || text == ['%']

/-- The text after the digits it starts with, if there is at least one. -/
def dropDigits? (text : List Char) : Option (List Char) :=
  let rest := text.dropWhile Text.isDecimalDigit
  if rest.length < text.length then some rest else none

/-- The text after the magnitude it starts with: digits with an optional fraction, or a fraction
alone. -/
def dropMagnitude? (text : List Char) : Option (List Char) :=
  match dropDigits? text with
  | some ('.' :: rest) => dropDigits? rest
  | some rest => some rest
  | none =>
    match text with
    | '.' :: rest => dropDigits? rest
    | _ => none

def isMeasureText (text : String) : Bool :=
  let unsigned := match text.toList with
    | '-' :: rest => rest
    | chars => chars
  match dropMagnitude? unsigned with
  | some unit => isUnit unit
  | none => false

/-! ## Values -/

def memberIs (value : Json) (name : String) (condition : Json → Bool) : Bool :=
  match value.get? name with
  | some member => condition member
  | none => false

/-- A measure as a text, or as an object with a value and a unit. -/
def isMeasure (value : Json) : Bool :=
  (match value with
    | .string text => isMeasureText text
    | _ => false) ||
  (memberIs value "value" Json.isNumber && memberIs value "unit" Json.isString)

def isColorObject (value : Json) : Bool :=
  memberIs value "colorSpace" Json.isString && memberIs value "components" Json.isArray

def isTextList (value : Json) : Bool :=
  match value with
  | .array items => !items.isEmpty && items.all Json.isString
  | _ => false

/-- Four numbers. -/
def isCubicBezier (value : Json) : Bool :=
  match value with
  | .array items => items.length == 4 && items.all Json.isNumber
  | _ => false

/-- Whether a value has the structure that a type asks for. -/
def admits (type : String) (value : Json) : Bool :=
  match type with
  | "color" => value.isString || isColorObject value
  | "dimension" | "duration" => isMeasure value
  | "number" | "opacity" => value.isNumber
  | "fontFamily" => value.isString || isTextList value
  | "fontWeight" => value.isNumber || value.isString
  | "cubicBezier" => isCubicBezier value
  | "strokeStyle" => value.isString || value.isObject
  | "shadow" | "gradient" => value.isObject || value.isArray
  | "typography" | "border" | "transition" => value.isObject
  | "string" => value.isString
  | "boolean" => value.isBool
  | _ => true

/-- Types agree if they are the same text. -/
def agree (expected actual : String) : Bool :=
  expected == actual

end DesignTokens.TokenType
