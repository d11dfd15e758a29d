import DesignTokens.Json.Basic
import DesignTokens.Number.Decimal

/-!
# DesignTokens.Json.Printer — canonical JSON text

No spaces; the members of every object sorted by name; strings with the fewest escapes; doubles
with the fewest digits that read back.

1. **Scalars**: `Double.jsonText`, `Json.quote`.
2. **Values** (`Json.canonical`): the order of members in a value does not show in its text.
-/

namespace DesignTokens

/-- A double as JSON text: positional from `1e-5` up to below `1e16`, else scientific. -/
def Double.jsonText (x : Double) : String :=
  let d := x.shortest
  let magnitude := if x.isZero || (-5 < d.point && d.point ≤ 16) then d.positional else d.scientific
  if x.negative then "-" ++ magnitude else magnitude

namespace Json

/-- A digit of lower-case hexadecimal. -/
def hexDigit (n : Nat) : Char :=
  (Nat.toDigits 16 n).headD '0'

/-- A character inside a quoted string: the quote, the backslash and the control characters are
escaped. -/
def escapeChar (c : Char) : List Char :=
  match c with
  | '"' => ['\\', '"']
  | '\\' => ['\\', '\\']
  | '\x08' => ['\\', 'b']
  | '\t' => ['\\', 't']
  | '\n' => ['\\', 'n']
  | '\x0c' => ['\\', 'f']
  | '\r' => ['\\', 'r']
  | c =>
    if c < ' ' then ['\\', 'u', '0', '0', hexDigit (c.toNat / 16), hexDigit (c.toNat % 16)]
    else [c]

/-- A string in quotes. -/
def quote (text : String) : String :=
  String.ofList ('"' :: text.toList.flatMap escapeChar ++ ['"'])

def sortMembers (printed : List (String × String)) : List (String × String) :=
  printed.mergeSort fun x y => decide (x.1 ≤ y.1)

mutual

/-- The canonical text of a value. -/
def canonical : Json → String
  | .null => "null"
  | .bool true => "true"
  | .bool false => "false"
  | .int n => toString n
  | .double x => x.jsonText
  | .string text => quote text
  | .array items => "[" ++ String.intercalate "," (canonicalItems items) ++ "]"
  | .object members =>
    let printed := (sortMembers (canonicalMembers members)).map fun p => quote p.1 ++ ":" ++ p.2
    "\x7b" ++ String.intercalate "," printed ++ "\x7d"

def canonicalItems : List Json → List String
  | [] => []
  | x :: rest => canonical x :: canonicalItems rest

/-- The names of members with the canonical texts of their values. -/
def canonicalMembers : List (String × Json) → List (String × String)
  | [] => []
  | (name, x) :: rest => (name, canonical x) :: canonicalMembers rest

end

end Json

end DesignTokens
