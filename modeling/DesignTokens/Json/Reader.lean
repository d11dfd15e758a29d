import DesignTokens.Json.Token

/-!
# DesignTokens.Json.Reader — reading JSON text

The reader takes one token at a time and keeps the open arrays and objects on a stack, so it
needs no nesting limit.

1. **States** (`Json.Reader`): what may come next, with the stack of open containers.
2. **Reading** (`Json.parse?`): strict JSON, one value. A repeated member keeps its first place and
   takes its last value.
-/

namespace DesignTokens.Json

/-- An open container: the items or members read so far, and for an object the name whose value is
being read. Items are kept in reverse. -/
inductive Frame where
  | items (before : List Json)
  | member (before : Members) (name : String)
deriving Repr, Inhabited

/-- What the reader expects next. -/
inductive Reader where
  /-- A value. -/
  | atValue (stack : List Frame)
  /-- The first item of an array, or its end. -/
  | atFirstItem (stack : List Frame)
  /-- The first name of an object, or its end. -/
  | atFirstName (stack : List Frame)
  /-- The name of a further member. -/
  | atName (stack : List Frame) (before : Members)
  /-- The colon after a name. -/
  | atColon (stack : List Frame) (before : Members) (name : String)
  /-- What follows a complete value. -/
  | afterValue (stack : List Frame) (value : Json)
deriving Repr, Inhabited

namespace Reader

def open? (stack : List Frame) : Token → Option Reader
  | .objectOpen => some (.atFirstName stack)
  | .arrayOpen => some (.atFirstItem stack)
  | .text text => some (.afterValue stack (.string text))
  | .scalar value => some (.afterValue stack value)
  | _ => none

/-- Take the token after a complete value. -/
def next? (value : Json) : List Frame → Token → Option Reader
  -- After a comma there has to be a further item or member.
  | .items before :: stack, .comma => some (.atValue (.items (value :: before) :: stack))
  | .items before :: stack, .arrayClose =>
    some (.afterValue stack (.array (value :: before).reverse))
  | .member before name :: stack, .comma => some (.atName stack (before.put name value))
  | .member before name :: stack, .objectClose =>
    some (.afterValue stack (.object (before.put name value)))
  | _, _ => none

/-- Take one token; `none` if it cannot stand here. -/
def step (r : Reader) (t : Token) : Option Reader :=
  match r, t with
  | .atValue stack, t => open? stack t
  | .atFirstItem stack, .arrayClose => some (.afterValue stack (.array []))
  | .atFirstItem stack, t => open? (.items [] :: stack) t
  | .atFirstName stack, .objectClose => some (.afterValue stack (.object []))
  | .atFirstName stack, .text name => some (.atColon stack [] name)
  | .atFirstName _, _ => none
  | .atName stack before, .text name => some (.atColon stack before name)
  | .atName _ _, _ => none
  | .atColon stack before name, .colon => some (.atValue (.member before name :: stack))
  | .atColon _ _ _, _ => none
  | .afterValue stack value, t => next? value stack t

/-- The value, if all tokens of one value were taken. -/
def finish : Reader → Option Json
  | .afterValue [] value => some value
  | _ => none

end Reader

/-- The value of a JSON text; `none` if the text is not JSON. -/
def parse? (text : String) : Option Json :=
  (Token.scan text).bind fun tokens =>
    (tokens.foldlM Reader.step (.atValue [])).bind Reader.finish

end DesignTokens.Json
