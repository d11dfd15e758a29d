import DesignTokens.Text.Split
import DesignTokens.Toml.Definition
import DesignTokens.Toml.Scalar
import DesignTokens.Toml.Token

/-!
# DesignTokens.Toml.Reader — reading TOML text

The reader takes one token at a time and keeps the open arrays and inline tables on a stack.

1. **Keys** (`Toml.keys?`): names with dots between them.
2. **States** (`Toml.Reader`): the table so far, the table that the last header opened, and what may
   come next.
3. **Marked moments** (`Toml.withMoments?`): a table with a certain first key is a date or a time.
4. **Reading** (`Toml.parse?`).
-/

namespace DesignTokens.Toml

/-! ## Keys -/

/-- A piece of a key: a name, or the dot between two names. -/
inductive Piece where
  | name (name : String)
  | dot
deriving Repr, DecidableEq, Inhabited

def isNameChar (c : Char) : Bool :=
  c.isAlphanum || c == '_' || c == '-'

/-- The pieces of a bare word. -/
def piecesOf (word : List Char) : List Piece :=
  let names := (Text.splitOn '.' word).map fun name =>
    if name.isEmpty then [] else [Piece.name (String.ofList name)]
  List.flatten (names.intersperse [.dot])

/-- The names of pieces; between two names there is one dot. -/
def names? : List Piece → Option (List String)
  | [.name name] => some [name]
  | .name name :: .dot :: rest => (names? rest).map (name :: ·)
  | _ => none

/-- A limit that neither the names of a key nor the open arrays and inline tables reach. -/
def maxDepth : Nat := 80

def keys? (pieces : List Piece) : Option (List String) :=
  (names? pieces).filter (·.length < maxDepth)

/-! ## States -/

/-- An open value: the line of a key, an array with its items so far in reverse, or an inline table
with its entries so far and a key. -/
inductive Frame where
  | line (keys : List String)
  | items (before : List Toml)
  | entry (before : Draft.Entries) (keys : List String)
deriving Repr, Inhabited

/-- Where a key stands: on its line, or in an inline table. -/
inductive Place where
  | line
  | inline (before : Draft.Entries) (stack : List Frame)
deriving Repr, Inhabited

/-- What the reader expects next. -/
inductive Expected where
  /-- A header, a key, or the end of an empty line. -/
  | lineStart
  | lineEnd
  | header (isItem : Bool) (pieces : List Piece)
  /-- The second bracket at the end of the header of an array of tables. -/
  | headerClose (pieces : List Piece)
  | key (place : Place) (pieces : List Piece)
  /-- The first key of an inline table, or its end. -/
  | firstKey (stack : List Frame)
  | value (stack : List Frame)
  /-- An item of an array, or its end. -/
  | item (before : List Toml) (stack : List Frame)
  | afterItem (before : List Toml) (stack : List Frame)
  | afterEntry (before : Draft.Entries) (stack : List Frame)
deriving Repr, Inhabited

/-- The state of the reader. -/
structure Reader where
  root : Draft.Entries
  /-- The way to the table that the last header opened. -/
  current : List String
  expected : Expected
deriving Repr, Inhabited

namespace Reader

def expect (r : Reader) (expected : Expected) : Option Reader :=
  some { r with expected }

def complete (r : Reader) (value : Toml) : List Frame → Option Reader
  | .line keys :: _ =>
    (Draft.alter (Draft.define keys value) r.current r.root).map fun root =>
      { r with root, expected := .lineEnd }
  | .items before :: stack => r.expect (.afterItem (value :: before) stack)
  | .entry before keys :: stack =>
    (Draft.define keys value before).bind fun entries => r.expect (.afterEntry entries stack)
  | [] => none

/-- Take the first token of a value. -/
def beginValue (r : Reader) (stack : List Frame) : Token → Option Reader
  | .word chars => (scalar? chars).bind fun value => r.complete value stack
  | .text content _ => r.complete (.text content) stack
  -- The line at the bottom of the stack counts for the value that is opened here.
  | .arrayOpen _ => if stack.length < maxDepth then r.expect (.item [] stack) else none
  | .tableOpen => if stack.length < maxDepth then r.expect (.firstKey stack) else none
  | _ => none

/-- The pieces of a token in a key. -/
def pieces? : Token → Option (List Piece)
  | .word chars =>
    if chars.all fun c => isNameChar c || c == '.' then some (piecesOf chars) else none
  | .text content false => some [.name content]
  | _ => none

/-- Take a token of a key, up to the equals sign. -/
def takeKey (r : Reader) (place : Place) (pieces : List Piece) : Token → Option Reader
  | .equals => (keys? pieces).bind fun keys =>
    match place with
    | .line => r.expect (.value [.line keys])
    | .inline before stack => r.expect (.value (.entry before keys :: stack))
  | token => (pieces? token).bind fun more => r.expect (.key place (pieces ++ more))

/-- Open the table of a header. -/
def openHeader (r : Reader) (isItem : Bool) (pieces : List Piece) : Option Reader := do
  let keys ← keys? pieces
  let key ← keys.getLast?
  let change := if isItem then Draft.openItem key else Draft.openTable key
  let root ← Draft.alter change keys.dropLast r.root
  some { root, current := keys, expected := .lineEnd }

def takeHeader (r : Reader) (isItem : Bool) (pieces : List Piece) : Token → Option Reader
  | .arrayOpen true => if isItem || !pieces.isEmpty then none else r.expect (.header true [])
  | .arrayClose _ =>
    if isItem then r.expect (.headerClose pieces) else r.openHeader false pieces
  | token => (pieces? token).bind fun more => r.expect (.header isItem (pieces ++ more))

/-- Take one token; `none` if it cannot stand here. -/
def step (r : Reader) (token : Token) : Option Reader :=
  match r.expected, token with
  | .lineStart, .newline => some r
  | .lineStart, .arrayOpen _ => r.expect (.header false [])
  | .lineStart, token => r.takeKey .line [] token
  | .lineEnd, .newline => r.expect .lineStart
  | .lineEnd, _ => none
  | .header isItem pieces, token => r.takeHeader isItem pieces token
  | .headerClose pieces, .arrayClose true => r.openHeader true pieces
  | .headerClose _, _ => none
  | .key place pieces, token => r.takeKey place pieces token
  | .firstKey stack, .tableClose => r.complete (.table []) stack
  | .firstKey stack, token => r.takeKey (.inline [] stack) [] token
  | .value stack, token => r.beginValue stack token
  | .item _ _, .newline => some r
  | .item before stack, .arrayClose _ => r.complete (.array before.reverse) stack
  | .item before stack, token => r.beginValue (.items before :: stack) token
  | .afterItem _ _, .newline => some r
  | .afterItem before stack, .comma => r.expect (.item before stack)
  | .afterItem before stack, .arrayClose _ => r.complete (.array before.reverse) stack
  | .afterItem _ _, _ => none
  | .afterEntry before stack, .comma => r.expect (.key (.inline before stack) [])
  | .afterEntry before stack, .tableClose => r.complete (.table (Draft.finishEntries before)) stack
  | .afterEntry _ _, _ => none

/-- The table, if the text may end here. -/
def finish (r : Reader) : Option Table :=
  match r.expected with
  | .lineStart => some (Draft.finishEntries r.root)
  | .lineEnd => some (Draft.finishEntries r.root)
  | _ => none

end Reader

/-! ## Marked moments -/

/-- The first key of a table that stands for a date or a time. -/
def momentMark : String := "$__toml_private_datetime"

/-- The date or time of a table whose first entry is the mark, `none` if it is not one. -/
def markedMoment? : Toml → Option Toml
  | .text content => (moment? content.toList).map .moment
  | _ => none

mutual

/-- Put dates and times in place of the tables that stand for them. -/
def withMoments? : Toml → Option Toml
  | .array items => (itemsWithMoments? items).map .array
  | .table [] => some (.table [])
  | .table ((key, value) :: rest) =>
    if key = momentMark then markedMoment? value
    else (entriesWithMoments? ((key, value) :: rest)).map .table
  | value => some value

def itemsWithMoments? : List Toml → Option (List Toml)
  | [] => some []
  | x :: rest => (withMoments? x).bind fun x => (itemsWithMoments? rest).map (x :: ·)

def entriesWithMoments? : List (String × Toml) → Option (List (String × Toml))
  | [] => some []
  | (key, x) :: rest =>
    (withMoments? x).bind fun x => (entriesWithMoments? rest).map ((key, x) :: ·)

end

/-! ## Reading -/

/-- The table of a TOML text; `none` if the text is not TOML. -/
def parse? (text : String) : Option Table :=
  (Token.scan text).bind fun tokens =>
    (tokens.foldlM Reader.step ⟨[], [], .lineStart⟩).bind fun reader =>
      reader.finish.bind fun table => (withMoments? (.table table)).bind entries?

end DesignTokens.Toml
