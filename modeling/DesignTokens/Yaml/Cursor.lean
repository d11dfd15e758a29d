/-!
# DesignTokens.Yaml.Cursor — a place in the lines of a text

1. **Characters** that matter to the layout of a text.
2. **Cursors** (`Yaml.Cursor`): the rest of a line, and the lines below it.
3. **Blanks and comments** (`Cursor.toLineEnd?`, `Cursor.toContent?`).
-/

namespace DesignTokens.Yaml

/-! ## Characters -/

def isBlank (c : Char) : Bool :=
  c == ' ' || c == '\t'

/-- A character that means something between the brackets of a list or a table. -/
def isFlowMark (c : Char) : Bool :=
  c == ',' || c == '[' || c == ']' || c == '\x7b' || c == '\x7d'

/-- Whether a line is at its end or at a blank. -/
def atBlank : List Char → Bool
  | [] => true
  | c :: _ => isBlank c

/-- Whether a line is at a character with a meaning between brackets. -/
def atFlowMark : List Char → Bool
  | [] => false
  | c :: _ => isFlowMark c

/-- Whether a line starts with three given characters on their own. -/
def atMarker (mark : Char) : List Char → Bool
  | a :: b :: c :: rest => a == mark && b == mark && c == mark && atBlank rest
  | _ => false

/-- Whether a line starts or ends a document. -/
def atDocumentMarker (line : List Char) : Bool :=
  atMarker '-' line || atMarker '.' line

/-! ## Cursors -/

/-- A place in a text. -/
structure Cursor where
  /-- The number of the line. -/
  line : Nat
  /-- The number of characters before the place in its line. -/
  column : Nat
  /-- The number of characters before the place in the text. -/
  offset : Nat
  /-- The rest of the line. -/
  rest : List Char
  /-- The lines below it. -/
  below : List (List Char)
  /-- Whether only blanks stand before the place in its line. -/
  fresh : Bool
deriving Repr, Inhabited

/-- The lines of a text; a line ends with a line feed, a carriage return, or both. -/
def lines : List Char → List (List Char)
  | [] => [[]]
  | '\r' :: '\n' :: rest => [] :: lines rest
  | '\r' :: rest => [] :: lines rest
  | '\n' :: rest => [] :: lines rest
  | c :: rest =>
    match lines rest with
    | line :: more => (c :: line) :: more
    | [] => [[c]]

namespace Cursor

/-- The start of a text; a text ends at a null character. -/
def ofText (text : String) : Cursor :=
  match lines (text.toList.takeWhile (· != '\x00')) with
  | first :: below => ⟨0, 0, 0, first, below, true⟩
  | [] => ⟨0, 0, 0, [], [], true⟩

def atEnd (c : Cursor) : Bool :=
  c.rest.isEmpty && c.below.isEmpty

/-- Move to the given rest of the line, past other characters than blanks. -/
def move (c : Cursor) (rest : List Char) : Cursor :=
  let count := c.rest.length - rest.length
  { c with column := c.column + count, offset := c.offset + count, rest, fresh := false }

/-- Move to the given rest of the line, past blanks. -/
def skip (c : Cursor) (rest : List Char) : Cursor :=
  { c.move rest with fresh := c.fresh }

/-- Move to the given rest of a line that is some lines below. -/
def moveDown (c : Cursor) (count : Nat) (rest : List Char) (fresh : Bool) : Cursor :=
  match c.below.drop (count - 1) with
  | [] => c.move []
  | line :: below =>
    let passed := (c.below.take (count - 1)).foldl (fun sum line => sum + (line.length + 1)) 0
    let column := line.length - rest.length
    { line := c.line + count, column, rest, below, fresh
      offset := c.offset + c.rest.length + 1 + passed + column }

/-! ## Blanks and comments -/

/-- Go on to the next character that is not blank, or to the end of the line if a comment is there.
A comment comes after a blank. The flags say whether a space and whether a tab was passed. -/
def toLineEnd? (c : Cursor) : Option (Cursor × Bool × Bool) :=
  let blanks := c.rest.takeWhile isBlank
  let next := c.skip (c.rest.dropWhile isBlank)
  if next.rest.head? == some '#' then
    if blanks.isEmpty then none else some (next.skip [], blanks.contains ' ', blanks.contains '\t')
  else some (next, blanks.contains ' ', blanks.contains '\t')

/-- Whether there is a tab among the blanks before a column, with something other than a comment
after it. -/
def hasTabBefore (indent : Int) (column : Nat) : List Char → Bool
  | ' ' :: rest => hasTabBefore indent (column + 1) rest
  | '\t' :: rest =>
    if (column : Int) < indent then
      !((rest.dropWhile isBlank).isEmpty || (rest.dropWhile isBlank).head? == some '#')
    else hasTabBefore indent (column + 1) rest
  | _ => false

/-- Go down to the first line with content, from the lines below. The count says how many lines that
is; without content it is that of the last line. -/
def contentBelow? (indent : Int) (count : Nat) : List (List Char) → Option (Nat × List Char)
  | [] => some (count, [])
  | line :: below =>
    let content := line.dropWhile isBlank
    if hasTabBefore indent 0 line then none
    else if content.isEmpty || content.head? == some '#' then
      contentBelow? indent (count + 1) below
    else some (count + 1, content)

/-- Go on to the next content, over blanks, comments and ends of lines. In a block that is indented,
there may be no tab among the blanks of its indentation. -/
def toContent? (indent : Int) (c : Cursor) : Option Cursor :=
  let content := c.rest.dropWhile isBlank
  if c.fresh && hasTabBefore indent c.column c.rest then none
  else if content.isEmpty || content.head? == some '#' then
    (contentBelow? indent 0 c.below).map fun (count, rest) =>
      if count = 0 then c.skip [] else c.moveDown count rest true
  else some (c.skip content)

end Cursor

end DesignTokens.Yaml
