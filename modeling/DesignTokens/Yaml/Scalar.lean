import DesignTokens.Number.Numeral
import DesignTokens.Yaml.Cursor

/-!
# DesignTokens.Yaml.Scalar — texts over several lines

A text may go on in the lines below; how their ends are folded depends on the way it is written.

1. **Folding** (`Yaml.folded`): a single end of a line is a blank, and more of them are as many less
   one.
2. **Plain** texts (`Yaml.plain?`) end at a mark.
3. **Quoted** texts (`Yaml.quoted?`) end at their quote.
4. **Blocks** (`Yaml.block?`) end where the lines are indented less.

Each yields the text and the place after it.
-/

namespace DesignTokens.Yaml

/-- What stands for the end of a line and a number of empty lines after it. -/
def folded (empty : Nat) : List Char :=
  if empty = 0 then [' '] else List.replicate empty '\n'

/-- What was read over several lines: the text, the number of lines below the first one, and the
rest of the last one. -/
structure Piece where
  text : List Char
  count : Nat
  rest : List Char
  fresh : Bool
deriving Repr, Inhabited

/-- The place after a piece. -/
def Piece.place (piece : Piece) (start : Cursor) : Cursor :=
  if piece.count = 0 then start.move piece.rest
  else start.moveDown piece.count piece.rest piece.fresh

/-! ## Plain texts -/

/-- Whether a plain text is over at a character. -/
def endsPlain (inFlow : Bool) : List Char → Bool
  | [] => true
  | ':' :: rest => atBlank rest || (inFlow && atFlowMark rest)
  | c :: _ => inFlow && isFlowMark c

/-- Whether no word of a plain text may start with a character. -/
def endsWords (inFlow : Bool) : List Char → Bool
  | '#' :: _ => true
  | '-' :: rest => inFlow && atFlowMark rest
  | _ => false

/-- The words of a plain text in a line, with the blanks between them, and the rest. -/
def plainWords (inFlow afterBlank : Bool) : List Char → List Char × List Char
  | [] => ([], [])
  | c :: rest =>
    if isBlank c then
      match plainWords inFlow true rest with
      | ([], _) => ([], c :: rest)
      | (words, left) => (c :: words, left)
    else if endsPlain inFlow (c :: rest) || (afterBlank && endsWords inFlow (c :: rest)) then
      ([], c :: rest)
    else
      let (words, left) := plainWords inFlow false rest
      (c :: words, left)

/-- A plain text that goes on in the lines below, if they are indented enough. -/
def plainBelow? (inFlow : Bool) (indent : Int) (text : List Char) (count empty : Nat) :
    List (List Char) → Option Piece
  | [] => some ⟨text, count, [], true⟩
  | line :: below =>
    let content := line.dropWhile isBlank
    let column : Int := line.length - content.length
    if Cursor.hasTabBefore indent 0 line then none
    else if content.isEmpty then plainBelow? inFlow indent text (count + 1) (empty + 1) below
    else if (!inFlow && column < indent) || atDocumentMarker line then
      some ⟨text, count + 1, content, true⟩
    else match plainWords inFlow true content with
      | ([], _) => some ⟨text, count + 1, content, true⟩
      | (words, left) =>
        let text := text ++ folded empty ++ words
        if left.all isBlank then plainBelow? inFlow indent text (count + 1) 0 below
        else some ⟨text, count + 1, left, false⟩

/-- A plain text; a block around it has the given indentation. -/
def plain? (inFlow : Bool) (indent : Int) (start : Cursor) : Option (String × Cursor) :=
  if inFlow && (start.column : Int) < indent + 1 then none
  else match plainWords inFlow true start.rest with
    | ([], _) => none
    | (words, left) =>
      let piece? :=
        if left.all isBlank then plainBelow? inFlow (indent + 1) words 0 0 start.below
        else some ⟨words, 0, left, false⟩
      piece?.map fun piece => (String.ofList piece.text, piece.place start)

/-! ## Quoted texts -/

inductive LineEnd where
  | closed (rest : List Char)
  | broken
  /-- After a backslash, the end of the line does not count. -/
  | joined
deriving Repr, Inhabited

/-- A line of a text in single quotes, in which two of them stand for one. -/
def singleQuoted : List Char → List Char × LineEnd
  | [] => ([], .broken)
  | '\x27' :: '\x27' :: rest =>
    let (chars, ending) := singleQuoted rest
    ('\x27' :: chars, ending)
  | '\x27' :: rest => ([], .closed rest)
  | c :: rest =>
    if isBlank c && rest.all isBlank then ([], .broken)
    else
      let (chars, ending) := singleQuoted rest
      (c :: chars, ending)

/-- The character after a backslash that stands for another one. -/
def escaped? (c : Char) : Option Char :=
  [('0', '\x00'), ('a', '\x07'), ('b', '\x08'), ('t', '\t'), ('\t', '\t'), ('n', '\n'),
    ('v', '\x0b'), ('f', '\x0c'), ('r', '\r'), ('e', '\x1b'), (' ', ' '), ('"', '"'), ('/', '/'),
    ('\\', '\\'), ('N', '\u0085'), ('_', '\u00a0'), ('L', '\u2028'), ('P', '\u2029')].lookup c

/-- A line of a text in double quotes, in which a backslash starts an escape. -/
def doubleQuoted? : List Char → Option (List Char × LineEnd)
  | [] => some ([], .broken)
  | '"' :: rest => some ([], .closed rest)
  | ['\\'] => some ([], .joined)
  | '\\' :: 'x' :: a :: b :: rest => do
    let (chars, ending) ← doubleQuoted? rest
    some ((← Numeral.char? [a, b]) :: chars, ending)
  | '\\' :: 'u' :: a :: b :: c :: d :: rest => do
    let (chars, ending) ← doubleQuoted? rest
    some ((← Numeral.char? [a, b, c, d]) :: chars, ending)
  | '\\' :: 'U' :: a :: b :: c :: d :: e :: f :: g :: h :: rest => do
    let (chars, ending) ← doubleQuoted? rest
    some ((← Numeral.char? [a, b, c, d, e, f, g, h]) :: chars, ending)
  | '\\' :: c :: rest => do
    let (chars, ending) ← doubleQuoted? rest
    some ((← escaped? c) :: chars, ending)
  | c :: rest =>
    if isBlank c && rest.all isBlank then some ([], .broken)
    else (doubleQuoted? rest).map fun (chars, ending) => (c :: chars, ending)

/-- A quoted text that goes on in the lines below, after the end of a line that counts or does
not. -/
def quotedBelow? (quoted? : List Char → Option (List Char × LineEnd)) (indent : Int)
    (text : List Char) (counts : Bool) (count empty : Nat) : List (List Char) → Option Piece
  | [] => none
  | line :: below =>
    let content := line.dropWhile isBlank
    let column : Int := line.length - content.length
    if ((line.takeWhile isBlank).take indent.toNat).contains '\t' then none
    else if content.isEmpty then
      quotedBelow? quoted? indent text counts (count + 1) (empty + 1) below
    else if column < indent || atDocumentMarker line then none
    else
      let text := text ++ if counts then folded empty else List.replicate empty '\n'
      match quoted? content with
      | some (more, .closed rest) => some ⟨text ++ more, count + 1, rest, false⟩
      | some (more, .broken) =>
        quotedBelow? quoted? indent (text ++ more) true (count + 1) 0 below
      | some (more, .joined) =>
        quotedBelow? quoted? indent (text ++ more) false (count + 1) 0 below
      | none => none

/-- A quoted text, after the quote that opens it. -/
def quoted? (double : Bool) (indent : Int) (start : Cursor) : Option (String × Cursor) :=
  let quotedLine? := if double then doubleQuoted? else fun line => some (singleQuoted line)
  let piece? : Option Piece := match quotedLine? start.rest with
    | some (chars, .closed rest) => some ⟨chars, 0, rest, false⟩
    | some (chars, .broken) => quotedBelow? quotedLine? indent chars true 0 0 start.below
    | some (chars, .joined) => quotedBelow? quotedLine? indent chars false 0 0 start.below
    | none => none
  piece?.map fun piece => (String.ofList piece.text, piece.place start)

/-! ## Blocks -/

/-- What is kept of the ends of lines at the end of a block: none, the first one, or all. -/
inductive Chomping where
  | strip
  | clip
  | keep
deriving Repr, DecidableEq, Inhabited

/-- The chomping that a character says. -/
def chomping? : Char → Option Chomping
  | '+' => some .keep
  | '-' => some .strip
  | _ => none

/-- The additional indentation that a character says. -/
def increment? (c : Char) : Option Nat :=
  (Numeral.digit? 10 c).filter (0 < ·)

/-- The chomping and the additional indentation that the start of a block says, and the rest of its
line. -/
def blockHeader (line : List Char) : Chomping × Option Nat × List Char :=
  match line with
  | [] => (.clip, none, [])
  | first :: rest =>
    match chomping? first, increment? first with
    | some chomping, _ =>
      match rest.head?.bind increment? with
      | some n => (chomping, some n, rest.drop 1)
      | none => (chomping, none, rest)
    | none, some n =>
      match rest.head?.bind chomping? with
      | some chomping => (chomping, some n, rest.drop 1)
      | none => (.clip, some n, rest)
    | none, none => (.clip, none, line)

/-- What was read of a block. -/
structure Block where
  /-- The text so far; `none` before the first line with content. -/
  text : Option (List Char)
  /-- The number of empty lines since then. -/
  empty : Nat
  /-- Whether the end of the last line with content was read. -/
  broken : Bool
  /-- Whether the last line with content starts with a blank. -/
  blank : Bool
  /-- Whether the text ended in a line of the block. -/
  ended : Bool
deriving Repr, Inhabited

namespace Block

/-- Add a line with content. A literal block keeps the ends of lines, and so does any block before
and after a line that starts with a blank. -/
def add (b : Block) (literal : Bool) (line : List Char) : Block :=
  let blank := !line.isEmpty && atBlank line
  let between :=
    if !literal && b.broken && !b.blank && !blank then folded b.empty
    else List.replicate (b.empty + if b.broken then 1 else 0) '\n'
  { text := some (b.text.getD [] ++ between ++ line)
    empty := 0, broken := false, blank, ended := false }

/-- The text of a block. -/
def finish (b : Block) (chomping : Chomping) (atEnd : Bool) : List Char :=
  match b.text with
  | none =>
    match chomping with
    | .strip => []
    | .clip => if atEnd then ['\n'] else []
    | .keep => List.replicate (if atEnd then max b.empty 1 else b.empty) '\n'
  | some chars =>
    let last := (if b.broken then ['\n'] else []) ++ (if b.ended then ['\n'] else [])
    match chomping with
    | .strip => chars
    | .clip => chars ++ last
    | .keep => chars ++ last ++ List.replicate b.empty '\n'

end Block

/-- A line without blanks at its start, as many as given at most. -/
def dropIndent : Nat → List Char → List Char
  | n + 1, ' ' :: rest => dropIndent n rest
  | _, line => line

/-- The lines of a block with the given indentation, the number of lines, and the rest of the last
one. -/
def blockBelow (literal : Bool) (indent : Nat) (b : Block) (count : Nat) :
    List (List Char) → Block × Nat × List Char
  | [] => (b, count, [])
  | line :: below =>
    let content := dropIndent indent line
    let column := line.length - content.length
    if content.isEmpty then
      if below.isEmpty then ({ b with ended := max indent 1 ≤ column }, count + 1, [])
      else blockBelow literal indent { b with empty := b.empty + 1 } (count + 1) below
    else if column < indent then (b, count + 1, content)
    else if below.isEmpty then ({ b.add literal content with ended := true }, count + 1, [])
    else blockBelow literal indent { b.add literal content with broken := true } (count + 1) below

/-- The indentation of the lines up to the first one that is not empty, the largest of them. -/
def blockIndent : List (List Char) → Nat
  | [] => 0
  | line :: below =>
    let content := line.dropWhile (· == ' ')
    let column := line.length - content.length
    if content.isEmpty then max column (blockIndent below) else column

/-- A block, after the mark that opens it; a block around it has the given indentation. -/
def block? (literal : Bool) (around : Int) (start : Cursor) : Option (String × Cursor) := do
  let (chomping, increment, rest) := blockHeader start.rest
  let (header, _) ← (start.move rest).toLineEnd?
  if !header.rest.isEmpty then none
  match header.below with
  | [] => some ("", header)
  | first :: _ =>
    if first.head? == some '\t' then none
    let indent := match increment with
      | some n => (max around 0).toNat + n
      | none => max (blockIndent header.below) (around + 1).toNat
    let (b, count, rest) := blockBelow literal indent ⟨none, 0, false, false, false⟩ 0 header.below
    let place := header.moveDown count rest true
    -- A first line that is indented too little for the block, but more than what is around it.
    if b.text.isNone && !place.atEnd && around < (place.column : Int) then none
    else some (String.ofList (b.finish chomping place.atEnd), place)

end DesignTokens.Yaml
