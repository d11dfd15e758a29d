import DesignTokens.Yaml.Scalar

/-!
# DesignTokens.Yaml.Token — the tokens of a YAML text

1. **Tokens** (`Yaml.Token`): marks, texts, names and tags, and the starts and ends of what is
   nested by indentation.
2. **Levels** (`Yaml.Level`): the columns that open blocks start at.
3. **Keys**: that a text was a key is known when a colon comes after it; until then its place among
   the tokens is kept (`Yaml.PossibleKey`).
4. **Scanning** (`Yaml.Token.scan?`).
-/

namespace DesignTokens.Yaml

inductive Token where
  /-- A directive with a version. -/
  | version
  /-- A directive that says what a handle of tags stands for; other directives have none. -/
  | handle (name meaning : String)
  | documentStart
  | documentEnd
  | listStart
  | tableStart
  /-- The end of a list or a table that is nested by indentation. -/
  | blockEnd
  | bracketOpen
  | bracketClose
  | braceOpen
  | braceClose
  | comma
  | item
  | key
  | value
  | alias (name : String)
  | anchor (name : String)
  | tag (handle name : String)
  | scalar (plain : Bool) (text : String)
deriving Repr, DecidableEq, Inhabited

/-- An open level of indentation; one that is no block is made by the value of a key or an item. -/
structure Level where
  column : Int
  isBlock : Bool
deriving Repr, Inhabited

/-- A place among the tokens that a key may start at. -/
structure PossibleKey where
  /-- The number of tokens before it. -/
  position : Nat
  line : Nat
  column : Nat
  offset : Nat
  /-- Whether nothing else than a key may be there. -/
  required : Bool
deriving Repr, Inhabited

structure Scan where
  place : Cursor
  /-- The tokens so far, in reverse. -/
  tokens : List Token
  /-- The open levels, the innermost one first. -/
  levels : List Level
  /-- Whether a key may start here. -/
  keyAllowed : Bool
  key : Option PossibleKey
  /-- The keys that may be around the open brackets; `true` stands for a brace. -/
  outer : List (Bool × Option PossibleKey)
  /-- Where a colon may touch what comes after it. -/
  adjacent : Option Nat
deriving Repr, Inhabited

namespace Scan

/-! ## Levels -/

def inFlow (s : Scan) : Bool :=
  !s.outer.isEmpty

def indent (s : Scan) : Int :=
  match s.levels with
  | level :: _ => level.column
  | [] => -1

def push (s : Scan) (token : Token) : Scan :=
  { s with tokens := token :: s.tokens }

/-- Add tokens at a place among those before. -/
def insertAt (s : Scan) (position : Nat) (tokens : List Token) : Scan :=
  let since := s.tokens.length - position
  { s with tokens := s.tokens.take since ++ tokens.reverse ++ s.tokens.drop since }

/-- Close the levels beyond a column, and end their blocks. -/
def closeLevels (column : Int) : List Level → List Token → List Level × List Token
  | level :: rest, tokens =>
    if column < level.column then
      closeLevels column rest (if level.isBlock then .blockEnd :: tokens else tokens)
    else (level :: rest, tokens)
  | [], tokens => ([], tokens)

/-- Close the levels beyond a column; between brackets, columns do not matter. -/
def unroll (s : Scan) (column : Int) : Scan :=
  if s.inFlow then s
  else
    let (levels, tokens) := closeLevels column s.levels s.tokens
    { s with levels, tokens }

/-- Close the innermost levels that are no blocks. -/
def unrollToBlock (s : Scan) : Scan :=
  { s with levels := s.levels.dropWhile (!·.isBlock) }

/-- Open a block at a column if it is not open, with a token at a place among those before. -/
def roll (s : Scan) (column : Nat) (position : Nat) (token : Token) : Scan :=
  if s.inFlow then s
  else
    let levels := match s.levels with
      | level :: rest => if level.column ≤ column && !level.isBlock then rest else s.levels
      | [] => []
    let s := { s with levels }
    if s.indent < (column : Int) then
      { s.insertAt position [token] with levels := ⟨column, true⟩ :: levels }
    else s

/-- Open a level for a value in a block, which is indented by one column at least. -/
def rollValue (s : Scan) : Scan :=
  match s.levels with
  | level :: _ =>
    if !s.inFlow && level.isBlock then { s with levels := ⟨level.column + 1, false⟩ :: s.levels }
    else s
  | [] => s

/-! ## Keys -/

/-- Give up the possible key. -/
def dropKey? (s : Scan) : Option Scan :=
  match s.key with
  | some key => if key.required then none else some { s with key := none }
  | none => some s

/-- Give up a possible key that is in a line above or too far away, unless between brackets. -/
def dropStaleKey? (s : Scan) : Option Scan :=
  match s.key with
  | some key =>
    if !s.inFlow && (key.line < s.place.line || key.offset + 1024 < s.place.offset) then s.dropKey?
    else some s
  | none => some s

/-- Keep the place if a key may start here. -/
def saveKey? (s : Scan) : Option Scan :=
  if s.keyAllowed then
    let required := !s.inFlow && s.indent == (s.place.column : Int) &&
      (s.levels.head?.map (·.isBlock)).getD false
    s.dropKey?.map fun s =>
      { s with key := some {
          position := s.tokens.length, line := s.place.line, column := s.place.column
          offset := s.place.offset, required } }
  else some s

/-- Go on to the next content; in a new line a key may start. -/
def toContent? (s : Scan) : Option Scan :=
  (s.place.toContent? s.indent).map fun place =>
    { s with place, keyAllowed := s.keyAllowed || (!s.inFlow && s.place.line < place.line) }

/-- Go on to the next content in the line. -/
def toLineEnd? (s : Scan) : Option Scan :=
  s.place.toLineEnd?.map fun (place, _) => { s with place }

/-! ## Directives and documents -/

/-- The words of a line up to a comment. -/
def words (line : List Char) : List String :=
  let blankOrNot := fun (parts : List (List Char)) c =>
    if isBlank c then [] :: parts
    else match parts with
      | part :: rest => (c :: part) :: rest
      | [] => [[c]]
  let parts := ((line.foldl blankOrNot [[]]).reverse.map List.reverse).filter (!·.isEmpty)
  (parts.takeWhile (·.head? != some '#')).map String.ofList

/-- The version of a directive: two numbers with a point between them. -/
def isVersion (word : String) : Bool :=
  match Numeral.cutAt (· == '.') word.toList with
  | (major, some minor) => [major, minor].all fun digits =>
    (Numeral.value? 10 digits).isSome && digits.length ≤ 9
  | _ => false

/-- A character of the name of a directive or a handle. -/
def isNameChar (c : Char) : Bool :=
  c.isAlphanum || c == '-' || c == '_'

/-- Whether a text is a handle of tags. -/
def isHandle (word : String) : Bool :=
  match word.toList with
  | ['!'] => true
  | '!' :: rest => rest.getLast? == some '!' && rest.dropLast.all isNameChar
  | _ => false

/-- The token of a directive, of which the words are given. -/
def directive? (line : List Char) : Option Token :=
  let name := String.ofList (line.takeWhile isNameChar)
  let rest := line.dropWhile isNameChar
  if name.isEmpty || !atBlank rest then none
  else if name = "YAML" then
    match words rest with
    | [word] => if isVersion word then some .version else none
    | _ => none
  else if name = "TAG" then
    match words rest with
    | [handle, meaning] => if isHandle handle then some (.handle handle meaning) else none
    | _ => none
  else some (.handle "" "")

/-- Close all levels at the start of a line that does not belong to a document. -/
def leaveBlocks? (s : Scan) : Option Scan :=
  (s.unroll (-1)).dropKey?.map fun s => { s with keyAllowed := false }

/-- Take a directive. -/
def directiveLine? (s : Scan) : Option Scan := do
  let s ← s.leaveBlocks?
  let token ← directive? (s.place.rest.drop 1)
  some { s.push token with place := s.place.move [] }

/-- Take the start or the end of a document; after the end there may be nothing else in the
line. -/
def documentMarker? (s : Scan) (token : Token) : Option Scan := do
  let s ← s.leaveBlocks?
  let s := { s.push token with place := s.place.move (s.place.rest.drop 3) }
  if token == .documentEnd then s.toLineEnd?.filter (·.place.rest.isEmpty) else some s

/-! ## Brackets -/

def openFlow? (s : Scan) (brace : Bool) : Option Scan := do
  let s ← s.saveKey?
  let s := s.rollValue
  if 255 ≤ s.outer.length then none
  let s := { s with
    outer := (brace, s.key) :: s.outer, key := none, keyAllowed := true
    place := s.place.move (s.place.rest.drop 1) }
  (← s.toLineEnd?).push (if brace then .braceOpen else .bracketOpen)

def closeFlow? (s : Scan) (brace : Bool) : Option Scan := do
  let s ← s.dropKey?
  let (key, outer) := match s.outer with
    | (_, key) :: outer => (key, outer)
    | [] => (s.key, [])
  let s := { s with
    key, outer, keyAllowed := false, place := s.place.move (s.place.rest.drop 1) }
  let s ← s.toLineEnd?
  let s := { s with adjacent := if s.inFlow then some s.place.offset else s.adjacent }
  s.push (if brace then .braceClose else .bracketClose)

def comma? (s : Scan) : Option Scan := do
  let s ← s.dropKey?
  let s := { s with keyAllowed := true, place := s.place.move (s.place.rest.drop 1) }
  (← s.toLineEnd?).push .comma

/-! ## Marks of blocks -/

def item? (s : Scan) : Option Scan := do
  if s.inFlow || !s.keyAllowed then none
  let s := { s with place := s.place.move (s.place.rest.drop 1) }
  let s := s.roll (s.place.column - 1) s.tokens.length .listStart
  let (place, _, tab) ← s.place.toLineEnd?
  let s := { s with place }
  if tab && place.rest.head? == some '-' && atBlank (place.rest.drop 1) then none
  let s := if place.rest.isEmpty || atFlowMark place.rest then s.rollValue else s
  let s ← s.dropKey?
  { s with keyAllowed := true }.push .item

/-- Take the mark of a key that is no plain one. -/
def key? (s : Scan) : Option Scan := do
  if !s.inFlow && !s.keyAllowed then none
  let s := s.roll s.place.column s.tokens.length .tableStart
  let s ← s.dropKey?
  let rest := (s.place.rest.drop 1).dropWhile (· == ' ')
  if rest.head? == some '\t' then none
  { s with keyAllowed := !s.inFlow, place := s.place.move rest }.push .key

/-- Whether the innermost bracket is one of a list. -/
def inBracket (s : Scan) : Bool :=
  match s.outer with
  | (brace, _) :: _ => !brace
  | [] => false

def value? (s : Scan) : Option Scan := do
  let start := s.place
  let place := start.move (start.rest.drop 1)
  let (next, space, tab) ← if place.rest.head? == some '\t' then place.toLineEnd?
    else some (place, false, false)
  if tab && !space && (next.rest.head?.map isNameChar).getD false then none
  let s := { s with place := next }
  let s ← match s.key with
    | some key =>
      if s.inBracket && key.line < start.line then none
      else
        let s := s.insertAt key.position [.key]
        some { (s.roll key.column key.position .tableStart).rollValue with
          key := none, keyAllowed := false }
    | none =>
      if s.inFlow then some { s with keyAllowed := false }
      else if !s.keyAllowed then none
      else some (s.roll start.column s.tokens.length .tableStart).rollValue
  s.push .value

/-! ## Names and tags -/

/-- Take an anchor or an alias. -/
def name? (s : Scan) (token : String → Token) : Option Scan := do
  let s ← s.saveKey?
  let isEnd := fun c => isBlank c || isFlowMark c
  let name := (s.place.rest.drop 1).takeWhile (!isEnd ·)
  if name.isEmpty then none
  let place := s.place.move ((s.place.rest.drop 1).dropWhile (!isEnd ·))
  { s with keyAllowed := false, place }.push (token (String.ofList name))

/-- The handle and the name of a tag, after its first mark. -/
def tagOf (text : List Char) : String × String :=
  match text with
  | '<' :: rest => ("", String.ofList rest.dropLast)
  | [] => ("", "!")
  | whole =>
    match Numeral.cutAt (· == '!') whole with
    | (handle, some name) =>
      if handle.all isNameChar then ("!" ++ String.ofList handle ++ "!", String.ofList name)
      else ("!", String.ofList whole)
    | (_, none) => ("!", String.ofList whole)

/-- A character of the name of a tag. -/
def isTagChar (c : Char) : Bool :=
  isNameChar c || "#;/?:@&=+$.~*\x27()%".toList.contains c

def tag? (s : Scan) : Option Scan := do
  let s ← s.saveKey?
  let isEnd := fun c => isBlank c || (isFlowMark c && s.inFlow)
  let text := (s.place.rest.drop 1).takeWhile (!isEnd ·)
  let place := s.place.move ((s.place.rest.drop 1).dropWhile (!isEnd ·))
  let (handle, name) := tagOf text
  let isWhole := if text.head? == some '<' then text.getLast? == some '>'
    else text.isEmpty || name.toList.all isTagChar
  if name.isEmpty || !isWhole then none
  { s with keyAllowed := false, place }.push (.tag handle name)

/-! ## Scalars -/

def plain? (s : Scan) : Option Scan := do
  let s ← s.saveKey?
  let s := s.unrollToBlock
  let (content, place) ← Yaml.plain? s.inFlow s.indent s.place
  { s with keyAllowed := place.fresh, place }.push (.scalar true content)

/-- Take a quoted text; what comes after it in the line is no other text. -/
def quoted? (s : Scan) (double : Bool) : Option Scan := do
  let s ← s.saveKey?
  let start := s.place
  let (content, place) ← Yaml.quoted? double s.indent (start.move (start.rest.drop 1))
  let (place, _) ← place.toLineEnd?
  let ends := match place.rest with
    | [] => true
    | ':' :: _ => s.inFlow || start.line == place.line
    | c :: _ => s.inFlow && (c == ',' || c == ']' || c == '\x7d')
  if !ends then none
  let s ← { s with keyAllowed := false, place }.toContent?
  { s with adjacent := some s.place.offset }.push (.scalar false content)

def block? (s : Scan) (literal : Bool) : Option Scan := do
  let s ← s.saveKey?
  let s := s.unrollToBlock
  let start := s.place.move (s.place.rest.drop 1)
  let (content, place) ← Yaml.block? literal s.indent start
  { s with keyAllowed := true, place }.push (.scalar false content)

/-! ## Scanning -/

/-- Take the next token, at a character that is not the end of the text. -/
def token? (s : Scan) : Option Scan :=
  let rest := s.place.rest.drop 1
  let blankNext := atBlank rest
  match s.place.rest.head? with
  | none => none
  | some '[' => s.openFlow? false
  | some '\x7b' => s.openFlow? true
  | some ']' => s.closeFlow? false
  | some '\x7d' => s.closeFlow? true
  | some ',' => s.comma?
  | some '*' => s.name? .alias
  | some '&' => s.name? .anchor
  | some '!' => s.tag?
  | some '\x27' => s.quoted? false
  | some '"' => s.quoted? true
  | some '-' => if blankNext then s.item? else s.plain?
  | some '?' => if blankNext then s.key? else s.plain?
  | some ':' =>
    if blankNext || (s.inFlow && (atFlowMark rest || s.adjacent == some s.place.offset)) then
      s.value?
    else s.plain?
  | some '|' => if s.inFlow then s.plain? else s.block? true
  | some '>' => if s.inFlow then s.plain? else s.block? false
  | some c => if c == '%' || c == '@' || c == '\x60' then none else s.plain?

/-- Take the next token, at some content. -/
def next? (s : Scan) : Option Scan := do
  let s := (← s.dropStaleKey?).unroll s.place.column
  let atStart := s.place.column = 0
  if atStart && s.place.rest.head? == some '%' then s.directiveLine?
  else if atStart && atMarker '-' s.place.rest then s.documentMarker? .documentStart
  else if atStart && atMarker '.' s.place.rest then s.documentMarker? .documentEnd
  else if (s.place.column : Int) < s.indent then none
  else s.token?

/-- Take the tokens up to the end of the text, of which each takes a character. -/
def run? : Nat → Scan → Option (List Token)
  | 0, _ => none
  | fuel + 1, s => do
    let s ← s.toContent?
    if s.place.atEnd then
      some (← ((← s.dropStaleKey?).unroll (-1)).dropKey?).tokens.reverse
    else run? fuel (← s.next?)

end Scan

/-- The tokens of a text; `none` if some part of it is no token. -/
def Token.scan? (text : String) : Option (List Token) :=
  Scan.run? (text.length + 1) {
    place := .ofText text, tokens := [], levels := [], keyAllowed := true, key := none, outer := []
    adjacent := none }

end DesignTokens.Yaml
