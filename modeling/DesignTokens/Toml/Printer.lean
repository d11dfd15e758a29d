import DesignTokens.Json.Basic
import DesignTokens.Number.Decimal

/-!
# DesignTokens.Toml.Printer — JSON members as TOML text

Objects become tables, each with its own header: first the values of a table, then the tables in it.
A table without values of its own needs no header, unless it is empty. An array of objects becomes
an array of tables; inside of other arrays, objects become inline tables.

1. **Strings** (`Toml.quoted`): between the quotes that save escapes.
2. **Values** (`Toml.inlineText`): an array with more than one item has each on a line of its own.
3. **Sections** (`Toml.Section`) and texts (`Toml.render?`). There is no way to write null, or an
   integer of more than 64 bits.
-/

namespace DesignTokens.Toml

/-! ## Strings -/

/-- A control character other than a tab or a line end. -/
def needsEscape (c : Char) : Bool :=
  (c < ' ' && c != '\t' && c != '\n') || c == '\x7f'

def longestRun (mark : Char) : (run longest : Nat) → List Char → Nat
  | _, longest, [] => longest
  | run, longest, c :: rest =>
    if c = mark then longestRun mark (run + 1) (max longest (run + 1)) rest
    else longestRun mark 0 longest rest

/-- What stands between quotes: a text with the quote and the backslash escaped, or as it
stands; on one line, or as a block in three quotes. -/
structure Quoting where
  escaped : Bool
  block : Bool
deriving Repr, DecidableEq, Inhabited

/-- How a text is written: the first way of four in which it needs no escape, or else with escapes.
In a block up to two quotes in a row need none. -/
def quotingOf (chars : List Char) : Quoting :=
  let coded := chars.any needsEscape
  let lines := chars.contains '\n'
  let backslash := chars.contains '\\'
  let quotes := longestRun '"' 0 0 chars
  let apostrophes := longestRun '\x27' 0 0 chars
  if !coded && !lines && !backslash && quotes = 0 then ⟨true, false⟩
  else if !coded && !lines && apostrophes = 0 then ⟨false, false⟩
  else if !coded && !backslash && quotes ≤ 2 then ⟨true, true⟩
  else if !coded && apostrophes ≤ 2 then ⟨false, true⟩
  else ⟨true, lines⟩

/-- How a key is written, which has one line. -/
def keyQuoting (chars : List Char) : Quoting :=
  let coded := chars.any fun c => needsEscape c || c == '\n'
  if !coded && !chars.contains '\\' && !chars.contains '"' then ⟨true, false⟩
  else ⟨coded || chars.contains '\x27', false⟩

/-- The four digits of a character to the base sixteen. -/
def hexDigits (c : Char) : List Char :=
  [12, 8, 4, 0].map fun shift => (Nat.digitChar (c.toNat >>> shift % 16)).toUpper

/-- The escape of a character other than the quote, if it needs one. -/
def escape? (block : Bool) (c : Char) : Option (List Char) :=
  match c with
  | '\x08' => some ['\\', 'b']
  | '\t' => some ['\\', 't']
  | '\n' => if block then none else some ['\\', 'n']
  | '\x0c' => some ['\\', 'f']
  | '\r' => some ['\\', 'r']
  | '\\' => some ['\\', '\\']
  | c => if needsEscape c then some ('\\' :: 'u' :: hexDigits c) else none

/-- A text with escapes, after a run of quotes that stand as they are. -/
def escapeFrom (block : Bool) (run : Nat) : List Char → List Char
  | [] => []
  | c :: rest =>
    if c = '"' then
      -- One more quote would end the text.
      if (if block then 2 else 0) ≤ run then '\\' :: '"' :: escapeFrom block 0 rest
      else '"' :: escapeFrom block (run + 1) rest
    else (escape? block c).getD [c] ++ escapeFrom block 0 rest

/-- A text between quotes; a block with several lines starts on a line of its own. -/
def Quoting.write (style : Quoting) (chars : List Char) : String :=
  let quote := if style.escaped then '"' else '\x27'
  let mark := List.replicate (if style.block then 3 else 1) quote
  -- A line end right after the opening quotes is no part of the text.
  let lead := if style.block && chars.contains '\n' then ['\n'] else []
  let body := if style.escaped then escapeFrom style.block 0 chars else chars
  String.ofList (mark ++ lead ++ body ++ mark)

def quoted (content : String) : String :=
  (quotingOf content.toList).write content.toList

/-- A key: letters, digits, hyphens and underscores need no quotes. -/
def keyText (key : String) : String :=
  let chars := key.toList
  let isBare := fun c : Char => c.isAlphanum || c == '_' || c == '-'
  if !chars.isEmpty && chars.all isBare then key else (keyQuoting chars).write chars

/-! ## Values -/

/-- Positional notation, for zero with its sign. -/
def doubleText (x : Double) : String :=
  (if x.negative then "-" else "") ++ x.shortest.positional

def arrayText : List String → String
  | [] => "[]"
  | [item] => "[" ++ item ++ "]"
  | items => "[" ++ String.join (items.map fun item => "\n    " ++ item ++ ",") ++ "\n]"

def inlineTable (entries : List String) : String :=
  if entries.isEmpty then "\x7b\x7d" else "\x7b " ++ String.intercalate ", " entries ++ " \x7d"

mutual

/-- A value on the right of an equals sign. -/
def inlineText : Json → String
  | .null => ""
  | .bool true => "true"
  | .bool false => "false"
  | .int n => toString n
  | .double x => doubleText x
  | .string content => quoted content
  | .array items => arrayText (inlineItems items)
  | .object members => inlineTable (inlineMembers members)

def inlineItems : List Json → List String
  | [] => []
  | x :: rest => inlineText x :: inlineItems rest

def inlineMembers : List (String × Json) → List String
  | [] => []
  | (key, x) :: rest => (keyText key ++ " = " ++ inlineText x) :: inlineMembers rest

end

/-! ## Sections -/

/-- A table with its header, which the whole text does not have, and its own values. -/
structure Section where
  header : Option String
  values : List (String × Json)
  /-- Whether the header is left out if there are no values. -/
  isImplied : Bool
deriving Repr, Inhabited

def isTableArray : Json → Bool
  | .array items => !items.isEmpty && items.all Json.isObject
  | _ => false

/-- The values of a table that do not have a header of their own. -/
def ownValues (members : List (String × Json)) : List (String × Json) :=
  members.filter fun (_, value) => !value.isObject && !isTableArray value

def wayText (way : List String) : String :=
  String.intercalate "." (way.map keyText)

mutual

/-- The sections of a member that has headers of its own. -/
def sectionsOf (way : List String) : Json → List Section
  | .object members =>
    ⟨some ("[" ++ wayText way ++ "]"), ownValues members, !members.isEmpty⟩ ::
      sectionsOfMembers way members
  | .array items => if isTableArray (.array items) then sectionsOfItems way items else []
  | _ => []

def sectionsOfMembers (way : List String) : List (String × Json) → List Section
  | [] => []
  | (key, value) :: rest => sectionsOf (way ++ [key]) value ++ sectionsOfMembers way rest

def sectionsOfItems (way : List String) : List Json → List Section
  | [] => []
  | .object members :: rest =>
    ⟨some ("[[" ++ wayText way ++ "]]"), ownValues members, false⟩ ::
      (sectionsOfMembers way members ++ sectionsOfItems way rest)
  | _ :: rest => sectionsOfItems way rest

end

/-- The lines of the values of a section. -/
def Section.body (s : Section) : String :=
  String.join (s.values.map fun (key, value) => keyText key ++ " = " ++ inlineText value ++ "\n")

/-- The text of a section; the whole text of a table consists of sections. -/
def Section.text (s : Section) : String :=
  match s.header with
  | some header => header ++ "\n" ++ s.body
  | none => s.body

/-- Whether a section is left out. -/
def Section.isHidden (s : Section) : Bool :=
  s.isImplied && s.values.isEmpty

mutual

/-- Whether a value can be written. -/
def isWritable : Json → Bool
  | .null => false
  | .int n => n < Int.pow 2 63
  | .array items => areWritable items
  | .object members => membersWritable members
  | _ => true

def areWritable : List Json → Bool
  | [] => true
  | x :: rest => isWritable x && areWritable rest

def membersWritable : List (String × Json) → Bool
  | [] => true
  | (_, x) :: rest => isWritable x && membersWritable rest

end

/-- The text of a table; `none` if some value cannot be written. -/
def render? (members : Json.Members) : Option String :=
  if membersWritable members then
    let root : Section := ⟨none, ownValues members, true⟩
    let sections := (root :: sectionsOfMembers [] members).filter (!·.isHidden)
    some (String.intercalate "\n" (sections.map Section.text))
  else none

end DesignTokens.Toml
