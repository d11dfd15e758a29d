import DesignTokens.Datum
import DesignTokens.Text.Blank

/-!
# DesignTokens.Ini — sections of entries

A text with lines such as `key = value`, under headings such as `[section]`. All values are texts.

1. **Texts** up to a mark (`Ini.upTo?`), in which a backslash starts an escape.
2. **Sections** (`Ini.Sections`): the entries before the first heading, and those under a heading.
3. **Reading** (`Ini.parse?`).
-/

namespace DesignTokens.Ini

/-! ## Texts -/

/-- The character after a backslash stands for this one; most stand for themselves. -/
def escaped (c : Char) : Char :=
  let others : List (Char × Char) :=
    [('0', '\x00'), ('a', '\x07'), ('b', '\x08'), ('t', '\t'), ('r', '\r'), ('n', '\n')]
  (others.lookup c).getD c

/-- The text up to a mark, with the rest from the mark on. Without a mark there is none, unless the
text may go on to the end. -/
def upTo? (isMark : Char → Bool) (mayEnd : Bool) : List Char → Option (List Char × List Char)
  | [] => if mayEnd then some ([], []) else none
  | ['\\'] => none
  -- The line goes on in the next one.
  | '\\' :: '\n' :: rest => upTo? isMark mayEnd rest
  | '\\' :: 'x' :: a :: b :: c :: d :: rest => do
    let (content, left) ← upTo? isMark mayEnd rest
    some ((← Numeral.char? [a, b, c, d]) :: content, left)
  | '\\' :: c :: rest =>
    if c = 'x' then none
    else (upTo? isMark mayEnd rest).map fun (content, left) => (escaped c :: content, left)
  | c :: rest =>
    if isMark c then some ([], c :: rest)
    else (upTo? isMark mayEnd rest).map fun (content, left) => (c :: content, left)

/-- A text without the white space around it. -/
def trimmed (content : List Char) : String :=
  String.ofList ((content.dropWhile Text.isBlank).reverse.dropWhile Text.isBlank).reverse

def isLineEnd (c : Char) : Bool :=
  c == '\n' || c == '\r'

/-- A value up to the end of its line. It may start with a text in quotes. -/
def value? (line : List Char) : Option (List Char × List Char) :=
  match line.dropWhile fun c => Text.isBlank c && !isLineEnd c with
  | [] => some ([], [])
  | c :: rest =>
    if c = '"' || c = '\x27' then do
      let (quoted, rest) ← upTo? (· == c) false rest
      let (more, rest) ← upTo? isLineEnd true (rest.drop 1)
      some (quoted ++ more, rest)
    else upTo? isLineEnd true (c :: rest)

/-! ## Sections -/

/-- What was read: the entries before the first heading and the sections that are complete, and the
section that is being read. -/
structure Sections where
  complete : Datum.Table
  heading : Option String
  entries : Datum.Table
deriving Repr, Inhabited

namespace Sections

/-- All entries and sections; a section replaces an earlier one with its name. -/
def close (s : Sections) : Datum.Table :=
  match s.heading with
  | some name => s.complete.put name (.table s.entries)
  | none => s.entries

def start (s : Sections) (name : String) : Sections :=
  ⟨s.close, some name, []⟩

/-- Add an entry to the section that is being read. -/
def add (s : Sections) (key value : String) : Sections :=
  { s with entries := s.entries.put key (.text value) }

end Sections

/-! ## Reading -/

/-- Read entries and headings to the end of the text, each of which takes a character. A comment
starts at the start of a line. -/
def read? : Nat → Sections → (lineStart : Bool) → List Char → Option Sections
  | 0, _, _, _ => none
  | _ + 1, s, _, [] => some s
  | fuel + 1, s, lineStart, c :: rest =>
    if Text.isBlank c then read? fuel s (c == '\n') rest
    else if c = ';' || c = '#' then
      if lineStart then read? fuel s true ((rest.dropWhile (· != '\n')).drop 1) else none
    else if c = '[' then do
      let (name, rest) ← upTo? (· == ']') false rest
      read? fuel (s.start (trimmed name)) false (rest.drop 1)
    else do
      let (key, rest) ← upTo? (fun c => c == '=' || c == ':') false (c :: rest)
      let (content, rest) ← value? (rest.drop 1)
      if (trimmed key).isEmpty then none
      else read? fuel (s.add (trimmed key) (trimmed content)) false rest

/-- The table of a text: the entries before the first heading, and a table for each section. -/
def parse? (content : String) : Option Datum.Table :=
  (read? (content.length + 1) ⟨[], none, []⟩ true content.toList).map Sections.close

end DesignTokens.Ini
