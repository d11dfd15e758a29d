import DesignTokens.Toml.Basic

/-!
# DesignTokens.Toml.Token — the tokens of a TOML text

1. **Tokens** (`Toml.Token`): brackets, separators, line ends, strings and bare words. A bare word
   may be a key, several keys with dots between them, or a value; which it is depends on its place.
2. **Scanning** (`Toml.Token.scan`): a machine that takes one character at a time.
-/

namespace DesignTokens.Toml

/-- A token of a TOML text. A square bracket is tight if another one of its kind is right before
it. -/
inductive Token where
  | arrayOpen (tight : Bool)
  | arrayClose (tight : Bool)
  | tableOpen
  | tableClose
  | equals
  | comma
  | newline
  | word (text : List Char)
  /-- A string; one in three quotes is a block. -/
  | text (value : String) (block : Bool)
deriving Repr, Inhabited

namespace Token

/-! ## Modes -/

/-- How a string is written: its quote, and whether there are three. -/
structure Style where
  quote : Char
  block : Bool
deriving Repr, DecidableEq, Inhabited

/-- Where the scanner is. The characters read so far are kept in reverse. -/
inductive Mode where
  /-- Between tokens. -/
  | between
  | comment
  /-- After a carriage return, between tokens or in a comment. -/
  | carriage
  | word (read : List Char)
  /-- After a date and a blank. -/
  | gap (read : List Char)
  /-- After one or two quotes. -/
  | opening (quote : Char) (count : Nat)
  /-- After the three quotes that open a block; a line end right there is left out. -/
  | blockStart (quote : Char)
  | blockStartCarriage (quote : Char)
  /-- In a string, after a run of its quotes. -/
  | text (style : Style) (read : List Char) (run : Nat)
  /-- After a carriage return in a block. -/
  | blockCarriage (style : Style) (read : List Char)
  /-- After a backslash. -/
  | escape (style : Style) (read : List Char)
  /-- In an escape of several digits, of which some are left. -/
  | unicode (style : Style) (read : List Char) (left value : Nat)
  /-- In the blanks after a backslash that ends a line. -/
  | fold (style : Style) (read : List Char) (ended : Bool)
  | foldCarriage (style : Style) (read : List Char)
deriving Repr, Inhabited

/-- The scanner's state: the tokens so far, in reverse, its mode, and the character before. -/
structure Scan where
  tokens : List Token
  mode : Mode
  previous : Option Char
deriving Repr, Inhabited

abbrev Next := List Token × Mode

/-! ## Between tokens -/

/-- A character that may stand in a bare word. -/
def isWordChar (c : Char) : Bool :=
  c.isAlphanum || c == '_' || c == '-' || c == '+' || c == '.' || c == ':'

/-- A control character, which may not stand in a text as it is; a tab may. -/
def isControl (c : Char) : Bool :=
  (c < ' ' && c != '\t') || c == '\x7f'

/-- Take a character between tokens. -/
def start (tokens : List Token) (previous : Option Char) (c : Char) : Option Next :=
  match c with
  | '[' => some (.arrayOpen (previous == some '[') :: tokens, .between)
  | ']' => some (.arrayClose (previous == some ']') :: tokens, .between)
  | '\x7b' => some (.tableOpen :: tokens, .between)
  | '\x7d' => some (.tableClose :: tokens, .between)
  | '=' => some (.equals :: tokens, .between)
  | ',' => some (.comma :: tokens, .between)
  | '\n' => some (.newline :: tokens, .between)
  | '\r' => some (tokens, .carriage)
  | '#' => some (tokens, .comment)
  | '"' => some (tokens, .opening '"' 1)
  | '\x27' => some (tokens, .opening '\x27' 1)
  | ' ' => some (tokens, .between)
  | '\t' => some (tokens, .between)
  | c => if isWordChar c then some (tokens, .word [c]) else none

/-- Whether a word, in reverse, has the shape of a date. -/
def isDateShape (read : List Char) : Bool :=
  match read with
  | [d2, d1, '-', m2, m1, '-', y4, y3, y2, y1] =>
    [y1, y2, y3, y4, m1, m2, d1, d2].all Char.isDigit
  | _ => false

/-! ## Strings -/

def addQuotes (style : Style) (count : Nat) (read : List Char) : List Char :=
  List.replicate count style.quote ++ read

/-- The string of the characters read. -/
def closing (style : Style) (read : List Char) : Token :=
  .text (String.ofList read.reverse) style.block

/-- Take a character in a string that is not its quote. -/
def inText (style : Style) (read : List Char) (c : Char) : Option Mode :=
  if c = '\\' && style.quote = '"' then some (.escape style read)
  else if c = '\n' && style.block then some (.text style ('\n' :: read) 0)
  else if c = '\r' && style.block then some (.blockCarriage style read)
  else if isControl c then none
  else some (.text style (c :: read) 0)

/-- Take the quote of a string, after a run of its quotes. -/
def atQuote (tokens : List Token) (style : Style) (read : List Char) (run : Nat) : Next :=
  if !style.block then (closing style read :: tokens, .between)
  -- The fifth quote in a run: three close the block, and the two before them are in it.
  else if run = 4 then (closing style (addQuotes style 2 read) :: tokens, .between)
  else (tokens, .text style read (run + 1))

/-- The character after a backslash that stands for another one. -/
def simpleEscape? (c : Char) : Option Char :=
  match c with
  | 'b' => some '\x08'
  | 't' => some '\t'
  | 'n' => some '\n'
  | 'f' => some '\x0c'
  | 'r' => some '\r'
  | '"' => some '"'
  | '\\' => some '\\'
  | _ => none

def atEscape (style : Style) (read : List Char) (c : Char) : Option Mode :=
  if c = 'u' then some (.unicode style read 4 0)
  else if c = 'U' then some (.unicode style read 8 0)
  else match simpleEscape? c with
    | some e => some (.text style (e :: read) 0)
    | none =>
      if !style.block then none
      else if c = '\n' then some (.fold style read true)
      else if c = '\r' then some (.foldCarriage style read)
      else if c = ' ' || c = '\t' then some (.fold style read false)
      else none

def atUnicode (style : Style) (read : List Char) (left value : Nat) (c : Char) : Option Mode :=
  (Numeral.digit? 16 c).bind fun digit =>
    let value := value * 16 + digit
    if 1 < left then some (.unicode style read (left - 1) value)
    else if value.isValidChar then some (.text style (Char.ofNat value :: read) 0)
    else none

/-- Take a character after a backslash that ends a line. -/
def atFold (style : Style) (read : List Char) (ended : Bool) (c : Char) : Option Mode :=
  if c = ' ' || c = '\t' then some (.fold style read ended)
  else if c = '\n' then some (.fold style read true)
  else if c = '\r' then some (.foldCarriage style read)
  else if !ended then none
  else if c = style.quote then some (.text style read 1)
  else inText style read c

/-! ## Scanning -/

/-- The tokens and the mode after one character; `none` if the text cannot be TOML. -/
def next (s : Scan) (c : Char) : Option Next :=
  let stay (mode : Option Mode) : Option Next := mode.map (s.tokens, ·)
  match s.mode with
  | .between => start s.tokens s.previous c
  | .comment =>
    if c = '\n' then some (.newline :: s.tokens, .between)
    else if c = '\r' then some (s.tokens, .carriage)
    else if isControl c then none
    else some (s.tokens, .comment)
  | .carriage => if c = '\n' then some (.newline :: s.tokens, .between) else none
  | .word read =>
    if isWordChar c then some (s.tokens, .word (c :: read))
    -- After a date, a blank may lead to the time of day.
    else if c = ' ' && isDateShape read then some (s.tokens, .gap read)
    else start (.word read.reverse :: s.tokens) none c
  | .gap read =>
    if c.isDigit then some (s.tokens, .word (c :: ' ' :: read))
    else start (.word read.reverse :: s.tokens) none c
  | .opening quote count =>
    if c = quote then
      if count = 1 then some (s.tokens, .opening quote 2) else some (s.tokens, .blockStart quote)
    else if count = 2 then start (.text "" false :: s.tokens) none c
    else stay (inText ⟨quote, false⟩ [] c)
  | .blockStart quote =>
    if c = '\n' then some (s.tokens, .text ⟨quote, true⟩ [] 0)
    else if c = '\r' then some (s.tokens, .blockStartCarriage quote)
    else if c = quote then some (s.tokens, .text ⟨quote, true⟩ [] 1)
    else stay (inText ⟨quote, true⟩ [] c)
  | .blockStartCarriage quote =>
    if c = '\n' then some (s.tokens, .text ⟨quote, true⟩ [] 0) else none
  | .text style read run =>
    if c = style.quote then some (atQuote s.tokens style read run)
    else if 3 ≤ run then start (closing style (addQuotes style (run - 3) read) :: s.tokens) none c
    else stay (inText style (addQuotes style run read) c)
  | .blockCarriage style read =>
    if c = '\n' then stay (some (.text style ('\n' :: read) 0)) else none
  | .escape style read => stay (atEscape style read c)
  | .unicode style read left value => stay (atUnicode style read left value c)
  | .fold style read ended => stay (atFold style read ended c)
  | .foldCarriage style read => if c = '\n' then stay (some (.fold style read true)) else none

def Scan.step (s : Scan) (c : Char) : Option Scan :=
  (next s c).map fun (tokens, mode) => ⟨tokens, mode, some c⟩

/-- The tokens at the end of the text. -/
def Scan.finish (s : Scan) : Option (List Token) :=
  match s.mode with
  | .between => some s.tokens.reverse
  | .comment => some s.tokens.reverse
  | .word read => some (.word read.reverse :: s.tokens).reverse
  | .gap read => some (.word read.reverse :: s.tokens).reverse
  | .opening _ 2 => some (.text "" false :: s.tokens).reverse
  | .text style read run =>
    if 3 ≤ run then some (closing style (addQuotes style (run - 3) read) :: s.tokens).reverse
    else none
  | _ => none

/-- The tokens of a text; a byte order mark at its start is left out. -/
def scan (text : String) : Option (List Token) :=
  let chars := match text.toList with
    | '\ufeff' :: rest => rest
    | chars => chars
  (chars.foldlM Scan.step ⟨[], .between, none⟩).bind Scan.finish

end Token

end DesignTokens.Toml
