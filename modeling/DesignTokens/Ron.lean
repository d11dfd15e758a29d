import DesignTokens.Datum.Separated

/-!
# DesignTokens.Ron — a notation with names before parentheses

Beside lists and tables there are groups in parentheses, such as `Crawl(max_documents: 5)`, and
optional values, such as `Some(5)`.

1. **Texts** (`Ron.quoted?`, `Ron.raw?`).
2. **Tokens** (`Ron.token?`).
3. **Words** (`Ron.scalar?`): names and numbers.
4. **Values** (`Ron.parse?`).
-/

namespace DesignTokens.Ron

/-! ## Texts -/

/-- The character of an escape, after its backslash, and the rest. -/
def escape? : List Char → Option (Char × List Char)
  | 'x' :: a :: b :: rest => (Numeral.char? [a, b]).map (·, rest)
  | 'u' :: '\x7b' :: rest =>
    let digits := rest.takeWhile (· != '\x7d')
    match rest.dropWhile (· != '\x7d') with
    | _ :: left => if digits.length ≤ 6 then (Numeral.char? digits).map (·, left) else none
    | [] => none
  | c :: rest =>
    let simple : List (Char × Char) :=
      [('\x27', '\x27'), ('"', '"'), ('\\', '\\'), ('n', '\n'), ('r', '\r'), ('t', '\t'),
        ('0', '\x00')]
    (simple.lookup c).map (·, rest)
  | [] => none

/-- A text up to its quote, and the rest; each character of it takes one. -/
def quoted? : Nat → List Char → Option (List Char × List Char)
  | _ + 1, '"' :: rest => some ([], rest)
  | fuel + 1, '\\' :: rest => do
    let (c, rest) ← escape? rest
    let (content, left) ← quoted? fuel rest
    some (c :: content, left)
  | fuel + 1, c :: rest => (quoted? fuel rest).map fun (content, left) => (c :: content, left)
  | _, _ => none

/-- A character in single quotes, after the first of them, and the rest. -/
def char? : List Char → Option (Char × List Char)
  | '\\' :: rest =>
    match escape? rest with
    | some (c, '\x27' :: left) => some (c, left)
    | _ => none
  | c :: '\x27' :: rest => some (c, rest)
  | _ => none

/-- A text without escapes up to a quote and the marks that it was opened with, and the rest. -/
def rawUpTo? (close : List Char) : List Char → Option (List Char × List Char)
  | [] => none
  | c :: rest =>
    if close.isPrefixOf (c :: rest) then some ([], (c :: rest).drop close.length)
    else (rawUpTo? close rest).map fun (content, left) => (c :: content, left)

/-- A text without escapes, after its first letter, and the rest. -/
def raw? (text : List Char) : Option (List Char × List Char) :=
  let marks := text.takeWhile (· == '#')
  match text.dropWhile (· == '#') with
  | '"' :: rest => rawUpTo? ('"' :: marks) rest
  | _ => none

/-! ## Tokens -/

def isBlank (c : Char) : Bool :=
  c == ' ' || c == '\t' || c == '\n' || c == '\r'

def isMark (c : Char) : Bool :=
  ['\x7b', '\x7d', '[', ']', '(', ')', ':', ',', '#', '!'].contains c

def isWordChar (c : Char) : Bool :=
  c.isAlphanum || c == '_' || c == '.' || c == '+' || c == '-'

/-- The rest after a comment with comments in it, of which some are open. -/
def afterBlock? : Nat → List Char → Option (List Char)
  | depth, '/' :: '*' :: rest => afterBlock? (depth + 1) rest
  | depth, '*' :: '/' :: rest => if depth ≤ 1 then some rest else afterBlock? (depth - 1) rest
  | depth, _ :: rest => afterBlock? depth rest
  | _, [] => none

/-- The rest after a comment, of which the first slash was taken. -/
def afterComment? : List Char → Option (List Char)
  | '/' :: rest => some (rest.dropWhile (· != '\n'))
  | '*' :: rest => afterBlock? 1 rest
  | _ => none

/-- The word at the start of a text, and the rest. -/
def wordToken (text : List Char) : Option Datum.Token × List Char :=
  (some (.word (text.takeWhile isWordChar)), text.dropWhile isWordChar)

/-- The text without escapes at the start of a text, after its first letter, and the rest. -/
def rawToken? (text : List Char) : Option (Option Datum.Token × List Char) :=
  (raw? text).map fun (content, rest) => (some (.quoted (String.ofList content)), rest)

/-- The token at the start of a text, if it is one, and the rest. Empty parentheses are a word. -/
def token? : List Char → Option (Option Datum.Token × List Char)
  | '(' :: ')' :: rest => some (some (.word ['(', ')']), rest)
  | '/' :: rest => (afterComment? rest).map (none, ·)
  | '"' :: rest =>
    (quoted? (rest.length + 1) rest).map fun (content, rest) =>
      (some (.quoted (String.ofList content)), rest)
  | '\x27' :: rest => (char? rest).map fun (c, rest) => (some (.quoted (String.ofList [c])), rest)
  | 'r' :: '"' :: rest => rawToken? ('"' :: rest)
  | 'r' :: '#' :: c :: rest =>
    if isWordChar c then some (wordToken (c :: rest)) else rawToken? ('#' :: c :: rest)
  | c :: rest =>
    if isBlank c then some (none, rest)
    else if isMark c then some (some (.mark c), rest)
    else if isWordChar c then some (wordToken (c :: rest))
    else none
  | [] => none

/-! ## Words -/

def isName (word : List Char) : Bool :=
  word.all (fun c => c.isAlphanum || c == '_') && (word.head?.map (!·.isDigit)).getD false

/-- An integer without a sign, to a base that its start says; underscores in it do not count. -/
def unsigned? (word : List Char) : Option Nat :=
  let (base, digits) := match word with
    | '0' :: 'x' :: rest => (16, rest)
    | '0' :: 'b' :: rest => (2, rest)
    | '0' :: 'o' :: rest => (8, rest)
    | rest => (10, rest)
  if digits.head? == some '_' then none else Numeral.value? base (digits.filter (· != '_'))

/-- An integer; a positive one of 64 bits that does not fit with a sign is a decimal number. -/
def integer? (sign : Option Char) (unsigned : List Char) : Option Datum :=
  (unsigned? unsigned).bind fun n =>
    match Numeral.fits64? (Numeral.signed sign n) with
    | some n => some (.int n)
    | none =>
      if sign.isNone && n < Nat.pow 2 64 then some (.number (Extended.ofInt n)) else none

/-- Whether a word has the characters of a decimal number beyond those of an integer. -/
def isDecimal (unsigned : List Char) : Bool :=
  let decimal := fun (c : Char) =>
    c.isDigit || c == 'e' || c == 'E' || c == '.' || c == '+' || c == '-' || c == '_'
  let whole := fun (c : Char) => Numeral.isDigit 16 c || c == '_'
  (unsigned.takeWhile whole).length < (unsigned.takeWhile decimal).length

def number? (word : List Char) : Option Datum :=
  let (sign, unsigned) := Numeral.splitSign word
  if isDecimal unsigned then
    (Extended.ofUnsigned? (sign == some '-') unsigned).map .number
  else integer? sign unsigned

def scalar? (word : List Char) : Option Datum :=
  let names : List (String × Datum) := [
    ("()", .nothing), ("None", .nothing), ("true", .flag true), ("false", .flag false),
    ("inf", .number (.infinite false)), ("-inf", .number (.infinite true)),
    ("NaN", .number .notANumber)]
  match names.lookup (String.ofList word) with
  | some value => some value
  | none => number? word

/-! ## Values -/

/-- A key of a table, which is a text. -/
def textKey? (value? : Datum.Reading Datum) : Datum.Reading String := fun tokens =>
  match value? tokens with
  | some (.text key, rest) => some (key, rest)
  | _ => none

/-- A key of a group, which is a name. -/
def nameKey? : Datum.Reading String
  | .word name :: rest => if isName name then some (String.ofList name, rest) else none
  | _ => none

/-- A group after its parenthesis: a table if it starts with a name and a colon, or a list. -/
def group? (value? : Datum.Reading Datum) : Datum.Reading Datum := fun tokens =>
  let isTable := match nameKey? tokens with
    | some (_, .mark ':' :: _) => true
    | _ => false
  if isTable then
    (Datum.separated? (Datum.entry? nameKey? value?) ')' tokens).map fun (entries, rest) =>
      (.table (Datum.Table.ofList entries), rest)
  else (Datum.separated? value? ')' tokens).map fun (items, rest) => (.list items, rest)

/-- An optional value after its parenthesis. -/
def optional? (value? : Datum.Reading Datum) : Datum.Reading Datum := fun tokens =>
  match value? tokens with
  | some (value, .mark ')' :: rest) => some (value, rest)
  | some (value, .mark ',' :: .mark ')' :: rest) => some (value, rest)
  | _ => none

/-- A word and what belongs to it. -/
def word? (value? : Datum.Reading Datum) (word : List Char) : Datum.Reading Datum := fun rest =>
  if word = ['S', 'o', 'm', 'e'] then
    match rest with
    | .mark '(' :: rest => optional? value? rest
    | _ => none
  else match scalar? word with
    | some value => some (value, rest)
    | none =>
      if !isName word then none
      else match rest with
        | .mark '(' :: rest => group? value? rest
        | .word ['(', ')'] :: rest => some (.list [], rest)
        | rest => some (.nothing, rest)

/-- A value; the first argument limits how deep it is. -/
def value? : Nat → Datum.Reading Datum
  | 0, _ => none
  | _ + 1, .quoted content :: rest => some (.text content, rest)
  | depth + 1, .word word :: rest => word? (value? depth) word rest
  | depth + 1, .mark '(' :: rest => group? (value? depth) rest
  | depth + 1, .mark '[' :: rest =>
    (Datum.separated? (value? depth) ']' rest).map fun (items, rest) => (.list items, rest)
  | depth + 1, .mark '\x7b' :: rest =>
    (Datum.separated? (Datum.entry? (textKey? (value? depth)) (value? depth)) '\x7d' rest).map
      fun (entries, rest) => (.table (Datum.Table.ofList entries), rest)
  | _ + 1, _ => none

/-- The extensions that may be switched on at the start of a text; they do not matter for values of
unknown kinds. -/
def extensions : List String :=
  ["unwrap_newtypes", "implicit_some", "unwrap_variant_newtypes"]

/-- The tokens after the extensions at the start. -/
def afterExtensions? : Nat → List Datum.Token → Option (List Datum.Token)
  | 0, _ => none
  | fuel + 1, .mark '#' :: .mark '!' :: .mark '[' :: .word name :: .mark '(' :: rest => do
    if String.ofList name != "enable" then none
    let (names, rest) ← Datum.separated? nameKey? ')' rest
    if names.isEmpty || !names.all extensions.contains then none
    match rest with
    | .mark ']' :: rest => afterExtensions? fuel rest
    | _ => none
  | _ + 1, tokens => some tokens

def parse? (content : String) : Option Datum := do
  let tokens ← Datum.scan? token? content
  let tokens ← afterExtensions? (tokens.length + 1) tokens
  match ← value? (tokens.length + 1) tokens with
  | (value, []) => some value
  | _ => none

end DesignTokens.Ron
