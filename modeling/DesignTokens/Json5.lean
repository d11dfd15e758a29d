import DesignTokens.Datum.Separated
import DesignTokens.Text.Blank

/-!
# DesignTokens.Json5 — JSON with less quoting

Comments, names as keys, single quotes, commas after the last item, and more ways to write numbers.

1. **Texts** (`Json5.quoted?`).
2. **Tokens** (`Json5.token?`).
3. **Words** (`Json5.scalar?`): names and numbers.
4. **Values** (`Json5.parse?`).
-/

namespace DesignTokens.Json5

/-! ## Texts -/

def isLineEnd (c : Char) : Bool :=
  c == '\n' || c == '\r' || c == '\u2028' || c == '\u2029'

/-- The character after a backslash stands for this one; a digit stands for none. -/
def escaped? (c : Char) : Option Char :=
  if c = '0' then some '\x00'
  else if c.isDigit || c == 'x' || c == 'u' then none
  else
    let others : List (Char × Char) :=
      [('b', '\x08'), ('f', '\x0c'), ('n', '\n'), ('r', '\r'), ('t', '\t'), ('v', '\x0b')]
    some ((others.lookup c).getD c)

/-- The character of a code unit, or of two, of which the first one came before. -/
def ofUnit? (high : Option Nat) (unit : Nat) : Option (Option Nat × List Char) :=
  let isLow := 0xDC00 ≤ unit && unit < 0xE000
  match high with
  | some first =>
    if isLow then some (none, [Char.ofNat (0x10000 + (first - 0xD800) * 0x400 + (unit - 0xDC00))])
    else none
  | none =>
    if isLow then none
    else if 0xD800 ≤ unit && unit < 0xDC00 then some (some unit, [])
    else some (none, [Char.ofNat unit])

/-- The text up to its quote, and the rest; `high` is a code unit that waits for another one. -/
def quoted? (quote : Char) (high : Option Nat) : List Char → Option (List Char × List Char)
  | '\\' :: 'u' :: a :: b :: c :: d :: rest => do
    let (high, chars) ← ofUnit? high (← Numeral.value? 16 [a, b, c, d])
    let (content, left) ← quoted? quote high rest
    some (chars ++ content, left)
  | '\\' :: 'x' :: a :: b :: rest => do
    if high.isSome then none
    let code ← Numeral.value? 16 [a, b]
    let (content, left) ← quoted? quote none rest
    some (Char.ofNat code :: content, left)
  | '\\' :: '\r' :: '\n' :: rest => if high.isSome then none else quoted? quote none rest
  | '\\' :: c :: rest => do
    if high.isSome then none
    else if isLineEnd c then quoted? quote none rest
    else
      let (content, left) ← quoted? quote none rest
      some ((← escaped? c) :: content, left)
  | c :: rest =>
    if high.isSome then none
    else if c = quote then some ([], rest)
    else if c = '\n' || c = '\r' then none
    else (quoted? quote none rest).map fun (content, left) => (c :: content, left)
  | [] => none

/-! ## Tokens -/

/-- White space between tokens. -/
def isBlank (c : Char) : Bool :=
  (Text.isBlank c && c != '\u0085') || c == '\ufeff'

def isMark (c : Char) : Bool :=
  ['\x7b', '\x7d', '[', ']', ':', ','].contains c

/-- The rest after a comment that was opened with a slash and a star. -/
def afterBlock? : List Char → Option (List Char)
  | '*' :: '/' :: rest => some rest
  | _ :: rest => afterBlock? rest
  | [] => none

/-- The rest after a comment, of which the first slash was taken. -/
def afterComment? : List Char → Option (List Char)
  | '/' :: rest => some (rest.dropWhile (!isLineEnd ·))
  | '*' :: rest => afterBlock? rest
  | _ => none

/-- Whether a character ends a word. -/
def endsWord (c : Char) : Bool :=
  isBlank c || isMark c || c == '"' || c == '\x27' || c == '/'

/-- The token at the start of a text, if it is one, and the rest. -/
def token? : List Char → Option (Option Datum.Token × List Char)
  | [] => none
  | c :: rest =>
    if isBlank c then some (none, rest)
    else if isMark c then some (some (.mark c), rest)
    else if c = '/' then (afterComment? rest).map (none, ·)
    else if c = '"' || c = '\x27' then
      (quoted? c none rest).map fun (content, rest) =>
        (some (.quoted (String.ofList content)), rest)
    else
      some (some (.word (c :: rest.takeWhile (!endsWord ·))), rest.dropWhile (!endsWord ·))

/-! ## Words -/

/-- Whether a word is a decimal number without a sign; it has no zeros at its start. -/
def isDecimal (word : List Char) : Bool :=
  let whole := word.takeWhile Char.isDigit
  (whole.length ≤ 1 || whole.head? != some '0') && !word.isEmpty &&
    word.all fun c => c.isDigit || c == '.' || c == 'e' || c == 'E' || c == '+' || c == '-'

def number? (word : List Char) : Option Datum :=
  let (sign, unsigned) := Numeral.splitSign word
  match unsigned with
  | '0' :: x :: digits =>
    if x == 'x' || x == 'X' then
      if sign.isSome then none
      else ((Numeral.value? 16 digits).filter (· < Nat.pow 2 32)).map fun n => .int n
    else decimal? sign unsigned
  | _ => decimal? sign unsigned
where
  decimal? (sign : Option Char) (unsigned : List Char) : Option Datum :=
    if !isDecimal unsigned then none
    else if unsigned.all Char.isDigit then
      (Numeral.fits64? (Numeral.signed sign (Numeral.decimal unsigned))).map .int
    else match Extended.ofUnsigned? (sign == some '-') unsigned with
      | some (.finite x) => some (.number (.finite x))
      | _ => none

def scalar? (word : List Char) : Option Datum :=
  let names : List (String × Datum) := [
    ("null", .nothing), ("true", .flag true), ("false", .flag false),
    ("Infinity", .number (.infinite false)), ("-Infinity", .number (.infinite true)),
    ("NaN", .number .notANumber), ("-NaN", .number .notANumber)]
  match names.lookup (String.ofList word) with
  | some value => some value
  | none => number? word

/-- A character of a name; it may start with one that is no digit. -/
def isNameChar (c : Char) : Bool :=
  c.isAlphanum || c == '$' || c == '_' || 0x80 ≤ c.toNat

def isName (word : List Char) : Bool :=
  word.all isNameChar && (word.head?.map (!·.isDigit)).getD false

/-! ## Values -/

def key? : Datum.Reading String
  | .quoted name :: rest => some (name, rest)
  | .word name :: rest => if isName name then some (String.ofList name, rest) else none
  | _ => none

/-- A value; the first argument limits how deep it is. -/
def value? : Nat → Datum.Reading Datum
  | 0, _ => none
  | _ + 1, .quoted content :: rest => some (.text content, rest)
  | _ + 1, .word word :: rest => (scalar? word).map (·, rest)
  | depth + 1, .mark '[' :: rest =>
    (Datum.separated? (value? depth) ']' rest).map fun (items, rest) => (.list items, rest)
  | depth + 1, .mark '\x7b' :: rest =>
    (Datum.separated? (Datum.entry? key? (value? depth)) '\x7d' rest).map fun (entries, rest) =>
      (.table (Datum.Table.ofList entries), rest)
  | _ + 1, _ => none

def parse? (content : String) : Option Datum := do
  let tokens ← Datum.scan? token? content
  match ← value? (tokens.length + 1) tokens with
  | (value, []) => some value
  | _ => none

end DesignTokens.Json5
