import DesignTokens.Json.Basic

/-!
# DesignTokens.Json.Token — the tokens of a JSON text

1. **Tokens**: brackets, separators, strings, and the scalars written as bare words.
2. **Numbers** (`Json.numeral?`): an integer literal within `-2^63 .. 2^64-1` is an integer; every
   other literal, the literal `-0` too, is a double.
3. **Scanning** (`Json.Token.scan`): a machine that takes one character at a time, so that a text
   of any length and nesting is read by one fold.
-/

namespace DesignTokens.Json

/-- A token of a JSON text; a scalar that is not a string is read at once. -/
inductive Token where
  | objectOpen
  | objectClose
  | arrayOpen
  | arrayClose
  | colon
  | comma
  | text (value : String)
  | scalar (value : Json)
deriving Repr, Inhabited

/-! ## Numbers -/

def digitsValue (digits : List Char) : Nat :=
  digits.foldl (fun n c => 10 * n + (c.toNat - 48)) 0

/-- An integer literal as the number it denotes: an integer if it fits 64 bits, a double if not. -/
def integer? (negative : Bool) (digits : List Char) : Option Json :=
  let n := digitsValue digits
  -- The literal -0 is no integer: it would lose its sign.
  let fits := if negative then 0 < n && n ≤ Nat.pow 2 63 else n < Nat.pow 2 64
  if fits then some (.int (if negative then -n else n))
  else (Double.ofDecimal negative n 0).map .double

/-- The exponent part of a numeral, from its letter on. An exponent of more than nine digits is
cut to one that is as far out of the range of doubles. -/
def exponent? : List Char → Option Int
  | [] => some 0
  | letter :: rest =>
    if letter ≠ 'e' ∧ letter ≠ 'E' then none
    else
      let (negative, digits) := match rest with
        | '-' :: digits => (true, digits)
        | '+' :: digits => (false, digits)
        | digits => (false, digits)
      if digits.isEmpty || !digits.all Char.isDigit then none
      else
        let significant := digits.dropWhile (· == '0')
        let n := if significant.length ≤ 9 then digitsValue significant else Nat.pow 10 9
        some (if negative then -n else n)

/-- A numeral as JSON writes it: no leading zero, digits on both sides of a point. -/
def numeral? (text : List Char) : Option Json :=
  let (negative, unsigned) := match text with
    | '-' :: rest => (true, rest)
    | rest => (false, rest)
  let whole := unsigned.takeWhile Char.isDigit
  let tail := unsigned.dropWhile Char.isDigit
  if whole.isEmpty || (whole.length ≠ 1 && whole.head? == some '0') then none
  else match tail with
    | [] => integer? negative whole
    | '.' :: rest =>
      let fraction := rest.takeWhile Char.isDigit
      if fraction.isEmpty then none
      else (exponent? (rest.dropWhile Char.isDigit)).bind fun e =>
        let digits := digitsValue (whole ++ fraction)
        (Double.ofDecimal negative digits (e - fraction.length)).map .double
    | rest => (exponent? rest).bind fun e =>
        (Double.ofDecimal negative (digitsValue whole) e).map .double

def word? (text : List Char) : Option Json :=
  if text = ['n', 'u', 'l', 'l'] then some .null
  else if text = ['t', 'r', 'u', 'e'] then some (.bool true)
  else if text = ['f', 'a', 'l', 's', 'e'] then some (.bool false)
  else numeral? text

namespace Token

/-! ## Scanning -/

def hexValue? (c : Char) : Option Nat :=
  if '0' ≤ c ∧ c ≤ '9' then some (c.toNat - 48)
  else if 'a' ≤ c ∧ c ≤ 'f' then some (c.toNat - 87)
  else if 'A' ≤ c ∧ c ≤ 'F' then some (c.toNat - 55)
  else none

/-- Where the scanner is. The characters read so far are kept in reverse. -/
inductive Mode where
  /-- Between tokens. -/
  | between
  /-- In a bare word. -/
  | word (read : List Char)
  /-- In a string. -/
  | text (read : List Char)
  /-- After a backslash in a string. -/
  | escape (read : List Char)
  /-- In the four hexadecimal digits of an escape; `high` is a high surrogate that came before. -/
  | unicode (read : List Char) (high : Option Nat) (count value : Nat)
  /-- After a high surrogate, before the backslash of the low one. -/
  | surrogate (read : List Char) (high : Nat)
  /-- After a high surrogate and a backslash. -/
  | surrogateEscape (read : List Char) (high : Nat)
deriving Repr, Inhabited

/-- The scanner's state: the tokens so far, in reverse, and its mode. -/
structure Scan where
  tokens : List Token
  mode : Mode
deriving Repr, Inhabited

/-- A character that may stand in a bare word. -/
def isWordChar (c : Char) : Bool :=
  c.isAlphanum || c == '-' || c == '+' || c == '.'

/-- The characters that may stand between tokens. -/
def isBlank (c : Char) : Bool :=
  c == ' ' || c == '\t' || c == '\n' || c == '\r'

/-- Take a character between tokens. -/
def start (tokens : List Token) (c : Char) : Option Scan :=
  match c with
  | '\x7b' => some ⟨.objectOpen :: tokens, .between⟩
  | '\x7d' => some ⟨.objectClose :: tokens, .between⟩
  | '[' => some ⟨.arrayOpen :: tokens, .between⟩
  | ']' => some ⟨.arrayClose :: tokens, .between⟩
  | ':' => some ⟨.colon :: tokens, .between⟩
  | ',' => some ⟨.comma :: tokens, .between⟩
  | '"' => some ⟨tokens, .text []⟩
  | c =>
    if isBlank c then some ⟨tokens, .between⟩
    else if isWordChar c then some ⟨tokens, .word [c]⟩
    else none

/-- The character after a backslash, other than `u`. -/
def simpleEscape? (c : Char) : Option Char :=
  match c with
  | '"' => some '"'
  | '\\' => some '\\'
  | '/' => some '/'
  | 'b' => some '\x08'
  | 'f' => some '\x0c'
  | 'n' => some '\n'
  | 'r' => some '\r'
  | 't' => some '\t'
  | _ => none

/-- The mode after the four digits of an escape: a surrogate has to be one half of a pair. -/
def finishUnicode (read : List Char) (high : Option Nat) (unit : Nat) : Option Mode :=
  match high with
  | some h =>
    if 0xDC00 ≤ unit ∧ unit < 0xE000 then
      some (.text (Char.ofNat (0x10000 + (h - 0xD800) * 0x400 + (unit - 0xDC00)) :: read))
    else none
  | none =>
    if 0xD800 ≤ unit ∧ unit < 0xDC00 then some (.surrogate read unit)
    else if 0xDC00 ≤ unit ∧ unit < 0xE000 then none
    else some (.text (Char.ofNat unit :: read))

/-- Take one character; `none` if the text cannot be JSON. -/
def Scan.step (s : Scan) (c : Char) : Option Scan :=
  match s.mode with
  | .between => start s.tokens c
  | .word read =>
    if isWordChar c then some ⟨s.tokens, .word (c :: read)⟩
    -- What ends a word is the first character of the next token.
    else (word? read.reverse).bind fun value => start (.scalar value :: s.tokens) c
  | .text read =>
    if c = '"' then some ⟨.text (String.ofList read.reverse) :: s.tokens, .between⟩
    else if c = '\\' then some ⟨s.tokens, .escape read⟩
    else if c < ' ' then none
    else some ⟨s.tokens, .text (c :: read)⟩
  | .escape read =>
    if c = 'u' then some ⟨s.tokens, .unicode read none 0 0⟩
    else (simpleEscape? c).map fun e => ⟨s.tokens, .text (e :: read)⟩
  | .unicode read high count value =>
    (hexValue? c).bind fun digit =>
      let value := value * 16 + digit
      if count = 3 then (finishUnicode read high value).map fun mode => ⟨s.tokens, mode⟩
      else some ⟨s.tokens, .unicode read high (count + 1) value⟩
  | .surrogate read high => if c = '\\' then some ⟨s.tokens, .surrogateEscape read high⟩ else none
  | .surrogateEscape read high =>
    if c = 'u' then some ⟨s.tokens, .unicode read (some high) 0 0⟩ else none

/-- The tokens at the end of the text. -/
def Scan.finish (s : Scan) : Option (List Token) :=
  match s.mode with
  | .between => some s.tokens.reverse
  | .word read => (word? read.reverse).map fun value => (.scalar value :: s.tokens).reverse
  | _ => none

/-- The tokens of a text; `none` if some part of it is no token. -/
def scan (text : String) : Option (List Token) :=
  (text.toList.foldlM Scan.step ⟨[], .between⟩).bind Scan.finish

end Token

end DesignTokens.Json
