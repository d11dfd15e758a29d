/-!
# DesignTokens.Uri.Punycode — names of all scripts in ASCII

The characters beyond ASCII are taken in the order of their code points. Each is written as the
number of steps from the one before: a step goes to the next place in the text or, past its end, to
the next code point. The numbers have digits to the base 36, and their length adapts to those
before.

1. **Thresholds** (`Punycode.threshold`, `Punycode.adapt`).
2. **Decoding** (`Punycode.decode?`).
3. **Encoding** (`Punycode.encode`).
-/

namespace DesignTokens.Uri.Punycode

/-! ## Thresholds -/

/-- The value of a digit: the letters come before the figures. -/
def digit? (c : Char) : Option Nat :=
  if 'a' ≤ c ∧ c ≤ 'z' then some (c.toNat - 97)
  else if '0' ≤ c ∧ c ≤ '9' then some (c.toNat - 48 + 26)
  else none

def digitOf (value : Nat) : Char :=
  Char.ofNat (if value < 26 then 97 + value else 48 + value - 26)

/-- A digit below the threshold of its place is the last one of a number. -/
def threshold (place bias : Nat) : Nat :=
  if place ≤ bias then 1 else if bias + 26 ≤ place then 26 else place - bias

/-- Divide a number by 35 until it is small, and add 36 for each division. -/
def shrink (delta bias : Nat) : Nat × Nat :=
  if 455 < delta then shrink (delta / 35) (bias + 36) else (delta, bias)
termination_by delta
decreasing_by omega

/-- The bias after a number, which is the one for the `count`-th character. -/
def adapt (delta count : Nat) (isFirst : Bool) : Nat :=
  let scaled := if isFirst then delta / 700 else delta / 2
  let (small, bias) := shrink (scaled + scaled / count) 0
  bias + 36 * small / (small + 38)

/-! ## Decoding -/

structure Decoder where
  text : List Char
  code : Nat := 128
  bias : Nat := 72
  /-- The place after the last character that was inserted. -/
  start : Nat := 0
  /-- The place that the digits of the current number lead to so far. -/
  position : Nat := 0
  weight : Nat := 1
  place : Nat := 36
deriving Repr, Inhabited

/-- Insert the character that a complete number leads to. -/
def Decoder.insert? (d : Decoder) : Option Decoder :=
  let count := d.text.length + 1
  let code := d.code + d.position / count
  let place := d.position % count
  if code.isValidChar then
    some {
      text := d.text.insertIdx place (Char.ofNat code)
      code
      bias := adapt (d.position - d.start) count (d.start == 0)
      start := place + 1
      position := place + 1 }
  else none

/-- Take a digit. -/
def Decoder.step (d : Decoder) (c : Char) : Option Decoder :=
  (digit? c).bind fun digit =>
    let d := { d with position := d.position + digit * d.weight }
    let limit := threshold d.place d.bias
    if digit < limit then d.insert?
    else some { d with weight := d.weight * (36 - limit), place := d.place + 36 }

/-- The text before the last hyphen, and the digits after it. Without a hyphen, or with none but one
at the start, there are only digits. -/
def splitBasic (input : List Char) : List Char × List Char :=
  match input.reverse.dropWhile (· != '-') with
  | _ :: c :: before =>
    ((c :: before).reverse, (input.reverse.takeWhile (· != '-')).reverse)
  | _ => ([], input)

/-- The text that an encoded one stands for; `none` if it is not encoded well. -/
def decode? (input : List Char) : Option (List Char) :=
  let (basic, digits) := splitBasic input
  (digits.foldlM Decoder.step { text := basic }).bind fun d =>
    -- The last number has to be complete.
    if d.weight = 1 then some d.text else none

/-! ## Encoding -/

/-- The digits of a number; `fuel` bounds their count. -/
def digitsOf (bias : Nat) : (fuel place number : Nat) → List Char
  | 0, _, _ => []
  | fuel + 1, place, number =>
    let limit := threshold place bias
    if number < limit then [digitOf number]
    else
      digitOf (limit + (number - limit) % (36 - limit)) ::
        digitsOf bias fuel (place + 36) ((number - limit) / (36 - limit))

structure Encoder where
  digits : List Char
  /-- The steps since the last character. -/
  delta : Nat := 0
  bias : Nat := 72
  /-- The characters that are written already. -/
  count : Nat
deriving Repr, Inhabited

/-- Pass a character of the text while those with a certain code are written. -/
def Encoder.pass (basic code : Nat) (e : Encoder) (c : Char) : Encoder :=
  if c.toNat < code then { e with delta := e.delta + 1 }
  else if c.toNat = code then
    { digits := e.digits ++ digitsOf e.bias (e.delta + 1) 36 e.delta
      delta := 0
      bias := adapt e.delta (e.count + 1) (e.count == basic)
      count := e.count + 1 }
  else e

/-- Write the characters of the given codes, which ascend from the one before. -/
def encodeCodes (input : List Char) (basic : Nat) : (before : Nat) → List Nat → Encoder → Encoder
  | _, [], e => e
  | before, code :: rest, e =>
    let e := { e with delta := e.delta + (code - before) * (e.count + 1) }
    let e := input.foldl (Encoder.pass basic code) e
    encodeCodes input basic (code + 1) rest { e with delta := e.delta + 1 }

def encode (input : List Char) : List Char :=
  let basic := input.filter (·.toNat < 128)
  let codes := ((input.map Char.toNat).filter (128 ≤ ·)).eraseDups.mergeSort
  let written := encodeCodes input basic.length 128 codes { digits := [], count := basic.length }
  (if basic.isEmpty then [] else basic ++ ['-']) ++ written.digits

end DesignTokens.Uri.Punycode
