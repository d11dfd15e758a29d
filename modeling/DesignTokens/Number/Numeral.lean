/-!
# DesignTokens.Number.Numeral — numbers written with digits

1. **Digits** to a base up to sixteen, and the value of a run of them (`Numeral.value?`).
2. **Whole numbers** with a sign (`Numeral.whole?`), and whether one fits 64 bits
   (`Numeral.fits64?`).
3. **Parts of a numeral**: its sign, and the text on both sides of a mark.
-/

namespace DesignTokens.Numeral

/-! ## Digits -/

/-- The value of a digit to a base up to sixteen. -/
def digit? (base : Nat) (c : Char) : Option Nat :=
  let value? :=
    if '0' ≤ c ∧ c ≤ '9' then some (c.toNat - 48)
    else if 'a' ≤ c ∧ c ≤ 'f' then some (c.toNat - 87)
    else if 'A' ≤ c ∧ c ≤ 'F' then some (c.toNat - 55)
    else none
  value?.filter (· < base)

def isDigit (base : Nat) (c : Char) : Bool :=
  (digit? base c).isSome

/-- The value of a run of digits; there has to be one. -/
def value? (base : Nat) (digits : List Char) : Option Nat :=
  if digits.isEmpty then none
  else digits.foldlM (fun n c => (digit? base c).map (n * base + ·)) 0

/-- The value of a run of decimal digits. -/
def decimal (digits : List Char) : Nat :=
  (value? 10 digits).getD 0

/-- The character whose code is the value of a run of hexadecimal digits. -/
def char? (digits : List Char) : Option Char :=
  ((value? 16 digits).filter Nat.isValidChar).map Char.ofNat

/-! ## Parts of a numeral -/

/-- A sign, if there is one, and the rest. -/
def splitSign : List Char → Option Char × List Char
  | '+' :: rest => (some '+', rest)
  | '-' :: rest => (some '-', rest)
  | unsigned => (none, unsigned)

/-- A number with a sign. -/
def signed (sign : Option Char) (n : Nat) : Int :=
  if sign = some '-' then -n else n

/-- A text cut at the first character that satisfies a condition. -/
def cutAt (isMark : Char → Bool) (text : List Char) : List Char × Option (List Char) :=
  match text.dropWhile (!isMark ·) with
  | [] => (text, none)
  | _ :: rest => (text.takeWhile (!isMark ·), some rest)

/-! ## Whole numbers -/

/-- The number of a decimal numeral with or without a sign. -/
def whole? (text : List Char) : Option Int :=
  let (sign, digits) := splitSign text
  (value? 10 digits).map (signed sign)

/-- A number as an integer, if it fits 64 bits. -/
def fits64? (n : Int) : Option Int :=
  if -(Int.pow 2 63) ≤ n ∧ n < Int.pow 2 63 then some n else none

/-- The exponent that a run of decimal digits stands for, cut to one that is as far out of the range
of doubles. -/
def exponent (sign : Option Char) (digits : List Char) : Int :=
  let significant := digits.dropWhile (· == '0')
  signed sign (if significant.length ≤ 9 then decimal significant else Nat.pow 10 9)

end DesignTokens.Numeral
