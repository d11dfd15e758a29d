import DesignTokens.Timestamp
import DesignTokens.Toml.Basic

/-!
# DesignTokens.Toml.Scalar — values that are written as bare words

1. **Integers** (`integer?`) with 64 bits, to four bases.
2. **Floating-point numbers** (`float?`).
3. **Dates and times** (`moment?`), brought to one form.
4. All of them, and the flags (`scalar?`).
-/

namespace DesignTokens.Toml

/-! ## Digits -/

/-- The digits of a run, in which single underscores may stand between digits. -/
def digits? (isDigit : Char → Bool) : List Char → Option (List Char)
  | [] => none
  | [c] => if isDigit c then some [c] else none
  | c :: '_' :: rest => if isDigit c then (digits? isDigit rest).map (c :: ·) else none
  | c :: rest => if isDigit c then (digits? isDigit rest).map (c :: ·) else none

/-- The digits of a decimal number, without leading zeros. -/
def decimalDigits? (text : List Char) : Option (List Char) :=
  (digits? Char.isDigit text).filter fun digits => digits.length == 1 || digits.head? != some '0'

/-! ## Integers -/

/-- An integer to the given base, without a sign. -/
def based? (base : Nat) (text : List Char) : Option Int :=
  (digits? (Numeral.isDigit base) text).bind fun digits =>
    (Numeral.value? base digits).bind fun n => Numeral.fits64? n

/-- An integer to the base sixteen, eight, two or ten; only the latter has a sign. -/
def integer? (text : List Char) : Option Int :=
  match text with
  | '0' :: 'x' :: rest => based? 16 rest
  | '0' :: 'o' :: rest => based? 8 rest
  | '0' :: 'b' :: rest => based? 2 rest
  | decimal =>
    let (sign, rest) := Numeral.splitSign decimal
    (decimalDigits? rest).bind fun digits =>
      Numeral.fits64? (Numeral.signed sign (Numeral.decimal digits))

/-! ## Floating-point numbers -/

def exponent? (text : List Char) : Option Int :=
  let (sign, rest) := Numeral.splitSign text
  (digits? Char.isDigit rest).map (Numeral.exponent sign)

/-- A decimal number with a fraction, an exponent or both. -/
def decimal? (negative : Bool) (text : List Char) : Option Extended := do
  let (mantissa, exponentText) := Numeral.cutAt (fun c => c == 'e' || c == 'E') text
  let (wholeText, fractionText) := Numeral.cutAt (· == '.') mantissa
  if exponentText.isNone && fractionText.isNone then none
  else
    let whole ← decimalDigits? wholeText
    let fraction ← match fractionText with
      | some chars => digits? Char.isDigit chars
      | none => some []
    let exponent ← match exponentText with
      | some chars => exponent? chars
      | none => some 0
    some (Extended.ofParts negative whole fraction exponent)

/-- A floating-point number; what is too large above zero is none. -/
def float? (text : List Char) : Option Extended :=
  let (sign, rest) := Numeral.splitSign text
  let negative := sign == some '-'
  if rest = ['i', 'n', 'f'] then some (.infinite negative)
  else if rest = ['n', 'a', 'n'] then some .notANumber
  else (decimal? negative rest).filter (· != .infinite false)

/-! ## Dates and times -/

def twoDigits? : List Char → Option Nat
  | [a, b] => Numeral.value? 10 [a, b]
  | _ => none

def date? : List Char → Option String
  | [y1, y2, y3, y4, '-', m1, m2, '-', d1, d2] => do
    if [y1, y2, y3, y4].all Char.isDigit then
      let month ← twoDigits? [m1, m2]
      let day ← twoDigits? [d1, d2]
      if 1 ≤ month && month ≤ 12 && 1 ≤ day &&
          day ≤ Timestamp.daysInMonth (Numeral.decimal [y1, y2, y3, y4]) month then
        some (String.ofList [y1, y2, y3, y4, '-', m1, m2, '-', d1, d2])
      else none
    else none
  | _ => none

/-- The fraction of a second: nine digits at most, without zeros at the end. -/
def fractionText (digits : List Char) : List Char :=
  match ((digits.take 9).reverse.dropWhile (· == '0')).reverse with
  | [] => []
  | kept => '.' :: kept

def time? : List Char → Option String
  | h1 :: h2 :: ':' :: m1 :: m2 :: ':' :: s1 :: s2 :: rest => do
    let hour ← twoDigits? [h1, h2]
    let minute ← twoDigits? [m1, m2]
    let second ← twoDigits? [s1, s2]
    let fraction ← match rest with
      | [] => some []
      | '.' :: digits =>
        if !digits.isEmpty && digits.all Char.isDigit then some (fractionText digits) else none
      | _ => none
    if hour ≤ 23 && minute ≤ 59 && second ≤ 60 then
      some (String.ofList ([h1, h2, ':', m1, m2, ':', s1, s2] ++ fraction))
    else none
  | _ => none

/-- The distance of a local time from universal time; none at all has a plus sign. -/
def offset? : List Char → Option String
  | ['Z'] => some "Z"
  | ['z'] => some "Z"
  | [sign, h1, h2, ':', m1, m2] => do
    let hour ← twoDigits? [h1, h2]
    let minute ← twoDigits? [m1, m2]
    if (sign == '+' || sign == '-') && hour ≤ 23 && minute ≤ 59 then
      let sign := if hour = 0 && minute = 0 then '+' else sign
      some (String.ofList [sign, h1, h2, ':', m1, m2])
    else none
  | _ => none

/-- A time of day after a date, with or without the distance from universal time. -/
def timeWithOffset? (text : List Char) : Option String :=
  let isMark := fun c => c == 'Z' || c == 'z' || c == '+' || c == '-'
  let time := text.takeWhile (!isMark ·)
  match text.dropWhile (!isMark ·) with
  | [] => time? time
  | offset => do some ((← time? time) ++ (← offset? offset))

/-- A date, a time of day, or both with a letter or a blank between them. -/
def moment? (text : List Char) : Option String :=
  match text.drop 10 with
  | [] => (date? text).or (time? text)
  | mark :: rest =>
    if mark == 'T' || mark == 't' || mark == ' ' then do
      some ((← date? (text.take 10)) ++ "T" ++ (← timeWithOffset? rest))
    else time? text

/-! ## Scalars -/

def scalar? (text : List Char) : Option Toml :=
  if text = ['t', 'r', 'u', 'e'] then some (.bool true)
  else if text = ['f', 'a', 'l', 's', 'e'] then some (.bool false)
  else ((integer? text).map Toml.int).or
    (((float? text).map Toml.float).or ((moment? text).map Toml.moment))

end DesignTokens.Toml
