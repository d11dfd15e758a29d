/-!
# DesignTokens.Timestamp — RFC 3339 timestamps as instants

1. **Instants**: seconds in universal time and the fraction of a second, in nanoseconds. The leap
   second of a minute is a fraction of a second or more.
2. **Calendar**: days of a month, days before a date.
3. **Reading** (`Timestamp.parse?`), and order (`Timestamp.isBefore`).
-/

namespace DesignTokens

/-- An instant: seconds since the start of year 0 in universal time, and nanoseconds. -/
structure Timestamp where
  seconds : Int
  nanoseconds : Nat
deriving Repr, DecidableEq, Inhabited

namespace Timestamp

def isBefore (x y : Timestamp) : Bool :=
  x.seconds < y.seconds || (x.seconds == y.seconds && x.nanoseconds < y.nanoseconds)

/-! ## Calendar -/

def isLeapYear (year : Nat) : Bool :=
  year % 4 == 0 && (year % 100 != 0 || year % 400 == 0)

/-- The days of a month, counted from 1; other numbers are no months. -/
def daysInMonth (year month : Nat) : Nat :=
  match month with
  | 2 => if isLeapYear year then 29 else 28
  | 4 | 6 | 9 | 11 => 30
  | 1 | 3 | 5 | 7 | 8 | 10 | 12 => 31
  | _ => 0

def daysBeforeYear (year : Nat) : Nat :=
  365 * year + (year + 3) / 4 + (year + 399) / 400 - (year + 99) / 100

def daysBefore (year month day : Nat) : Nat :=
  let before := daysBeforeYear year
  (List.range (month - 1)).foldl (fun days m => days + daysInMonth year (m + 1)) before + (day - 1)

/-! ## Reading -/

/-- A number of exactly `count` digits, and what follows it. -/
def readDigits (count : Nat) (text : List Char) : Option (Nat × List Char) :=
  let digits := text.take count
  if digits.length = count ∧ digits.all Char.isDigit then
    some (digits.foldl (fun n c => 10 * n + (c.toNat - 48)) 0, text.drop count)
  else none

/-- What follows an expected character. -/
def readMark (isMark : Char → Bool) : List Char → Option (List Char)
  | c :: rest => if isMark c then some rest else none
  | [] => none

/-- The optional fraction of a second in nanoseconds; digits past the ninth do not count. -/
def readFraction : List Char → Option (Nat × List Char)
  | '.' :: rest =>
    let digits := rest.takeWhile Char.isDigit
    if digits.isEmpty then none
    else
      let nine := (digits ++ List.replicate 9 '0').take 9
      some (nine.foldl (fun n c => 10 * n + (c.toNat - 48)) 0, rest.dropWhile Char.isDigit)
  | text => some (0, text)

/-- The offset from universal time in minutes, which ends the text. -/
def readOffset : List Char → Option Int
  | ['Z'] => some 0
  | ['z'] => some 0
  | sign :: rest => do
    let negative ←
      if sign = '+' then some false
      else if sign = '-' ∨ sign = '\u2212' then some true
      else none
    let (hours, rest) ← readDigits 2 rest
    let rest ← readMark (· == ':') rest
    let (minutes, rest) ← readDigits 2 rest
    if hours < 24 ∧ minutes < 60 ∧ rest = [] then
      let offset : Int := hours * 60 + minutes
      some (if negative then -offset else offset)
    else none
  | [] => none

/-- The instant that a text denotes; `none` if the text is no timestamp. -/
def parse? (input : String) : Option Timestamp := do
  let (year, text) ← readDigits 4 input.toList
  let text ← readMark (· == '-') text
  let (month, text) ← readDigits 2 text
  let text ← readMark (· == '-') text
  let (day, text) ← readDigits 2 text
  let text ← readMark (fun c => c == 'T' || c == 't' || c == ' ') text
  let (hour, text) ← readDigits 2 text
  let text ← readMark (· == ':') text
  let (minute, text) ← readDigits 2 text
  let text ← readMark (· == ':') text
  let (second, text) ← readDigits 2 text
  let (fraction, text) ← readFraction text
  let offset ← readOffset text
  if 1 ≤ day ∧ day ≤ daysInMonth year month ∧ hour < 24 ∧ minute < 60 ∧ second ≤ 60 then
    -- A leap second goes on for the 59th second, past its end.
    let leap := if second = 60 then 1 else 0
    let minutes : Int := ((daysBefore year month day * 24 + hour) * 60 + minute : Nat)
    some ⟨(minutes - offset) * 60 + (second - leap : Nat), fraction + leap * 1000000000⟩
  else none

end Timestamp

end DesignTokens
