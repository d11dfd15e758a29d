import DesignTokens.Number.Double

/-!
# DesignTokens.Number.Decimal — the shortest decimal of a double

1. **Grid search**: a double's rounding interval is compared with coarser to finer decimal grids;
   the first grid with a point in the interval wins, and of two points the nearer one
   (`Double.shortest`).
2. **Two notations**: `Decimal.positional` and `Decimal.scientific`.
-/

namespace DesignTokens

/-- The number `digits * 10 ^ exponent`. -/
structure Decimal where
  digits : Nat
  exponent : Int
deriving Repr, DecidableEq, Inhabited

/-! ## Rounding intervals -/

/-- The magnitudes that round to one double, as numerators over the common denominator
`denominator`; the ends belong to the interval iff `closed`. -/
structure RoundingInterval where
  low : Nat
  value : Nat
  high : Nat
  denominator : Nat
  closed : Bool
deriving Repr, DecidableEq

namespace RoundingInterval

/-- The interval of a double: half way to each neighbour. Below a power of two the lower
neighbour is nearer. -/
def ofDouble (x : Double) : RoundingInterval :=
  -- In quarters of the last place: the lower neighbour of a power of two is half as far away.
  let isPower := x.mantissa = Nat.pow 2 52 ∧ x.exponent ≠ -1074
  let low := if isPower then 4 * x.mantissa - 1 else 4 * x.mantissa - 2
  let unit : Nat × Nat := match x.exponent - 2 with
    | .ofNat e => (Nat.pow 2 e, 1)
    | .negSucc e => (1, Nat.pow 2 (e + 1))
  { low := low * unit.1
    value := 4 * x.mantissa * unit.1
    high := (4 * x.mantissa + 2) * unit.1
    denominator := unit.2
    closed := x.mantissa % 2 = 0 }

/-- The interval measured in steps of `10 ^ exponent`. -/
def inSteps (i : RoundingInterval) (exponent : Int) : RoundingInterval :=
  match exponent with
  | .ofNat e => { i with denominator := i.denominator * Nat.pow 10 e }
  | .negSucc e =>
    -- A finer grid: the ends grow, so that the denominator stays a whole number.
    let factor := Nat.pow 10 (e + 1)
    { i with low := i.low * factor, value := i.value * factor, high := i.high * factor }

def contains (i : RoundingInterval) (n : Nat) : Bool :=
  let m := n * i.denominator
  if i.closed then i.low ≤ m && m ≤ i.high else i.low < m && m < i.high

/-- The whole number in the interval that is nearest to the value, of an exact tie the even one;
`none` if neither neighbour of the value lies in the interval. -/
def nearestWhole? (i : RoundingInterval) : Option Nat :=
  let below := i.value / i.denominator
  let above := below + 1
  -- If any whole number lies in the interval, one of these two does.
  match i.contains below, i.contains above with
  | true, true =>
    let fromBelow := i.value - below * i.denominator
    let fromAbove := above * i.denominator - i.value
    if fromBelow < fromAbove then some below
    else if fromAbove < fromBelow then some above
    else some (if below % 2 = 0 then below else above)
  | true, false => some below
  | false, true => some above
  | false, false => none

end RoundingInterval

/-! ## Shortest digits -/

/-- The first grid, from `10 ^ exponent` downwards, with a point in the interval. -/
def RoundingInterval.firstGrid (i : RoundingInterval) : Nat → Int → Decimal
  | 0, exponent => ⟨i.value / i.denominator, exponent⟩
  | steps + 1, exponent =>
    match (i.inSteps exponent).nearestWhole? with
    | some digits => ⟨digits, exponent⟩
    | none => firstGrid i steps (exponent - 1)

/-- The shortest decimal that reads back as the magnitude of the double, of those the nearest.
The search starts at a power of ten above the value; 17 digits always suffice. -/
def Double.shortest (x : Double) : Decimal :=
  if x.isZero then ⟨0, 0⟩
  else
    -- The logarithm of two to the base ten is a little less than 0.30103.
    let start : Int := (x.exponent + x.mantissa.log2 + 1) * 30103 / 100000 + 1
    (RoundingInterval.ofDouble x).firstGrid 22 start

namespace Decimal

/-! ## Notations -/

def digitText (d : Decimal) : List Char :=
  Nat.toDigits 10 d.digits

/-- How many digits stand before the decimal point; zero or less if the number starts after it. -/
def point (d : Decimal) : Int :=
  d.digitText.length + d.exponent

/-- Positional notation with at least one digit on each side of the point. -/
def positional (d : Decimal) : String :=
  let text := d.digitText
  match d.exponent, d.point with
  | .ofNat zeros, _ => String.ofList (text ++ List.replicate zeros '0' ++ ['.', '0'])
  | .negSucc _, .ofNat 0 => String.ofList (['0', '.'] ++ text)
  | .negSucc _, .ofNat whole => String.ofList (text.take whole ++ ['.'] ++ text.drop whole)
  | .negSucc _, .negSucc zeros =>
    String.ofList (['0', '.'] ++ List.replicate (zeros + 1) '0' ++ text)

/-- Scientific notation with one digit before the point and a signed exponent. -/
def scientific (d : Decimal) : String :=
  let fraction := match d.digitText.drop 1 with
    | [] => []
    | rest => '.' :: rest
  let power := match d.point - 1 with
    | .ofNat e => '+' :: Nat.toDigits 10 e
    | .negSucc e => '-' :: Nat.toDigits 10 (e + 1)
  String.ofList (d.digitText.take 1 ++ fraction ++ 'e' :: power)

end Decimal

end DesignTokens
