/-!
# DesignTokens.Number.Double — finite binary64 numbers as exact values

A double is a sign and a magnitude `mantissa * 2 ^ exponent` in canonical form, so that equal
values have equal representations (zero apart, which keeps its sign).

1. **Canonical form**: 53 bits of mantissa where the exponent allows it (`Double.Canonical`).
2. **Rounding**: the nearest double of a fraction, ties to the even mantissa (`Double.nearest`).
3. **Decimal literals**: the nearest double of `digits * 10 ^ exponent` (`Double.ofDecimal`).
-/

namespace DesignTokens

/-- A magnitude is canonical if it has 53 bits, or fewer at the least exponent. -/
def Double.Canonical (mantissa : Nat) (exponent : Int) : Prop :=
  mantissa < Nat.pow 2 53 ∧ -1074 ≤ exponent ∧ exponent ≤ 971 ∧
    (Nat.pow 2 52 ≤ mantissa ∨ exponent = -1074)

instance (mantissa : Nat) (exponent : Int) : Decidable (Double.Canonical mantissa exponent) :=
  inferInstanceAs (Decidable (_ ∧ _ ∧ _ ∧ (_ ∨ _)))

/-- A finite binary64 number: `mantissa * 2 ^ exponent` with a sign. -/
structure Double where
  negative : Bool
  mantissa : Nat
  exponent : Int
  canonical : Double.Canonical mantissa exponent
deriving DecidableEq, Repr

namespace Double

def zero (negative : Bool) : Double :=
  ⟨negative, 0, -1074, by decide⟩

instance : Inhabited Double := ⟨zero false⟩

def isZero (x : Double) : Bool :=
  x.mantissa == 0

/-- Equality of values: the two zeros are equal, all else is equal only to itself. -/
def same (x y : Double) : Bool :=
  x == y || (x.isZero && y.isZero)

/-! ## Rounding -/

/-- The integer nearest to `num / den`; a half goes to the even neighbour. -/
def roundHalfEven (num den : Nat) : Nat :=
  let quotient := num / den
  let twice := 2 * (num % den)
  if twice < den then quotient
  else if den < twice then quotient + 1
  else quotient + quotient % 2

/-- The fraction `num / den` divided by `2 ^ exponent`, as a fraction. -/
def scale (num den : Nat) (exponent : Int) : Nat × Nat :=
  match exponent with
  | .ofNat e => (num, den * Nat.pow 2 e)
  | .negSucc e => (num * Nat.pow 2 (e + 1), den)

/-- The exponent at which the positive fraction `num / den` has 53 bits before the binary point,
or the least exponent if that is larger. -/
def exponentFor (num den : Nat) : Int :=
  -- The guess gives 52 or 53 bits.
  let guess : Int := (num.log2 : Int) - den.log2 - 52
  let (n, d) := scale num den guess
  max (if n < d * Nat.pow 2 52 then guess - 1 else guess) (-1074)

/-- The double nearest to the fraction `num / den` of positive numbers; `none` if it is too
large. -/
def nearest (negative : Bool) (num den : Nat) : Option Double :=
  let exponent := exponentFor num den
  let (n, d) := scale num den exponent
  let rounded := roundHalfEven n d
  -- Rounding up may take one more bit; then the last one is zero.
  let (mantissa, exponent) :=
    if rounded = Nat.pow 2 53 then (Nat.pow 2 52, exponent + 1) else (rounded, exponent)
  if h : Canonical mantissa exponent then some ⟨negative, mantissa, exponent, h⟩ else none

/-! ## Decimal literals -/

/-- The double nearest to `digits * 10 ^ exponent`; `none` if it is too large. The size of the
number is looked at first, so that no power of ten beyond the range of doubles is computed. -/
def ofDecimal (negative : Bool) (digits : Nat) (exponent : Int) : Option Double :=
  if digits = 0 then some (zero negative)
  else
    let point : Int := (Nat.toDigits 10 digits).length + exponent
    if 310 < point then none
    else if point < -330 then some (zero negative)
    else match exponent with
      | .ofNat e => nearest negative (digits * Nat.pow 10 e) 1
      | .negSucc e => nearest negative digits (Nat.pow 10 (e + 1))

end Double

end DesignTokens
