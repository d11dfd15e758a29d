import DesignTokens.Number.Double
import DesignTokens.Number.Numeral

/-!
# DesignTokens.Number.Extended — doubles, infinities, and what is no number

1. **Numbers** (`Extended`), and the one nearest to a decimal number (`Extended.ofDecimal`).
2. **Reading** (`Extended.ofText?`): digits with a point, an exponent, both or none, and names.
3. **Rounding** to a natural number of 64 bits (`Extended.toNat64`).
-/

namespace DesignTokens

inductive Extended where
  | finite (value : Double)
  | infinite (negative : Bool)
  | notANumber
deriving Repr, DecidableEq, Inhabited

namespace Extended

/-- The number `digits * 10 ^ exponent`, infinite if it is too large. -/
def ofDecimal (negative : Bool) (digits : List Char) (exponent : Int) : Extended :=
  match Double.ofDecimal negative (Numeral.decimal digits) exponent with
  | some x => .finite x
  | none => .infinite negative

def ofInt (n : Int) : Extended :=
  match Double.ofDecimal (n < 0) n.natAbs 0 with
  | some x => .finite x
  | none => .infinite (n < 0)

/-- The number with the given digits before and after the point. -/
def ofParts (negative : Bool) (whole fraction : List Char) (exponent : Int) : Extended :=
  ofDecimal negative (whole ++ fraction) (exponent - fraction.length)

/-- The exponent after its letter. -/
def exponentOf? (text : List Char) : Option Int :=
  let (sign, digits) := Numeral.splitSign text
  if digits.isEmpty || !digits.all Char.isDigit then none else some (Numeral.exponent sign digits)

/-- The number of a decimal numeral without a sign; digits may be missing on one side of the
point. -/
def ofUnsigned? (negative : Bool) (text : List Char) : Option Extended :=
  let (mantissa, exponentText) := Numeral.cutAt (fun c => c == 'e' || c == 'E') text
  let (whole, fractionText) := Numeral.cutAt (· == '.') mantissa
  let fraction := fractionText.getD []
  if (whole ++ fraction).isEmpty || !(whole ++ fraction).all Char.isDigit then none
  else match exponentText with
    | some chars => (exponentOf? chars).map (ofParts negative whole fraction)
    | none => some (ofParts negative whole fraction 0)

/-- The number of a numeral or of a name, in which the case of letters does not matter. -/
def ofText? (text : List Char) : Option Extended :=
  let (sign, rest) := Numeral.splitSign text
  let negative := sign == some '-'
  let name := (String.ofList rest).toLower
  if name = "inf" || name = "infinity" then some (.infinite negative)
  else if name = "nan" then some .notANumber
  else ofUnsigned? negative rest

/-- The nearest natural number, a half away from zero, within the range of 64 bits. -/
def toNat64 : Extended → Nat
  | .finite x =>
    if x.negative then 0
    else
      let (num, den) := match x.exponent with
        | .ofNat e => (x.mantissa * Nat.pow 2 e, 1)
        | .negSucc e => (x.mantissa, Nat.pow 2 (e + 1))
      min ((2 * num + den) / (2 * den)) (Nat.pow 2 64 - 1)
  | .infinite negative => if negative then 0 else Nat.pow 2 64 - 1
  | .notANumber => 0

end Extended

end DesignTokens
