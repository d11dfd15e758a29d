import DesignTokens.Text.Utf8

/-!
# DesignTokens.Text.Percent — percent-encoding

1. **Encoding** (`Percent.encode`): characters that are not kept become their UTF-8 bytes, each as
   a percent sign and two upper-case hexadecimal digits. A percent sign is kept by most rules, so
   text that is encoded already stays as it is.
2. **Decoding** (`Percent.decodeBytes`, `Percent.decode`): a percent sign without two hexadecimal
   digits after it stands for itself.
-/

namespace DesignTokens.Text.Percent

def hexDigit (n : Nat) : Char :=
  Char.ofNat (if n < 10 then 48 + n else 55 + n)

/-- A byte as a percent sign and two digits. -/
def encodeByte (b : UInt8) : List Char :=
  ['%', hexDigit (b.toNat / 16), hexDigit (b.toNat % 16)]

/-- Encode every character that is not kept. -/
def encode (keep : Char → Bool) (text : List Char) : List Char :=
  text.flatMap fun c => if keep c then [c] else (String.utf8EncodeChar c).flatMap encodeByte

def hexValue? (b : UInt8) : Option UInt8 :=
  if 48 ≤ b && b ≤ 57 then some (b - 48)
  else if 65 ≤ b && b ≤ 70 then some (b - 55)
  else if 97 ≤ b && b ≤ 102 then some (b - 87)
  else none

/-- The byte that two hexadecimal digits stand for. -/
def bytePair? (high low : UInt8) : Option UInt8 :=
  (hexValue? high).bind fun h => (hexValue? low).map fun l => h * 16 + l

/-- Replace each percent sign followed by two hexadecimal digits by the byte they stand for. -/
def decodeBytes : List UInt8 → List UInt8
  | [] => []
  | [b] => [b]
  | [b, c] => [b, c]
  | b :: c :: d :: rest =>
    if b = 37 then
      match bytePair? c d with
      | some byte => byte :: decodeBytes rest
      | none => b :: decodeBytes (c :: d :: rest)
    else b :: decodeBytes (c :: d :: rest)

/-- The text that a percent-encoded text stands for, if its bytes are UTF-8. -/
def decode (text : List Char) : Except Utf8.Fault (List Char) :=
  Utf8.decode (decodeBytes (Utf8.encode text))

end DesignTokens.Text.Percent
