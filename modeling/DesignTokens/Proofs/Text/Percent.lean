import DesignTokens.Proofs.Text.Utf8
import DesignTokens.Text.Percent

/-!
# DesignTokens.Proofs.Text.Percent — percent-encoding is undone by decoding

A text can be written with every byte of its UTF-8 as a percent sign and two digits, except for
those bytes that may stand for themselves. Whichever these are among the ASCII characters other
than the percent sign, decoding gives the text again.

1. **Writing** (`Percent.write`): bytes as characters.
2. **Decoding**, byte by byte (`decodeBytes_cons`, `decodeBytes_pair`).
3. **Texts** (`decode_write`).
-/

namespace DesignTokens.Text.Percent

/-! ## Writing -/

/-- The characters for some bytes: a plain byte stands for itself, and all others are encoded. -/
def write (plain : UInt8 → Bool) (bytes : List UInt8) : List Char :=
  bytes.flatMap fun b => if plain b then [Char.ofNat b.toNat] else encodeByte b

/-- A byte of ASCII is the one byte of its character. -/
theorem encode_ascii {b : UInt8} (ascii : b < 128) : Utf8.encode [Char.ofNat b.toNat] = [b] := by
  have all : ∀ n < 128, Utf8.encode [Char.ofNat n] = [UInt8.ofNat n] := by decide +kernel
  rw [all b.toNat ascii, UInt8.ofNat_toNat]

def hexByte (n : Nat) : UInt8 :=
  UInt8.ofNat (if n < 10 then 48 + n else 55 + n)

/-- A hexadecimal digit is one byte. -/
theorem encode_hexDigit : ∀ n < 16, String.utf8EncodeChar (hexDigit n) = [hexByte n] := by
  decide

/-- A hexadecimal digit is read back as its value. -/
theorem hexValue?_hexByte : ∀ n < 16, hexValue? (hexByte n) = some (UInt8.ofNat n) := by
  decide

/-- The two digits of a byte stand for it. -/
theorem bytePair?_hexByte (b : UInt8) :
    bytePair? (hexByte (b.toNat / 16)) (hexByte (b.toNat % 16)) = some b := by
  have bound : b.toNat < 256 := b.toNat_lt
  have sum : UInt8.ofNat (b.toNat / 16) * 16 + UInt8.ofNat (b.toNat % 16) = b := by
    rw [← UInt8.toNat_inj, UInt8.toNat_add, UInt8.toNat_mul, Utf8.toNat_ofNat (by omega),
      Utf8.toNat_ofNat (by omega)]
    change (b.toNat / 16 * 16 % 256 + b.toNat % 16) % 256 = b.toNat
    omega
  rw [bytePair?, hexValue?_hexByte _ (by omega), hexValue?_hexByte _ (by omega), Option.bind_some,
    Option.map_some, sum]

/-- An escaped byte is a mark and two digits. -/
theorem encode_encodeByte (b : UInt8) :
    Utf8.encode (encodeByte b) = [37, hexByte (b.toNat / 16), hexByte (b.toNat % 16)] := by
  have bound : b.toNat < 256 := b.toNat_lt
  have percent : String.utf8EncodeChar '%' = [37] := by decide
  simp [Utf8.encode, encodeByte, percent, encode_hexDigit (b.toNat / 16) (by omega),
    encode_hexDigit (b.toNat % 16) (by omega)]

/-! ## Decoding -/

/-- A byte other than a percent sign stands for itself. -/
theorem decodeBytes_cons {b : UInt8} (other : b ≠ 37) (rest : List UInt8) :
    decodeBytes (b :: rest) = b :: decodeBytes rest := by
  match rest with
  | [] => rfl
  | [_] => rfl
  | _ :: _ :: _ => rw [decodeBytes, if_neg other]

/-- A percent sign and two digits stand for a byte. -/
theorem decodeBytes_pair {high low b : UInt8} (pair : bytePair? high low = some b)
    (rest : List UInt8) : decodeBytes (37 :: high :: low :: rest) = b :: decodeBytes rest := by
  rw [decodeBytes, if_pos rfl, pair]

/-! ## Texts -/

section Texts

variable {plain : UInt8 → Bool} (safe : ∀ b, plain b = true → b < 128 ∧ b ≠ 37)

include safe

/-- What is written is read back byte by byte. -/
theorem decodeBytes_write (bytes : List UInt8) :
    decodeBytes (Utf8.encode (write plain bytes)) = bytes := by
  induction bytes with
  | nil => rfl
  | cons b rest ih =>
    have parts : write plain (b :: rest) =
        (if plain b then [Char.ofNat b.toNat] else encodeByte b) ++ write plain rest :=
      List.flatMap_cons
    rw [parts, Utf8.encode, List.flatMap_append]
    split
    · -- The byte stands for itself, and is not the mark of an escape.
      next kept =>
      obtain ⟨ascii, other⟩ := safe b kept
      have first : [Char.ofNat b.toNat].flatMap String.utf8EncodeChar = [b] := encode_ascii ascii
      rw [first, List.singleton_append, decodeBytes_cons other]
      exact congrArg _ ih
    · -- The byte is escaped.
      have first : (encodeByte b).flatMap String.utf8EncodeChar = _ := encode_encodeByte b
      rw [first]
      exact (decodeBytes_pair (bytePair?_hexByte b) _).trans (congrArg _ ih)

/-- What is written for the bytes of a text is decoded to the text. -/
theorem decode_write (text : List Char) : decode (write plain (Utf8.encode text)) = .ok text := by
  rw [decode, decodeBytes_write safe, Utf8.decode_encode]

end Texts

end DesignTokens.Text.Percent
