import DesignTokens.Text.Utf8
import Mathlib.Data.Nat.Basic
import Mathlib.Tactic.SplitIfs

/-!
# DesignTokens.Proofs.Text.Utf8 — encoding and decoding again

What `Utf8.encode` writes is what `Utf8.decode` reads, and nothing else is read. A character takes
one to four bytes, by the size of its number, and each length is a lemma of its own.

1. **Bytes** given by their numbers (`byte_range`), and what each position of a sequence asks of
   them.
2. **Characters** (`decodeFrom_encodeChar`): the bytes of a character are read as the character.
3. **Texts** (`decode_encode`).
4. **Sequences that are decoded** are the bytes of a character; so bytes are decoded only if they
   are those of a text (`decode_eq_ok_iff`).
-/

namespace DesignTokens.Text.Utf8

/-! ## Bytes -/

theorem toNat_ofNat {n : Nat} (h : n < 256) : (UInt8.ofNat n).toNat = n := by
  rw [UInt8.toNat_ofNat']
  exact Nat.mod_eq_of_lt h

theorem byte_lt {n : Nat} (h : n < 256) (b : UInt8) : UInt8.ofNat n < b ↔ n < b.toNat := by
  rw [UInt8.lt_iff_toNat_lt, toNat_ofNat h]

theorem byte_eq {n : Nat} (h : n < 256) (b : UInt8) : UInt8.ofNat n = b ↔ n = b.toNat := by
  rw [← UInt8.toNat_inj, toNat_ofNat h]

theorem byte_range {n : Nat} (h : n < 256) (low high : UInt8) :
    (low ≤ UInt8.ofNat n && UInt8.ofNat n < high) = true ↔ low.toNat ≤ n ∧ n < high.toNat := by
  rw [Bool.and_eq_true, decide_eq_true_eq, decide_eq_true_eq, UInt8.le_iff_toNat_le, byte_lt h,
    toNat_ofNat h]

/-- A byte that holds six bits of a character continues a sequence. -/
theorem isContinuation_byte (n : Nat) : isContinuation (UInt8.ofNat (n % 64 + 128)) = true := by
  have small : n % 64 + 128 < 256 := by omega
  exact (byte_range small 0x80 0xC0).2 (by change 128 ≤ _ ∧ _ < 192; omega)

/-- The second byte of a long sequence, which the first one may restrict further. -/
theorem isSecond_byte {m : Nat} (small : m < 256) (n : Nat) (overlong : m = 224 → 32 ≤ n % 64)
    (surrogate : m = 237 → n % 64 < 32) (overlong' : m = 240 → 16 ≤ n % 64)
    (beyond : m = 244 → n % 64 < 16) :
    isSecond (UInt8.ofNat m) (UInt8.ofNat (n % 64 + 128)) = true := by
  have second : n % 64 + 128 < 256 := by omega
  unfold isSecond
  simp only [byte_eq small]
  split_ifs with e0 ed f0 f4
  · have := overlong e0
    exact (byte_range second 0xA0 0xC0).2 (by change 160 ≤ _ ∧ _ < 192; omega)
  · have := surrogate ed
    exact (byte_range second 0x80 0xA0).2 (by change 128 ≤ _ ∧ _ < 160; omega)
  · have := overlong' f0
    exact (byte_range second 0x90 0xC0).2 (by change 144 ≤ _ ∧ _ < 192; omega)
  · have := beyond f4
    exact (byte_range second 0x80 0x90).2 (by change 128 ≤ _ ∧ _ < 144; omega)
  · exact isContinuation_byte n

theorem payload_byte (n : Nat) : payload (UInt8.ofNat (n % 64 + 128)) = n % 64 := by
  rw [payload, toNat_ofNat (by omega)]
  omega

/-! ## Characters -/

section Characters

variable {n : Nat} (index : Nat) (rest : List UInt8)

theorem decodeFrom_one (h : n ≤ 127) :
    decodeFrom index (UInt8.ofNat n :: rest) =
      (decodeFrom (index + 1) rest).map (Char.ofNat n :: ·) := by
  have small : n < 256 := by omega
  have first : UInt8.ofNat n < 0x80 := (byte_lt small _).2 (by change n < 128; omega)
  rw [decodeFrom.eq_def]
  simp only [if_pos first, toNat_ofNat small]

theorem decodeFrom_two (low : 127 < n) (h : n ≤ 2047) :
    decodeFrom index (UInt8.ofNat (n / 64 % 32 + 192) :: UInt8.ofNat (n % 64 + 128) :: rest) =
      (decodeFrom (index + 2) rest).map (Char.ofNat n :: ·) := by
  have small : n / 64 % 32 + 192 < 256 := by omega
  have one := mt (byte_lt small 0x80).1 (by change ¬_ < 128; omega)
  have two := (byte_range small 0xC2 0xE0).2 (by change 194 ≤ _ ∧ _ < 224; omega)
  have code : (n / 64 % 32 + 192) % 32 * 64 + n % 64 = n := by omega
  rw [decodeFrom.eq_def]
  simp only [if_neg one, if_pos two, isContinuation_byte, payload_byte, toNat_ofNat small, code,
    Bool.not_true, Bool.false_eq_true, if_false]

theorem decodeFrom_three (low : 2047 < n) (h : n ≤ 65535) (valid : n < 55296 ∨ 57343 < n) :
    decodeFrom index (UInt8.ofNat (n / 4096 % 16 + 224) :: UInt8.ofNat (n / 64 % 64 + 128) ::
        UInt8.ofNat (n % 64 + 128) :: rest) =
      (decodeFrom (index + 3) rest).map (Char.ofNat n :: ·) := by
  have small : n / 4096 % 16 + 224 < 256 := by omega
  -- The first byte says that three belong together.
  have one := mt (byte_lt small 0x80).1 (by change ¬_ < 128; omega)
  have two := mt (byte_range small 0xC2 0xE0).1 (by change ¬(194 ≤ _ ∧ _ < 224); omega)
  have three := (byte_range small 0xE0 0xF0).2 (by change 224 ≤ _ ∧ _ < 240; omega)
  have second := isSecond_byte small (n / 64) (by omega) (by omega) (by omega) (by omega)
  have code : ((n / 4096 % 16 + 224) % 16 * 64 + n / 64 % 64) * 64 + n % 64 = n := by omega
  rw [decodeFrom.eq_def]
  simp only [if_neg one, if_neg two, if_pos three, second, isContinuation_byte, payload_byte,
    toNat_ofNat small, code, Bool.not_true, Bool.false_eq_true, if_false]

theorem decodeFrom_four (low : 65535 < n) (h : n < 1114112) :
    decodeFrom index (UInt8.ofNat (n / 262144 % 8 + 240) :: UInt8.ofNat (n / 4096 % 64 + 128) ::
        UInt8.ofNat (n / 64 % 64 + 128) :: UInt8.ofNat (n % 64 + 128) :: rest) =
      (decodeFrom (index + 4) rest).map (Char.ofNat n :: ·) := by
  have small : n / 262144 % 8 + 240 < 256 := by omega
  -- The first byte says that four belong together.
  have one := mt (byte_lt small 0x80).1 (by change ¬_ < 128; omega)
  have two := mt (byte_range small 0xC2 0xE0).1 (by change ¬(194 ≤ _ ∧ _ < 224); omega)
  have three := mt (byte_range small 0xE0 0xF0).1 (by change ¬(224 ≤ _ ∧ _ < 240); omega)
  have four := (byte_range small 0xF0 0xF5).2 (by change 240 ≤ _ ∧ _ < 245; omega)
  have second := isSecond_byte small (n / 4096) (by omega) (by omega) (by omega) (by omega)
  have code : (((n / 262144 % 8 + 240) % 8 * 64 + n / 4096 % 64) * 64 + n / 64 % 64) * 64 +
      n % 64 = n := by omega
  rw [decodeFrom.eq_def]
  simp only [if_neg one, if_neg two, if_neg three, if_pos four, second, isContinuation_byte,
    payload_byte, toNat_ofNat small, code, Bool.not_true, Bool.false_eq_true, if_false]

/-- The bytes of a character are read as the character. -/
theorem decodeFrom_encodeChar (c : Char) :
    ∃ next, decodeFrom index (String.utf8EncodeChar c ++ rest) =
      (decodeFrom next rest).map (c :: ·) := by
  have valid : c.toNat < 55296 ∨ 57343 < c.toNat ∧ c.toNat < 1114112 := c.valid
  change c.val.toNat < _ ∨ _ < c.val.toNat ∧ c.val.toNat < _ at valid
  have same : Char.ofNat c.val.toNat = c := Char.ofNat_toNat c
  unfold String.utf8EncodeChar
  dsimp only
  -- One to four bytes, by the size of the character.
  split_ifs with one two three
  · have read := decodeFrom_one index rest one
    rw [same] at read
    exact ⟨_, read⟩
  · have read := decodeFrom_two index rest (Nat.not_le.1 one) two
    rw [same] at read
    exact ⟨_, read⟩
  · have read := decodeFrom_three index rest (Nat.not_le.1 two) three (by omega)
    rw [same] at read
    exact ⟨_, read⟩
  · have read := decodeFrom_four index rest (Nat.not_le.1 three) (by omega)
    rw [same] at read
    exact ⟨_, read⟩

end Characters

/-! ## Texts -/

/-- Whatever is encoded is read back. -/
theorem decodeFrom_encode (index : Nat) (text : List Char) :
    decodeFrom index (encode text) = .ok text := by
  induction text generalizing index with
  | nil => rw [encode, List.flatMap_nil, decodeFrom]
  | cons c rest ih =>
    obtain ⟨next, first⟩ := decodeFrom_encodeChar index (encode rest) c
    have bytes : encode (c :: rest) = String.utf8EncodeChar c ++ encode rest := List.flatMap_cons
    rw [bytes, first, ih next]
    rfl

/-- A text that is encoded is read back. -/
theorem decode_encode (text : List Char) : decode (encode text) = .ok text :=
  decodeFrom_encode 0 text

/-! ## Sequences that are decoded -/

/-- The bytes of a character, given by its number. -/
theorem encodeChar_ofNat {n : Nat} (valid : n.isValidChar) :
    String.utf8EncodeChar (Char.ofNat n) =
      if n ≤ 127 then [UInt8.ofNat n]
      else if n ≤ 2047 then [UInt8.ofNat (n / 64 % 32 + 192), UInt8.ofNat (n % 64 + 128)]
      else if n ≤ 65535 then
        [UInt8.ofNat (n / 4096 % 16 + 224), UInt8.ofNat (n / 64 % 64 + 128),
          UInt8.ofNat (n % 64 + 128)]
      else
        [UInt8.ofNat (n / 262144 % 8 + 240), UInt8.ofNat (n / 4096 % 64 + 128),
          UInt8.ofNat (n / 64 % 64 + 128), UInt8.ofNat (n % 64 + 128)] := by
  have number : (Char.ofNat n).val.toNat = n := by
    rw [Char.ofNat, dif_pos valid]
    rfl
  unfold String.utf8EncodeChar
  dsimp only
  rw [number]

/-- A byte is the given number. -/
theorem ofNat_eq_of_toNat {n : Nat} {b : UInt8} (h : n = b.toNat) : UInt8.ofNat n = b := by
  rw [h, UInt8.ofNat_toNat]

theorem between_iff {low high b : UInt8} :
    (low ≤ b && b < high) = true ↔ low.toNat ≤ b.toNat ∧ b.toNat < high.toNat := by
  have range := byte_range b.toNat_lt low high
  rwa [UInt8.ofNat_toNat] at range

theorem isContinuation_iff {b : UInt8} :
    isContinuation b = true ↔ 128 ≤ b.toNat ∧ b.toNat < 192 :=
  between_iff

/-- What the second byte of a long sequence asks of the two, in numbers. -/
theorem second_of_isSecond {a b : UInt8} (h : isSecond a b = true) :
    128 ≤ b.toNat ∧ b.toNat < 192 ∧ (a.toNat = 224 → 160 ≤ b.toNat) ∧
      (a.toNat = 237 → b.toNat < 160) ∧ (a.toNat = 240 → 144 ≤ b.toNat) ∧
      (a.toNat = 244 → b.toNat < 144) := by
  have number : ∀ x : UInt8, a = x ↔ a.toNat = x.toNat := fun x => UInt8.toNat_inj.symm
  unfold isSecond at h
  simp only [number] at h
  split_ifs at h with e0 ed f0 f4
  all_goals
    have range := between_iff.1 h
    simp only [UInt8.reduceToNat] at *
    omega

section Sequences

variable {a b c d : UInt8}

theorem encodeChar_one (ha : a < 0x80) : String.utf8EncodeChar (Char.ofNat a.toNat) = [a] := by
  have bound : a.toNat < 128 := ha
  rw [encodeChar_ofNat (.inl (by omega)), if_pos (by omega), UInt8.ofNat_toNat]

theorem encodeChar_two (ha : (0xC2 ≤ a && a < 0xE0) = true) (hb : isContinuation b = true) :
    String.utf8EncodeChar (Char.ofNat (a.toNat % 32 * 64 + payload b)) = [a, b] := by
  have first : 194 ≤ a.toNat ∧ a.toNat < 224 := between_iff.1 ha
  have second := isContinuation_iff.1 hb
  unfold payload
  rw [encodeChar_ofNat (.inl (by omega)), if_neg (by omega), if_pos (by omega),
    ofNat_eq_of_toNat (b := a) (by omega), ofNat_eq_of_toNat (b := b) (by omega)]

theorem encodeChar_three (ha : (0xE0 ≤ a && a < 0xF0) = true) (hb : isSecond a b = true)
    (hc : isContinuation c = true) :
    String.utf8EncodeChar
        (Char.ofNat ((a.toNat % 16 * 64 + payload b) * 64 + payload c)) = [a, b, c] := by
  have first : 224 ≤ a.toNat ∧ a.toNat < 240 := between_iff.1 ha
  have second := second_of_isSecond hb
  have third := isContinuation_iff.1 hc
  unfold payload
  -- No overlong sequence and no surrogate starts with these two bytes.
  have valid : Nat.isValidChar ((a.toNat % 16 * 64 + b.toNat % 64) * 64 + c.toNat % 64) := by
    unfold Nat.isValidChar
    omega
  rw [encodeChar_ofNat valid, if_neg (by omega), if_neg (by omega), if_pos (by omega),
    ofNat_eq_of_toNat (b := a) (by omega), ofNat_eq_of_toNat (b := b) (by omega),
    ofNat_eq_of_toNat (b := c) (by omega)]

theorem encodeChar_four (ha : (0xF0 ≤ a && a < 0xF5) = true) (hb : isSecond a b = true)
    (hc : isContinuation c = true) (hd : isContinuation d = true) :
    String.utf8EncodeChar (Char.ofNat
        (((a.toNat % 8 * 64 + payload b) * 64 + payload c) * 64 + payload d)) = [a, b, c, d] := by
  have first : 240 ≤ a.toNat ∧ a.toNat < 245 := between_iff.1 ha
  have second := second_of_isSecond hb
  have third := isContinuation_iff.1 hc
  have fourth := isContinuation_iff.1 hd
  unfold payload
  -- No sequence of four that is read goes beyond the last character.
  have valid : Nat.isValidChar
      (((a.toNat % 8 * 64 + b.toNat % 64) * 64 + c.toNat % 64) * 64 + d.toNat % 64) := by
    unfold Nat.isValidChar
    omega
  rw [encodeChar_ofNat valid, if_neg (by omega), if_neg (by omega), if_neg (by omega),
    ofNat_eq_of_toNat (b := a) (by omega), ofNat_eq_of_toNat (b := b) (by omega),
    ofNat_eq_of_toNat (b := c) (by omega), ofNat_eq_of_toNat (b := d) (by omega)]

end Sequences

/-- A sequence that is decoded to a character starts the bytes of the text. -/
theorem encode_of_map {c : Char} {taken rest : List UInt8} {text : List Char}
    {result : Except Fault (List Char)} (one : String.utf8EncodeChar c = taken)
    (read : result.map (c :: ·) = .ok text)
    (ih : ∀ {more}, result = .ok more → encode more = rest) : encode text = taken ++ rest := by
  cases result with
  | error fault => cases read
  | ok more =>
    cases read
    rw [encode, List.flatMap_cons, one]
    exact congrArg _ (ih rfl)

/-- Bytes are decoded to a text only if they are its bytes. -/
theorem encode_of_decodeFrom {index : Nat} {bytes : List UInt8} {text : List Char}
    (h : decodeFrom index bytes = .ok text) : encode text = bytes := by
  -- The reader's branches that succeed, by the length of a sequence; the others give an error.
  fun_induction decodeFrom index bytes generalizing text with
  | case1 =>
    cases h
    rfl
  | case2 index a rest one ih => exact encode_of_map (encodeChar_one one) h ih
  | case5 index a not_one two b rest second ih =>
    exact encode_of_map (encodeChar_two two (by simpa using second)) h ih
  | case10 index a not_one not_two three b second c rest third =>
    rename_i ih
    have bytes := encodeChar_three three (by simpa using second) (by simpa using third)
    exact encode_of_map bytes h ih
  | case17 index a not_one not_two not_three four b second c third d rest fourth =>
    rename_i ih
    have bytes := encodeChar_four four (by simpa using second) (by simpa using third)
      (by simpa using fourth)
    exact encode_of_map bytes h ih
  | _ => cases h

/-- Bytes are decoded to a text if and only if they are its bytes. -/
theorem decode_eq_ok_iff {bytes : List UInt8} {text : List Char} :
    decode bytes = .ok text ↔ encode text = bytes := by
  constructor
  · exact encode_of_decodeFrom
  · rintro rfl
    exact decode_encode text

end DesignTokens.Text.Utf8
