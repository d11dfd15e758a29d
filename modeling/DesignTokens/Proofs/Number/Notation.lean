import DesignTokens.Json.Printer
import DesignTokens.Number.Numeral
import DesignTokens.Proofs.Number.Decimal
import DesignTokens.Proofs.Uri.Text
import Mathlib.Tactic.FieldSimp

/-!
# DesignTokens.Proofs.Number.Notation — doubles are known by their texts

1. **Spellings** (`Decimal.Spelling`): digits, digits after a point and a signed power of ten. A
   spelling is known by its text.
2. **Notations**: both notations of a decimal spell its value (`Decimal.exists_spelling_positional`,
   `Decimal.exists_spelling_scientific`).
3. **Doubles** (`Double.jsonText_injective`).
-/

namespace DesignTokens

open Uri (marked append_marked_inj)

/-! ## Spellings -/

/-- A numeral in parts: the digits before the point and those after it, and a signed power of
ten. -/
structure Decimal.Spelling where
  whole : List Char
  fraction : Option (List Char) := none
  power : Option (List Char) := none

namespace Decimal.Spelling

def text (s : Spelling) : List Char :=
  s.whole ++ marked '.' s.fraction ++ marked 'e' s.power

/-- The digits on both sides of the point. -/
def digits (s : Spelling) : List Char :=
  s.whole ++ s.fraction.getD []

/-- The number that stands after the mark of the power, zero if there is none. -/
def exponent (s : Spelling) : ℤ :=
  let (sign, digits) := Numeral.splitSign (s.power.getD [])
  Numeral.signed sign (Nat.ofDigitChars 10 digits 0)

def value (s : Spelling) : ℚ :=
  Nat.ofDigitChars 10 s.digits 0 * 10 ^ (s.exponent - (s.fraction.getD []).length)

def Digits (text : List Char) : Prop :=
  ∀ c ∈ text, c.isDigit = true

/-- A spelling that is no whole number: it has a point or a power. -/
structure WellFormed (s : Spelling) : Prop where
  nonempty : s.whole ≠ []
  digits : Digits s.digits
  power : ∀ p ∈ s.power, ∃ sign digits, p = sign :: digits ∧ (sign = '+' ∨ sign = '-') ∧
    Digits digits
  mark : s.fraction.isSome = true ∨ s.power.isSome = true

/-- A run of digits has no other character. -/
theorem Digits.not_mem {text : List Char} (h : Digits text) {c : Char} (other : c.isDigit = false) :
    c ∉ text := by
  intro hc
  rw [h c hc] at other
  cases other

theorem digits_toDigits (n : ℕ) : Digits (Nat.toDigits 10 n) :=
  fun _ hc => Nat.isDigit_of_mem_toDigits (by decide) (by decide) hc

/-- Zeros are digits. -/
theorem digits_replicate (n : ℕ) : Digits (List.replicate n '0') := by
  intro c hc
  rw [List.eq_of_mem_replicate hc]
  rfl

/-- Digits after digits. -/
theorem Digits.append {text text' : List Char} (h : Digits text) (h' : Digits text') :
    Digits (text ++ text') :=
  fun c hc => (List.mem_append.1 hc).elim (h c) (h' c)

variable {s t : Spelling}

/-- The part before the point is a run of digits. -/
theorem WellFormed.whole (h : s.WellFormed) : Digits s.whole :=
  fun c hc => h.digits c (List.mem_append_left _ hc)

/-- So is the part after it. -/
theorem WellFormed.fraction (h : s.WellFormed) {f : List Char} (some : s.fraction = some f) :
    Digits f := by
  intro c hc
  refine h.digits c (List.mem_append_right _ ?_)
  rwa [some, Option.getD_some]

/-- No part before the power holds the mark of the power. -/
theorem WellFormed.not_mem_front (h : s.WellFormed) :
    'e' ∉ s.whole ++ marked '.' s.fraction := by
  intro hc
  rcases List.mem_append.1 hc with hc | hc
  · exact h.whole.not_mem (by decide) hc
  · cases hf : s.fraction with
    | none =>
      rw [hf] at hc
      cases hc
    | some f =>
      rw [hf] at hc
      rcases List.mem_cons.1 hc with hc | hc
      · cases hc
      · exact (h.fraction hf).not_mem (by decide) hc

/-- A character that occurs in spellings. -/
def isNumeral (c : Char) : Bool :=
  c.isDigit || c == '.' || c == 'e' || c == '+' || c == '-'

theorem isNumeral_of_isDigit {c : Char} (h : c.isDigit = true) : isNumeral c = true := by
  simp [isNumeral, h]

/-- A spelling has only characters of numbers. -/
theorem WellFormed.isNumeral (h : s.WellFormed) : ∀ c ∈ s.text, isNumeral c = true := by
  intro c hc
  rcases List.mem_append.1 hc with hc | hc
  · -- before the point, after it, and the power of ten
    rcases List.mem_append.1 hc with hc | hc
    · exact isNumeral_of_isDigit (h.whole c hc)
    · cases hf : s.fraction with
      | none =>
        rw [hf] at hc
        cases hc
      | some f =>
        rw [hf] at hc
        rcases List.mem_cons.1 hc with rfl | hc
        · rfl
        · exact isNumeral_of_isDigit (h.fraction hf c hc)
  · cases hp : s.power with
    | none =>
      rw [hp] at hc
      cases hc
    | some p =>
      obtain ⟨sign, digits, rfl, signs, run⟩ := h.power p hp
      rw [hp] at hc
      rcases List.mem_cons.1 hc with rfl | hc
      · rfl
      · rcases List.mem_cons.1 hc with rfl | hc
        · rcases signs with rfl | rfl <;> rfl
        · exact isNumeral_of_isDigit (run c hc)

/-- A spelling has a point or an exponent, so that it is not taken for an integer. -/
theorem WellFormed.mark_mem_text (h : s.WellFormed) : '.' ∈ s.text ∨ 'e' ∈ s.text := by
  rcases h.mark with mark | mark
  · obtain ⟨f, hf⟩ := Option.isSome_iff_exists.1 mark
    left
    rw [Spelling.text, hf]
    simp [marked]
  · obtain ⟨p, hp⟩ := Option.isSome_iff_exists.1 mark
    right
    rw [Spelling.text, hp]
    simp [marked]

/-- A spelling is known by its text. -/
theorem text_inj (hs : s.WellFormed) (ht : t.WellFormed) (h : s.text = t.text) : s = t := by
  obtain ⟨fronts, powers⟩ := append_marked_inj hs.not_mem_front ht.not_mem_front h
  -- The exponent comes last, then the point: each mark is in no part before it.
  obtain ⟨wholes, fractions⟩ := append_marked_inj (hs.whole.not_mem (by decide))
    (ht.whole.not_mem (by decide)) fronts
  cases s
  cases t
  cases wholes
  cases fractions
  cases powers
  rfl

end Decimal.Spelling

/-! ## Notations -/

namespace Decimal

open Spelling

/-- Digits with a point among them are well formed. -/
theorem wellFormed_pointed {whole fraction : List Char} (nonempty : whole ≠ [])
    (digits : Digits (whole ++ fraction)) : WellFormed ⟨whole, some fraction, none⟩ where
  nonempty := nonempty
  digits := digits
  power := by simp
  mark := .inl rfl

variable (d : Decimal)

/-- The digits of a decimal are digits. -/
theorem digits_digitText : Digits d.digitText :=
  digits_toDigits d.digits

theorem ofDigitChars_digitText : Nat.ofDigitChars 10 d.digitText 0 = d.digits :=
  Nat.ofDigitChars_ten_toDigits

theorem digitText_ne_nil : d.digitText ≠ [] :=
  Nat.toDigits_ne_nil

variable {d}

/-- A spelling has the value of a decimal if its digits are those of the decimal with zeros before
and after them, and the power and the place of the point make up for the zeros. -/
theorem value_eq {s : Spelling} (before after : ℕ)
    (digits : s.digits = List.replicate before '0' ++ d.digitText ++ List.replicate after '0')
    (exponent : s.exponent - (s.fraction.getD []).length + after = d.exponent) :
    s.value = d.value := by
  rw [Spelling.value, Decimal.value, digits, Nat.ofDigitChars_append, Nat.ofDigitChars_append,
    Nat.ofDigitChars_replicate_zero, Nat.ofDigitChars_replicate_zero, Nat.mul_zero,
    ofDigitChars_digitText, ← exponent, zpow_add₀ (by norm_num), zpow_natCast]
  push_cast
  ring

variable (d)

/-- A text with a point spells a decimal if its digits are those of the decimal with zeros before
and after them, and the place of the point makes up for the zeros. -/
theorem exists_spelling_pointed {text : String} (whole fraction : List Char) (before after : ℕ)
    (shown : text.toList = whole ++ '.' :: fraction) (nonempty : whole ≠ [])
    (digits : whole ++ fraction =
      List.replicate before '0' ++ d.digitText ++ List.replicate after '0')
    (exponent : (after : ℤ) - fraction.length = d.exponent) :
    ∃ s : Spelling, s.WellFormed ∧ s.value = d.value ∧ text.toList = s.text := by
  refine ⟨⟨whole, some fraction, none⟩, wellFormed_pointed nonempty ?_, ?_, ?_⟩
  · rw [digits]
    exact ((digits_replicate before).append d.digits_digitText).append (digits_replicate after)
  · apply value_eq before after
    · exact digits
    · change (0 : ℤ) - fraction.length + after = d.exponent
      omega
  · simp [shown, Spelling.text, marked]

/-- A decimal is written out with all its zeros, in a spelling of its value. -/
theorem exists_spelling_positional :
    ∃ s : Spelling, s.WellFormed ∧ s.value = d.value ∧ d.positional.toList = s.text := by
  have point : d.point = d.digitText.length + d.exponent := rfl
  unfold positional
  cases exponent : d.exponent with
  | ofNat zeros =>
    -- zeros after the digits, then the point, and one zero more
    apply d.exists_spelling_pointed (d.digitText ++ List.replicate zeros '0') ['0'] 0 (zeros + 1)
    · simp
    · exact List.append_ne_nil_of_left_ne_nil d.digitText_ne_nil _
    · simp [List.replicate_succ']
    · simp [exponent]
  | negSucc e =>
    cases place : d.point with
    | ofNat whole =>
      cases whole with
      | zero =>
        -- all digits right after the point
        apply d.exists_spelling_pointed ['0'] d.digitText 1 0
        · show (String.ofList (['0', '.'] ++ d.digitText)).toList = _
          simp
        · exact List.cons_ne_nil _ _
        · simp
        · rw [place, Int.ofNat_eq_natCast] at point
          omega
      | succ whole =>
        -- The point is among the digits.
        let front := d.digitText.take (whole + 1)
        let back := d.digitText.drop (whole + 1)
        apply d.exists_spelling_pointed front back 0 0
        · show (String.ofList (front ++ ['.'] ++ back)).toList = _
          simp
        · simp [front, digitText_ne_nil]
        · simp [front, back]
        · rw [place, Int.ofNat_eq_natCast] at point
          rw [List.length_drop]
          omega
    | negSucc zeros =>
      -- zeros between the point and the digits
      apply d.exists_spelling_pointed ['0'] (List.replicate (zeros + 1) '0' ++ d.digitText)
        (zeros + 2) 0
      · simp
      · exact List.cons_ne_nil _ _
      · simp [List.replicate_succ]
      · rw [place] at point
        rw [List.length_append, List.length_replicate]
        omega

/-- A number with its sign, in decimals. -/
def powerText : ℤ → List Char
  | .ofNat e => '+' :: Nat.toDigits 10 e
  | .negSucc e => '-' :: Nat.toDigits 10 (e + 1)

/-- The power that is written is the exponent that is read. -/
theorem exponent_powerText (s : Spelling) (n : ℤ) :
    Spelling.exponent { s with power := some (powerText n) } = n := by
  cases n with
  | ofNat e =>
    show ((Nat.ofDigitChars 10 (Nat.toDigits 10 e) 0 : ℕ) : ℤ) = e
    rw [Nat.ofDigitChars_ten_toDigits]
  | negSucc e =>
    show -((Nat.ofDigitChars 10 (Nat.toDigits 10 (e + 1)) 0 : ℕ) : ℤ) = Int.negSucc e
    rw [Nat.ofDigitChars_ten_toDigits]
    rfl

/-- A power is written with a sign and digits. -/
theorem exists_powerText (n : ℤ) : ∃ sign digits, powerText n = sign :: digits ∧
    (sign = '+' ∨ sign = '-') ∧ Digits digits := by
  cases n with
  | ofNat e => exact ⟨_, _, rfl, .inl rfl, digits_toDigits e⟩
  | negSucc e => exact ⟨_, _, rfl, .inr rfl, digits_toDigits (e + 1)⟩

/-- A decimal is written with its first digit, the others after a point, and the power. -/
theorem exists_spelling_scientific :
    ∃ s : Spelling, s.WellFormed ∧ s.value = d.value ∧ d.scientific.toList = s.text := by
  have digits := d.digits_digitText
  have point : d.point = d.digitText.length + d.exponent := rfl
  obtain ⟨first, rest, text⟩ : ∃ first rest, d.digitText = first :: rest :=
    List.exists_cons_of_ne_nil d.digitText_ne_nil
  -- There is no point if no digit follows it.
  obtain ⟨fraction, after, written⟩ : ∃ fraction : Option (List Char), fraction.getD [] = rest ∧
      d.scientific.toList = first :: (marked '.' fraction ++ 'e' :: powerText (d.point - 1)) := by
    unfold scientific
    dsimp only
    rw [String.toList_ofList, text]
    cases rest with
    | nil => exact ⟨none, rfl, rfl⟩
    | cons c cs => exact ⟨some (c :: cs), rfl, rfl⟩
  refine ⟨⟨[first], fraction, some (powerText (d.point - 1))⟩, ⟨?_, ?_, ?_, ?_⟩, ?_, ?_⟩
  · exact List.cons_ne_nil _ _
  · rw [Spelling.digits, after]
    rwa [text] at digits
  · intro p hp
    cases hp
    exact exists_powerText (d.point - 1)
  · exact .inr rfl
  · apply value_eq 0 0
    · rw [Spelling.digits, after, text]
      simp
    · rw [exponent_powerText ⟨[first], fraction, none⟩, after]
      rw [text, List.length_cons] at point
      omega
  · rw [written]
    simp [Spelling.text, marked]

end Decimal

/-! ## Doubles -/

namespace Double

open Decimal

variable (x : Double)

/-- The text of a double spells its shortest decimal, after a sign if the double is negative. -/
theorem exists_spelling : ∃ s : Spelling, s.WellFormed ∧ s.value = x.shortest.value ∧
    x.jsonText.toList = (if x.negative then ['-'] else []) ++ s.text := by
  obtain ⟨s, wellFormed, value, text⟩ : ∃ s : Spelling, s.WellFormed ∧
      s.value = x.shortest.value ∧
        (if x.isZero || (-5 < x.shortest.point && x.shortest.point ≤ 16) then x.shortest.positional
          else x.shortest.scientific).toList = s.text := by
    split
    · exact exists_spelling_positional x.shortest
    · exact exists_spelling_scientific x.shortest
  refine ⟨s, wellFormed, value, ?_⟩
  rw [jsonText, ← text]
  cases x.negative <;> simp

/-- The text of a double has only characters of numbers. -/
theorem isNumeral_jsonText : ∀ c ∈ x.jsonText.toList, Spelling.isNumeral c = true := by
  obtain ⟨s, wellFormed, _, text⟩ := x.exists_spelling
  rw [text]
  intro c hc
  rcases List.mem_append.1 hc with sign | hc
  · cases hx : x.negative <;> rw [hx] at sign
    · cases sign
    · rw [List.mem_singleton.1 sign]
      rfl
  · exact wellFormed.isNumeral c hc

/-- The text of a double has a point or an exponent. -/
theorem mark_mem_jsonText : '.' ∈ x.jsonText.toList ∨ 'e' ∈ x.jsonText.toList := by
  obtain ⟨s, wellFormed, _, text⟩ := x.exists_spelling
  rw [text]
  exact wellFormed.mark_mem_text.imp (List.mem_append_right _) (List.mem_append_right _)

/-- A double is known by its text. -/
theorem jsonText_injective {x y : Double} (h : x.jsonText = y.jsonText) : x = y := by
  obtain ⟨s, hs, value, text⟩ := x.exists_spelling
  obtain ⟨t, ht, value', text'⟩ := y.exists_spelling
  have texts : (if x.negative then ['-'] else []) ++ s.text =
      (if y.negative then ['-'] else []) ++ t.text := by
    rw [← text, ← text', h]
  -- A spelling does not start with a sign.
  have unsigned {s t : Spelling} (hs : s.WellFormed) : s.text ≠ '-' :: t.text := by
    intro same
    obtain ⟨c, rest, digits⟩ := List.exists_cons_of_ne_nil hs.nonempty
    rw [Spelling.text, digits] at same
    have sign : '-' ∈ s.whole := by
      rw [digits, ← (List.cons.inj same).1]
      exact List.mem_cons_self
    exact hs.whole.not_mem (by decide) sign
  have parts : x.negative = y.negative ∧ s.text = t.text := by
    -- A sign on one side only would have to start a spelling.
    cases hx : x.negative <;> cases hy : y.negative <;> rw [hx, hy] at texts
    · exact ⟨rfl, texts⟩
    · exact absurd texts (unsigned hs)
    · exact absurd texts.symm (unsigned ht)
    · exact ⟨rfl, (List.cons.inj texts).2⟩
  refine eq_of_value_shortest parts.1 ?_
  rw [← value, ← value', Spelling.text_inj hs ht parts.2]

end Double

end DesignTokens
