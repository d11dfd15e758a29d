import DesignTokens.Namespace
import DesignTokens.Proofs.Text.Split
import DesignTokens.TokenType
import Mathlib.Computability.Language

/-!
# DesignTokens.Proofs.Patterns — the texts that two patterns accept

The keys of extensions and the texts of measures each have a pattern. Whether a text matches is
found out by hand: a key is cut at its separators, and of a measure the digits are dropped, with no
second try. Neither misses a text that matches in some way, since no piece holds the separator that
it is cut at, and nothing that may follow digits begins with one.

1. **Patterns** as languages: characters of a class (`Text.one`), and what is repeated
   (`Text.oneOrMore`) or left out (`Text.orNothing`). Repeated characters are runs (`Text.IsRun`),
   and what is repeated after a separator is joined by it.
2. **Namespaces** (`Namespace.IsNamespace`): labels of words.
3. **Measures** (`TokenType.IsMeasureText`): a sign, a magnitude and a unit.
4. **Checks** (`checks_accept_exactly`): both accept what the pattern does, and that is the grammar.
-/

namespace DesignTokens

open scoped Computability

/-! ## Patterns -/

namespace Text

/-- One character of a class. -/
def one (member : Char → Prop) : Language Char :=
  {text | ∃ c, member c ∧ text = [c]}

def oneOrMore (l : Language Char) : Language Char :=
  l * l∗

def orNothing (l : Language Char) : Language Char :=
  1 + l

/-- What may be missing is there or not. -/
theorem mem_orNothing {l : Language Char} {text : List Char} :
    text ∈ orNothing l ↔ text = [] ∨ text ∈ l := by
  rw [orNothing, Language.mem_add, Language.mem_one]

/-- The class of the characters from one to another. -/
def Between (first last : Char) (c : Char) : Prop :=
  first ≤ c ∧ c ≤ last

instance (first last c : Char) : Decidable (Between first last c) :=
  inferInstanceAs (Decidable (_ ∧ _))

/-- Classes of ASCII are tested by the codes of both ends. -/
theorem isBetween_iff (first last c : Char) :
    (decide (c.val ≥ first.val) && decide (c.val ≤ last.val)) = true ↔ Between first last c := by
  rw [Bool.and_eq_true, decide_eq_true_eq, decide_eq_true_eq]
  rfl

def IsRun (member : Char → Prop) (text : List Char) : Prop :=
  text ≠ [] ∧ ∀ c ∈ text, member c

/-- One character or more of a kind are a run of it. -/
theorem mem_oneOrMore_one {member : Char → Prop} {text : List Char} :
    text ∈ oneOrMore (one member) ↔ IsRun member text := by
  rw [oneOrMore, Language.mem_mul]
  constructor
  · -- The pieces are single characters, put together again.
    rintro ⟨_, ⟨c, hc, rfl⟩, _, more, rfl⟩
    obtain ⟨texts, rfl, singles⟩ := Language.mem_kstar.1 more
    refine ⟨List.cons_ne_nil _ _, List.forall_mem_cons.2 ⟨hc, fun d hd => ?_⟩⟩
    obtain ⟨single, hs, hd⟩ := List.mem_flatten.1 hd
    obtain ⟨e, he, rfl⟩ := singles single hs
    exact List.mem_singleton.1 hd ▸ he
  · rintro ⟨ne, all⟩
    obtain ⟨c, rest, rfl⟩ := List.exists_cons_of_ne_nil ne
    obtain ⟨hc, hrest⟩ := List.forall_mem_cons.1 all
    -- A run is cut into its characters.
    refine ⟨[c], ⟨c, hc, rfl⟩, rest, Language.mem_kstar.2 ⟨rest.map fun d => [d], ?_, ?_⟩, rfl⟩
    · rw [← List.flatMap_def, List.flatMap_singleton']
    · rintro _ h
      obtain ⟨d, hd, rfl⟩ := List.mem_map.1 h
      exact ⟨d, hrest d hd, rfl⟩

/-- Pieces that each come after a separator. -/
theorem mem_kstar_mark {mark : Char} {l : Language Char} {text : List Char} :
    text ∈ ({[mark]} * l : Language Char)∗ ↔ Marked mark 0 (· ∈ l) text := by
  rw [Language.mem_kstar]
  constructor
  · -- Each piece begins with the mark; what is left of it is in the language.
    rintro ⟨texts, rfl, marked⟩
    have each : ∀ text ∈ texts, text.tail ∈ l ∧ mark :: text.tail = text := by
      intro text ht
      obtain ⟨_, rfl, piece, hp, rfl⟩ := Language.mem_mul.1 (marked text ht)
      exact ⟨hp, rfl⟩
    refine ⟨texts.map List.tail, Nat.zero_le _,
      List.forall_mem_map.2 fun text ht => (each text ht).1, ?_⟩
    rw [List.flatMap_map, List.flatMap_def, List.map_congr_left fun text ht => (each text ht).2,
      List.map_id']
  · rintro ⟨pieces, _, good, rfl⟩
    refine ⟨pieces.map (mark :: ·), List.flatMap_def, List.forall_mem_map.2 fun piece hp => ?_⟩
    exact Language.mem_mul.2 ⟨[mark], rfl, piece, good piece hp, rfl⟩

/-- One marked piece or more. -/
theorem mem_oneOrMore_mark {mark : Char} {l : Language Char} {text : List Char} :
    text ∈ oneOrMore ({[mark]} * l) ↔ Marked mark 1 (· ∈ l) text := by
  rw [oneOrMore, Language.mem_mul]
  constructor
  · rintro ⟨_, first, _, more, rfl⟩
    obtain ⟨_, rfl, piece, hp, rfl⟩ := Language.mem_mul.1 first
    obtain ⟨pieces, _, good, rfl⟩ := mem_kstar_mark.1 more
    exact ⟨piece :: pieces, Nat.le_add_left _ _, List.forall_mem_cons.2 ⟨hp, good⟩, rfl⟩
  · rintro ⟨pieces, some, good, rfl⟩
    obtain ⟨piece, rest, rfl⟩ := List.exists_cons_of_length_pos some
    obtain ⟨hp, good⟩ := List.forall_mem_cons.1 good
    exact ⟨mark :: piece, Language.mem_mul.2 ⟨[mark], rfl, piece, hp, rfl⟩, _,
      mem_kstar_mark.2 ⟨rest, Nat.zero_le _, good, rfl⟩, rfl⟩

end Text

/-! ## Namespaces -/

namespace Namespace

open Text (Between IsRun Joined one oneOrMore)

/-- The class `a-z0-9`. -/
def WordChar (c : Char) : Prop :=
  Between 'a' 'z' c ∨ Between '0' '9' c

instance (c : Char) : Decidable (WordChar c) :=
  inferInstanceAs (Decidable (_ ∨ _))

/-- The check of a character of a word. -/
theorem isWordChar_iff (c : Char) : isWordChar c = true ↔ WordChar c := by
  rw [isWordChar, Bool.or_eq_true]
  exact or_congr (Text.isBetween_iff 'a' 'z' c) (Text.isBetween_iff '0' '9' c)

/-- The check of a word. -/
theorem isWord_iff (text : List Char) : isWord text = true ↔ IsRun WordChar text := by
  simp [isWord, IsRun, isWordChar_iff]

/-- No word holds a hyphen, so a label is made of words in one way only. -/
theorem isLabel_iff (text : List Char) :
    isLabel text = true ↔ Joined '-' 1 (IsRun WordChar) text := by
  have free : ∀ word, IsRun WordChar word → '-' ∉ word := by
    intro word run hyphen
    exact absurd (run.2 _ hyphen) (by decide)
  have some : 1 ≤ (Text.splitOn '-' text).length := by
    rw [Text.splitOn_eq]
    exact List.length_pos_of_ne_nil (List.splitOn_ne_nil '-' text)
  rw [Text.joined_iff_splitOn Nat.one_pos free, isLabel, List.all_eq_true]
  simp only [isWord_iff, some, true_and]

/-- Two or more labels between dots, of one or more words between hyphens. -/
def IsNamespace : List Char → Prop :=
  Joined '.' 2 (Joined '-' 1 (IsRun WordChar))

/-- The pattern `[a-z0-9]+(?:-[a-z0-9]+)*(?:\.[a-z0-9]+(?:-[a-z0-9]+)*)+`. -/
def pattern : Language Char :=
  let word := oneOrMore (one WordChar)
  let label := word * ({['-']} * word : Language Char)∗
  label * oneOrMore ({['.']} * label)

/-- The pattern of a namespace accepts words with dots between them, two at least. -/
theorem mem_pattern_iff {text : List Char} : text ∈ pattern ↔ IsNamespace text := by
  simp only [pattern, IsNamespace, Language.mem_mul, Text.mem_oneOrMore_mark, Text.mem_kstar_mark,
    ← Text.joined_succ, Text.mem_oneOrMore_one]

/-- No label holds a dot, so a namespace is made of labels in one way only. -/
theorem isValid_iff (key : String) : isValid key = true ↔ IsNamespace key.toList := by
  have free : ∀ label, Joined '-' 1 (IsRun WordChar) label → '.' ∉ label := by
    intro label joined dot
    rcases joined.eq_or_mem dot with hyphen | ⟨word, run, hc⟩
    · exact absurd hyphen (by decide)
    · exact absurd (run.2 _ hc) (by decide)
  rw [IsNamespace, Text.joined_iff_splitOn Nat.two_pos free]
  simp only [isValid, Bool.and_eq_true, decide_eq_true_eq, List.all_eq_true, isLabel_iff]

end Namespace

/-! ## Measures -/

namespace TokenType

open Text (Between IsRun one oneOrMore orNothing isDecimalDigit)

def Digit (c : Char) : Prop :=
  isDecimalDigit c = true

instance (c : Char) : Decidable (Digit c) :=
  inferInstanceAs (Decidable (_ = true))

def Letter (c : Char) : Prop :=
  Between 'a' 'z' c ∨ Between 'A' 'Z' c

instance (c : Char) : Decidable (Letter c) :=
  inferInstanceAs (Decidable (_ ∨ _))

/-- Digits, digits with a fraction, or a fraction alone. -/
inductive IsMagnitude : List Char → Prop
  | whole {digits : List Char} (h : IsRun Digit digits) : IsMagnitude digits
  | mixed {digits fraction : List Char} (h : IsRun Digit digits) (h' : IsRun Digit fraction) :
    IsMagnitude (digits ++ '.' :: fraction)
  | fraction {digits : List Char} (h : IsRun Digit digits) : IsMagnitude ('.' :: digits)

/-- Letters, or a percent sign. -/
inductive IsUnitText : List Char → Prop
  | letters {text : List Char} (h : IsRun Letter text) : IsUnitText text
  | percent : IsUnitText ['%']

/-- A magnitude with a unit, after a minus sign or not. -/
inductive IsMeasureText : List Char → Prop
  | positive {magnitude unit : List Char} (h : IsMagnitude magnitude) (h' : IsUnitText unit) :
    IsMeasureText (magnitude ++ unit)
  | negative {magnitude unit : List Char} (h : IsMagnitude magnitude) (h' : IsUnitText unit) :
    IsMeasureText ('-' :: (magnitude ++ unit))

/-- The pattern `\d+`. -/
def digitsPattern : Language Char :=
  oneOrMore (one Digit)

/-- The pattern `\d+(?:\.\d+)?|\.\d+`. -/
def magnitudePattern : Language Char :=
  digitsPattern * orNothing ({['.']} * digitsPattern) + {['.']} * digitsPattern

/-- The pattern `[a-zA-Z]+|%`. -/
def unitPattern : Language Char :=
  oneOrMore (one Letter) + {['%']}

/-- The pattern `-?(?:\d+(?:\.\d+)?|\.\d+)(?:[a-zA-Z]+|%)`. -/
def measurePattern : Language Char :=
  orNothing {['-']} * magnitudePattern * unitPattern

/-- The pattern of a magnitude accepts the three ways to write one. -/
theorem mem_magnitudePattern_iff {text : List Char} :
    text ∈ magnitudePattern ↔ IsMagnitude text := by
  simp only [magnitudePattern, digitsPattern, Language.mem_add, Language.mem_mul,
    Text.mem_orNothing, Text.mem_oneOrMore_one]
  constructor
  · -- digits alone, digits with a fraction, and a fraction alone
    rintro (⟨digits, run, _, rfl | ⟨_, rfl, fraction, run', rfl⟩, rfl⟩ | ⟨_, rfl, digits, run, rfl⟩)
    · rw [List.append_nil]
      exact .whole run
    · exact .mixed run run'
    · exact .fraction run
  · intro h
    cases h with
    | whole run => exact .inl ⟨text, run, [], .inl rfl, List.append_nil text⟩
    | mixed run run' => exact .inl ⟨_, run, _, .inr ⟨['.'], rfl, _, run', rfl⟩, rfl⟩
    | fraction run => exact .inr ⟨['.'], rfl, _, run, rfl⟩

/-- A unit is a run of letters, or a percent sign. -/
theorem isUnitText_iff {text : List Char} : IsUnitText text ↔ IsRun Letter text ∨ text = ['%'] := by
  constructor
  · intro h
    cases h with
    | letters run => exact .inl run
    | percent => exact .inr rfl
  · rintro (run | rfl)
    · exact .letters run
    · exact .percent

/-- The pattern of a unit accepts units. -/
theorem mem_unitPattern_iff {text : List Char} : text ∈ unitPattern ↔ IsUnitText text := by
  rw [unitPattern, Language.mem_add, Text.mem_oneOrMore_one, isUnitText_iff]
  rfl

/-- The pattern of a measure accepts a magnitude with its unit, with or without a minus. -/
theorem mem_measurePattern_iff {text : List Char} :
    text ∈ measurePattern ↔ IsMeasureText text := by
  simp only [measurePattern, Language.mem_mul, Text.mem_orNothing, mem_magnitudePattern_iff,
    mem_unitPattern_iff]
  constructor
  · rintro ⟨_, ⟨_, rfl | rfl, magnitude, hm, rfl⟩, unit, hu, rfl⟩
    · exact .positive hm hu
    · exact .negative hm hu
  · intro h
    cases h with
    | positive hm hu => exact ⟨_, ⟨[], .inl rfl, _, hm, rfl⟩, _, hu, rfl⟩
    | negative hm hu => exact ⟨_, ⟨['-'], .inr rfl, _, hm, rfl⟩, _, hu, rfl⟩

/-- Apart from the ten of ASCII, all digits come long after the letters. -/
theorem toNat_of_digit {c : Char} (h : Digit c) :
    (0x30 ≤ c.toNat ∧ c.toNat < 0x3A) ∨ 0x660 ≤ c.toNat := by
  obtain ⟨first, hf, within⟩ := List.any_eq_true.1 h
  have table : ∀ first ∈ Text.digitZeros, first = 0x30 ∨ 0x660 ≤ first := by decide
  have here := table first hf
  simp only [Bool.and_eq_true, decide_eq_true_eq] at within
  omega

/-- A run of digits is dropped whole before what is no digit. -/
theorem dropDigits?_append {digits rest : List Char} (run : IsRun Digit digits)
    (stop : ∀ c ∈ rest.head?, ¬ Digit c) : dropDigits? (digits ++ rest) = some rest := by
  have dropped : (digits ++ rest).dropWhile isDecimalDigit = rest := by
    rw [List.dropWhile_append_of_pos run.2]
    cases rest with
    | nil => rfl
    | cons c rest => exact List.dropWhile_cons_of_neg (stop c rfl)
  -- Something was dropped, since a run is not empty.
  have shorter : rest.length < (digits ++ rest).length := by
    have := List.length_pos_of_ne_nil run.1
    rw [List.length_append]
    omega
  rw [dropDigits?, dropped, if_pos shorter]

/-- Without a digit in front, nothing is dropped. -/
theorem dropDigits?_of_stop {text : List Char} (stop : ∀ c ∈ text.head?, ¬ Digit c) :
    dropDigits? text = none := by
  cases text with
  | nil => rfl
  | cons c rest =>
    rw [dropDigits?, List.dropWhile_cons_of_neg (stop c rfl), if_neg (Nat.lt_irrefl _)]

/-- What is dropped is a run of digits. -/
theorem exists_of_dropDigits? {text rest : List Char} (h : dropDigits? text = some rest) :
    ∃ digits, IsRun Digit digits ∧ text = digits ++ rest := by
  simp only [dropDigits?, Option.ite_none_right_eq_some, Option.some.injEq] at h
  obtain ⟨shorter, rfl⟩ := h
  have whole : text.takeWhile isDecimalDigit ++ text.dropWhile isDecimalDigit = text :=
    List.takeWhile_append_dropWhile
  refine ⟨_, ⟨fun empty => ?_, List.all_eq_true.1 List.all_takeWhile⟩, whole.symm⟩
  rw [empty, List.nil_append] at whole
  rw [whole] at shorter
  exact Nat.lt_irrefl _ shorter

/-- A magnitude is dropped as a whole before what cannot go on with it. -/
theorem dropMagnitude?_append {magnitude rest : List Char} (h : IsMagnitude magnitude)
    (stop : ∀ c ∈ rest.head?, ¬ Digit c) (noDot : ∀ c ∈ rest.head?, c ≠ '.') :
    dropMagnitude? (magnitude ++ rest) = some rest := by
  have dot : ∀ text : List Char, ∀ c ∈ ('.' :: text).head?, ¬ Digit c := by
    intro text c hc
    obtain rfl := Option.some.inj hc
    decide
  unfold dropMagnitude?
  cases h with
  | whole run =>
    rw [dropDigits?_append run stop]
    cases rest with
    | nil => rfl
    | cons c rest =>
      -- The pattern with a dot comes first, and what is left does not begin with one.
      split
      · next same =>
        cases same
        exact absurd rfl (noDot '.' rfl)
      · next same => exact same.symm
      · next impossible => cases impossible
  | mixed run run' =>
    rw [List.append_assoc, List.cons_append, dropDigits?_append run (dot _)]
    exact dropDigits?_append run' stop
  | fraction run =>
    rw [List.cons_append, dropDigits?_of_stop (dot _)]
    exact dropDigits?_append run stop

/-- What is dropped is a magnitude. -/
theorem exists_of_dropMagnitude? {text rest : List Char} (h : dropMagnitude? text = some rest) :
    ∃ magnitude, IsMagnitude magnitude ∧ text = magnitude ++ rest := by
  unfold dropMagnitude? at h
  split at h
  · -- digits, a dot and more digits
    next fraction dropped =>
    obtain ⟨digits, run, rfl⟩ := exists_of_dropDigits? dropped
    obtain ⟨digits', run', rfl⟩ := exists_of_dropDigits? h
    exact ⟨_, .mixed run run', by simp⟩
  · -- digits alone
    next dropped =>
    obtain rfl := Option.some.inj h
    obtain ⟨digits, run, rfl⟩ := exists_of_dropDigits? dropped
    exact ⟨_, .whole run, rfl⟩
  · -- a dot in front, or no magnitude at all
    split at h
    · obtain ⟨digits, run, rfl⟩ := exists_of_dropDigits? h
      exact ⟨_, .fraction run, rfl⟩
    · cases h

/-- Letters are those of the alphabet, small and capital. -/
theorem isAlpha_iff (c : Char) : c.isAlpha = true ↔ Letter c := by
  have either : c.isAlpha = (c.isUpper || c.isLower) := rfl
  have upper : c.isUpper = true ↔ Between 'A' 'Z' c := decide_eq_true_iff
  rw [either, Bool.or_eq_true, or_comm]
  exact or_congr (Text.isBetween_iff 'a' 'z' c) upper

/-- The check of a unit. -/
theorem isUnit_iff (text : List Char) : isUnit text = true ↔ IsUnitText text := by
  have letters : (!text.isEmpty && text.all Char.isAlpha) = true ↔ IsRun Letter text := by
    simp [IsRun, isAlpha_iff]
  rw [isUnit, Bool.or_eq_true, letters, beq_iff_eq, isUnitText_iff]

/-- Neither a digit nor a dot begins a unit. -/
theorem IsUnitText.head {unit : List Char} (h : IsUnitText unit) {c : Char}
    (hc : c ∈ unit.head?) : ¬ Digit c ∧ c ≠ '.' := by
  have begins : Letter c ∨ c = '%' := by
    cases h with
    | letters run => exact .inl (run.2 c (List.mem_of_head? hc))
    | percent => exact .inr (Option.some.inj hc).symm
  rcases begins with letter | rfl
  · constructor
    · -- The codes of digits are below those of letters.
      intro digit
      have low := toNat_of_digit digit
      have high : (0x61 ≤ c.toNat ∧ c.toNat ≤ 0x7A) ∨ (0x41 ≤ c.toNat ∧ c.toNat ≤ 0x5A) := letter
      omega
    · rintro rfl
      exact absurd letter (by decide)
  · decide

/-- A text can be cut into a magnitude and a unit. -/
def IsUnsigned (text : List Char) : Prop :=
  ∃ magnitude unit, IsMagnitude magnitude ∧ IsUnitText unit ∧ text = magnitude ++ unit

/-- What is dropped is a magnitude and what is left is a unit, if a text can be cut so at all. -/
theorem any_dropMagnitude?_iff (text : List Char) :
    (dropMagnitude? text).any isUnit = true ↔ IsUnsigned text := by
  rw [Option.any_eq_true]
  constructor
  · rintro ⟨unit, dropped, hu⟩
    obtain ⟨magnitude, hm, rfl⟩ := exists_of_dropMagnitude? dropped
    exact ⟨magnitude, unit, hm, (isUnit_iff unit).1 hu, rfl⟩
  · rintro ⟨magnitude, unit, hm, hu, rfl⟩
    have dropped := dropMagnitude?_append hm (fun c hc => (hu.head hc).1)
      fun c hc => (hu.head hc).2
    exact ⟨unit, dropped, (isUnit_iff unit).2 hu⟩

/-- A magnitude does not begin with a minus. -/
theorem IsMagnitude.head {magnitude : List Char} (h : IsMagnitude magnitude) :
    ∃ c rest, magnitude = c :: rest ∧ c ≠ '-' := by
  have digits : ∀ {digits}, IsRun Digit digits → ∃ c rest, digits = c :: rest ∧ c ≠ '-' := by
    rintro digits ⟨ne, all⟩
    obtain ⟨c, rest, rfl⟩ := List.exists_cons_of_ne_nil ne
    refine ⟨c, rest, rfl, ?_⟩
    rintro rfl
    exact absurd (all '-' List.mem_cons_self) (by decide)
  cases h with
  | whole run => exact digits run
  | mixed run _ =>
    obtain ⟨c, rest, rfl, ne⟩ := digits run
    exact ⟨c, _, rfl, ne⟩
  | fraction run => exact ⟨'.', _, rfl, by decide⟩

/-- A measure that begins with a minus sign is a negative one. -/
theorem measure_iff_unsigned (text : List Char) :
    IsMeasureText text ↔ (∃ rest, text = '-' :: rest ∧ IsUnsigned rest) ∨
      (∀ rest, text ≠ '-' :: rest) ∧ IsUnsigned text := by
  constructor
  · intro h
    cases h with
    | positive hm hu =>
      -- Without a minus in front, since a magnitude does not begin with one.
      refine .inr ⟨fun rest minus => ?_, _, _, hm, hu, rfl⟩
      obtain ⟨c, more, rfl, ne⟩ := hm.head
      exact ne (List.cons.inj minus).1
    | negative hm hu => exact .inl ⟨_, rfl, _, _, hm, hu, rfl⟩
  · rintro (⟨_, rfl, _, _, hm, hu, rfl⟩ | ⟨_, _, _, hm, hu, rfl⟩)
    · exact .negative hm hu
    · exact .positive hm hu

/-- The sign is left out before the magnitude is dropped. -/
theorem isMeasureText_eq (text : String) :
    isMeasureText text = (dropMagnitude?
      (match text.toList with
        | '-' :: rest => rest
        | chars => chars)).any isUnit := by
  fun_cases isMeasureText text with
  | case1 unsigned unit dropped =>
    exact (congrArg (Option.any isUnit) dropped).symm
  | case2 unsigned none =>
    exact (congrArg (Option.any isUnit) none).symm

/-- The check of a measure accepts a text just when the pattern does. -/
theorem isMeasureText_iff (text : String) :
    isMeasureText text = true ↔ IsMeasureText text.toList := by
  rw [isMeasureText_eq, any_dropMagnitude?_iff, measure_iff_unsigned]
  split
  · next rest minus =>
    rw [minus]
    simp
  · next plain =>
    constructor
    · exact fun unsigned => .inr ⟨plain, unsigned⟩
    · rintro (⟨rest, minus, _⟩ | ⟨_, unsigned⟩)
      · exact absurd minus (plain rest)
      · exact unsigned

/-- Of the types of measures, a text has to be one. -/
theorem admits_text_iff {type : String} (ht : type ∈ ["dimension", "duration"]) (text : String) :
    admits type (.string text) = true ↔ isMeasureText text = true := by
  have noMember : ∀ name condition, memberIs (.string text) name condition = false :=
    fun _ _ => rfl
  have measure : isMeasure (.string text) = isMeasureText text := by
    -- For a text, only its spelling counts.
    simp [isMeasure, noMember]
  rcases List.mem_pair.1 ht with rfl | rfl
  · rw [← measure]
    rfl
  · rw [← measure]
    rfl

end TokenType

/-! ## Checks -/

/-- A text is accepted as an extension namespace exactly if it consists of two or more labels
between dots, each of one or more words between hyphens, each word of one or more of the characters
`a-z0-9`. A text is accepted for a dimension, and for a duration, exactly if it consists of a minus
sign or none, of digits of any script with a fraction or without, or a fraction alone, and of
letters of ASCII or a percent sign. These are the texts that match the two patterns. -/
theorem checks_accept_exactly :
    (∀ key : String, (Namespace.isValid key = true ↔ Namespace.IsNamespace key.toList) ∧
      (Namespace.isValid key = true ↔ key.toList ∈ Namespace.pattern)) ∧
    ∀ type ∈ ["dimension", "duration"], ∀ text : String,
      (TokenType.admits type (.string text) = true ↔ TokenType.IsMeasureText text.toList) ∧
      (TokenType.admits type (.string text) = true ↔ text.toList ∈ TokenType.measurePattern) := by
  constructor
  · intro key
    rw [Namespace.mem_pattern_iff]
    exact ⟨Namespace.isValid_iff key, Namespace.isValid_iff key⟩
  · intro type ht text
    rw [TokenType.mem_measurePattern_iff, TokenType.admits_text_iff ht]
    exact ⟨TokenType.isMeasureText_iff text, TokenType.isMeasureText_iff text⟩

/-- Borders of the patterns: an empty word and a line break at the end are refused, a fraction alone
and digits of other scripts are accepted, and a dot without a fraction is not. -/
theorem borderline_texts_checked :
    "0.example-tool".toList ∈ Namespace.pattern ∧
      (∀ text ∈ ["org", "org..tool", "org.a-", "org.tool\n"], text.toList ∉ Namespace.pattern) ∧
      "duration" ∈ ["dimension", "duration"] ∧
      (∀ text ∈ ["-.5%", "١.5ms"], text.toList ∈ TokenType.measurePattern) ∧
      ∀ text ∈ ["1.px", "1%%", "--1px", "1px\n"], text.toList ∉ TokenType.measurePattern := by
  have key := fun text => (checks_accept_exactly.1 text).2
  have measure := fun text => (checks_accept_exactly.2 "duration" (by decide) text).2
  refine ⟨(key _).1 (by decide), fun text ht => ?_, by decide, fun text ht => ?_,
    fun text ht => ?_⟩
  · -- a single name, an empty one, one that ends in a minus, and a line break at the end
    rw [← key]
    revert text
    decide
  · -- a negative fraction, and a digit of another script
    rw [← measure]
    revert text
    decide
  · -- no digit after the dot, two units, two signs, and a line break at the end
    rw [← measure]
    revert text
    decide

end DesignTokens
