import DesignTokens.Proofs.Json.Same
import DesignTokens.Proofs.Number.Notation

/-!
# DesignTokens.Proofs.Json.Canonical — what a canonical text tells

1. **Reordering** (`Json.Reorders`): the canonical text of a value does not show the order of
   members.
2. **Ends** (`Json.Ends`): a canonical text ends where a mark follows that no number contains.
3. **Strings** (`Json.quote_append_inj`) and **numbers** are known by their texts.
4. **Lists** of texts with commas between them.
5. **Values** (`Json.canonical_append_inj`): values with the same canonical text are equal but for
   the order of members.
-/

namespace DesignTokens.Json

open Decimal.Spelling (digits_toDigits isNumeral isNumeral_of_isDigit)

/-! ## Members in order of name -/

def sorted (members : Members) : Members :=
  members.mergeSort fun m n => decide (m.1 ≤ n.1)

/-- A member of an object as canonical text. -/
def memberText (m : String × Json) : String :=
  quote m.1 ++ ":" ++ m.2.canonical

theorem canonicalItems_eq_map (items : List Json) : canonicalItems items = items.map canonical := by
  induction items with
  | nil => rfl
  | cons x rest ih => rw [canonicalItems, ih, List.map_cons]

theorem canonicalMembers_eq_map (members : Members) :
    canonicalMembers members = members.map fun m => (m.1, m.2.canonical) := by
  induction members with
  | nil => rfl
  | cons m rest ih => rw [canonicalMembers, ih, List.map_cons]

/-- A list is written with its items, between brackets. -/
theorem canonical_array (items : List Json) :
    (array items).canonical = "[" ++ String.intercalate "," (items.map canonical) ++ "]" := by
  rw [canonical, canonicalItems_eq_map]

/-- An object is written with its members, sorted by their names, between braces. -/
theorem canonical_object (members : Members) :
    (object members).canonical =
      "\x7b" ++ String.intercalate "," ((sorted members).map memberText) ++ "\x7d" := by
  -- Only the names matter for the order, so it is the same before and after the values are written.
  have printed : sortMembers (canonicalMembers members) =
      (sorted members).map fun m => (m.1, m.2.canonical) := by
    rw [canonicalMembers_eq_map, sortMembers, sorted]
    symm
    apply List.map_mergeSort
    intro m _ n _
    rfl
  rw [canonical, printed, List.map_map]
  rfl

/-- Sorting keeps the members. -/
theorem sorted_perm (members : Members) : (sorted members).Perm members :=
  List.mergeSort_perm _ _

/-- After sorting, the names are in order. -/
theorem pairwise_sorted (members : Members) : (sorted members).Pairwise fun m n => m.1 ≤ n.1 := by
  have trans : ∀ l m n : String × Json, decide (l.1 ≤ m.1) = true → decide (m.1 ≤ n.1) = true →
      decide (l.1 ≤ n.1) = true := by
    intro l m n first second
    rw [decide_eq_true_iff] at *
    exact String.le_trans first second
  have total : ∀ m n : String × Json, (decide (m.1 ≤ n.1) || decide (n.1 ≤ m.1)) = true := by
    intro m n
    rw [Bool.or_eq_true, decide_eq_true_iff, decide_eq_true_iff]
    exact String.le_total m.1 n.1
  exact (List.pairwise_mergeSort trans total members).imp of_decide_eq_true

/-- Members of different names have one order of name. -/
theorem sorted_eq_of_perm {xs ys : Members} (nodup : xs.names.Nodup) (perm : xs.Perm ys) :
    sorted xs = sorted ys := by
  refine List.Perm.eq_of_pairwise ?_ (pairwise_sorted xs) (pairwise_sorted ys) ?_
  · -- Two members of one name are the same, since names are there once.
    intro m n hm hn le ge
    have name : m.1 = n.1 := String.le_antisymm le ge
    have hm : (n.1, m.2) ∈ xs := name ▸ (sorted_perm xs).mem_iff.1 hm
    have hn : (n.1, n.2) ∈ xs := perm.mem_iff.2 ((sorted_perm ys).mem_iff.1 hn)
    have value := Members.get?_of_mem nodup hm
    rw [Members.get?_of_mem nodup hn] at value
    exact Prod.ext name (Option.some.inj value).symm
  · exact (sorted_perm xs).trans (perm.trans (sorted_perm ys).symm)

/-! ## Reordering -/

/-- One object in a value, none of whose members have the same name, has its members in another
order. -/
inductive Reorders : Json → Json → Prop
  | here {xs ys : Members} (nodup : xs.names.Nodup) (perm : xs.Perm ys) :
    Reorders (object xs) (object ys)
  | item (front : List Json) {x y : Json} (back : List Json) (inner : Reorders x y) :
    Reorders (array (front ++ x :: back)) (array (front ++ y :: back))
  | member (front : Members) (name : String) {x y : Json} (back : Members) (inner : Reorders x y) :
    Reorders (object (front ++ (name, x) :: back)) (object (front ++ (name, y) :: back))

/-- To move the members of an object, at whatever level, does not change the text. -/
theorem canonical_of_reorders {x y : Json} (h : Reorders x y) : x.canonical = y.canonical := by
  induction h with
  | here nodup perm => rw [canonical_object, canonical_object, sorted_eq_of_perm nodup perm]
  | item front back _ ih =>
    rw [canonical_array, canonical_array, List.map_append, List.map_append, List.map_cons,
      List.map_cons, ih]
  | member front name back _ ih =>
    have texts : ∀ z : Json, canonicalMembers (front ++ (name, z) :: back) =
        front.map (fun m => (m.1, m.2.canonical)) ++
          (name, z.canonical) :: back.map fun m => (m.1, m.2.canonical) := by
      intro z
      rw [canonicalMembers_eq_map, List.map_append, List.map_cons]
    rw [canonical, canonical, texts, texts, ih]

/-- However often members are put in another order, the canonical text stays. -/
theorem canonical_of_reordered {x y : Json} (h : Relation.ReflTransGen Reorders x y) :
    x.canonical = y.canonical := by
  induction h with
  | refl => rfl
  | tail _ step ih => rw [ih, canonical_of_reorders step]

/-! ## Ends -/

/-- A mark that may follow a value. -/
def isEnd (c : Char) : Bool :=
  c == ',' || c == ']' || c == '\x7d' || c == '|'

/-- A text that starts with a mark that may follow a value. -/
def Ends (rest : List Char) : Prop :=
  ∃ c more, rest = c :: more ∧ isEnd c = true

/-- A text that goes on with an end mark ends the number before it. -/
theorem ends_cons {c : Char} (h : isEnd c = true) (more : List Char) : Ends (c :: more) :=
  ⟨c, more, rfl, h⟩

/-- A number is read up to the end mark after it. -/
theorem Ends.takeWhile_append {rest : List Char} (ends : Ends rest) {text : List Char}
    (numeral : ∀ c ∈ text, isNumeral c = true) : (text ++ rest).takeWhile isNumeral = text := by
  obtain ⟨c, more, rfl, isEnd⟩ := ends
  have other : isNumeral c = false := by
    simp only [Json.isEnd, Bool.or_eq_true, beq_iff_eq] at isEnd
    rcases isEnd with ((rfl | rfl) | rfl) | rfl <;> decide
  rw [List.takeWhile_append_of_pos numeral, List.takeWhile_cons, other]
  exact List.append_nil text

/-- A text without any but characters of numbers ends where a mark follows. -/
theorem numeral_append_inj {text text' rest rest' : List Char}
    (numeral : ∀ c ∈ text, isNumeral c = true) (numeral' : ∀ c ∈ text', isNumeral c = true)
    (ends : Ends rest) (ends' : Ends rest') (h : text ++ rest = text' ++ rest') :
    text = text' ∧ rest = rest' := by
  have texts := congrArg (List.takeWhile isNumeral) h
  rw [ends.takeWhile_append numeral, ends'.takeWhile_append numeral'] at texts
  rw [texts] at h
  exact ⟨texts, List.append_cancel_left h⟩

/-! ## Numbers -/

/-- A natural number is written with its digits. -/
theorem toList_intText_ofNat (n : ℕ) :
    (toString (Int.ofNat n)).toList = Nat.toDigits 10 n := by
  rw [Int.toString_eq_repr]
  exact Nat.toList_repr

/-- A negative number is written with a sign and its digits. -/
theorem toList_intText_negSucc (n : ℕ) :
    (toString (Int.negSucc n)).toList = '-' :: Nat.toDigits 10 (n + 1) := by
  rw [Int.toString_eq_repr]
  show ("-" ++ (n + 1).repr).toList = _
  rw [String.toList_append, Nat.toList_repr]
  rfl

/-- The text of an integer: digits, perhaps after a sign. -/
theorem mem_intText {n : ℤ} {c : Char} (h : c ∈ (toString n).toList) :
    c = '-' ∨ c.isDigit = true := by
  cases n with
  | ofNat m =>
    rw [toList_intText_ofNat] at h
    exact .inr (digits_toDigits m c h)
  | negSucc m =>
    rw [toList_intText_negSucc] at h
    rcases List.mem_cons.1 h with sign | digit
    · exact .inl sign
    · exact .inr (digits_toDigits (m + 1) c digit)

/-- The text of an integer is not empty. -/
theorem intText_ne_nil (n : ℤ) : (toString n).toList ≠ [] := by
  cases n with
  | ofNat m =>
    rw [toList_intText_ofNat]
    exact Nat.toDigits_ne_nil
  | negSucc m =>
    rw [toList_intText_negSucc]
    exact List.cons_ne_nil _ _

/-- Different integers have different texts. -/
theorem intText_injective {m n : ℤ} (h : (toString m).toList = (toString n).toList) : m = n := by
  have number {i j : ℕ} (digits : Nat.toDigits 10 i = Nat.toDigits 10 j) : i = j := by
    rw [← @Nat.ofDigitChars_ten_toDigits i, digits, Nat.ofDigitChars_ten_toDigits]
  -- No digit is a sign.
  have unsigned {i j : ℕ} : Nat.toDigits 10 i ≠ '-' :: Nat.toDigits 10 j := by
    intro same
    have sign : '-' ∈ Nat.toDigits 10 i := same ▸ List.mem_cons_self
    exact absurd (digits_toDigits i _ sign) (by decide)
  cases m with
  | ofNat i =>
    rw [toList_intText_ofNat] at h
    cases n with
    | ofNat j =>
      rw [toList_intText_ofNat] at h
      rw [number h]
    | negSucc j =>
      rw [toList_intText_negSucc] at h
      exact absurd h unsigned
  | negSucc i =>
    rw [toList_intText_negSucc] at h
    cases n with
    | ofNat j =>
      rw [toList_intText_ofNat] at h
      exact absurd h.symm unsigned
    | negSucc j =>
      rw [toList_intText_negSucc] at h
      have succ := number (List.cons.inj h).2
      rw [Nat.succ.inj succ]

/-- Integers are written with the characters of numbers. -/
theorem isNumeral_intText (n : ℤ) : ∀ c ∈ (toString n).toList, isNumeral c = true := by
  intro c hc
  rcases mem_intText hc with rfl | digit
  · decide
  · exact isNumeral_of_isDigit digit

/-- The text of a double is not that of an integer. -/
theorem jsonText_ne_intText (x : Double) (n : ℤ) : x.jsonText ≠ toString n := by
  intro same
  have mark := x.mark_mem_jsonText
  rw [same] at mark
  -- Neither a point nor an exponent is in the text of an integer.
  rcases mark with point | power
  · rcases mem_intText point with sign | digit
    · cases sign
    · cases digit
  · rcases mem_intText power with sign | digit
    · cases sign
    · cases digit

/-! ## Strings -/

/-- The character that is written with a backslash before the text, and what follows it. -/
def readMarked? : List Char → Option (Char × List Char)
  | 'u' :: '0' :: '0' :: a :: b :: rest => (Numeral.char? [a, b]).map (·, rest)
  | 'b' :: rest => some ('\x08', rest)
  | 't' :: rest => some ('\t', rest)
  | 'n' :: rest => some ('\n', rest)
  | 'f' :: rest => some ('\x0c', rest)
  | 'r' :: rest => some ('\r', rest)
  | c :: rest => some (c, rest)
  | [] => none

/-- The character at the start of an escaped text, and what follows it. -/
def readEscaped? : List Char → Option (Char × List Char)
  | [] => none
  | c :: rest => if c = '\\' then readMarked? rest else some (c, rest)

/-- An escaped character is read back, whatever comes after it. -/
theorem readEscaped?_escapeChar (c : Char) (rest : List Char) :
    readEscaped? (escapeChar c ++ rest) = some (c, rest) := by
  have control : ∀ n < 32, Numeral.char? [hexDigit (n / 16), hexDigit (n % 16)] =
      some (Char.ofNat n) := by decide
  unfold escapeChar
  -- The seven that have an escape of their own are read back by it.
  split <;> try rfl
  next backslash _ _ _ _ _ =>
    split
    · -- A control character is written by its code.
      next less =>
      have code : c.toNat < 32 := less
      show (Numeral.char? [hexDigit (c.toNat / 16), hexDigit (c.toNat % 16)]).map (·, rest) = _
      rw [control c.toNat code, Char.ofNat_toNat]
      rfl
    · -- Any other character stands for itself.
      rw [List.singleton_append, readEscaped?, if_neg backslash]

/-- The first characters of equal texts in quotes are equal. -/
theorem escapeChar_append_inj {c d : Char} {rest rest' : List Char}
    (h : escapeChar c ++ rest = escapeChar d ++ rest') : c = d ∧ rest = rest' := by
  have read := readEscaped?_escapeChar c rest
  rw [h, readEscaped?_escapeChar] at read
  cases read
  exact ⟨rfl, rfl⟩

/-- No escaped character starts with a quote. -/
theorem escapeChar_append_ne (c : Char) (rest rest' : List Char) :
    escapeChar c ++ rest ≠ '"' :: rest' := by
  intro h
  have read := readEscaped?_escapeChar c rest
  rw [h] at read
  cases read
  have first : '\\' = '"' := (List.cons.inj h).1
  exact absurd first (by decide)

/-- Texts in quotes can be told from what comes after them. -/
theorem escaped_append_inj {cs ds rest rest' : List Char}
    (h : cs.flatMap escapeChar ++ '"' :: rest = ds.flatMap escapeChar ++ '"' :: rest') :
    cs = ds ∧ rest = rest' := by
  induction cs generalizing ds with
  | nil =>
    cases ds with
    | nil => exact ⟨rfl, (List.cons.inj h).2⟩
    | cons d ds =>
      -- One of the texts ends here, and the other goes on with a character that is not a quote.
      rw [List.flatMap_cons, List.append_assoc] at h
      exact absurd h.symm (escapeChar_append_ne d _ _)
  | cons c cs ih =>
    cases ds with
    | nil =>
      rw [List.flatMap_cons, List.append_assoc] at h
      exact absurd h (escapeChar_append_ne c _ _)
    | cons d ds =>
      rw [List.flatMap_cons, List.flatMap_cons, List.append_assoc, List.append_assoc] at h
      obtain ⟨rfl, more⟩ := escapeChar_append_inj h
      obtain ⟨rfl, rests⟩ := ih more
      exact ⟨rfl, rests⟩

/-- A quoted string is known by a text that starts with it. -/
theorem quote_append_inj {a b : String} {rest rest' : List Char}
    (h : (quote a).toList ++ rest = (quote b).toList ++ rest') : a = b ∧ rest = rest' := by
  rw [quote, quote, String.toList_ofList, String.toList_ofList, List.append_assoc,
    List.append_assoc] at h
  obtain ⟨chars, rests⟩ := escaped_append_inj (List.cons.inj h).2
  exact ⟨String.toList_inj.1 chars, rests⟩

/-! ## Lists -/

section Lists

variable {α : Type} {text : α → String} {R : α → α → Prop} {xs ys : List α}
  {rest rest' : List Char} {close : Char}

def commas (texts : List String) : List Char :=
  texts.flatMap fun t => ',' :: t.toList

/-- Texts after commas. -/
theorem commas_cons (first : String) (texts : List String) :
    commas (first :: texts) = ',' :: (first.toList ++ commas texts) :=
  rfl

/-- The first text has no comma in front. -/
theorem intercalate_cons (first : String) (texts : List String) :
    (String.intercalate "," (first :: texts)).toList = first.toList ++ commas texts := by
  rw [String.toList_intercalate]
  induction texts generalizing first with
  | nil => simp [commas]
  | cons second more ih =>
    rw [List.map_cons, List.map_cons, List.intercalate_cons_cons, ← List.map_cons, ih second]
    simp [commas]

/-- After a text in a list comes a comma or the closing bracket. -/
theorem ends_commas (closes : isEnd close = true) (texts : List String) (rest : List Char) :
    Ends (commas texts ++ close :: rest) := by
  cases texts with
  | nil => exact ends_cons closes rest
  | cons t more => exact ends_cons (by decide) _

/-- Whether a text that starts with that of a value is known to tell the value up to `R`. -/
def Told (text : α → String) (R : α → α → Prop) (x y : α) : Prop :=
  ∀ {rest rest' : List Char}, Ends rest → Ends rest' →
    (text x).toList ++ rest = (text y).toList ++ rest' → R x y ∧ rest = rest'

/-- Lists of told things are told, item by item. -/
theorem commas_append_inj (closes : isEnd close = true) (other : close ≠ ',')
    (told : ∀ x ∈ xs, ∀ y ∈ ys, Told text R x y)
    (h : commas (xs.map text) ++ close :: rest = commas (ys.map text) ++ close :: rest') :
    List.Forall₂ R xs ys ∧ rest = rest' := by
  induction xs generalizing ys with
  | nil =>
    cases ys with
    -- Both lists end here.
    | nil => exact ⟨.nil, (List.cons.inj h).2⟩
    -- One list ends where the other goes on with a comma.
    | cons y ys => exact absurd (List.cons.inj h).1 other
  | cons x xs ih =>
    cases ys with
    | nil => exact absurd (List.cons.inj h).1.symm other
    | cons y ys =>
      rw [List.map_cons, List.map_cons, commas_cons, commas_cons, List.cons_append,
        -- Both go on; the first item of each is told apart from the rest.
        List.cons_append] at h
      have h := (List.cons.inj h).2
      rw [List.append_assoc, List.append_assoc] at h
      obtain ⟨head, more⟩ := told x List.mem_cons_self y List.mem_cons_self
        (ends_commas closes _ _) (ends_commas closes _ _) h
      obtain ⟨tail, rests⟩ := ih (fun x hx y hy => told x (List.mem_cons_of_mem _ hx) y
        (List.mem_cons_of_mem _ hy)) more
      exact ⟨.cons head tail, rests⟩

/-- A closed list of texts is known by them if none of them starts with the mark that closes. -/
theorem list_append_inj (close : Char) (closes : isEnd close = true) (other : close ≠ ',')
    (opens : ∀ x : α, ∃ c more, (text x).toList = c :: more ∧ c ≠ close)
    (told : ∀ x ∈ xs, ∀ y ∈ ys, Told text R x y)
    (h : (String.intercalate "," (xs.map text)).toList ++ close :: rest =
      (String.intercalate "," (ys.map text)).toList ++ close :: rest') :
    List.Forall₂ R xs ys ∧ rest = rest' := by
  cases xs with
  | nil =>
    cases ys with
    | nil => exact ⟨.nil, (List.cons.inj h).2⟩
    | cons y ys =>
      -- An empty list closes at once, and an item does not start with the closing bracket.
      obtain ⟨c, more, start, ne⟩ := opens y
      rw [List.map_cons, intercalate_cons, start] at h
      exact absurd (List.cons.inj h).1.symm ne
  | cons x xs =>
    cases ys with
    | nil =>
      obtain ⟨c, more, start, ne⟩ := opens x
      rw [List.map_cons, intercalate_cons, start] at h
      exact absurd (List.cons.inj h).1 ne
    | cons y ys =>
      rw [List.map_cons, List.map_cons, intercalate_cons, intercalate_cons] at h
      -- A comma in front makes the first text one of the others.
      refine commas_append_inj closes other told ?_
      rw [List.map_cons, List.map_cons, commas_cons, commas_cons, List.cons_append,
        List.cons_append, h]

end Lists

/-! ## Values -/

/-- What the first character of a canonical text tells. -/
inductive Kind where
  | null
  | bool (value : Bool)
  | number
  | string
  | array
  | object
deriving DecidableEq

def kind : Json → Kind
  | .null => .null
  | .bool value => .bool value
  | .int _ => .number
  | .double _ => .number
  | .string _ => .string
  | .array _ => .array
  | .object _ => .object

/-- The kind of the values whose canonical text starts with a character. -/
def Kind.ofStart? (c : Char) : Option Kind :=
  if c = 'n' then some .null
  else if c = 't' then some (.bool true)
  else if c = 'f' then some (.bool false)
  else if c = '"' then some .string
  else if c = '[' then some .array
  else if c = '\x7b' then some .object
  else if isNumeral c then some .number
  else none

/-- What starts like a number is one. -/
theorem Kind.ofStart?_numeral {c : Char} (h : isNumeral c = true) :
    Kind.ofStart? c = some .number := by
  have other : ∀ d, isNumeral d = false → c ≠ d := by
    rintro d numeral rfl
    rw [h] at numeral
    cases numeral
  unfold Kind.ofStart?
  rw [if_neg (other 'n' (by decide)), if_neg (other 't' (by decide)),
    if_neg (other 'f' (by decide)), if_neg (other '"' (by decide)),
    if_neg (other '[' (by decide)), if_neg (other '\x7b' (by decide)), if_pos h]

/-- The first character of a canonical text shows which kind of value it is. -/
theorem exists_start (x : Json) :
    ∃ c more, x.canonical.toList = c :: more ∧ Kind.ofStart? c = some x.kind := by
  have numeral : ∀ {text : List Char}, text ≠ [] → (∀ c ∈ text, isNumeral c = true) →
      ∃ c more, text = c :: more ∧ Kind.ofStart? c = some .number := by
    intro text nonempty all
    obtain ⟨c, more, rfl⟩ := List.exists_cons_of_ne_nil nonempty
    exact ⟨c, more, rfl, Kind.ofStart?_numeral (all c List.mem_cons_self)⟩
  cases x with
  | null => exact ⟨'n', _, rfl, rfl⟩
  | bool value =>
    cases value with
    | true => exact ⟨'t', _, rfl, rfl⟩
    | false => exact ⟨'f', _, rfl, rfl⟩
  | int n => exact numeral (intText_ne_nil n) (isNumeral_intText n)
  | double x =>
    -- The text of a double has a point or an exponent, so it is not empty.
    refine numeral ?_ x.isNumeral_jsonText
    intro (empty : x.jsonText.toList = [])
    have mark := x.mark_mem_jsonText
    rw [empty] at mark
    rcases mark with point | power
    · cases point
    · cases power
  | string text =>
    rw [canonical, quote, String.toList_ofList]
    exact ⟨'"', _, rfl, rfl⟩
  | array items =>
    rw [canonical_array, String.toList_append, String.toList_append]
    exact ⟨'[', _, rfl, rfl⟩
  | object members =>
    rw [canonical_object, String.toList_append, String.toList_append]
    exact ⟨'\x7b', _, rfl, rfl⟩

/-- No value starts like the end of an array. -/
theorem canonical_opens (x : Json) : ∃ c more, x.canonical.toList = c :: more ∧ c ≠ ']' := by
  obtain ⟨c, more, start, kind⟩ := x.exists_start
  refine ⟨c, more, start, ?_⟩
  rintro rfl
  cases kind

/-- No member starts like the end of an object. -/
theorem memberText_opens (m : String × Json) :
    ∃ c more, (memberText m).toList = c :: more ∧ c ≠ '\x7d' := by
  rw [memberText, quote, String.toList_append, String.toList_append, String.toList_ofList]
  exact ⟨'"', _, rfl, by decide⟩

/-- Texts that start with the canonical texts of values are those of values of one kind if they are
the same. -/
theorem kind_eq_of_append {x y : Json} {rest rest' : List Char}
    (h : x.canonical.toList ++ rest = y.canonical.toList ++ rest') : x.kind = y.kind := by
  obtain ⟨c, more, start, kind⟩ := x.exists_start
  obtain ⟨c', more', start', kind'⟩ := y.exists_start
  rw [start, start'] at h
  rw [(List.cons.inj h).1, kind'] at kind
  exact (Option.some.inj kind).symm

/-- A member is told by its name, in quotes, and then by its value. -/
theorem told_member {m n : String × Json}
    (value : Told canonical (fun x y => x.same y = true) m.2 n.2) :
    Told memberText (fun m n => m.1 = n.1 ∧ m.2.same n.2 = true) m n := by
  intro rest rest' ends ends' h
  rw [memberText, memberText, String.toList_append, String.toList_append, String.toList_append,
    String.toList_append, List.append_assoc, List.append_assoc, List.append_assoc,
    List.append_assoc] at h
  obtain ⟨names, more⟩ := quote_append_inj h
  obtain ⟨same, rests⟩ := value ends ends' (List.cons.inj more).2
  exact ⟨⟨names, same⟩, rests⟩

/-- Members that are equal in order of name make equal objects. -/
theorem same_of_sorted {xs ys : Members} (nodup : ys.names.Nodup)
    (h : List.Forall₂ (fun m n => m.1 = n.1 ∧ m.2.same n.2 = true) (sorted xs) (sorted ys)) :
    (object xs).same (object ys) = true := by
  refine same_object_iff.2 ⟨ys, rfl, ?_, ?_⟩
  · rw [← (sorted_perm xs).length_eq, h.length_eq, (sorted_perm ys).length_eq]
  · intro m hm
    obtain ⟨n, hn, name, same⟩ := (matched_of_forall₂ h).left m ((sorted_perm xs).mem_iff.2 hm)
    refine ⟨n.2, ?_, same⟩
    rw [name]
    exact Members.get?_of_mem nodup ((sorted_perm ys).mem_iff.1 hn)

/-! ### Each kind of value -/

/-- Numbers are written with the characters of numbers. -/
theorem isNumeral_canonical {x : Json} (number : x.kind = .number) :
    ∀ c ∈ x.canonical.toList, isNumeral c = true := by
  cases x <;> cases number
  case int n => exact isNumeral_intText n
  case double x => exact x.isNumeral_jsonText

/-- Numbers that are written alike are the same, and an integer is never written like a double. -/
theorem same_of_numbers {x y : Json} (number : x.kind = .number) (number' : y.kind = .number)
    (texts : x.canonical.toList = y.canonical.toList) : x.same y = true := by
  -- Integers and doubles are written in different ways, so the texts are of one kind.
  cases x <;> cases number
  case int n =>
    cases y <;> cases number'
    case int m => exact beq_iff_eq.2 (intText_injective texts)
    case double b => exact absurd (String.toList_inj.1 texts).symm (jsonText_ne_intText b n)
  case double a =>
    cases y <;> cases number'
    case int m => exact absurd (String.toList_inj.1 texts) (jsonText_ne_intText a m)
    case double b =>
      have number : a = b := Double.jsonText_injective (String.toList_inj.1 texts)
      rw [number]
      exact same_refl rfl

/-- A number is told, since it is read up to the end mark after it. -/
theorem told_number {x y : Json} (number : x.kind = .number) :
    Told canonical (fun x y => x.same y = true) x y := by
  intro rest rest' ends ends' h
  have number' : y.kind = .number := (kind_eq_of_append h).symm.trans number
  obtain ⟨texts, rests⟩ := numeral_append_inj (isNumeral_canonical number)
    (isNumeral_canonical number') ends ends' h
  exact ⟨same_of_numbers number number' texts, rests⟩

/-- An array is told by its items. -/
theorem told_array {items : List Json} {y : Json} (clear : y.unambiguous = true)
    (told : ∀ x ∈ items, ∀ {y : Json}, y.unambiguous = true →
      Told canonical (fun x y => x.same y = true) x y) :
    Told canonical (fun x y => x.same y = true) (.array items) y := by
  intro rest rest' ends ends' h
  -- The other value is a list as well, since it starts alike.
  have kinds := kind_eq_of_append h
  cases y <;> cases kinds
  next items' =>
  rw [unambiguous_array_iff] at clear
  rw [canonical_array, canonical_array] at h
  obtain ⟨alike, rests⟩ := list_append_inj ']' (by decide) (by decide) canonical_opens
    (fun x hx y hy => told x hx (clear y hy)) (by simpa using h)
  exact ⟨same_array_iff.2 ⟨items', rfl, alike⟩, rests⟩

/-- An object is told by its members in order of name. -/
theorem told_object {members : Members} {y : Json} (clear : y.unambiguous = true)
    (told : ∀ m ∈ members, ∀ {y : Json}, y.unambiguous = true →
      Told canonical (fun x y => x.same y = true) m.2 y) :
    Told canonical (fun x y => x.same y = true) (.object members) y := by
  intro rest rest' ends ends' h
  -- The other value is an object as well.
  have kinds := kind_eq_of_append h
  cases y <;> cases kinds
  next members' =>
  obtain ⟨nodup, clear⟩ := unambiguous_object_iff.1 clear
  rw [canonical_object, canonical_object] at h
  obtain ⟨alike, rests⟩ := list_append_inj '\x7d' (by decide) (by decide) memberText_opens
    (fun m hm n hn => told_member (told m ((sorted_perm _).mem_iff.1 hm)
      (clear n ((sorted_perm _).mem_iff.1 hn)))) (by simpa using h)
  exact ⟨same_of_sorted nodup alike, rests⟩

/-- A value is known, but for the order of members, by a text that starts with its canonical
text. -/
theorem told_canonical {x y : Json} (clear : y.unambiguous = true) :
    Told canonical (fun x y => x.same y = true) x y := by
  induction x using induction generalizing y with
  | null =>
    intro rest rest' ends ends' h
    have kinds := kind_eq_of_append h
    cases y <;> cases kinds
    exact ⟨rfl, List.append_cancel_left h⟩
  | bool b =>
    -- The first character tells which of the two it is.
    intro rest rest' ends ends' h
    have kinds := kind_eq_of_append h
    cases y <;> cases kinds
    exact ⟨beq_self_eq_true _, List.append_cancel_left h⟩
  | int n => exact told_number rfl
  | double a => exact told_number rfl
  | string text =>
    intro rest rest' ends ends' h
    have kinds := kind_eq_of_append h
    cases y <;> cases kinds
    obtain ⟨texts, rests⟩ := quote_append_inj h
    exact ⟨beq_iff_eq.2 texts, rests⟩
  | array items ih => exact told_array clear ih
  | object members ih => exact told_object clear ih

end DesignTokens.Json
