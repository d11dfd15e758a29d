import DesignTokens.Proofs.Pointer
import DesignTokens.Proofs.Uri.Text

/-!
# DesignTokens.Proofs.Pointer.Text — what is done with pointers, done with their texts

A pointer is a list of names, and all that is done with it is done with the list. The text of a
pointer serves as well: a name is escaped by two replacements and read by two others, the parent is
what stands before the last slash. Both ways come to the same, whatever is in the names.

1. **Replacements** (`Text.replaceChar`, `Text.replacePair`): escaping is to replace tildes and then
   slashes (`escape_eq_replace`), and reading is to replace in the other order
   (`replace_escape`).
2. **Bodies** (`Pointer.IsBody`): the texts that may follow the number sign are those of pointers
   (`exists_body_iff`), and a text is read as the pointer whose body it has (`parse_eq_ok_iff`).
3. **Texts**: the names of a text (`Pointer.namesOfText`), and the text of its parent
   (`Pointer.parentOfText`).
4. **Pointers** (`list_of_names`): a pointer is its list of names, and its text is as good.
-/

namespace DesignTokens

/-! ## Replacements -/

namespace Text

/-- A text in which one character is replaced by another text. -/
def replaceChar (old : Char) (new : List Char) (text : List Char) : List Char :=
  text.flatMap fun c => if c = old then new else [c]

/-- A text in which one character after another is replaced by a third one, from the left. -/
def replacePair (first second new : Char) : List Char → List Char
  | c :: d :: rest =>
    if c = first ∧ d = second then new :: replacePair first second new rest
    else c :: replacePair first second new (d :: rest)
  | short => short

/-- What stands before the last occurrence of a character. -/
def beforeLast (mark : Char) : List Char → Option (List Char)
  | [] => none
  | c :: rest =>
    match beforeLast mark rest with
    | some front => some (c :: front)
    | none => if c = mark then some [] else none

/-- What is not there is not replaced. -/
theorem replaceChar_of_not_mem {old : Char} {new text : List Char} (h : old ∉ text) :
    replaceChar old new text = text := by
  induction text with
  | nil => rfl
  | cons c rest ih =>
    rw [List.mem_cons, not_or] at h
    have kept := ih h.2
    rw [replaceChar] at kept ⊢
    rw [List.flatMap_cons, if_neg fun same => h.1 same.symm, kept, List.singleton_append]

/-- A character that begins no pair stays. -/
theorem replacePair_cons {first second new c : Char} (other : c ≠ first) (rest : List Char) :
    replacePair first second new (c :: rest) = c :: replacePair first second new rest := by
  cases rest with
  | nil => rfl
  | cons d rest => rw [replacePair, if_neg fun both => other both.1]

/-- A pair is replaced. -/
theorem replacePair_pair (first second new : Char) (rest : List Char) :
    replacePair first second new (first :: second :: rest) =
      new :: replacePair first second new rest := by
  rw [replacePair, if_pos ⟨rfl, rfl⟩]

/-- Without the mark there is nothing before it. -/
theorem beforeLast_of_not_mem {mark : Char} {text : List Char} (h : mark ∉ text) :
    beforeLast mark text = none := by
  induction text with
  | nil => rfl
  | cons c rest ih =>
    rw [List.mem_cons, not_or] at h
    rw [beforeLast, ih h.2]
    exact if_neg fun same => h.1 same.symm

/-- What is before the last mark. -/
theorem beforeLast_append {mark : Char} {text : List Char} (h : mark ∉ text) (front : List Char) :
    beforeLast mark (front ++ mark :: text) = some front := by
  induction front with
  | nil => rw [List.nil_append, beforeLast, beforeLast_of_not_mem h, if_pos rfl]
  | cons c rest ih => rw [List.cons_append, beforeLast, ih]

/-- A text is made of the pieces between the separators, which hold none, with a separator before
each but the first. -/
theorem splitOn_pieces (mark : Char) (text : List Char) :
    ∃ first rest, splitOn mark text = first :: rest ∧
      text = first ++ rest.flatMap (mark :: ·) ∧ ∀ piece ∈ first :: rest, mark ∉ piece := by
  induction text with
  | nil =>
    refine ⟨[], [], rfl, rfl, fun piece hp => ?_⟩
    rw [List.mem_singleton.1 hp]
    exact List.not_mem_nil
  | cons c text ih =>
    obtain ⟨first, rest, pieces, whole, free⟩ := ih
    rw [splitOn] at pieces ⊢
    -- At the mark, a new piece begins; any other character is one of the first piece.
    by_cases same : c = mark
    · refine ⟨[], first :: rest, ?_, ?_, List.forall_mem_cons.2 ⟨List.not_mem_nil, free⟩⟩
      · rw [splitWhere, if_pos (beq_iff_eq.2 same), pieces]
      · rw [List.nil_append, List.flatMap_cons, List.cons_append, ← whole, same]
    · rw [List.forall_mem_cons] at free
      refine ⟨c :: first, rest, ?_, ?_, List.forall_mem_cons.2 ⟨?_, free.2⟩⟩
      · rw [splitWhere, if_neg (by simpa using same), pieces]
      · rw [List.cons_append, ← whole]
      · rw [List.mem_cons, not_or]
        exact ⟨fun eq => same eq.symm, free.1⟩

end Text

namespace Pointer

open Text (replaceChar replacePair)

/-- An escape is put together character by character. -/
theorem escape_cons (c : Char) (rest : List Char) :
    escape (c :: rest) =
      (if c = '~' then ['~', '0'] else if c = '/' then ['~', '1'] else [c]) ++ escape rest :=
  rfl

/-- Tildes are replaced before slashes, so that those that stand for a slash stay. -/
theorem escape_eq_replace (name : List Char) :
    escape name = replaceChar '/' ['~', '1'] (replaceChar '~' ['~', '0'] name) := by
  -- The tilde comes first, so that the tildes of escaped slashes are not escaped again.
  have step : ∀ c : Char,
      (if c = '~' then ['~', '0'] else if c = '/' then ['~', '1'] else [c]) =
        replaceChar '/' ['~', '1'] (if c = '~' then ['~', '0'] else [c]) := by
    intro c
    by_cases tilde : c = '~'
    · rw [if_pos tilde, if_pos tilde]
      rfl
    · rw [if_neg tilde, if_neg tilde, replaceChar, List.flatMap_singleton]
  induction name with
  | nil => rfl
  | cons c rest ih =>
    rw [escape_cons, ih, step]
    simp [replaceChar]

/-- To read an escaped name, slashes are put in before tildes: a tilde that is put in is followed by
what it was followed by, even if this is a digit. -/
theorem replace_escape (name : List Char) :
    replacePair '~' '0' '~' (replacePair '~' '1' '/' (escape name)) = name := by
  induction name with
  | nil => rfl
  | cons c rest ih =>
    rw [escape_cons]
    by_cases tilde : c = '~'
    · -- The first replacement finds no pair here, since the tilde is followed by a zero.
      have inner : replacePair '~' '1' '/' ('~' :: '0' :: escape rest) =
          '~' :: '0' :: replacePair '~' '1' '/' (escape rest) := by
        rw [replacePair, if_neg (by decide), Text.replacePair_cons (by decide)]
      rw [if_pos tilde, List.cons_append, List.singleton_append, inner, Text.replacePair_pair, ih,
        tilde]
    · rw [if_neg tilde]
      -- A slash was written as the first pair, and any other character stands for itself.
      by_cases slash : c = '/'
      · rw [if_pos slash, List.cons_append, List.singleton_append, Text.replacePair_pair,
          Text.replacePair_cons (by decide), ih, slash]
      · rw [if_neg slash, List.singleton_append, Text.replacePair_cons tilde,
          Text.replacePair_cons tilde, ih]

/-! ## Bodies -/

/-- Every tilde of a text is followed by one of the digits that complete an escape. -/
def Escapes (text : List Char) : Prop :=
  ∀ front rest, text = front ++ '~' :: rest → rest.head? = some '0' ∨ rest.head? = some '1'

/-- A text that may follow the number sign of a pointer. -/
structure IsBody (text : List Char) : Prop where
  start : text = [] ∨ text.head? = some '/'
  escapes : Escapes text

/-- There is nothing to escape in an empty text. -/
theorem escapes_nil : Escapes [] := by
  intro front rest split
  simp at split

/-- A text escapes its tildes if its first character does, and the rest after it. -/
theorem escapes_cons {c : Char} {text : List Char} :
    Escapes (c :: text) ↔
      (c = '~' → text.head? = some '0' ∨ text.head? = some '1') ∧ Escapes text := by
  constructor
  · intro h
    -- A split of the rest is one of the whole text.
    refine ⟨fun tilde => h [] text (by rw [tilde, List.nil_append]), fun front rest split => ?_⟩
    exact h (c :: front) rest (by rw [split, List.cons_append])
  · rintro ⟨here, later⟩ front rest split
    -- The tilde is the first character, or one of the rest.
    cases front with
    | nil =>
      obtain ⟨tilde, same⟩ := List.cons.inj split
      exact same ▸ here tilde
    | cons d front => exact later front rest (List.cons.inj split).2

/-- Any other character does not matter. -/
theorem escapes_cons_of_ne {c : Char} {text : List Char} (other : c ≠ '~') :
    Escapes (c :: text) ↔ Escapes text := by
  rw [escapes_cons]
  exact ⟨fun h => h.2, fun h => ⟨fun tilde => absurd tilde other, h⟩⟩

/-- An escaped name escapes its tildes. -/
theorem escapes_escape_append (name : List Char) {text : List Char} (h : Escapes text) :
    Escapes (escape name ++ text) := by
  induction name with
  | nil => exact h
  | cons c rest ih =>
    rw [escape_cons, List.append_assoc]
    by_cases tilde : c = '~'
    · rw [if_pos tilde]
      exact escapes_cons.2 ⟨fun _ => .inl rfl, (escapes_cons_of_ne (by decide)).2 ih⟩
    · rw [if_neg tilde]
      by_cases slash : c = '/'
      · rw [if_pos slash]
        exact escapes_cons.2 ⟨fun _ => .inr rfl, (escapes_cons_of_ne (by decide)).2 ih⟩
      · rw [if_neg slash]
        exact (escapes_cons_of_ne tilde).2 ih

/-- Each name is written after a slash. -/
theorem body_cons (name : String) (rest : List String) :
    body ⟨name :: rest⟩ = '/' :: (escape name.toList ++ body ⟨rest⟩) :=
  rfl

/-- What a pointer writes is the body of one. -/
theorem isBody_body (p : Pointer) : IsBody p.body := by
  obtain ⟨segments⟩ := p
  constructor
  · cases segments with
    | nil => exact .inl rfl
    | cons name rest => exact .inr rfl
  · induction segments with
    | nil => exact escapes_nil
    | cons name rest ih =>
      rw [body_cons]
      exact (escapes_cons_of_ne (by decide)).2 (escapes_escape_append name.toList ih)

/-- A text in which every tilde is followed by a digit is an escaped name, and then a body. -/
theorem exists_of_escapes (text : List Char) (h : Escapes text) :
    ∃ name segments, text = escape name ++ body ⟨segments⟩ := by
  match text with
  | [] => exact ⟨[], [], rfl⟩
  | c :: rest =>
    obtain ⟨digit, later⟩ := escapes_cons.1 h
    by_cases tilde : c = '~'
    · -- The tilde and its digit are one character of the name.
      match rest with
      | [] => exact absurd (digit tilde) (by simp)
      | d :: rest =>
        obtain ⟨name, segments, same⟩ := exists_of_escapes rest (escapes_cons.1 later).2
        rcases digit tilde with zero | one
        · refine ⟨'~' :: name, segments, ?_⟩
          rw [tilde, Option.some.inj zero, same]
          rfl
        · refine ⟨'/' :: name, segments, ?_⟩
          rw [tilde, Option.some.inj one, same]
          rfl
    · -- A slash begins the next name, and any other character is one of this name.
      obtain ⟨name, segments, same⟩ := exists_of_escapes rest later
      by_cases slash : c = '/'
      · refine ⟨[], String.ofList name :: segments, ?_⟩
        rw [body_cons, String.toList_ofList, ← same, slash]
        rfl
      · refine ⟨c :: name, segments, ?_⟩
        rw [escape_cons, if_neg tilde, if_neg slash, same]
        rfl
termination_by text.length

/-- The texts that may follow the number sign are those of pointers. -/
theorem exists_body_iff {text : List Char} : (∃ p : Pointer, p.body = text) ↔ IsBody text := by
  constructor
  · rintro ⟨p, rfl⟩
    exact isBody_body p
  · rintro ⟨start | start, escapes⟩
    · exact ⟨root, start.symm⟩
    · -- The text has a name after its slash, and others after that.
      obtain ⟨rest, rfl⟩ := List.head?_eq_some_iff.1 start
      obtain ⟨name, segments, same⟩ := exists_of_escapes rest (escapes_cons.1 escapes).2
      refine ⟨⟨String.ofList name :: segments⟩, ?_⟩
      rw [body_cons, String.toList_ofList, ← same]

/-- A name that can be read is escaped, if there is no slash in it. -/
theorem eq_escape_of_unescape? {text name : List Char} (free : '/' ∉ text)
    (h : unescape? text = some name) : text = escape name := by
  fun_induction unescape? text generalizing name with
  -- the end
  | case1 => exact Option.some.inj h ▸ rfl
  | case2 rest ih =>
    -- an escaped tilde
    obtain ⟨more, read, rfl⟩ := Option.map_eq_some_iff.1 h
    rw [ih (fun slash => free (by simp [slash])) read]
    rfl
  | case3 rest ih =>
    -- an escaped slash
    obtain ⟨more, read, rfl⟩ := Option.map_eq_some_iff.1 h
    rw [ih (fun slash => free (by simp [slash])) read]
    rfl
  -- A tilde with no digit is not read.
  | case4 => cases h
  | case5 c rest _ _ tilde ih =>
    -- any other character
    obtain ⟨more, read, rfl⟩ := Option.map_eq_some_iff.1 h
    rw [List.mem_cons, not_or] at free
    rw [escape_cons, if_neg tilde, if_neg fun slash => free.1 slash.symm, ← ih free.2 read]
    rfl

/-- Pieces that are read as names are the escapes of these. -/
theorem flatten_of_mapM_unescape? {pieces names : List (List Char)}
    (free : ∀ piece ∈ pieces, '/' ∉ piece) (h : pieces.mapM unescape? = some names) :
    pieces.flatMap ('/' :: ·) = body ⟨names.map String.ofList⟩ := by
  induction pieces generalizing names with
  | nil =>
    cases h
    rfl
  | cons piece rest ih =>
    rw [List.forall_mem_cons] at free
    rw [List.mapM_cons] at h
    obtain ⟨name, read, h⟩ := Option.bind_eq_some_iff.1 h
    obtain ⟨more, reads, h⟩ := Option.bind_eq_some_iff.1 h
    cases h
    rw [List.flatMap_cons, ih free.2 reads, eq_escape_of_unescape? free.1 read, List.map_cons,
      body_cons, String.toList_ofList, List.cons_append]

/-- A pointer is read from its body only. -/
theorem ofBody_eq_ok_iff {text : List Char} {p : Pointer} :
    ofBody text = .ok p ↔ p.body = text := by
  constructor
  · intro h
    unfold ofBody at h
    split at h
    · cases h
      rfl
    · next c rest =>
      split at h
      · cases h
      · next slash =>
        obtain rfl : c = '/' := Decidable.not_not.1 slash
        split at h
        · -- Each piece after a slash was read as a name.
          next names reads =>
          cases h
          obtain ⟨first, pieces, split, whole, free⟩ := Text.splitOn_pieces '/' ('/' :: rest)
          rw [split, List.tail_cons] at reads
          rw [List.forall_mem_cons] at free
          rw [← flatten_of_mapM_unescape? free.2 reads]
          -- The text starts with a slash, so there is nothing before its first piece.
          cases first with
          | nil => exact whole.symm
          | cons d first =>
            obtain ⟨same, _⟩ := List.cons.inj whole
            exact absurd (same ▸ List.mem_cons_self) free.1
        · cases h
  · rintro rfl
    exact ofBody_body p

/-- A text without the number sign that it may start with. -/
def afterMark (input : String) : List Char :=
  match input.toList with
  | '#' :: rest => rest
  | text => text

/-- A text is read as the pointer that it is the body of, apart from a number sign. -/
theorem parse_eq_ok_iff {input : String} {p : Pointer} :
    parse input = .ok p ↔ p.body = afterMark input := by
  rw [← ofBody_eq_ok_iff]
  show (ofBody (afterMark input)).mapError _ = .ok p ↔ _
  cases ofBody (afterMark input) <;> simp [Except.mapError]

/-! ## Texts -/

def escapedText (name : String) : String :=
  String.ofList (replaceChar '/' ['~', '1'] (replaceChar '~' ['~', '0'] name.toList))

/-- The names in the text of a pointer: the pieces after its slashes. -/
def namesOfText (text : String) : List String :=
  ((Text.splitOn '/' (text.toList.dropWhile (· = '#'))).drop 1).map fun piece =>
    String.ofList (replacePair '~' '0' '~' (replacePair '~' '1' '/' piece))

def parentOfText (text : String) : Option String :=
  (Text.beforeLast '/' text.toList).map String.ofList

/-- A child is written after its parent. -/
theorem text_child (p : Pointer) (name : String) :
    (p.child name).text = p.text ++ "/" ++ escapedText name := by
  rw [← String.toList_inj]
  simp [text, body, child, escapedText, escape_eq_replace]

/-- An index is written as it is. -/
theorem escapedText_toString (i : Nat) : escapedText (toString i) = toString i := by
  have other : ∀ c : Char, c.isDigit = false → c ∉ (toString i).toList := by
    intro c noDigit hc
    rw [Uri.Authority.isDigit_of_mem_toString hc] at noDigit
    cases noDigit
  have tilde := other '~' (by decide)
  have slash := other '/' (by decide)
  rw [escapedText, Text.replaceChar_of_not_mem tilde, Text.replaceChar_of_not_mem slash,
    String.ofList_toList]

/-- Nothing is escaped in an index. -/
theorem text_index (p : Pointer) (i : Nat) : (p.index i).text = p.text ++ "/" ++ toString i := by
  rw [index, text_child, escapedText_toString]

/-- A pointer is written with one number sign, which is not part of its body. -/
theorem dropWhile_text (p : Pointer) : p.text.toList.dropWhile (· = '#') = p.body := by
  have chars : p.text.toList = '#' :: p.body := String.toList_ofList
  rw [chars, List.dropWhile_cons_of_pos (by decide)]
  obtain ⟨segments⟩ := p
  cases segments with
  | nil => rfl
  | cons name rest => rw [body_cons, List.dropWhile_cons_of_neg (by decide)]

/-- The names can be read off the text. -/
theorem namesOfText_text (p : Pointer) : namesOfText p.text = p.segments := by
  have pieces : Text.splitOn '/' p.body = [] :: p.segments.map fun name => escape name.toList :=
    splitOn_append_body p.segments List.not_mem_nil
  rw [namesOfText, dropWhile_text, pieces, List.drop_one, List.tail_cons, List.map_map]
  calc p.segments.map _ = p.segments.map id := by
        refine List.map_congr_left fun name _ => ?_
        rw [Function.comp, replace_escape, String.ofList_toList, id]
    _ = p.segments := List.map_id _

/-- The parent of a child is where it came from. -/
theorem parent?_child (p : Pointer) (name : String) : (p.child name).parent? = some p := by
  obtain ⟨segments⟩ := p
  have last : (segments ++ [name]).dropLast = segments := List.dropLast_concat
  cases segments with
  | nil => rfl
  | cons first rest => exact congrArg (some ∘ mk) last

/-- Every pointer but the root has a last name. -/
theorem eq_root_or_child (p : Pointer) : p = root ∨ ∃ q name, p = child q name := by
  obtain ⟨segments⟩ := p
  rcases List.eq_nil_or_concat segments with rfl | ⟨front, name, same⟩
  · exact .inl rfl
  · rw [List.concat_eq_append] at same
    exact .inr ⟨⟨front⟩, name, congrArg mk same⟩

/-- The text of the parent is that before the last slash. -/
theorem parentOfText_text (p : Pointer) : parentOfText p.text = p.parent?.map text := by
  rcases eq_root_or_child p with rfl | ⟨q, name, rfl⟩
  · rfl
  · have chars : (q.child name).text.toList = q.text.toList ++ '/' :: escape name.toList := by
      simp [text, body, child]
    rw [parentOfText, chars, Text.beforeLast_append (slash_not_mem_escape _), parent?_child,
      Option.map_some, Option.map_some, String.ofList_toList]

/-! ## Pointers -/

/-- A pointer is known by the list of its names, which it is built from and taken apart into. -/
structure IsListOfNames (p : Pointer) : Prop where
  built : p.segments.foldl child root = p
  eq_iff : ∀ q : Pointer, p.segments = q.segments ↔ p = q
  parent : ∀ name, (p.child name).parent? = some p
  last : ∀ name, (p.child name).last? = some name
  index : ∀ i, p.index i = p.child (toString i)
  root : p.parent? = none ↔ p = Pointer.root

/-- The text of a pointer, with the number sign or without it, serves as well as its names. -/
structure IsKnownByText (p : Pointer) : Prop where
  parse : parse p.text = .ok p
  parse_body : Pointer.parse (String.ofList p.body) = .ok p
  eq_iff : ∀ q : Pointer, p.text = q.text ↔ p = q
  names : namesOfText p.text = p.segments
  parent : parentOfText p.text = p.parent?.map text
  child : ∀ name, (p.child name).text = p.text ++ "/" ++ escapedText name
  index : ∀ i, (p.index i).text = p.text ++ "/" ++ toString i

/-- Names are added at the end. -/
theorem foldl_child (names : List String) (p : Pointer) :
    (names.foldl child p).segments = p.segments ++ names := by
  induction names generalizing p with
  | nil => rw [List.foldl_nil, List.append_nil]
  | cons name rest ih => rw [List.foldl_cons, ih, child, List.append_assoc, List.singleton_append]

/-- A pointer is a list of names. -/
theorem isListOfNames (p : Pointer) : p.IsListOfNames where
  built := by
    have names : (p.segments.foldl child root).segments = p.segments := by
      rw [foldl_child, root, List.nil_append]
    exact congrArg mk names
  eq_iff _ := ⟨congrArg mk, congrArg segments⟩
  parent := parent?_child p
  last name := by rw [last?, child, List.getLast?_concat]
  index _ := rfl
  root := by
    constructor
    · -- Only the root has no parent.
      intro none
      rcases eq_root_or_child p with rfl | ⟨q, name, rfl⟩
      · rfl
      · rw [parent?_child] at none
        cases none
    · rintro rfl
      rfl

/-- The body of a pointer does not start with a number sign. -/
theorem afterMark_body (p : Pointer) : afterMark (String.ofList p.body) = p.body := by
  rw [afterMark, String.toList_ofList]
  obtain ⟨segments⟩ := p
  cases segments with
  | nil => rfl
  | cons name rest => rfl

/-- A pointer is known by its text. -/
theorem isKnownByText (p : Pointer) : p.IsKnownByText where
  parse := parse_text p
  parse_body := parse_eq_ok_iff.2 (afterMark_body p).symm
  eq_iff _ := ⟨eq_of_text, congrArg text⟩
  names := namesOfText_text p
  parent := parentOfText_text p
  child := text_child p
  index := text_index p

/-- Pointers are lists of names, whatever the names are. The texts that are read are those in which
a slash comes first and every tilde is escaped; each is the text of the pointer that is read, but
for its number sign. -/
theorem list_of_names :
    (∀ names : List String, (names.foldl child root).segments = names ∧
      namesOfText (names.foldl child root).text = names) ∧
    (∀ input, (∃ p, parse input = .ok p) ↔ IsBody (afterMark input)) ∧
    (∀ input p, parse input = .ok p ↔ p.text = "#" ++ String.ofList (afterMark input)) ∧
    ∀ p : Pointer, p.IsListOfNames ∧ p.IsKnownByText := by
  refine ⟨fun names => ?_, fun input => ?_, fun input p => ?_, fun p => ?_⟩
  · have segments : (names.foldl child root).segments = names := by
      rw [foldl_child, root, List.nil_append]
    exact ⟨segments, (namesOfText_text _).trans segments⟩
  · rw [← exists_body_iff]
    exact exists_congr fun p => parse_eq_ok_iff
  · rw [parse_eq_ok_iff, ← String.toList_inj, text]
    simp
  · exact ⟨isListOfNames p, isKnownByText p⟩

/-- Names that look like escapes, slashes and number signs. -/
example : (["", "~1/", "#", "~0"].foldl child root).text = "#//~01~1/#/~00" := by decide +kernel

end Pointer

end DesignTokens
