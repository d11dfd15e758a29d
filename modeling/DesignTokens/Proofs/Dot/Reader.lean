import Mathlib.Data.List.Basic
import Mathlib.Tactic.SplitIfs

/-!
# DesignTokens.Proofs.Dot.Reader — reading the DOT language

A reader for the part of the DOT language in which graphs are drawn: a directed graph with its
settings, nodes and edges, each ended by a semicolon. What is outside of this part is not read:
comments, HTML, ports, subgraphs, and chains of edges.

1. **Texts in quotes** (`Dot.Content`): a backslash before a quote is left out; a backslash before a
   line break is left out with it; all others stay, and two of them are a pair.
2. **Tokens** (`Dot.scan`): a machine that reads character by character.
3. **Statements** (`Dot.statementsFrom`) and **graphs** (`Dot.read`).
4. **Pieces** (`Dot.Reads`, `Dot.Says`): what is read of a text is read piece by piece.
5. **Where quotes end** (`Dot.reads_written_iff`): which texts stay in their quotes when they are
   written with escaped quotes or without, and which are read as they are (`Dot.IsVerbatim`).
-/

namespace DesignTokens.Dot

/-! ## Texts in quotes -/

/-- What was read of a text in quotes. If it is open, its last character was a backslash, and the
next one decides what both of them stand for. -/
structure Content where
  read : List Char := []
  opened : Bool := false
deriving Repr, DecidableEq

def Content.next (s : Content) (c : Char) : Content :=
  if s.opened then
    { read :=
        if c = '"' then s.read ++ ['"'] else if c = '\n' then s.read else s.read ++ ['\\', c] }
  else if c = '\\' then { s with opened := true }
  else { read := s.read ++ [c] }

/-! ## Tokens -/

/-- A token. Only a name without quotes may be a keyword. -/
inductive Token where
  | name (text : String)
  | quoted (text : String)
  | arrow
  | mark (c : Char)
deriving Repr, DecidableEq

/-- What is being read. -/
inductive Mode where
  | between
  | name (read : List Char)
  | dash
  | quoted (content : Content)
deriving Repr, DecidableEq

def isBlank (c : Char) : Bool :=
  c = ' ' || c = '\n' || c = '\t' || c = '\r'

def isMark (c : Char) : Bool :=
  c = '\x7b' || c = '\x7d' || c = '[' || c = ']' || c = '=' || c = ',' || c = ';'

def isNameStart (c : Char) : Bool :=
  c.isAlphanum || c = '_'

/-- Whether a character goes on with a name; one that starts with a digit is a number. -/
def continues (read : List Char) (c : Char) : Bool :=
  c.isDigit || (isNameStart c && !(read.head?.any Char.isDigit))

/-- A character between tokens: the token that it is, and what is read after it. -/
def start (c : Char) : Option (List Token × Mode) :=
  if isBlank c then some ([], .between)
  else if isMark c then some ([.mark c], .between)
  else if c = '"' then some ([], .quoted {})
  else if c = '-' then some ([], .dash)
  else if isNameStart c then some ([], .name [c])
  else none

/-- One character: the tokens that it ends, and what is read after it. -/
def next (mode : Mode) (c : Char) : Option (List Token × Mode) :=
  match mode with
  | .between => start c
  | .name read =>
    if continues read c then some ([], .name (read ++ [c]))
    else (start c).map fun (tokens, mode) => (.name (String.ofList read) :: tokens, mode)
  | .dash => if c = '>' then some ([.arrow], .between) else none
  | .quoted content =>
    if c = '"' ∧ content.opened = false then
      some ([.quoted (String.ofList content.read)], .between)
    else some ([], .quoted (content.next c))

/-- The tokens of a text, and what is being read at its end. -/
def scan (mode : Mode) : List Char → Option (List Token × Mode)
  | [] => some ([], mode)
  | c :: rest => do
    let (first, mode) ← next mode c
    let (later, mode) ← scan mode rest
    some (first ++ later, mode)

/-! ## Statements -/

abbrev Attributes := List (String × String)

inductive Statement where
  | setting (name value : String)
  | defaults (kind : String) (attributes : Attributes)
  | node (id : String) (attributes : Attributes)
  | edge (source target : String) (attributes : Attributes)
deriving Repr, DecidableEq

def keywords : List String :=
  ["node", "edge", "graph", "digraph", "subgraph", "strict"]

/-- The keyword that a token is, in whatever case. -/
def Token.keyword? : Token → Option String
  | .name text => keywords.find? (·.toList = text.toList.map Char.toLower)
  | _ => none

/-- What is named by a token. -/
def Token.id? (t : Token) : Option String :=
  match t with
  | .name text => if t.keyword?.isSome then none else some text
  | .quoted text => some text
  | _ => none

/-- The rest of a list of attributes, up to its closing bracket. -/
def attributes? : List Token → Option Attributes
  | [.mark ']'] => some []
  | name :: .mark '=' :: value :: .mark ',' :: rest => do
    some ((← name.id?, ← value.id?) :: (← attributes? rest))
  | name :: .mark '=' :: value :: rest => do
    some ((← name.id?, ← value.id?) :: (← attributes? rest))
  | _ => none

/-- A list of attributes in brackets, which may be left out. -/
def attributeList? : List Token → Option Attributes
  | [] => some []
  | .mark '[' :: rest => attributes? rest
  | _ => none

/-- A statement without its semicolon. -/
def statement? : List Token → Option Statement
  | [name, .mark '=', value] => do some (.setting (← name.id?) (← value.id?))
  | source :: .arrow :: target :: rest => do
    some (.edge (← source.id?) (← target.id?) (← attributeList? rest))
  | first :: rest => do
    let attributes ← attributeList? rest
    match first.keyword? with
    | some kind =>
      if kind = "node" ∨ kind = "edge" ∨ kind = "graph" then some (.defaults kind attributes)
      else none
    | none => some (.node (← first.id?) attributes)
  | [] => none

/-- The statements that end in a list of tokens after the tokens of a statement that has begun, and
the tokens of the statement that does not end in it. -/
def statementsFrom (begun : List Token) : List Token → Option (List Statement × List Token)
  | [] => some ([], begun)
  | t :: rest =>
    if t = .mark ';' then do
      let first ← statement? begun
      let (later, left) ← statementsFrom [] rest
      some (first :: later, left)
    else statementsFrom (begun ++ [t]) rest

/-! ## Graphs -/

structure Document where
  name : String
  statements : List Statement
deriving Repr, DecidableEq

def Document.nodes (d : Document) : List (String × Attributes) :=
  d.statements.filterMap fun
    | .node id attributes => some (id, attributes)
    | _ => none

/-- The edges that are stated, by their ends, with their attributes. -/
def Document.edges (d : Document) : List ((String × String) × Attributes) :=
  d.statements.filterMap fun
    | .edge source target attributes => some ((source, target), attributes)
    | _ => none

/-- The graph that a list of tokens stands for: all that is left after its last statement is the
closing brace. -/
def document? : List Token → Option Document
  | keyword :: name :: .mark '\x7b' :: rest => do
    let id ← name.id?
    let (statements, left) ← statementsFrom [] rest
    if keyword.keyword? = some "digraph" ∧ left = [.mark '\x7d'] then some ⟨id, statements⟩
    else none
  | _ => none

/-- Read a graph. -/
def read (text : String) : Option Document :=
  match scan .between text.toList with
  | some (tokens, .between) => document? tokens
  | _ => none

/-! ## Pieces -/

/-- A text is read as a list of tokens. -/
def Reads (text : List Char) (tokens : List Token) : Prop :=
  scan .between text = some (tokens, .between)

instance (text : List Char) (tokens : List Token) : Decidable (Reads text tokens) :=
  inferInstanceAs (Decidable (_ = _))

/-- A list of tokens is a list of statements. -/
def Says (tokens : List Token) (statements : List Statement) : Prop :=
  statementsFrom [] tokens = some (statements, [])

instance (tokens : List Token) (statements : List Statement) :
    Decidable (Says tokens statements) :=
  inferInstanceAs (Decidable (_ = _))

/-- A text is scanned piece by piece; the mode at the end of one piece is that of the next. -/
theorem scan_append (mode : Mode) (text text' : List Char) :
    scan mode (text ++ text') = (scan mode text).bind fun first =>
      (scan first.2 text').map fun later => (first.1 ++ later.1, later.2) := by
  induction text generalizing mode with
  -- With nothing read before, the scan is that of the rest.
  | nil => cases h : scan mode text' <;> simp [scan, h]
  | cons c rest ih =>
    rw [List.cons_append, scan, scan]
    cases next mode c with
    -- A character that cannot stand here ends both scans.
    | none => rfl
    | some step =>
      simp only [Option.bind_eq_bind, Option.bind_some, ih]
      cases scan step.2 rest with
      | none => rfl
      | some first =>
        simp only [Option.bind_some]
        cases scan first.2 text' <;> simp

/-- Statements are read piece by piece, with what was begun at the end of the first piece. -/
theorem statementsFrom_append (begun tokens tokens' : List Token) :
    statementsFrom begun (tokens ++ tokens') = (statementsFrom begun tokens).bind fun first =>
      (statementsFrom first.2 tokens').map fun later => (first.1 ++ later.1, later.2) := by
  induction tokens generalizing begun with
  | nil => cases h : statementsFrom begun tokens' <;> simp [statementsFrom, h]
  | cons t rest ih =>
    rw [List.cons_append, statementsFrom, statementsFrom]
    split
    · -- At the end of a statement, what was begun is read as one.
      cases statement? begun with
      | none => rfl
      | some first =>
        simp only [Option.bind_eq_bind, Option.bind_some, ih]
        cases statementsFrom [] rest with
        | none => rfl
        | some later =>
          simp only [Option.bind_some]
          cases statementsFrom later.2 tokens' <;> simp
    · -- Any other token is added to what was begun.
      exact ih (begun ++ [t])

section Pieces

variable {text text' : List Char} {tokens tokens' : List Token}
  {statements statements' : List Statement}

/-- What reads two texts reads them one after the other. -/
theorem Reads.append (h : Reads text tokens) (h' : Reads text' tokens') :
    Reads (text ++ text') (tokens ++ tokens') := by
  rw [Reads, scan_append, h, Option.bind_some, h', Option.map_some]

/-- Statements can be read one after the other. -/
theorem Says.append (h : Says tokens statements) (h' : Says tokens' statements') :
    Says (tokens ++ tokens') (statements ++ statements') := by
  rw [Says, statementsFrom_append, h, Option.bind_some, h', Option.map_some]

variable {α : Type} {write : α → List Char} {tokensOf : α → List Token} {meaning : α → Statement}

/-- A list is read item by item. -/
theorem Reads.flatMap : ∀ {items : List α}, (∀ a ∈ items, Reads (write a) (tokensOf a)) →
    Reads (items.flatMap write) (items.flatMap tokensOf)
  | [], _ => rfl
  | a :: _, h =>
    (h a List.mem_cons_self).append (.flatMap fun b hb => h b (List.mem_cons_of_mem a hb))

/-- A list of items says what each of them says. -/
theorem Says.flatMap : ∀ {items : List α}, (∀ a ∈ items, Says (tokensOf a) [meaning a]) →
    Says (items.flatMap tokensOf) (items.map meaning)
  | [], _ => rfl
  | a :: _, h =>
    (h a List.mem_cons_self).append (.flatMap fun b hb => h b (List.mem_cons_of_mem a hb))

/-- Pieces that make up a graph are read as one. -/
theorem read_of_pieces {heading : String} {keyword name : Token} {id : String}
    (kind : keyword.keyword? = some "digraph") (named : name.id? = some id)
    (begins : Reads heading.toList (keyword :: name :: .mark '\x7b' :: tokens))
    (ends : Reads text (tokens' ++ [.mark '\x7d'])) (body : Says (tokens ++ tokens') statements) :
    read (heading ++ String.ofList text) = some ⟨id, statements⟩ := by
  have scanned := begins.append ends
  have stated : statementsFrom [] (tokens ++ (tokens' ++ [.mark '\x7d'])) =
      some (statements, [.mark '\x7d']) := by
    rw [← List.append_assoc, statementsFrom_append, body]
    simp [statementsFrom]
  rw [Reads] at scanned
  rw [read, String.toList_append, String.toList_ofList, scanned]
  simp [document?, kind, named, stated]

end Pieces

/-! ## Where quotes end -/

/-- A character as it is written, if quotes are escaped and if they are not. -/
def write (escaped : Bool) (c : Char) : List Char :=
  if escaped ∧ c = '"' then ['\\', '"'] else [c]

/-- A text ends with a backslash that is not the second one of a pair. -/
def endsOpen (text : List Char) : Bool :=
  text.foldl (fun opened c => !opened && c = '\\') false

/-- A text as it is read in quotes. -/
def content (text : List Char) : Content :=
  text.foldl Content.next {}

variable {s : Content} {c : Char} {text : List Char}

@[simp] theorem opened_next : (s.next c).opened = (!s.opened && c = '\\') := by
  unfold Content.next
  split_ifs with opened backslash <;> simp [*]

/-- Whether a content ends with an open backslash can be seen at its text. -/
theorem opened_content : (content text).opened = endsOpen text := by
  suffices ∀ s : Content, (text.foldl Content.next s).opened =
      text.foldl (fun opened c => !opened && c = '\\') s.opened from this {}
  induction text with
  | nil => exact fun s => rfl
  | cons c rest ih =>
    intro s
    rw [List.foldl_cons, List.foldl_cons, ih, opened_next]

/-- No quote of a text follows an open backslash, or each of them does; what was read before the
text is part of it. -/
def Content.Guards (s : Content) (opened : Bool) (text : List Char) : Prop :=
  ∀ front rest, text = front ++ '"' :: rest → (front.foldl Content.next s).opened = opened

/-- There is nothing to guard in an empty text. -/
theorem guards_nil (opened : Bool) : s.Guards opened [] := by
  intro front rest split
  simp at split

/-- A text is guarded if its first character is, and the rest after it. -/
theorem guards_cons {opened : Bool} :
    s.Guards opened (c :: text) ↔
      (c = '"' → s.opened = opened) ∧ (s.next c).Guards opened text := by
  constructor
  · intro h
    -- A split of the rest is one of the whole text, with the first character in front.
    refine ⟨fun quote => h [] text (by rw [quote, List.nil_append]), fun front rest split => ?_⟩
    exact h (c :: front) rest (by rw [split, List.cons_append])
  · rintro ⟨here, later⟩ front rest split
    -- Either the quote is the first character, or it is one of the rest.
    cases front with
    | nil => exact here (List.cons.inj split).1
    | cons d front =>
      obtain ⟨same, split⟩ := List.cons.inj split
      exact same ▸ later front rest split

/-- What ends with the end of a text in quotes is a token. -/
theorem ne_nil_of_scan_quote {mode : Mode} {tokens : List Token}
    (h : scan mode (text ++ ['"']) = some (tokens, .between)) : tokens ≠ [] := by
  rw [scan_append] at h
  obtain ⟨⟨first, before⟩, _, h⟩ := Option.bind_eq_some_iff.1 h
  obtain ⟨⟨later, after⟩, last, same⟩ := Option.map_eq_some_iff.1 h
  obtain ⟨rfl, rfl⟩ := Prod.mk.inj same
  -- Before the last quote, the scanner was in one of four modes; only within a text can the quote
  -- end one.
  cases before with
  | between => simp [scan, next, start, isBlank, isMark] at last
  | name read =>
    have stops : continues read '"' = false := by simp [continues, isNameStart]
    simp [scan, next, stops, start, isBlank, isMark] at last
  | dash => simp [scan, next] at last
  | quoted content =>
    cases opened : content.opened <;> simp [scan, next, opened] at last
    simp [← last]

/-- A written character either goes on with the text in quotes, or it ends it. -/
theorem scan_write (escaped : Bool) :
    (¬(c = '"' ∧ s.opened = escaped) ∧
      scan (.quoted s) (write escaped c) = some ([], .quoted (s.next c))) ∨
    ((c = '"' ∧ s.opened = escaped) ∧
      ∃ token, scan (.quoted s) (write escaped c) = some ([token], .between)) := by
  by_cases quote : c = '"'
  · subst quote
    cases escaped <;> cases opened : s.opened <;>
      simp [write, scan, next, opened, Content.next]
  · left
    simp [write, scan, next, quote]

/-- A written text is read back as one token exactly if its quotes are guarded and it does not end
with an open backslash. -/
theorem scan_written_iff (escaped : Bool) {token : Token} :
    scan (.quoted s) (text.flatMap (write escaped) ++ ['"']) = some ([token], .between) ↔
      s.Guards (!escaped) text ∧ (text.foldl Content.next s).opened = false ∧
        token = .quoted (String.ofList (text.foldl Content.next s).read) := by
  induction text generalizing s with
  | nil =>
    cases opened : s.opened <;>
      simp [scan, next, opened, guards_nil, eq_comm]
  | cons c rest ih =>
    rw [List.flatMap_cons, List.append_assoc, scan_append, guards_cons, List.foldl_cons]
    -- A character keeps the scanner within the text, or it is a quote that ends it.
    rcases scan_write (s := s) (c := c) escaped with
      ⟨stays, scanned⟩ | ⟨⟨quote, opened⟩, first, scanned⟩
    · have guard : c = '"' → s.opened = !escaped := by
        intro quote
        have other : s.opened ≠ escaped := fun same => stays ⟨quote, same⟩
        cases escaped <;> simpa using other
      rw [scanned, Option.bind_some, and_iff_right guard, ← ih]
      simp
    · -- The text is ended early, and the quote that should end it begins or ends another one.
      rw [scanned, Option.bind_some]
      constructor
      · -- What comes after the early end would have to be no token at all.
        intro h
        obtain ⟨⟨later, mode⟩, scanned', same⟩ := Option.map_eq_some_iff.1 h
        obtain ⟨tokens, rfl⟩ := Prod.mk.inj same
        exact absurd (List.cons.inj tokens).2 (ne_nil_of_scan_quote scanned')
      · -- The guard says that the quote is preceded by a backslash, so it does not end the text.
        rintro ⟨⟨guard, _⟩, _⟩
        rw [guard quote] at opened
        cases escaped <;> cases opened

/-- A text is one token in its quotes if and only if these hold:
- quotes that are not escaped follow an open backslash, and escaped quotes do not;
- it does not end with an open backslash. -/
theorem reads_written_iff (escaped : Bool) {token : Token} :
    Reads ('"' :: (text.flatMap (write escaped) ++ ['"'])) [token] ↔
      (∀ front rest, text = front ++ '"' :: rest → endsOpen front = !escaped) ∧
        endsOpen text = false ∧ token = .quoted (String.ofList (content text).read) := by
  have begins : scan .between ('"' :: (text.flatMap (write escaped) ++ ['"'])) =
      scan (.quoted {}) (text.flatMap (write escaped) ++ ['"']) := by
    rw [scan, next]
    cases h : scan (.quoted {}) (text.flatMap (write escaped) ++ ['"']) <;>
      simp [start, isBlank, isMark, h]
  rw [Reads, begins, scan_written_iff]
  simp only [Content.Guards, ← opened_content]
  rfl

/-! ### Texts that are read as they are -/

/-- What was read, with the backslash that is open. -/
def Content.whole (s : Content) : List Char :=
  if s.opened then s.read ++ ['\\'] else s.read

/-- A character that is kept as it is stands at the end of what was read. -/
theorem whole_next (kept : c = '"' ∨ c = '\n' → s.opened = false) :
    (s.next c).whole = s.whole ++ [c] := by
  unfold Content.next Content.whole
  cases opened : s.opened with
  | true =>
    have other : c ≠ '"' ∧ c ≠ '\n' := by
      constructor <;> rintro rfl <;> simp [opened] at kept
    simp [other]
  | false => by_cases backslash : c = '\\' <;> simp [backslash]

/-- A quote or a line break after a backslash takes the backslash away. -/
theorem length_whole_next (left : c = '"' ∨ c = '\n') (opened : s.opened = true) :
    (s.next c).whole.length ≤ s.whole.length := by
  unfold Content.next Content.whole
  rcases left with rfl | rfl <;> simp [opened]

/-- No more is kept than what is read. -/
theorem length_whole_foldl :
    (text.foldl Content.next s).whole.length ≤ s.whole.length + text.length := by
  induction text generalizing s with
  | nil => exact Nat.le_refl _
  | cons c rest ih =>
    have step : (s.next c).whole.length ≤ s.whole.length + 1 := by
      by_cases kept : c = '"' ∨ c = '\n' → s.opened = false
      · rw [whole_next kept, List.length_append]
        exact Nat.le_refl _
      · -- The backslash is lost, and the character takes its place at most.
        push Not at kept
        have := length_whole_next kept.1 (by simpa using kept.2)
        omega
    have := ih (s := s.next c)
    rw [List.foldl_cons, List.length_cons]
    omega

/-- Nothing of a text is lost if and only if no quote or line break follows an open backslash. -/
theorem whole_foldl_iff :
    (text.foldl Content.next s).whole = s.whole ++ text ↔
      ∀ front c rest, text = front ++ c :: rest → c = '"' ∨ c = '\n' →
        (front.foldl Content.next s).opened = false := by
  induction text generalizing s with
  | nil => simp
  | cons c rest ih =>
    rw [List.foldl_cons]
    by_cases kept : c = '"' ∨ c = '\n' → s.opened = false
    · rw [List.append_cons, ← whole_next kept, ih]
      constructor
      · -- The split is at the first character, or later.
        intro h front d rest' split special
        cases front with
        | nil => exact kept ((List.cons.inj split).1 ▸ special)
        | cons e front =>
          obtain ⟨same, split⟩ := List.cons.inj split
          exact same ▸ h front d rest' split special
      · intro h front d rest' split special
        exact h (c :: front) d rest' (by rw [split, List.cons_append]) special
    · -- At this character less is kept than is read, and what follows cannot make up for it.
      constructor
      · -- The lengths give it away, since each character adds one at most.
        intro same
        push Not at kept
        have lost := length_whole_next kept.1 (by simpa using kept.2)
        have bound : (rest.foldl Content.next (s.next c)).whole.length ≤ _ := length_whole_foldl
        have same := congrArg List.length same
        rw [List.length_append, List.length_cons] at same
        omega
      · intro h
        exact absurd (h [] c rest rfl) kept

/-- A text is read as it is exactly if no quote or line break comes after an open backslash. -/
theorem whole_content_iff : (content text).whole = text ↔
    ∀ front c rest, text = front ++ c :: rest → c = '"' ∨ c = '\n' → endsOpen front = false := by
  simp only [← opened_content]
  exact whole_foldl_iff (s := {})

/-- A text that is read in quotes as it is, although nothing of it is escaped. -/
structure IsVerbatim (text : List Char) : Prop where
  quotes : '"' ∉ text
  lines : ∀ front rest, text = front ++ '\n' :: rest → endsOpen front = false
  ending : endsOpen text = false

/-- A text that ends with its quotes if its own quotes are escaped. -/
structure IsEnclosed (text : List Char) : Prop where
  quotes : ∀ front rest, text = front ++ '"' :: rest → endsOpen front = false
  ending : endsOpen text = false

/-- A text whose quotes are escaped is read as one token exactly if it is enclosed by its quotes. -/
theorem reads_enclosed_iff {token : Token} :
    Reads ('"' :: (text.flatMap (write true) ++ ['"'])) [token] ↔
      IsEnclosed text ∧ token = .quoted (String.ofList (content text).read) := by
  rw [reads_written_iff]
  exact ⟨fun ⟨quotes, ending, same⟩ => ⟨⟨quotes, ending⟩, same⟩,
    fun ⟨⟨quotes, ending⟩, same⟩ => ⟨quotes, ending, same⟩⟩

/-- At the end of a text, nothing is left open, and all that was read is kept. -/
theorem read_content (ending : endsOpen text = false) :
    (content text).read = (content text).whole := by
  rw [Content.whole, opened_content, ending]
  rfl

/-- If its quotes are escaped, a text is read as it is unless a line break follows an open
backslash. -/
theorem read_content_of_enclosed (enclosed : IsEnclosed text)
    (lines : ∀ front rest, text = front ++ '\n' :: rest → endsOpen front = false) :
    (content text).read = text := by
  rw [read_content enclosed.ending, whole_content_iff.2]
  rintro front c rest split (rfl | rfl)
  · exact enclosed.quotes front rest split
  · exact lines front rest split

/-- A text between quotes reads as itself exactly if it has no quotes, and no backslash before a
line break or at its end. -/
theorem reads_verbatim_iff :
    Reads ('"' :: (text ++ ['"'])) [.quoted (String.ofList text)] ↔ IsVerbatim text := by
  have plain : text.flatMap (write false) = text := by
    have single : write false = fun c => [c] := funext fun c => by simp [write]
    rw [single, List.flatMap_singleton']
  have written : Reads ('"' :: (text.flatMap (write false) ++ ['"']))
      [.quoted (String.ofList text)] ↔ _ := reads_written_iff false
  rw [plain] at written
  rw [written]
  constructor
  · -- The text was read whole, so no special character comes after a backslash; a quote would have
    -- to.
    rintro ⟨quotes, ending, same⟩
    have same : (content text).whole = text := by
      rw [← read_content ending]
      exact (String.ofList_injective (Token.quoted.inj same)).symm
    rw [whole_content_iff] at same
    constructor
    case quotes =>
      intro quote
      obtain ⟨front, rest, split⟩ := List.append_of_mem quote
      have guarded := quotes front rest split
      rw [same front '"' rest split (.inl rfl)] at guarded
      cases guarded
    case lines => exact fun front rest split => same front '\n' rest split (.inr rfl)
    case ending => exact ending
  · -- There is no quote to guard, and what is after a backslash is not special.
    rintro ⟨quotes, lines, ending⟩
    have none : ∀ front rest, text ≠ front ++ '"' :: rest := by
      rintro front rest rfl
      simp at quotes
    refine ⟨fun front rest split => absurd split (none front rest), ending, ?_⟩
    rw [read_content ending, whole_content_iff.2]
    rintro front c rest split (rfl | rfl)
    · exact absurd split (none front rest)
    · exact lines front rest split

end DesignTokens.Dot
