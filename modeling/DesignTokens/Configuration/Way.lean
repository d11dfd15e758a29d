import DesignTokens.Datum
import DesignTokens.Text.LowerCase
import DesignTokens.Text.Split

/-!
# DesignTokens.Configuration.Way — ways to the values of a configuration

A key of a layer may stand for a way through several tables and lists, as `resolver.context.l[2]`.

1. **Steps and ways** (`Configuration.Step`, `Configuration.way?`).
2. **Slots** of a list (`Configuration.inSlot`): a list grows as far as an index asks for.
3. **Setting a value** (`Configuration.setAt`): what stands in the way of a table or a list gives
   way, and tables are merged. The case of keys does not matter.
-/

namespace DesignTokens.Configuration

/-! ## Ways -/

/-- A step of a way: to the entry of a table, or to an item of a list. -/
inductive Step where
  | key (name : String)
  /-- A negative index counts from the end. -/
  | index (position : Int)
deriving Repr, DecidableEq, Inhabited

/-- A character of a name on a way. -/
def isWayChar (c : Char) : Bool :=
  c.isAlphanum || c == ' ' || c == '_' || c == '-'

/-- The number between two brackets, which may have blanks around it. -/
def index? (text : List Char) : Option Int :=
  let isBlank (c : Char) := c == ' ' || c == '\t'
  let inner := ((text.dropWhile isBlank).reverse.dropWhile isBlank).reverse
  if inner.head? == some '+' then none
  else (Numeral.whole? inner).bind Numeral.fits64?

/-- The steps of the indexes after a name, each in brackets. -/
def indexes? : List (List Char) → Option (List Step)
  | [] => some []
  | piece :: rest =>
    if piece.getLast? == some ']' then do
      return .index (← index? piece.dropLast) :: (← indexes? rest)
    else none

/-- The steps of what stands between two dots: a name and indexes. -/
def part? (text : List Char) : Option (List Step) :=
  match Text.splitOn '[' text with
  | name :: indexes =>
    if !name.isEmpty && name.all isWayChar then
      (indexes? indexes).map (.key (String.ofList name) :: ·)
    else none
  | [] => none

/-- The way that a key stands for, or the key itself as the only step. -/
def way (key : String) : List Step :=
  match (Text.splitOn '.' key.toList).mapM part? with
  | some parts => parts.flatten
  | none => [.key key]

/-! ## Slots -/

/-- Change the item at an index; the list is extended with nothing as far as the index asks for, at
its end or, for a negative index, at its start. -/
def inSlot (change : Datum → Datum) (index : Int) (items : List Datum) : List Datum :=
  match index with
  | .ofNat i =>
    let grown := items ++ List.replicate (i + 1 - items.length) .nothing
    grown.modify i change
  | .negSucc i =>
    let grown := List.replicate (i + 1 - items.length) .nothing ++ items
    grown.modify (grown.length - (i + 1)) change

/-! ## Setting values -/

mutual

/-- Set the value of a key; what is no table gives way to one, and tables are merged. -/
def setKey (known : Datum) (key : String) : Datum → Datum
  | .table entries =>
    let table := known.entries?.getD []
    let inner := (table.get? (Text.lower key)).getD (.table [])
    .table (table.put (Text.lower key) (setEntries inner entries))
  | value => .table ((known.entries?.getD []).put (Text.lower key) value)

/-- Set the values of entries. -/
def setEntries (known : Datum) : List (String × Datum) → Datum
  | [] => known
  | (key, value) :: rest => setEntries (setKey known key value) rest

end

/-- Set the value at the end of a way. -/
def setAt (value : Datum) : List Step → Datum → Datum
  | [], _ => value
  | [.key name], known => setKey known name value
  | .key name :: rest, known =>
    let table := known.entries?.getD []
    let inner := (table.get? (Text.lower name)).getD .nothing
    .table (table.put (Text.lower name) (setAt value rest inner))
  | .index i :: rest, known => .list (inSlot (setAt value rest) i (known.items?.getD []))

/-- Add the entries of a layer; each key stands for a way. -/
def merge (known : Datum) (layer : Datum.Table) : Datum :=
  layer.foldl (fun known entry => setAt entry.2 (way entry.1) known) known

end DesignTokens.Configuration
