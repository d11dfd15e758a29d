import DesignTokens.Toml.Basic

/-!
# DesignTokens.Toml.Definition — defining tables piece by piece

The table of a TOML text is defined by headers and by keys with dots. What is defined once cannot be
defined again, but a table may be extended in some ways; which, depends on how it came to be.

1. **Drafts** (`Toml.Draft`): values and tables that may still be extended.
2. **Definitions**: `Draft.define` for a key, `Draft.openTable` and `Draft.openItem` for a header.
-/

namespace DesignTokens.Toml

/-- How a table came to be: by its own header, by the header of a table in it, or by a key with
dots. -/
inductive Origin where
  | header
  | implied
  | dotted
deriving Repr, DecidableEq, Inhabited

/-- A value, a table, or an array of tables, that may still be extended; of an array of tables the
last one is extended. -/
inductive Draft where
  | closed (value : Toml)
  | table (origin : Origin) (entries : List (String × Draft))
  | tables (before : List (List (String × Draft))) (last : List (String × Draft))
deriving Repr, Inhabited

namespace Draft

abbrev Entries := List (String × Draft)

/-- Add an entry, in place of an earlier one with the key. -/
def put : Entries → String → Draft → Entries
  | [], key, draft => [(key, draft)]
  | (known, old) :: rest, key, draft =>
    if known = key then (known, draft) :: rest else (known, old) :: put rest key draft

/-! ## Finished values -/

mutual

/-- The value that a draft describes. -/
def finish : Draft → Toml
  | .closed value => value
  | .table _ entries => .table (finishEntries entries)
  | .tables before last => .array (finishTables before ++ [.table (finishEntries last)])

def finishEntries : List (String × Draft) → List (String × Toml)
  | [] => []
  | (key, draft) :: rest => (key, finish draft) :: finishEntries rest

def finishTables : List (List (String × Draft)) → List Toml
  | [] => []
  | entries :: rest => .table (finishEntries entries) :: finishTables rest

end

/-! ## Definitions -/

/-- Whether a key with dots may go on in a table; the last table on its way has to be one that such
keys made. -/
def mayExtend (origin : Origin) (isLast : Bool) : Bool :=
  match origin with
  | .header => false
  | .implied => !isLast
  | .dotted => true

/-- Define the value of a key with dots. -/
def define : (keys : List String) → Toml → Entries → Option Entries
  | [], _, _ => none
  | [key], value, entries =>
    if (entries.lookup key).isSome then none else some (put entries key (.closed value))
  | key :: next :: rest, value, entries =>
    match entries.lookup key with
    | none =>
      (define (next :: rest) value []).map fun inner => put entries key (.table .dotted inner)
    | some (.table origin inner) =>
      if mayExtend origin rest.isEmpty then
        (define (next :: rest) value inner).map fun inner => put entries key (.table origin inner)
      else none
    -- Keys with dots pass through the last table of an array, but define nothing in it.
    | some (.tables before last) =>
      if rest.isEmpty then none
      else
        (define (next :: rest) value last).map fun last => put entries key (.tables before last)
    | some (.closed _) => none

/-- Change the table at the end of a way, which makes the tables that are missing on it. -/
def alter (change : Entries → Option Entries) : (way : List String) → Entries → Option Entries
  | [], entries => change entries
  | key :: rest, entries =>
    match entries.lookup key with
    | none => (alter change rest []).map fun inner => put entries key (.table .implied inner)
    | some (.table origin inner) =>
      (alter change rest inner).map fun inner => put entries key (.table origin inner)
    | some (.tables before last) =>
      (alter change rest last).map fun last => put entries key (.tables before last)
    | some (.closed _) => none

/-- Define a table by its header; it may have been implied before. -/
def openTable (key : String) (entries : Entries) : Option Entries :=
  match entries.lookup key with
  | none => some (put entries key (.table .header []))
  | some (.table .implied inner) => some (put entries key (.table .header inner))
  | some _ => none

/-- Begin the next table of an array of tables by its header. -/
def openItem (key : String) (entries : Entries) : Option Entries :=
  match entries.lookup key with
  | none => some (put entries key (.tables [] []))
  | some (.tables before last) => some (put entries key (.tables (before ++ [last]) []))
  | some _ => none

end Draft

end DesignTokens.Toml
