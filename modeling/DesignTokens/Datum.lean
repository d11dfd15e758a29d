import DesignTokens.Json.Basic
import DesignTokens.Toml.Basic
import DesignTokens.Yaml.Basic

/-!
# DesignTokens.Datum — what the formats of configuration files have in common

1. **Data** (`Datum`): nothing, flags, numbers, texts, lists and tables.
2. **Tables** (`Datum.Table`): lookup by key, and adding an entry.
3. **Views** of other values as data: `Datum.ofToml`, `Datum.ofJson`, `Datum.ofYaml?`.
-/

namespace DesignTokens

/-- A value of a configuration file. -/
inductive Datum where
  | nothing
  | flag (value : Bool)
  | int (value : Int)
  | number (value : Extended)
  | text (value : String)
  | list (items : List Datum)
  | table (entries : List (String × Datum))
deriving Repr, Inhabited

namespace Datum

/-! ## Tables -/

abbrev Table := List (String × Datum)

def Table.get? (table : Table) (key : String) : Option Datum :=
  List.lookup key table

/-- Add an entry, in place of an earlier one with the key. -/
def Table.put : Table → String → Datum → Table
  | [], key, value => [(key, value)]
  | (known, old) :: rest, key, value =>
    if known = key then (known, value) :: rest else (known, old) :: Table.put rest key value

/-- The table of entries, of which later ones replace earlier ones. -/
def Table.ofList (entries : List (String × Datum)) : Table :=
  entries.foldl (fun table entry => table.put entry.1 entry.2) []

def entries? : Datum → Option Table
  | .table entries => some entries
  | _ => none

def items? : Datum → Option (List Datum)
  | .list items => some items
  | _ => none

/-! ## Views -/

mutual

/-- A TOML value; a date or a time is a text. -/
def ofToml : Toml → Datum
  | .text value => .text value
  | .int n => .int n
  | .float x => .number x
  | .bool value => .flag value
  | .moment content => .text content
  | .array items => .list (ofTomlItems items)
  | .table entries => .table (ofTomlEntries entries)

def ofTomlItems : List Toml → List Datum
  | [] => []
  | x :: rest => ofToml x :: ofTomlItems rest

def ofTomlEntries : List (String × Toml) → List (String × Datum)
  | [] => []
  | (key, x) :: rest => (key, ofToml x) :: ofTomlEntries rest

end

/-- An integer; one beyond 64 bits with a sign is a floating-point number. -/
def ofInt (n : Int) : Datum :=
  match Numeral.fits64? n with
  | some n => .int n
  | none => .number (Extended.ofInt n)

mutual

def ofJson : Json → Datum
  | .null => .nothing
  | .bool value => .flag value
  | .int n => ofInt n
  | .double x => .number (.finite x)
  | .string value => .text value
  | .array items => .list (ofJsonItems items)
  | .object members => .table (ofJsonMembers members)

def ofJsonItems : List Json → List Datum
  | [] => []
  | x :: rest => ofJson x :: ofJsonItems rest

def ofJsonMembers : List (String × Json) → List (String × Datum)
  | [] => []
  | (key, x) :: rest => (key, ofJson x) :: ofJsonMembers rest

end

/-- The key that a YAML value stands for. -/
def keyOfYaml? : Yaml → Option String
  | .flag value => some (if value then "true" else "false")
  | .int n => some (toString n)
  | .decimal content => some content
  | .text value => some value
  | _ => none

mutual

/-- A YAML value; `none` if a number in it is not finite, or if a key in it is no scalar. -/
def ofYaml? : Yaml → Option Datum
  | .nothing => some .nothing
  | .unreadable => some .nothing
  | .flag value => some (.flag value)
  | .int n => some (.int n)
  | .decimal content => (Extended.ofText? content.toList).map .number
  | .text value => some (.text value)
  | .list items => (ofYamlItems? items).map .list
  | .table entries => (ofYamlEntries? entries).map fun entries => .table (Table.ofList entries)

def ofYamlItems? : List Yaml → Option (List Datum)
  | [] => some []
  | x :: rest => do some ((← ofYaml? x) :: (← ofYamlItems? rest))

def ofYamlEntries? : List (Yaml × Yaml) → Option (List (String × Datum))
  | [] => some []
  | (key, x) :: rest => do
    some ((← keyOfYaml? key, ← ofYaml? x) :: (← ofYamlEntries? rest))

end

end Datum

end DesignTokens
