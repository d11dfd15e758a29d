import DesignTokens.Number.Extended

/-!
# DesignTokens.Toml.Basic — TOML values

1. **Values** (`Toml`): a date or a time is kept as its text.
2. **Tables** (`Toml.Table`): lookup by key, and adding an entry.
-/

namespace DesignTokens

inductive Toml where
  | text (value : String)
  | int (value : Int)
  | float (value : Extended)
  | bool (value : Bool)
  | moment (text : String)
  | array (items : List Toml)
  | table (entries : List (String × Toml))
deriving Repr, Inhabited

namespace Toml

abbrev Table := List (String × Toml)

def Table.get? (table : Table) (key : String) : Option Toml :=
  List.lookup key table

/-- Add an entry, in place of an earlier one with the key. -/
def Table.put : Table → String → Toml → Table
  | [], key, value => [(key, value)]
  | (known, old) :: rest, key, value =>
    if known = key then (known, value) :: rest else (known, old) :: Table.put rest key value

def entries? : Toml → Option Table
  | .table entries => some entries
  | _ => none

end Toml

end DesignTokens
