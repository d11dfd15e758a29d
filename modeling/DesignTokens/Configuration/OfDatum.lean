import DesignTokens.Configuration.Basic
import DesignTokens.Datum
import DesignTokens.Text.LowerCase

/-!
# DesignTokens.Configuration.OfDatum — a configuration from merged layers

Settings are read leniently: texts and numbers of other kinds do, as far as they have a plain
meaning.

1. **Settings**: limits (`limitOf?`), flags (`flagOf?`) and the context (`contextOf?`).
2. **Sections** (`setting?`): a table of settings, or a list of them in order.
3. **Configurations** (`Configuration.ofDatum?`).
-/

namespace DesignTokens.Configuration

/-! ## Settings -/

/-- A limit that is given as a text. -/
def limitOfText? (content : String) : Option Nat :=
  let name := Text.lower content
  if name = "true" || name = "on" || name = "yes" then some 1
  else if name = "false" || name = "off" || name = "no" then some 0
  else
    let digits := match content.toList with
      | '+' :: rest => rest
      | chars => chars
    (Numeral.value? 10 digits).filter (· < Nat.pow 2 64)

def limitOf? : Datum → Option Nat
  | .int (.ofNat n) => some n
  | .flag value => some (if value then 1 else 0)
  | .number x => some x.toNat64
  | .text content => limitOfText? content
  | _ => none

/-- A flag that is given as a text. -/
def flagOfText? (content : String) : Option Bool :=
  let name := Text.lower content
  if name = "1" || name = "true" || name = "on" || name = "yes" then some true
  else if name = "0" || name = "false" || name = "off" || name = "no" then some false
  else none

def flagOf? : Datum → Option Bool
  | .flag value => some value
  | .int n => some (n != 0)
  | .number (.finite x) => some (!x.isZero)
  | .number _ => some true
  | .text content => flagOfText? content
  | _ => none

mutual

/-- A value of the context; a number that is not finite is null. -/
def contextValue : Datum → Json
  | .nothing => .null
  | .flag value => .bool value
  | .int n => .int n
  | .number (.finite x) => .double x
  | .number _ => .null
  | .text content => .string content
  | .list items => .array (contextItems items)
  | .table entries => .object (contextMembers entries)

def contextItems : List Datum → List Json
  | [] => []
  | x :: rest => contextValue x :: contextItems rest

def contextMembers : List (String × Datum) → List (String × Json)
  | [] => []
  | (key, x) :: rest => (key, contextValue x) :: contextMembers rest

end

/-- The context; nothing is an empty one. -/
def contextOf? : Datum → Option Json.Members
  | .nothing => some []
  | .table entries => some (contextMembers entries)
  | _ => none

/-! ## Sections -/

/-- A setting of a section, which is a table of its settings or a list of them in order. -/
def setting? (names : List String) (name : String) : Datum → Option (Option Datum)
  | .table entries => some (Datum.Table.get? entries name)
  | .list items => some ((names.idxOf? name).bind (items[·]?))
  | _ => none

/-- A setting of a section of the table, read if it is present. -/
def readSetting? {α : Type} (table : Datum.Table) (sectionName : String) (names : List String)
    (name : String) (default : α) (read : Datum → Option α) : Option α :=
  match table.get? sectionName with
  | none => some default
  | some content => (setting? names name content).bind fun value? =>
    match value? with
    | some value => read value
    | none => some default

/-! ## Configurations -/

/-- The configuration that the merged layers describe. -/
def ofDatum? (merged : Datum) : Option Configuration := do
  let table ← merged.entries?
  let defaults : Configuration := {}
  let names := ["max_depth", "allow_network_references", "context"]
  let resolver : Resolution.Settings := {
    maxDepth :=
      ← readSetting? table "resolver" names "max_depth" defaults.resolver.maxDepth limitOf?
    allowNetwork :=
      ← readSetting? table "resolver" names "allow_network_references"
        defaults.resolver.allowNetwork flagOf?
    context :=
      ← readSetting? table "resolver" names "context" defaults.resolver.context contextOf? }
  pure {
    resolver
    maxNesting :=
      ← readSetting? table "normalizer" ["max_nesting"] "max_nesting" defaults.maxNesting limitOf?
    maxDocuments :=
      ← readSetting? table "crawl" ["max_documents"] "max_documents" defaults.maxDocuments
        limitOf? }

end DesignTokens.Configuration
