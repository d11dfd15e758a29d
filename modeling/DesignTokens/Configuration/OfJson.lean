import DesignTokens.Configuration.Basic

/-!
# DesignTokens.Configuration.OfJson — a configuration from JSON

A section is an object of its settings, or an array of them in order. Settings that are missing have
their defaults, and members that are no settings are ignored; a setting of the wrong kind makes the
configuration invalid.
-/

namespace DesignTokens.Configuration

/-- The settings of the given names in a section: the members of an object, or the items of an array
that has no more items than there are names. -/
def settingsOf? (names : List String) : Json → Option (List (Option Json))
  | .object members => some (names.map (Json.Members.get? members))
  | .array items =>
    if items.length ≤ names.length then some (names.mapIdx fun i _ => items[i]?) else none
  | _ => none

/-- A setting, read if it is present. -/
def settingOr? {α : Type} (default : α) (read : Json → Option α) : Option Json → Option α
  | some value => read value
  | none => some default

def flag? : Json → Option Bool
  | .bool value => some value
  | _ => none

def resolver? (section? : Json) : Option Resolution.Settings := do
  let defaults : Resolution.Settings := {}
  match ← settingsOf? ["max_depth", "allow_network_references", "context"] section? with
  | [maxDepth, allowNetwork, context] =>
    pure {
      maxDepth := ← settingOr? defaults.maxDepth Json.nat? maxDepth
      allowNetwork := ← settingOr? defaults.allowNetwork flag? allowNetwork
      context := ← settingOr? defaults.context Json.members? context }
  | _ => none

/-- A section that has one limit. -/
def limit? (name : String) (default : Nat) (section? : Json) : Option Nat := do
  match ← settingsOf? [name] section? with
  | [limit] => settingOr? default Json.nat? limit
  | _ => none

def ofJson? (value : Json) : Option Configuration := do
  let defaults : Configuration := {}
  match ← settingsOf? ["resolver", "normalizer", "crawl"] value with
  | [resolver, normalizer, crawl] =>
    pure {
      resolver := ← settingOr? defaults.resolver resolver? resolver
      maxNesting :=
        ← settingOr? defaults.maxNesting (limit? "max_nesting" defaults.maxNesting) normalizer
      maxDocuments :=
        ← settingOr? defaults.maxDocuments (limit? "max_documents" defaults.maxDocuments) crawl }
  | _ => none

end DesignTokens.Configuration
