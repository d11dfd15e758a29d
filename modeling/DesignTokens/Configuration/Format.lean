import DesignTokens.Ini
import DesignTokens.Json.Reader
import DesignTokens.Json5
import DesignTokens.Ron
import DesignTokens.Toml.Reader
import DesignTokens.Yaml.Reader

/-!
# DesignTokens.Configuration.Format — the formats of configuration files

The ending of a file's name says in which format it is written (`Format.ofEnding?`). In each
format a text stands for a table (`Format.read?`).
-/

namespace DesignTokens.Configuration

inductive Format where
  | toml
  | json
  | yaml
  | ini
  | ron
  | json5
deriving Repr, DecidableEq, Inhabited

namespace Format

def byEnding : List (String × Format) :=
  [("toml", .toml), ("json", .json), ("yaml", .yaml), ("yml", .yaml), ("ini", .ini), ("ron", .ron),
    ("json5", .json5)]

def ofEnding? (ending : String) : Option Format :=
  byEnding.lookup ending

/-- The value of a JSON text that is not nested too deeply. -/
def readJson? (content : String) : Option Datum :=
  ((Json.parse? content).filter fun value => value.depth < 128).map Datum.ofJson

def read? (format : Format) (content : String) : Option Datum.Table :=
  match format with
  | .toml => (Toml.parse? content).map Datum.ofTomlEntries
  | .json => (readJson? content).bind Datum.entries?
  | .yaml => ((Yaml.document? content).bind Datum.ofYaml?).bind Datum.entries?
  | .ini => Ini.parse? content
  | .ron => (Ron.parse? content).bind Datum.entries?
  | .json5 => (Json5.parse? content).bind Datum.entries?

end Format

end DesignTokens.Configuration
