import DesignTokens.Configuration.Files
import DesignTokens.Configuration.Format
import DesignTokens.Configuration.OfDatum
import DesignTokens.Configuration.Way
import DesignTokens.Toml.Printer

/-!
# DesignTokens.Configuration.Layers — a configuration from files and variables

Files and variables of the environment are layers of one table; what a later layer says replaces
what an earlier one says, and tables are merged.

1. **Variables** (`Configuration.variableEntry?`).
2. **Sources** (`Configuration.Sources`): which files are layers, and in which order.
3. **Loading** (`Configuration.load?`) and **saving** (`Configuration.text?`).
-/

namespace DesignTokens.Configuration

/-! ## Variables -/

/-- The value of a variable: a flag, a number, or a text. -/
def variableValue (content : String) : Datum :=
  let name := Text.lower content
  if name = "true" then .flag true
  else if name = "false" then .flag false
  else
    match (Numeral.whole? content.toList).bind Numeral.fits64? with
    -- A whole number that is too large for an integer is read as a decimal one.
    | some n => .int n
    | none =>
      match Extended.ofText? content.toList with
      | some x => .number x
      | none => .text content

/-- The parts of a text between pairs of underscores. -/
def splitUnderscores : List Char → List (List Char)
  | '_' :: '_' :: rest => [] :: splitUnderscores rest
  | c :: rest =>
    match splitUnderscores rest with
    | part :: parts => (c :: part) :: parts
    | [] => [[c]]
  | [] => [[]]

/-- The entry of a variable that starts with the name of the configuration. -/
def variableEntry? (entry : String × String) : Option (String × Datum) :=
  match splitUnderscores (Text.lower entry.1).toList with
  | ['d', 't', 'i', 'f'] :: part :: parts =>
    some (String.intercalate "." ((part :: parts).map String.ofList), variableValue entry.2)
  | _ => none

/-! ## Sources -/

/-- The names of the files that are layers if they exist, in order. -/
def usualFiles : List String :=
  ["dtif.toml", ".dtif.toml", "config/dtif.toml"]

/-- What a configuration is loaded from: the files of a folder, the path of the user's file, and the
variables of the environment. -/
structure Sources where
  files : Files
  userFile : String
  environment : List (String × String)

namespace Sources

/-- The file at a path, or at the path with a known ending: its format and its text. A file with
another ending is not read. -/
def find? (sources : Sources) (path : String) : Option (Format × String) :=
  (sources.files.find? (Format.byEnding.map (·.1)) path).bind fun (ending, content) =>
    (Format.ofEnding? ending).map (·, content)

def userFile? (sources : Sources) : Option String :=
  (sources.files.locate? sources.userFile).bind fun place =>
    if (sources.files.lookup place).isSome || sources.files.hasFolder place then
      some sources.userFile
    else none

/-- The files that are layers, where one may be asked for by its path; `none` if it does not
exist. -/
def texts? (sources : Sources) (asked : Option String) : Option (List (Format × String)) :=
  let usual := (usualFiles ++ sources.userFile?.toList).filterMap sources.find?
  match asked with
  | none => some usual
  | some path => (sources.find? path).map fun file => usual ++ [file]

/-- The table of a file; a byte order mark at the start of its text is left out. -/
def read? (file : Format × String) : Option Datum.Table :=
  let content := match file.2.toList with
    | '\ufeff' :: rest => String.ofList rest
    | _ => file.2
  file.1.read? content

/-- The layers, the later ones on top. -/
def layers? (sources : Sources) (asked : Option String) : Option (List Datum.Table) := do
  let files ← (← sources.texts? asked).mapM read?
  pure (files ++ [sources.environment.filterMap variableEntry?])

end Sources

/-! ## Loading and saving -/

/-- Load a configuration. There is none if a file that is asked for does not exist, if a file is not
written in its format, or if a setting has a value of the wrong kind. -/
def load? (sources : Sources) (asked : Option String) : Option Configuration := do
  ofDatum? ((← sources.layers? asked).foldl merge (.table []))

/-- The text of a file to load the configuration from; `none` if it cannot be written. -/
def text? (c : Configuration) : Option String :=
  Toml.render? c.sections

/-- The configuration that is loaded from a single file with the given text. -/
def ofText? (content : String) : Option Configuration :=
  (Format.toml.read? content).bind fun layer => ofDatum? (merge (.table []) layer)

/-- Equality of configurations; the order of the context does not matter. -/
def same (x y : Configuration) : Bool :=
  x.toJson.same y.toJson

end DesignTokens.Configuration
