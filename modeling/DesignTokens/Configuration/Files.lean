import DesignTokens.Text.Split

/-!
# DesignTokens.Configuration.Files — the files of a folder

1. **Files** (`Configuration.Files`): texts by path, relative to the folder. A path is a list of
   names.
2. **Paths** are written with slashes, and may go up and stay in place (`Files.locate?`).
3. **Names** without an ending (`Files.find?`): if there is no file of a name, the known endings are
   added to it.
-/

namespace DesignTokens.Configuration

/-- The files of a folder and the folders in it, with their texts. -/
abbrev Files := List (List String × String)

namespace Files

/-! ## Paths -/

/-- The names of a written path. -/
def pieces (path : String) : List String :=
  (Text.splitOn '/' path.toList).map String.ofList

def hasFolder (files : Files) (path : List String) : Bool :=
  path.isEmpty || files.any fun (known, _) => known.length != path.length && path.isPrefixOf known

/-- Follow the names of a path from a folder; every name but the last has to lead to a folder. -/
def follow? (files : Files) (place : List String) : List String → Option (List String)
  | [] => some place
  | name :: rest =>
    if !files.hasFolder place then none
    else if name = "" || name = "." then follow? files place rest
    -- What lies above the folder is not known.
    else if name = ".." then if place.isEmpty then none else follow? files place.dropLast rest
    else follow? files (place ++ [name]) rest

/-- The place that a written path leads to; a path from the root of all folders leads nowhere. -/
def locate? (files : Files) (path : String) : Option (List String) :=
  if path.startsWith "/" then none else files.follow? [] (pieces path)

def placeOf (path : String) : List String :=
  (pieces path).foldl (fun place name =>
    if name = "" || name = "." then place
    else if name = ".." then place.dropLast
    else place ++ [name]) []

/-- The files of a table of written paths. -/
def ofTable (table : List (String × String)) : Files :=
  table.map fun (path, content) => (placeOf path, content)

def read? (files : Files) (path : String) : Option String :=
  (files.locate? path).bind fun place => files.lookup place

/-! ## Endings -/

/-- The ending of a name, after its last dot; a dot at the start of a name does not count. -/
def endingOf? (name : List Char) : Option String :=
  match name.reverse.dropWhile (· != '.') with
  | _ :: _ :: _ => some (String.ofList (name.reverse.takeWhile (· != '.')).reverse)
  | _ => none

/-- A written path without the slashes and dots at its end that stay in place. -/
def trimEnd (path : String) : List String :=
  ((pieces path).reverse.dropWhile fun name => name = "" || name = ".").reverse

/-- A written path with an ending added to its last name. -/
def withEnding? (path ending : String) : Option String :=
  match (trimEnd path).getLast? with
  | some name =>
    if name = ".." then none
    else some (String.intercalate "/" ((trimEnd path).dropLast ++ [name ++ "." ++ ending]))
  | none => none

def ending? (path : String) : Option String :=
  (trimEnd path).getLast?.bind fun name => if name = ".." then none else endingOf? name.toList

/-- The ending and the text of the file at a written path. If there is none, the given endings are
tried in turn. -/
def find? (files : Files) (endings : List String) (path : String) : Option (String × String) :=
  match files.read? path with
  | some content => (ending? path).map (·, content)
  | none => endings.findSome? fun ending =>
    (withEnding? path ending).bind fun path => (files.read? path).map (ending, ·)

end Files

end DesignTokens.Configuration
