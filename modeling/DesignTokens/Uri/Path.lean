import DesignTokens.Text.Percent
import DesignTokens.Text.Split

/-!
# DesignTokens.Uri.Path — reading paths

A path is read segment by segment. Its text so far is kept as segments, of which the last one may
still be open: a path that ends in a slash ends in an empty segment.

1. **Schemes** (`Uri.Kind`): in some, a backslash counts as a slash.
2. **Breaks**: tabs and line ends belong to no URI, but a break in a path ends a drive letter.
3. **Drive letters**, which `file` paths start with and no path leaves.
4. **Segments** (`Uri.PathText.add`): dot segments are carried out.
5. **Paths** (`Uri.readPath`).
-/

namespace DesignTokens.Uri

/-! ## Schemes -/

/-- The rules a scheme follows. -/
inductive Kind where
  | file
  | special
  | other
deriving Repr, DecidableEq

def kindOf (scheme : String) : Kind :=
  if scheme = "file" then .file
  else if ["http", "https", "ws", "wss", "ftp"].contains scheme then .special
  else .other

/-- A slash, or a backslash where that counts as one. -/
def isSlash (kind : Kind) (c : Char) : Bool :=
  c == '/' || (kind != .other && c == '\\')

/-! ## Breaks -/

/-- A tab or a line end. -/
def isBreak (c : Char) : Bool :=
  c == '\t' || c == '\n' || c == '\r'

/-- A text without breaks. -/
def clean (text : List Char) : List Char :=
  text.filter (!isBreak ·)

/-- Printable ASCII other than the given characters. -/
def keepOutside (excluded : String) (c : Char) : Bool :=
  ' ' ≤ c && c < '\x7f' && !excluded.toList.contains c

def encodePath (text : List Char) : String :=
  String.ofList (Text.Percent.encode (keepOutside " \"<>\x60#?\x7b\x7d") text)

/-! ## Drive letters -/

def isDriveLetter : List Char → Bool
  | [letter, mark] => letter.isAlpha && (mark == ':' || mark == '|')
  | _ => false

def isNormalDriveLetter : List Char → Bool
  | [letter, mark] => letter.isAlpha && mark == ':'
  | _ => false

/-- Whether a text starts with a drive letter that nothing but the end of a segment follows; a
backslash counts as one in every scheme. -/
def startsWithDriveLetter : List Char → Bool
  | letter :: mark :: rest =>
    isDriveLetter [letter, mark] && (match rest with
      | [] => true
      | c :: _ => c == '/' || c == '\\' || c == '?' || c == '#')
  | _ => false

/-- What follows a normal drive letter and a break. -/
def afterDriveBreak? (segment : List Char) : Option (Char × List Char) :=
  match segment.dropWhile isBreak with
  | letter :: rest =>
    match rest.dropWhile isBreak with
    | ':' :: mark :: rest =>
      if letter.isAlpha && isBreak mark && !(clean rest).isEmpty then some (letter, clean rest)
      else none
    | _ => none
  | [] => none

/-! ## Segments -/

/-- The text of a path so far. -/
structure PathText where
  segments : List String
  /-- Whether a drive letter was found at the start of the path. -/
  atDrive : Bool := false
deriving Repr, DecidableEq, Inhabited

/-- A segment as it is compared with the dot segments: an encoded dot counts as a dot. -/
def plainDots : List Char → List Char
  | '%' :: '2' :: 'e' :: rest => '.' :: plainDots rest
  | '%' :: '2' :: 'E' :: rest => '.' :: plainDots rest
  | c :: rest => c :: plainDots rest
  | [] => []

namespace PathText

/-- Go on in the open segment. -/
def extend (p : PathText) (text : String) : PathText :=
  { p with segments := p.segments.dropLast ++ [p.segments.getLastD "" ++ text] }

/-- End the open segment. -/
def addSlash (p : PathText) : PathText :=
  { p with segments := p.segments ++ [""] }

/-- End the open segment, unless it is empty. -/
def endInSlash (p : PathText) : PathText :=
  if p.segments.getLast? = some "" then p else p.addSlash

/-- Empty the open segment; a drive letter of a `file` path stays. -/
def dropName (kind : Kind) (p : PathText) : PathText :=
  match p.segments.getLast? with
  | some last =>
    if kind = .file ∧ isNormalDriveLetter last.toList then p
    else { p with segments := p.segments.dropLast ++ [""] }
  | none => p

/-- Leave the last segment, which a slash ends; a drive letter is never left. -/
def goUp (kind : Kind) (p : PathText) : PathText :=
  match p.segments.reverse with
  | "" :: last :: _ =>
    if startsWithDriveLetter last.toList then p
    else dropName kind { p with segments := p.segments.dropLast }
  | _ => dropName kind p

/-- Add a segment to a path; `more` says that a slash follows it. -/
def addPlain (kind : Kind) (p : PathText) (segment : List Char) (more : Bool) : PathText :=
  let dots := plainDots segment
  if dots = ['.', '.'] then
    let up := p.goUp kind
    if more then up.endInSlash else up
  -- A path that ends in a dot segment ends in a slash.
  else if dots = ['.'] then p.endInSlash
  else
    let added : PathText :=
      if kind = .file ∧ p.segments = [""] ∧ isDriveLetter segment then
        ⟨[String.ofList (segment.take 1 ++ [':'])], true⟩
      else if p.segments.isEmpty ∧ segment.isEmpty then p
      else p.extend (encodePath segment)
    if more then added.addSlash else added

/-- Add what stands between two slashes. A drive letter that is the whole path so far is a segment
of its own, also where a break follows it. -/
def add (kind : Kind) (p : PathText) (segment : List Char) (more : Bool) : PathText :=
  match kind, p.segments with
  | .file, [""] =>
    match afterDriveBreak? segment with
    | some (letter, rest) =>
      let added : PathText := { p with segments := [String.ofList [letter, ':'], encodePath rest] }
      if more then added.addSlash else added
    | none => p.addPlain .file (clean segment) more
  | .file, [drive] =>
    if isNormalDriveLetter drive.toList ∧ !(clean segment).isEmpty then
      p.addSlash.addPlain .file (clean segment) more
    else p.addPlain .file (clean segment) more
  | _, _ => p.addPlain kind (clean segment) more

def addAll (kind : Kind) (p : PathText) : List (List Char) → PathText
  | [] => p
  | [last] => p.add kind last false
  | segment :: rest => addAll kind (p.add kind segment true) rest

/-- The empty segments at the start of a `file` path are dropped. -/
def trim (kind : Kind) (p : PathText) : PathText :=
  match kind with
  | .file =>
    match p.segments.dropWhile (·.isEmpty) with
    | [] => { p with segments := [""] }
    | rest => { p with segments := rest }
  | _ => p

end PathText

/-! ## Paths -/

/-- Read a text that continues a path. -/
def readPath (kind : Kind) (before : List String) (text : List Char) : PathText :=
  (PathText.addAll kind ⟨before, false⟩ (Text.splitWhere (isSlash kind) text)).trim kind

end DesignTokens.Uri
