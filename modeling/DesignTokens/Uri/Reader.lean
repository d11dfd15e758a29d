import DesignTokens.Uri.Basic
import DesignTokens.Uri.Host
import DesignTokens.Uri.Path

/-!
# DesignTokens.Uri.Reader — reading URIs and references

The rules are those of the URL standard for `file`, the other special schemes, and all other
schemes.

1. **Encoding**: which characters stay as they are in each part.
2. **Splitting**: the scheme, the slashes after it, and the parts of a reference.
3. **Authorities**: user information, host and `portNumber`, which is left out if it is the usual
   one of the scheme.
4. **Reading** (`Uri.parse`) and **resolving a reference** against a base (`Uri.join`).
-/

namespace DesignTokens.Uri

/-! ## Encoding -/

def encodeFragment (text : List Char) : String :=
  String.ofList (Text.Percent.encode (keepOutside " \"<>\x60") (clean text))

def encodeCredentials (text : List Char) : String :=
  String.ofList (Text.Percent.encode (keepOutside " \"<>\x60#?\x7b\x7d/:;=@[\\]^|") text)

def encodeQuery (special : Bool) (text : List Char) : String :=
  let excluded := if special then " \"<>#\x27" else " \"<>#"
  String.ofList (Text.Percent.encode (keepOutside excluded) (clean text))

def encodeRootless (text : List Char) : String :=
  String.ofList (Text.Percent.encode (keepOutside "") (clean text))

/-- The `portNumber` that a scheme uses if none is given. -/
def defaultPort? (scheme : String) : Option Nat :=
  if scheme = "http" ∨ scheme = "ws" then some 80
  else if scheme = "https" ∨ scheme = "wss" then some 443
  else if scheme = "ftp" then some 21
  else none

/-! ## Splitting -/

/-- The text before the first occurrence of a character, and the text after it. -/
def cut (mark : Char) (text : List Char) : List Char × Option (List Char) :=
  match text.dropWhile (· != mark) with
  | [] => (text, none)
  | _ :: after => (text.takeWhile (· != mark), some after)

/-- A reference without its scheme: the part before the query, the query and the fragment. -/
structure Parts where
  body : List Char
  query : Option (List Char)
  fragment : Option (List Char)

def Parts.ofText (text : List Char) : Parts :=
  let (beforeFragment, fragment) := cut '#' text
  let (body, query) := cut '?' beforeFragment
  { body := body.dropWhile isBreak, query, fragment }

/-- The scheme at the start of a text, in lower case, and what follows its colon. -/
def splitScheme? (text : List Char) : Option (String × List Char) :=
  let isSchemeChar (c : Char) := c.isAlphanum || c == '+' || c == '-' || c == '.' || isBreak c
  match clean (text.takeWhile isSchemeChar), text.dropWhile isSchemeChar with
  | first :: more, ':' :: rest =>
    if first.isAlpha then some (String.ofList ((first :: more).map Char.toLower), rest) else none
  | _, _ => none

/-- A text without control characters and blanks at both ends. -/
def trimEnds (input : String) : List Char :=
  let isEdge (c : Char) := c ≤ ' '
  ((input.toList.dropWhile isEdge).reverse.dropWhile isEdge).reverse

/-- What follows a slash of any kind, which breaks may come before. -/
def afterSlash? (text : List Char) : Option (List Char) :=
  match text.dropWhile isBreak with
  | c :: rest => if c == '/' || c == '\\' then some (rest.dropWhile isBreak) else none
  | [] => none

/-- What follows two slashes of any kind. -/
def afterSlashes? (text : List Char) : Option (List Char) :=
  (afterSlash? text).bind afterSlash?

/-- What follows two forward slashes. -/
def afterForwardSlashes? (text : List Char) : Option (List Char) :=
  match clean text with
  | '/' :: '/' :: _ => afterSlashes? text
  | _ => none

/-- What follows all slashes of any kind at the start of a text. -/
def dropSlashes (text : List Char) : List Char :=
  text.dropWhile fun c => c == '/' || c == '\\' || isBreak c

/-! ## Authorities -/

/-- The user information in normal form: an empty password leaves no colon behind. -/
def readCredentials (text : List Char) : String :=
  match cut ':' text with
  | (user, some (c :: password)) =>
    encodeCredentials user ++ ":" ++ encodeCredentials (c :: password)
  | (user, _) => encodeCredentials user

/-- The text after the last `@`, and the text before it. -/
def splitCredentials (text : List Char) : Option (List Char) × List Char :=
  match cut '@' text.reverse with
  | (host, some user) => (some user.reverse, host.reverse)
  | (_, none) => (none, text)

/-- The host text and what follows it, from the colon of a `portNumber` on. A colon in brackets
belongs to the host. -/
def splitPort (inBrackets : Bool) : List Char → List Char × List Char
  | [] => ([], [])
  | c :: rest =>
    if c = ':' ∧ !inBrackets then ([], c :: rest)
    else
      let inside := if c = '[' then true else if c = ']' then false else inBrackets
      let (host, digits) := splitPort inside rest
      (c :: host, digits)

/-- The `portNumber` after its colon, and what follows it from a backslash on; the usual one of the
scheme counts as none. -/
def readPort (scheme : String) (text : List Char) : Except Fault (Option Nat × List Char) :=
  let digits := text.takeWhile Char.isDigit
  let rest := text.dropWhile Char.isDigit
  let number := Numeral.decimal digits
  if 65535 < number || rest.head?.any (· != '\\') then .error .invalidPort
  else if digits.isEmpty || defaultPort? scheme = some number then .ok (none, rest)
  else .ok (some number, rest)

/-- Read the authority of a URI that is not a `file` URI, and what a backslash splits off it;
`followed` says that more follows it. -/
def readAuthority (scheme : String) (kind : Kind) (text : List Char) (followed : Bool) :
    Except Fault (Authority × List Char) := do
  let (credentials, hostPort) := splitCredentials text
  let (hostText, service) := splitPort false hostPort
  -- Nothing before the at sign and nothing after it.
  if credentials == some [] && hostPort.isEmpty && followed then throw .emptyHost
  if kind = .special ∧ hostText.isEmpty then throw .emptyHost
  let host ← if kind = .other then Host.ofOther hostText else Host.ofSpecial hostText
  if host.isEmpty && !service.isEmpty then throw .emptyHost
  -- The host is looked at first, so that a fault in it hides one in what follows.
  let (portNumber, rest) ← readPort scheme (service.drop 1)
  let credentials := readCredentials (credentials.getD [])
  if host.isEmpty && !credentials.isEmpty then throw .emptyHost
  return ({ credentials, host, portNumber }, rest)

/-- The authority text and what follows it. -/
def splitAuthority (kind : Kind) (text : List Char) : List Char × List Char :=
  (clean (text.takeWhile (!isSlash kind ·)), text.dropWhile (!isSlash kind ·))

/-- Complete a URI with the query and the fragment of a reference. -/
def complete (scheme : String) (authority : Option Authority) (path : Path) (parts : Parts) : Uri :=
  { scheme, authority, path
    query := parts.query.map (encodeQuery (kindOf scheme != .other))
    fragment := parts.fragment.map encodeFragment }

/-- Read what follows the two slashes of a URI that is not a `file` URI. -/
def readAfterSlashes (scheme : String) (kind : Kind) (body : List Char) (parts : Parts) :
    Except Fault Uri := do
  let (authorityText, pathText) := splitAuthority kind body
  let followed := !pathText.isEmpty || parts.query.isSome || parts.fragment.isSome
  let (authority, splitOff) ← readAuthority scheme kind authorityText followed
  -- What a backslash splits off belongs to the first segment.
  let segments :=
    if !splitOff.isEmpty then (readPath kind [""] (splitOff ++ pathText)).segments
    else match pathText with
      | [] => if kind = .other then [] else [""]
      | _ :: rest => (readPath kind [""] rest).segments
  return complete scheme (some authority) (.rooted segments) parts

/-! ## `file` URIs -/

/-- The host of a `file` URI; `localhost` counts as none. -/
def readFileHost (text : List Char) : Except Fault String :=
  if text.isEmpty then .ok ""
  else (Host.ofSpecial text).map fun host => if host = "localhost" then "" else host

def fileUri (host : String) (path : PathText) (parts : Parts) : Uri :=
  complete "file" (some ⟨"", host, none⟩) (.rooted path.segments) parts

def hostOf (u : Uri) : String :=
  (u.authority.map (·.host)).getD ""

def segmentsOf (u : Uri) : List String :=
  match u.path with
  | .rooted segments => segments
  | .rootless _ => []

/-- The drive letter that a path starts with. -/
def driveOf (segments : List String) : List String :=
  (segments.take 1).filter fun first => isNormalDriveLetter first.toList

/-- Read what follows the two slashes of a `file` URI. -/
def readFileAfterSlashes (body : List Char) (parts : Parts) : Except Fault Uri :=
  let (hostText, pathText) := splitAuthority .file body
  -- What looks like a host may be the drive of a path.
  if isDriveLetter hostText then .ok (fileUri "" (readPath .file [""] body) parts)
  else (readFileHost hostText).map fun host =>
    if host.isEmpty then fileUri "" (readPath .file [""] pathText) parts
    else
      let path := readPath .file [""] (pathText.drop 1)
      -- A drive belongs to no host.
      fileUri (if path.atDrive then "" else host) path parts

/-- A path from the root of the base's host or drive; `body` starts with its slash. -/
def readFileFromRoot (base : Option Uri) (body : List Char) (parts : Parts) : Uri :=
  match base with
  | none => fileUri "" (readPath .file [] body) parts
  | some base =>
    if startsWithDriveLetter (clean (body.drop 1)) then fileUri "" (readPath .file [] body) parts
    else
      let drive := driveOf (segmentsOf base)
      fileUri (if drive.isEmpty then hostOf base else "") (readPath .file drive body) parts

/-- A path relative to the base's path. -/
def readFileRelative (base : Option Uri) (parts : Parts) : Uri :=
  match base with
  | none => fileUri "" (readPath .file [""] parts.body) parts
  | some base =>
    match parts.body, parts.query with
    | [], none => { base with fragment := parts.fragment.map encodeFragment }
    | [], some _ => complete base.scheme base.authority base.path parts
    | body, _ =>
      if startsWithDriveLetter (clean body) then fileUri "" (readPath .file [""] body) parts
      else
        let before := PathText.dropName .file ⟨segmentsOf base, false⟩
        fileUri (hostOf base) (readPath .file before.segments body) parts

/-- Read what follows the scheme of a `file` URI, or a reference whose base is one. -/
def readFile (base : Option Uri) (text : List Char) : Except Fault Uri :=
  let parts := Parts.ofText text
  match afterSlash? parts.body, afterSlashes? parts.body with
  | _, some rest => readFileAfterSlashes rest parts
  | some _, none => .ok (readFileFromRoot base parts.body parts)
  | none, none => .ok (readFileRelative base parts)

/-! ## References -/

/-- Read a reference without a scheme against a base that is not a `file` URI. -/
def readRelative (base : Uri) (text : List Char) : Except Fault Uri :=
  let kind := kindOf base.scheme
  let parts := Parts.ofText text
  match afterSlash? parts.body, afterSlashes? parts.body with
  | _, some _ =>
    -- The reference names a host of its own.
    let body := (afterForwardSlashes? parts.body).getD (dropSlashes parts.body)
    readAfterSlashes base.scheme kind body parts
  | some rest, none =>
    .ok (complete base.scheme base.authority (.rooted (readPath kind [""] rest).segments) parts)
  | none, none =>
    match parts.body, parts.query with
    | [], none => .ok { base with fragment := parts.fragment.map encodeFragment }
    | [], some _ => .ok (complete base.scheme base.authority base.path parts)
    | body, _ =>
      let before := PathText.dropName kind ⟨segmentsOf base, false⟩
      let before := if before.segments.isEmpty then [""] else before.segments
      .ok (complete base.scheme base.authority (.rooted (readPath kind before body).segments) parts)

/-- Read what follows a scheme. -/
def readAbsolute (base : Option Uri) (scheme : String) (text : List Char) : Except Fault Uri :=
  let parts := Parts.ofText text
  match kindOf scheme with
  | .file => readFile (base.filter (·.scheme = "file")) text
  | .special =>
    match base.filter (·.scheme = scheme), afterSlashes? parts.body with
    -- Without a host, a reference to the same scheme is a relative one.
    | some base, none => readRelative base text
    | _, _ => readAfterSlashes scheme .special (dropSlashes parts.body) parts
  | .other =>
    match afterForwardSlashes? parts.body, parts.body with
    | some rest, _ => readAfterSlashes scheme .other rest parts
    | none, '/' :: rest =>
      .ok (complete scheme none (.rooted (readPath .other [""] rest).segments) parts)
    | none, body => .ok (complete scheme none (.rootless (encodeRootless body)) parts)

/-- Read a URI, or a reference against a base. -/
def read (base : Option Uri) (input : String) : Except Fault Uri :=
  let text := trimEnds input
  match splitScheme? text, base with
  | some (scheme, rest), _ => readAbsolute base scheme rest
  | none, none => .error .relativeWithoutBase
  | none, some base =>
    match text with
    -- A fragment goes with every base, also with one that is no base for paths.
    | '#' :: rest => .ok { base with fragment := some (encodeFragment rest) }
    | _ =>
      if !base.canAnchor then .error .rootlessBase
      else if base.scheme = "file" then readFile (some base) text
      else readRelative base text

def parse (input : String) : Except Fault Uri :=
  read none input

/-- Resolve a reference against a base. -/
def join (base : Uri) (reference : String) : Except Fault Uri :=
  read (some base) reference

/-- What is said of a text that is no document URI. -/
def invalidMessage (input : String) (fault : Fault) : String :=
  s!"Invalid document URI '{input}': {fault.message}"

end DesignTokens.Uri
