/-!
# DesignTokens.Uri.Basic — URIs

A URI is kept in parts, each already in its normal form.

1. **Parts**: scheme, authority, path, query and fragment. A rooted path is a list of segments; a
   rootless one (`urn:x`) is a text that cannot serve as a base.
2. **Text** (`Uri.text`).
3. **Questions the library asks**: `Uri.isNetwork`, `Uri.canAnchor`, `Uri.withoutFragment`.
-/

namespace DesignTokens

/-- User information, host and `portNumber`. -/
structure Uri.Authority where
  credentials : String
  host : String
  portNumber : Option Nat
deriving Repr, DecidableEq, Inhabited, Hashable

inductive Uri.Path where
  /-- A path of segments, each with a slash before it. -/
  | rooted (segments : List String)
  /-- A path that does not start with a slash. -/
  | rootless (text : String)
deriving Repr, DecidableEq, Inhabited, Hashable

/-- A URI in parts. -/
structure Uri where
  scheme : String
  authority : Option Uri.Authority
  path : Uri.Path
  query : Option String
  fragment : Option String
deriving Repr, DecidableEq, Inhabited, Hashable

namespace Uri

/-! ## Text -/

def Authority.text (a : Authority) : String :=
  let user := if a.credentials.isEmpty then "" else a.credentials ++ "@"
  let service := match a.portNumber with
    | some number => ":" ++ toString number
    | none => ""
  user ++ a.host ++ service

def Path.text : Path → String
  | .rooted segments => String.join (segments.map ("/" ++ ·))
  | .rootless text => text

/-- The text of a URI. Without an authority, a path that starts with an empty segment gets a dot
segment in front, so that its slashes are not taken for an authority. -/
def text (u : Uri) : String :=
  let authority := match u.authority, u.path with
    | some a, _ => "//" ++ a.text
    | none, .rooted ("" :: _ :: _) => "/."
    | none, _ => ""
  let query := match u.query with
    | some q => "?" ++ q
    | none => ""
  let fragment := match u.fragment with
    | some f => "#" ++ f
    | none => ""
  u.scheme ++ ":" ++ authority ++ u.path.text ++ query ++ fragment

instance : ToString Uri := ⟨text⟩

/-! ## Questions -/

/-- Whether relative references can be resolved against the URI. -/
def canAnchor (u : Uri) : Bool :=
  match u.authority, u.path with
  | none, .rootless _ => false
  | _, _ => true

/-- Whether the document at the URI is fetched over the network. -/
def isNetwork (u : Uri) : Bool :=
  u.scheme == "http" || u.scheme == "https"

/-- The URI without its fragment. A rootless path that is then the end of the text loses its
trailing spaces. -/
def withoutFragment (u : Uri) : Uri :=
  let path := match u.path, u.query with
    | .rootless text, none =>
      .rootless (String.ofList (text.toList.reverse.dropWhile (· == ' ')).reverse)
    | path, _ => path
  { u with path, fragment := none }

end Uri

end DesignTokens
