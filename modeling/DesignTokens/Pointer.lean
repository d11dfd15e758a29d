import DesignTokens.Text.Percent
import DesignTokens.Text.Split

/-!
# DesignTokens.Pointer — JSON pointers

A pointer is the list of names on the way from the root of a document to one of its values. Its
text starts with a number sign and escapes `~` and `/` in every name.

1. **Pointers**: `Pointer.child`, `Pointer.index`, `Pointer.parent?`, and the text `Pointer.text`.
2. **Reading**: `Pointer.parse` accepts the text with or without its number sign,
   `Pointer.ofFragment` the percent-encoded fragment of a URI.
-/

namespace DesignTokens

/-- A JSON pointer: the names on the way from the root. -/
structure Pointer where
  segments : List String
deriving Repr, DecidableEq, Inhabited, Hashable

namespace Pointer

def root : Pointer := ⟨[]⟩

/-- The member or item of the given name. -/
def child (p : Pointer) (segment : String) : Pointer :=
  ⟨p.segments ++ [segment]⟩

def index (p : Pointer) (i : Nat) : Pointer :=
  p.child (toString i)

/-- The last name; the root has none. -/
def last? (p : Pointer) : Option String :=
  p.segments.getLast?

/-- The pointer without its last name; the root has no parent. -/
def parent? (p : Pointer) : Option Pointer :=
  match p.segments with
  | [] => none
  | segments => some ⟨segments.dropLast⟩

def isRoot (p : Pointer) : Bool :=
  p.segments.isEmpty

/-! ## Text -/

/-- A name with `~` written as `~0` and `/` as `~1`. -/
def escape (segment : List Char) : List Char :=
  segment.flatMap fun c =>
    if c = '~' then ['~', '0'] else if c = '/' then ['~', '1'] else [c]

/-- The name that an escaped name stands for; `none` if a `~` is followed by neither digit. -/
def unescape? : List Char → Option (List Char)
  | [] => some []
  | '~' :: '0' :: rest => (unescape? rest).map ('~' :: ·)
  | '~' :: '1' :: rest => (unescape? rest).map ('/' :: ·)
  | c :: rest => if c = '~' then none else (unescape? rest).map (c :: ·)

/-- What follows the number sign in the text of a pointer. -/
def body (p : Pointer) : List Char :=
  p.segments.flatMap fun segment => '/' :: escape segment.toList

def text (p : Pointer) : String :=
  String.ofList ('#' :: p.body)

instance : ToString Pointer := ⟨text⟩

/-! ## Reading -/

/-- Why a text is no pointer. -/
inductive Reason where
  | missingSlash
  | badEscape
  | notUtf8 (fault : Text.Utf8.Fault)
deriving Repr, DecidableEq

/-- A text that is no pointer. -/
structure Error where
  input : String
  reason : Reason
deriving Repr, DecidableEq

def Reason.message : Reason → String
  | .missingSlash => "pointer must start with '/'"
  | .badEscape => "'~' must be followed by '0' or '1'"
  | .notUtf8 fault => fault.message

def Error.message (e : Error) : String :=
  s!"Invalid JSON pointer '{e.input}': {e.reason.message}"

/-- Read what follows the number sign in the text of a pointer. -/
def ofBody (body : List Char) : Except Reason Pointer :=
  match body with
  | [] => .ok root
  | c :: _ =>
    if c ≠ '/' then .error .missingSlash
    else match (Text.splitOn '/' body).tail.mapM unescape? with
      | some names => .ok ⟨names.map String.ofList⟩
      | none => .error .badEscape

/-- Read the text of a pointer; its number sign may be left out. -/
def parse (input : String) : Except Error Pointer :=
  let body := match input.toList with
    | '#' :: rest => rest
    | chars => chars
  (ofBody body).mapError (⟨input, ·⟩)

/-- Read the fragment of a URI, given without its number sign: percent-encoding is undone first. -/
def ofFragment (fragment : String) : Except Error Pointer :=
  match Text.Percent.decode fragment.toList with
  | .ok decoded => parse (String.ofList decoded)
  | .error fault => .error ⟨fragment, .notUtf8 fault⟩

end Pointer

end DesignTokens
