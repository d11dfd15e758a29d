import DesignTokens.Text.Shown
import DesignTokens.Text.Split

/-!
# DesignTokens.Version — semantic versions

Three numbers, an optional pre-release after a hyphen, and optional build metadata after a plus
sign.

1. **Faults** say what was wrong and in which part (`Version.Fault`).
2. **Reading** (`Version.parse`): the first fault from the left is reported.
-/

namespace DesignTokens

structure Version where
  major : Nat
  minor : Nat
  patch : Nat
  preRelease : String
  build : String
deriving Repr, DecidableEq, Inhabited

namespace Version

inductive Part where
  | major
  | minor
  | patch
  | preRelease
  | build
deriving Repr, DecidableEq, Inhabited

def Part.text : Part → String
  | .major => "major version number"
  | .minor => "minor version number"
  | .patch => "patch version number"
  | .preRelease => "pre-release identifier"
  | .build => "build metadata"

/-- Why a text is no version. -/
inductive Fault where
  | empty
  | unexpectedEnd (part : Part)
  | unexpectedIn (part : Part) (found : Char)
  | unexpectedAfter (part : Part) (found : Char)
  | leadingZero (part : Part)
  | overflow (part : Part)
  | emptySegment (part : Part)
deriving Repr, DecidableEq, Inhabited

def Fault.message : Fault → String
  | .empty => "empty string, expected a semver version"
  | .unexpectedEnd part => "unexpected end of input while parsing " ++ part.text
  | .unexpectedIn part c =>
    "unexpected character " ++ Text.shown c ++ " while parsing " ++ part.text
  | .unexpectedAfter part c => "unexpected character " ++ Text.shown c ++ " after " ++ part.text
  | .leadingZero part => "invalid leading zero in " ++ part.text
  | .overflow part => "value of " ++ part.text ++ " exceeds u64::MAX"
  | .emptySegment part => "empty identifier segment in " ++ part.text

/-! ## Reading -/

/-- A number below `2^64` without leading zeros, and what follows it. -/
def readNumber (part : Part) (text : List Char) : Except Fault (Nat × List Char) :=
  let digits := text.takeWhile Char.isDigit
  let rest := text.dropWhile Char.isDigit
  match digits with
  | [] => match rest with
    | c :: _ => .error (.unexpectedIn part c)
    | [] => .error (.unexpectedEnd part)
  -- The second digit is at fault before the size of the number is known.
  | '0' :: _ :: _ => .error (.leadingZero part)
  | _ =>
    let n := digits.foldl (fun n c => 10 * n + (c.toNat - 48)) 0
    if n < Nat.pow 2 64 then .ok (n, rest) else .error (.overflow part)

/-- What follows the dot after a part. -/
def readDot (part : Part) : List Char → Except Fault (List Char)
  | '.' :: rest => .ok rest
  | c :: _ => .error (.unexpectedAfter part c)
  | [] => .error (.unexpectedEnd part)

def isIdentifierChar (c : Char) : Bool :=
  c.isAlphanum || c == '-'

/-- The first fault of the segments of an identifier: no segment is empty, and in a pre-release no
number has a leading zero. -/
def segmentFault? (part : Part) (segments : List (List Char)) : Option Fault :=
  segments.findSome? fun segment =>
    match segment with
    | [] => some (.emptySegment part)
    | '0' :: _ :: _ =>
      if part = .preRelease ∧ segment.all Char.isDigit then some (.leadingZero part) else none
    | _ => none

/-- An identifier of segments between dots, and what follows it. -/
def readIdentifier (part : Part) (text : List Char) : Except Fault (String × List Char) :=
  let inIdentifier (c : Char) := isIdentifierChar c || c == '.'
  let identifier := text.takeWhile inIdentifier
  match segmentFault? part (Text.splitOn '.' identifier) with
  | some fault => .error fault
  | none => .ok (String.ofList identifier, text.dropWhile inIdentifier)

/-- The optional identifier after its mark. -/
def readMarked (mark : Char) (part before : Part) (text : List Char) :
    Except Fault (Part × String × List Char) :=
  match text with
  | c :: rest =>
    if c = mark then
      (readIdentifier part rest).map fun (identifier, rest) => (part, identifier, rest)
    else .ok (before, "", text)
  | [] => .ok (before, "", [])

def parse (input : String) : Except Fault Version := do
  if input.isEmpty then throw .empty
  let (major, text) ← readNumber .major input.toList
  let text ← readDot .major text
  let (minor, text) ← readNumber .minor text
  let text ← readDot .minor text
  let (patch, text) ← readNumber .patch text
  let (last, preRelease, text) ← readMarked '-' .preRelease .patch text
  let (last, build, text) ← readMarked '+' .build last text
  match text with
  | c :: _ => throw (.unexpectedAfter last c)
  | [] => return { major, minor, patch, preRelease, build }

end Version

end DesignTokens
