import DesignTokens.Text.Split

/-!
# DesignTokens.Namespace — the keys of `$extensions`

An extension belongs to a namespace in reverse-DNS style: at least two labels between dots, each of
one or more words between hyphens, each word of lower-case letters and digits.
-/

namespace DesignTokens.Namespace

/-- A lower-case letter or digit of ASCII. -/
def isWordChar (c : Char) : Bool :=
  c.isLower || c.isDigit

/-- One or more lower-case letters and digits. -/
def isWord (text : List Char) : Bool :=
  !text.isEmpty && text.all isWordChar

/-- Words between hyphens. -/
def isLabel (text : List Char) : Bool :=
  (Text.splitOn '-' text).all isWord

/-- Whether a key is an extension namespace. -/
def isValid (key : String) : Bool :=
  let labels := Text.splitOn '.' key.toList
  2 ≤ labels.length && labels.all isLabel

end DesignTokens.Namespace
