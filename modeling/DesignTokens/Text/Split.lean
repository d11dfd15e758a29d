/-!
# DesignTokens.Text.Split — the pieces between separators
-/

namespace DesignTokens.Text

/-- The pieces of a text between the characters that are separators: one more than there are
separators. -/
def splitWhere (isSeparator : Char → Bool) : List Char → List (List Char)
  | [] => [[]]
  | c :: rest =>
    if isSeparator c then [] :: splitWhere isSeparator rest
    else match splitWhere isSeparator rest with
      | [] => [[c]]
      | piece :: pieces => (c :: piece) :: pieces

/-- The pieces between the occurrences of one character. -/
def splitOn (separator : Char) (text : List Char) : List (List Char) :=
  splitWhere (· == separator) text

end DesignTokens.Text
