import DesignTokens.Text.Hidden

/-!
# DesignTokens.Text.Shown — a character shown in quotes

A character that has no visible form of its own is shown by its number, or by its usual escape.
-/

namespace DesignTokens.Text

/-- A character in single quotes. -/
def shown (c : Char) : String :=
  let inner := match c with
    | '\x00' => ['\\', '0']
    | '\t' => ['\\', 't']
    | '\n' => ['\\', 'n']
    | '\r' => ['\\', 'r']
    | '\x27' => ['\\', '\x27']
    | '\\' => ['\\', '\\']
    | c => if isHidden c then ['\\', 'u', '\x7b'] ++ Nat.toDigits 16 c.toNat ++ ['\x7d'] else [c]
  String.ofList ('\x27' :: inner ++ ['\x27'])

end DesignTokens.Text
