import DesignTokens.Datum

/-!
# DesignTokens.Datum.Separated — values with commas between them

What notations with brackets and commas have in common.

1. **Tokens** (`Datum.Token`), and taking them from a text one after the other (`Datum.scan?`).
2. **Separated** values (`Datum.separated?`), up to a mark that closes them.
3. **Entries** (`Datum.entry?`): a key, a colon and a value.
-/

namespace DesignTokens.Datum

/-- A token: a mark, a text in quotes, or anything else. -/
inductive Token where
  | mark (c : Char)
  | word (content : List Char)
  | quoted (content : String)
deriving Repr, DecidableEq, Inhabited

/-- The tokens of a text, given what takes the first token or a part without any. There are no more
of them than the first argument says. -/
def scanWithin? (token? : List Char → Option (Option Token × List Char)) :
    Nat → List Char → Option (List Token)
  | _, [] => some []
  | 0, _ => none
  | fuel + 1, chars => do
    let (token, rest) ← token? chars
    some (token.toList ++ (← scanWithin? token? fuel rest))

/-- The tokens of a text, given what takes the first token or a part without any, and a character at
least. -/
def scan? (token? : List Char → Option (Option Token × List Char)) (content : String) :
    Option (List Token) :=
  scanWithin? token? content.length content.toList

/-- What can be read from the start of some tokens, with the tokens left. -/
abbrev Reading (α : Type) := List Token → Option (α × List Token)

/-- The things up to a closing mark, with a comma between each two; there may be one after the last.
The number of them is limited by the first argument. -/
def separatedWithin? {α : Type} (item? : Reading α) (close : Char) : Nat → Reading (List α)
  | 0, _ => none
  | fuel + 1, tokens =>
    if tokens.head? == some (.mark close) then some ([], tokens.drop 1)
    else do
      let (item, rest) ← item? tokens
      if rest.head? == some (.mark close) then some ([item], rest.drop 1)
      else if rest.head? == some (.mark ',') then
        let (items, rest) ← separatedWithin? item? close fuel (rest.drop 1)
        some (item :: items, rest)
      else none

/-- The things up to a closing mark. -/
def separated? {α : Type} (item? : Reading α) (close : Char) : Reading (List α) :=
  fun tokens => separatedWithin? item? close (tokens.length + 1) tokens

def entry? (key? : Reading String) (value? : Reading Datum) : Reading (String × Datum) :=
  fun tokens => do
    let (key, rest) ← key? tokens
    if rest.head? == some (.mark ':') then
      let (value, rest) ← value? (rest.drop 1)
      some ((key, value), rest)
    else none

end DesignTokens.Datum
