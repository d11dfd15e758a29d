import DesignTokens.Yaml.Basic
import DesignTokens.Yaml.Token

/-!
# DesignTokens.Yaml.Reader — reading YAML

1. **Names** (`Yaml.Names`): the anchors and the handles of tags of a document.
2. **Tables** (`Yaml.tableOf?`): keys and values that follow each other.
3. **Nodes** (`Yaml.node?`): values with an anchor and a tag.
4. **Documents** (`Yaml.document?`): the value of a text with at most one document.
-/

namespace DesignTokens.Yaml

/-! ## Names -/

/-- What the names in a document stand for. -/
structure Names where
  anchors : List (String × Yaml)
  handles : List (String × String)
deriving Repr, Inhabited

namespace Names

/-- Let an anchor stand for a value. -/
def anchor (names : Names) (name : Option String) (value : Yaml) : Names :=
  match name with
  | some name => { names with anchors := (name, value) :: names.anchors }
  | none => names

/-- What the name of a known tag starts with. -/
def known : String :=
  "tag:yaml.org,2002:"

/-- What a tag stands for, in two parts; `none` if its handle stands for nothing. -/
def tag? (names : Names) (handle name : String) : Option (String × String) :=
  match names.handles.lookup handle with
  | some meaning => some (meaning, name)
  | none =>
    if handle = "!!" then some (known, name)
    else if 2 ≤ handle.length then none
    else some (handle, name)

end Names

/-- What stands before a value: an anchor, and a tag. -/
structure Properties where
  anchor : Option String
  tag : Option (String × String)
deriving Repr, Inhabited

def Properties.scalar (properties : Properties) (plain : Bool) (content : String) : Yaml :=
  if !plain then .text content
  else match properties.tag with
    | some (start, name) => if start = Names.known then ofTagged name content else .text content
    | none => ofPlain content

/-- The properties of a value, and the tokens after them. -/
def properties? (names : Names) : List Token → Option (Properties × List Token)
  | .anchor anchor :: .tag handle name :: rest =>
    (names.tag? handle name).map fun tag => (⟨some anchor, some tag⟩, rest)
  | .tag handle name :: .anchor anchor :: rest =>
    (names.tag? handle name).map fun tag => (⟨some anchor, some tag⟩, rest)
  | .anchor anchor :: rest => some (⟨some anchor, none⟩, rest)
  | .tag handle name :: rest => (names.tag? handle name).map fun tag => (⟨none, some tag⟩, rest)
  | rest => some (⟨none, none⟩, rest)

/-! ## Tables -/

/-- Add a key or a value, which follow each other; what is unreadable is no key. A key may not come
twice. -/
def addNode? (before : List (Yaml × Yaml) × Option Yaml) (node : Yaml) :
    Option (List (Yaml × Yaml) × Option Yaml) :=
  match before, node with
  | (entries, none), .unreadable => some (entries, none)
  | (entries, none), node => some (entries, some node)
  | (entries, some key), node =>
    if entries.any fun entry => sameScalar entry.1 key then none
    else some (entries ++ [(key, node)], none)

/-- The table of keys and values that follow each other. -/
def tableOf? (nodes : List Yaml) : Option Yaml :=
  (nodes.foldlM addNode? ([], none)).map fun (entries, _) => .table entries

/-! ## Nodes -/

/-- Whether there is no value before a token of a list or a table. -/
def isEmptyBefore (ends : List Token) : List Token → Bool
  | [] => true
  | token :: _ => ends.contains token

/-- A value that was read: the names after it, the value, and the tokens left. -/
abbrev Read := Names × Yaml × List Token

mutual

/-- A value; a list of a table may have its items at the column of the keys. -/
def node? : Nat → Names → (block inTable : Bool) → List Token → Option Read
  | 0, _, _, _, _ => none
  | _ + 1, names, _, _, .alias name :: rest =>
    (names.anchors.lookup name).map fun value => (names, value, rest)
  | fuel + 1, names, block, inTable, tokens => do
    let (properties, rest) ← properties? names tokens
    let inner := names.anchor properties.anchor .unreadable
    let (after, value, rest) ← match rest with
      | .scalar plain content :: rest => some (inner, properties.scalar plain content, rest)
      | .bracketOpen :: rest => flowItems? fuel inner [] true rest
      | .braceOpen :: rest => flowEntries? fuel inner [] true rest
      | .listStart :: rest => if block then items? fuel inner [] true rest else none
      | .tableStart :: rest => if block then entries? fuel inner [] rest else none
      | .item :: _ =>
        if inTable then items? fuel inner [] false rest
        else if properties.anchor.isSome || properties.tag.isSome then
          some (inner, properties.scalar true "", rest)
        else none
      | rest =>
        if properties.anchor.isSome || properties.tag.isSome then
          some (inner, properties.scalar true "", rest)
        else none
    some (after.anchor properties.anchor value, value, rest)

/-- A value, or nothing before one of the given tokens. -/
def nodeOr? : Nat → Names → (block : Bool) → (ends : List Token) → List Token → Option Read
  | 0, _, _, _, _ => none
  | fuel + 1, names, block, ends, tokens =>
    if isEmptyBefore ends tokens then some (names, .nothing, tokens)
    else node? fuel names block (block && ends.contains .key) tokens

/-- A value after its mark, or nothing if there is none. -/
def valueOr? : Nat → Names → (block : Bool) → (ends : List Token) → List Token → Option Read
  | 0, _, _, _, _ => none
  | fuel + 1, names, block, ends, .value :: rest => nodeOr? fuel names block ends rest
  | _ + 1, names, _, _, tokens => some (names, .nothing, tokens)

/-- The items of a list in a block; one that is nested ends with a token of its own. -/
def items? : Nat → Names → List Yaml → (nested : Bool) → List Token → Option Read
  | 0, _, _, _, _ => none
  | fuel + 1, names, before, nested, .item :: rest => do
    let ends := if nested then [.item, .blockEnd] else [.item, .key, .value, .blockEnd]
    let (names, value, rest) ←
      if isEmptyBefore ends rest then some (names, .nothing, rest)
      else node? fuel names true false rest
    items? fuel names (before ++ [value]) nested rest
  | _ + 1, names, before, true, .blockEnd :: rest => some (names, .list before, rest)
  | _ + 1, _, _, true, _ => none
  | _ + 1, names, before, false, rest => some (names, .list before, rest)

def entries? : Nat → Names → List Yaml → List Token → Option Read
  | 0, _, _, _ => none
  | fuel + 1, names, before, .key :: rest => do
    let ends := [.key, .value, .blockEnd]
    let (names, key, rest) ← nodeOr? fuel names true ends rest
    let (names, value, rest) ← valueOr? fuel names true ends rest
    entries? fuel names (before ++ [key, value]) rest
  | fuel + 1, names, before, .value :: rest => do
    let (names, value, rest) ←
      valueOr? fuel names true [.key, .value, .blockEnd] (.value :: rest)
    entries? fuel names (before ++ [.nothing, value]) rest
  | _ + 1, names, before, .blockEnd :: rest =>
    (tableOf? before).map fun table => (names, table, rest)
  | _ + 1, _, _, _ => none

/-- The items between brackets. A key makes a table of one entry. -/
def flowItems? : Nat → Names → List Yaml → (first : Bool) → List Token → Option Read
  | 0, _, _, _, _ => none
  | _ + 1, names, before, _, .bracketClose :: rest => some (names, .list before, rest)
  | fuel + 1, names, before, first, tokens => do
    let tokens ← if first then some tokens else match tokens with
      | .comma :: rest => some rest
      | _ => none
    match tokens with
    | .bracketClose :: rest => some (names, .list before, rest)
    | .key :: rest =>
      let (names, key, rest) ← nodeOr? fuel names false [.value, .comma, .bracketClose] rest
      let (names, value, rest) ← valueOr? fuel names false [.comma, .bracketClose] rest
      flowItems? fuel names (before ++ [← tableOf? [key, value]]) false rest
    | .value :: _ =>
      let (names, value, rest) ← valueOr? fuel names false [.comma, .bracketClose] tokens
      flowItems? fuel names (before ++ [← tableOf? [.nothing, value]]) false rest
    | _ =>
      let (names, value, rest) ← node? fuel names false false tokens
      flowItems? fuel names (before ++ [value]) false rest

/-- The entries between braces; a key may have no value. -/
def flowEntries? : Nat → Names → List Yaml → (first : Bool) → List Token → Option Read
  | 0, _, _, _, _ => none
  | fuel + 1, names, before, first, tokens => do
    let tokens ← if first then some tokens else match tokens with
      | .comma :: rest => some rest
      | .braceClose :: _ => some tokens
      | _ => none
    match tokens with
    | .braceClose :: rest => (tableOf? before).map fun table => (names, table, rest)
    | .key :: rest =>
      let (names, key, rest) ← nodeOr? fuel names false [.value, .comma, .braceClose] rest
      let (names, value, rest) ← valueOr? fuel names false [.comma, .braceClose] rest
      flowEntries? fuel names (before ++ [key, value]) false rest
    | .value :: _ =>
      let (names, value, rest) ← valueOr? fuel names false [.comma, .braceClose] tokens
      flowEntries? fuel names (before ++ [.nothing, value]) false rest
    | _ =>
      let (names, key, rest) ← node? fuel names false false tokens
      flowEntries? fuel names (before ++ [key, .nothing]) false rest

end

/-! ## Documents -/

/-- The handles of the directives at the start, each of which may be given once, and the tokens
after them. -/
def handles? (version : Bool) (handles : List (String × String)) :
    List Token → Option (List (String × String) × List Token)
  | .version :: rest => if version then none else handles? true handles rest
  | .handle name meaning :: rest =>
    if (handles.lookup name).isSome then none
    else handles? version ((name, meaning) :: handles) rest
  | rest => some (handles, rest)

/-- The value of a document, and the tokens after it. -/
def content? (handles : List (String × String)) (tokens : List Token) :
    Option (Yaml × List Token) :=
  (node? (4 * tokens.length + 4) ⟨[], handles⟩ true false tokens).map fun (_, value, rest) =>
    (value, rest)

/-- Whether a token is before or after the documents. -/
def isOutside : Token → Bool
  | .version => true
  | .handle _ _ => true
  | .documentStart => true
  | .documentEnd => true
  | _ => false

/-- The value of a document that starts with a mark, after its directives. -/
def markedContent? (tokens : List Token) : Option (Yaml × List Token) := do
  let (handles, rest) ← handles? false [] tokens
  match rest with
  | .documentStart :: token :: rest =>
    if isOutside token then some (.nothing, token :: rest) else content? handles (token :: rest)
  | [.documentStart] => some (.nothing, [])
  | _ => none

/-- The value of the only document of a text, or an empty table if there is no document; `none` if
the text is not YAML or has more documents. -/
def document? (text : String) : Option Yaml := do
  let isEnd := fun token => token == Token.documentEnd
  let tokens := (← Token.scan? text).dropWhile isEnd
  match tokens with
  | [] => some (.table [])
  | token :: _ =>
    let (value, rest) ← if isOutside token then markedContent? tokens else content? [] tokens
    if (rest.dropWhile isEnd).isEmpty then some value else none

end DesignTokens.Yaml
