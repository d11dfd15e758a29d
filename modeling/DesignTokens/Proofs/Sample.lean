import DesignTokens.Graph.OfTree
import DesignTokens.Json.Printer
import DesignTokens.Proofs.Uri.Scheme
import DesignTokens.Resolution.Resolver
import DesignTokens.Tree.OfDocument

/-!
# DesignTokens.Proofs.Sample — the parts of small documents

Many a theorem is tried out on a small document. Such a document is given as data or as a text, as a
tree, or as a graph; here is what these are made of.

1. **URIs** (`Sample.file`) and **pointers** (`Sample.place`).
2. **Documents** (`Sample.document`), and the texts of objects (`Sample.objectText`).
3. **Trees** (`Sample.tree`), and their graphs (`Sample.graphOf`).
4. **Graphs** (`Sample.graph`), with nodes and references at their places.
-/

namespace DesignTokens.Sample

/-! ## URIs and pointers -/

def file (name : String) : Uri :=
  ⟨"file", some ⟨"", "", none⟩, .rooted [name], none, none⟩

/-- What the reader accepts as a URI is that of a document. -/
theorem isDocument_file {name : String} (read : Uri.parse ("file:///" ++ name) = .ok (file name)) :
    (file name).IsDocument :=
  Uri.isDocument_of_parse read rfl

def home : Uri :=
  file "tokens.json"

def other : Uri :=
  file "other.json"

def remote : Uri :=
  { scheme := "https", authority := some ⟨"", "tokens.example.com", none⟩
    path := .rooted ["base.json"], query := none, fragment := none }

/-- A member of the root. -/
def place (name : String) : Pointer :=
  Pointer.root.child name

@[simp] theorem place_inj {a b : String} : place a = place b ↔ a = b := by
  simp [place, Pointer.child, Pointer.root]

/-- The place of the first override. -/
def overridePlace : Pointer :=
  (place "$overrides").index 0

/-! ## Documents -/

def document (name : String) (members : Json.Members) : Document where
  uri := file name
  text := ""
  data := .object members
  sourceMap := .empty

/-- A color, as a value or a reference. -/
def color (key text : String) : Json :=
  .object [("$type", .string "color"), (key, .string text)]

/-- The text of an object, made of the names and the texts of its members. -/
def objectText (members : List (String × String)) : String :=
  let texts := members.map fun member => Json.quote member.1 ++ ":" ++ member.2
  "\x7b" ++ String.intercalate "," texts ++ "\x7d"

def colorText (key text : String) : String :=
  objectText [("$type", Json.quote "color"), (key, Json.quote text)]

theorem eq_some_getD {α : Type} [Inhabited α] {x : Option α} (known : x.isSome = true) :
    x = some (x.getD default) := by
  obtain ⟨a, rfl⟩ := Option.isSome_iff_exists.1 known
  rfl

/-- The tree of a document that has one. -/
def treeOf (d : Document) : Tree :=
  (Tree.ofDocument d {}).value.getD default

theorem ofDocument_treeOf {d : Document} (known : (Tree.ofDocument d {}).value.isSome = true) :
    (Tree.ofDocument d {}).value = some (treeOf d) :=
  eq_some_getD known

/-! ## Trees -/

def text (value : String) (pointer : Pointer := .root) : Field String :=
  ⟨value, pointer, none⟩

/-- A node without metadata. -/
def info (pointer : Pointer) : Tree.NodeInfo :=
  { name := pointer.last?.getD "", pointer, span := none, metadata := {} }

def tree (children : List Tree.Node) (overrides : List (Override (Field String))) : Tree where
  uri := home
  pointer := Pointer.root
  span := none
  schema := none
  version := none
  metadata := {}
  children := children
  overrides := overrides

/-- The type that a node at the root declares. -/
def colorType (name : String) : Field String :=
  text "color" ((place name).child "$type")

def treeToken (name value : String) : Tree.Node :=
  .token (info (place name)) (some (colorType name))
    (some ⟨.string value, (place name).child "$value", none⟩)

/-- An alias at the root of a tree, of a node of the same document. -/
def treeAlias (name target : String) : Tree.Node :=
  .aliasTo (info (place name)) (colorType name) (text ("#/" ++ target) ((place name).child "$ref"))

/-- The first override, in the mode `on`, with what it offers. -/
def treeOverride (name : String) (offer : Offer (Field String)) : Override (Field String) where
  token := text ("#/" ++ name) (overridePlace.child "$token")
  conditions := ⟨[("mode", .string "on")], overridePlace.child "$when", none⟩
  offer := offer

/-- The graph of a tree that has one. -/
def graphOf (tree : Tree) : Graph :=
  (Graph.ofTree tree).graph.getD default

theorem ofTree_graphOf {tree : Tree} (known : (Graph.ofTree tree).graph.isSome = true) :
    (Graph.ofTree tree).graph = some (graphOf tree) :=
  eq_some_getD known

/-! ## Graphs -/

/-- A reference to a node of the same document, read from a place. -/
def referenceTo (name : String) (pointer : Pointer) : Reference :=
  { target := ⟨home, place name, false⟩, raw := "#/" ++ name, pointer, span := none }

/-- A reference to a node of another document, read from a place. -/
def referenceInto (uri : Uri) (name : String) (pointer : Pointer) : Reference :=
  { target := ⟨uri, place name, true⟩, raw := name, pointer, span := none }

def node (name : String) (content : Graph.Content) : Graph.Node :=
  { name, pointer := place name, span := none, parent := none, metadata := {}, replacement := none
    content }

def token (name value : String) : Graph.Node :=
  node name (.token (some (colorType name))
    (some ⟨.string value, (place name).child "$value", none⟩))

def aliasOf (name target : String) : Graph.Node :=
  node name (.aliasTo (colorType name) (referenceTo target ((place name).child "$ref")))

/-- An alias of a node of another document. -/
def linkTo (name : String) (uri : Uri) (target : String) : Graph.Node :=
  node name (.aliasTo (colorType name) (referenceInto uri target ((place name).child "$ref")))

/-- The first override, of a node of the same document. -/
def override (name : String) (conditions : Json.Members) (offer : Offer Reference) :
    Override Reference where
  token := referenceTo name (overridePlace.child "$token")
  conditions := ⟨conditions, overridePlace.child "$when", none⟩
  offer := offer

/-- A graph whose nodes do not refer to each other. -/
def graph (uri : Uri) (nodes : List Graph.Node) (overrides : List (Override Reference)) :
    Graph where
  uri := uri
  nodes := nodes
  edges := []
  roots := nodes.map (·.pointer)
  overrides := overrides

def valueText (answer : Resolution) : Option String :=
  (answer.token.bind (·.value)).bind Json.text?

end DesignTokens.Sample
