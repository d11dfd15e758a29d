import DesignTokens.Graph.Basic

/-!
# DesignTokens.Graph.Dot — drawing a graph

A statement in the DOT language for each node and for each edge (`Graph.dot`).
-/

namespace DesignTokens.Graph

/-- A text in quotes, in which nothing is escaped. -/
def quoted (text : String) : String :=
  "\"" ++ text ++ "\""

/-- A text with a backslash before each quote. -/
def escapeQuotes (text : String) : String :=
  String.ofList (text.toList.flatMap fun c => if c = '"' then ['\\', '"'] else [c])

def Content.color : Content → String
  | .collection _ => "#E0E0E0"
  | .token _ _ => "#80CBC4"
  | .aliasTo _ _ => "#FFCC80"

/-- The pointer of a node, and its type on a line of its own. -/
def Node.label (n : Node) : String :=
  match n.type with
  | some type => n.pointer.text ++ "\\n" ++ type.value
  | none => n.pointer.text

def Node.dot (n : Node) : String :=
  "  " ++ quoted n.pointer.text ++ " [label=" ++ quoted (escapeQuotes n.label) ++ ", fillcolor=" ++
    quoted n.content.color ++ "];\n"

def Edge.dot (e : Edge) : String :=
  "  " ++ quoted e.source.text ++ " -> " ++ quoted e.target.text ++ " [label=" ++
    quoted e.kind.text ++ "];\n"

/-- What applies to all nodes and to all edges. -/
def dotHeader : String :=
  "digraph DocumentGraph \x7b\n  rankdir=LR;\n" ++
    "  node [shape=box, style=\"filled,rounded\", fontname=\"Helvetica\", fontsize=10];\n" ++
    "  edge [fontname=\"Helvetica\", fontsize=8, fontcolor=\"#808080\"];\n\n"

def dot (g : Graph) : String :=
  dotHeader ++ String.join (g.nodes.map Node.dot) ++ "\n" ++
    String.join (g.edges.map Edge.dot) ++ "\x7d\n"

end DesignTokens.Graph
