import DesignTokens.Graph.Dot
import DesignTokens.Proofs.Dot.Reader
import DesignTokens.Proofs.Graph.References
import DesignTokens.Proofs.Pointer

/-!
# DesignTokens.Proofs.Graph.Drawing — when the drawing of a graph is read as the graph

The pointer of a node is pasted in quotes as it is, at its node and at its edges. Only in the label
of a node quotes are escaped, and backslashes are escaped nowhere. So a drawing is read as the graph
if the names of the document allow it (`Graph.Node.IsLegible`), and may be read as another one if
they do not.

1. **Texts** (`Graph.reads_quoted_iff`, `Graph.reads_label_iff`): those that end with their quotes.
2. **Statements** (`Graph.reads_node`, `Graph.reads_edge`): a legible node is read as one statement,
   and so is an edge between legible nodes.
3. **Graphs** (`Graph.drawn_as_graph`): a node for each node and an edge for each link.
-/

namespace DesignTokens.Graph

open Dot (Reads Says Token Statement)

/-! ## Texts -/

/-- A text in quotes begins and ends with one. -/
theorem toList_quoted (text : String) : (quoted text).toList = '"' :: (text.toList ++ ['"']) := by
  simp [quoted]

/-- Quotes are escaped one by one, as they are written in an enclosed text. -/
theorem toList_escapeQuotes (text : String) :
    (escapeQuotes text).toList = text.toList.flatMap (Dot.write true) := by
  have write : Dot.write true = fun c => if c = '"' then ['\\', '"'] else [c] :=
    funext fun c => by simp [Dot.write]
  rw [escapeQuotes, String.toList_ofList, write]

/-- What a text with escaped quotes stands for: line breaks after an open backslash are left out. -/
def unescaped (text : String) : String :=
  String.ofList (Dot.content text.toList).read

/-- A text in quotes is read as it is if and only if no quote is in it, and no backslash stands open
at its end or at the end of one of its lines. -/
theorem reads_quoted_iff {text : String} :
    Reads (quoted text).toList [.quoted text] ↔ Dot.IsVerbatim text.toList := by
  rw [toList_quoted, ← Dot.reads_verbatim_iff, String.ofList_toList]

/-- A text with escaped quotes ends with its quotes if and only if no backslash stands open at its
end or before a quote. -/
theorem reads_label_iff {text : String} {token : Token} :
    Reads (quoted (escapeQuotes text)).toList [token] ↔
      Dot.IsEnclosed text.toList ∧ token = .quoted (unescaped text) := by
  rw [toList_quoted, toList_escapeQuotes]
  exact Dot.reads_enclosed_iff

/-! ## Statements -/

/-- The pointer and the label of a node are read as they are meant. -/
structure Node.IsLegible (n : Node) : Prop where
  pointer : Dot.IsVerbatim n.pointer.text.toList
  label : Dot.IsEnclosed n.label.toList

/-- A node is legible exactly if both of its texts are read as one token, so this can be decided. -/
theorem Node.isLegible_iff {n : Node} :
    n.IsLegible ↔ Reads (quoted n.pointer.text).toList [.quoted n.pointer.text] ∧
      Reads (quoted (escapeQuotes n.label)).toList [.quoted (unescaped n.label)] := by
  rw [reads_quoted_iff, reads_label_iff, and_iff_left rfl]
  exact ⟨fun ⟨pointer, label⟩ => ⟨pointer, label⟩, fun ⟨pointer, label⟩ => ⟨pointer, label⟩⟩

instance (n : Node) : Decidable n.IsLegible :=
  decidable_of_iff _ Node.isLegible_iff.symm

/-- The tokens of the statement for a node. -/
def Node.tokens (n : Node) : List Token :=
  [.quoted n.pointer.text, .mark '[', .name "label", .mark '=', .quoted (unescaped n.label),
    .mark ',', .name "fillcolor", .mark '=', .quoted n.content.color, .mark ']', .mark ';']

def Node.attributes (n : Node) : Dot.Attributes :=
  [("label", unescaped n.label), ("fillcolor", n.content.color)]

def Edge.tokens (e : Edge) : List Token :=
  [.quoted e.source.text, .arrow, .quoted e.target.text, .mark '[', .name "label", .mark '=',
    .quoted e.kind.text, .mark ']', .mark ';']

def Edge.attributes (e : Edge) : Dot.Attributes :=
  [("label", e.kind.text)]

/-- The line of a legible node reads as its tokens. -/
theorem reads_node {n : Node} (legible : n.IsLegible) : Reads n.dot.toList n.tokens := by
  have indent : Reads "  ".toList [] := by decide
  have pointer := reads_quoted_iff.2 legible.pointer
  have label : Reads " [label=".toList [.mark '[', .name "label", .mark '='] := by decide
  have text := reads_label_iff.2 ⟨legible.label, rfl⟩
  have fill : Reads ", fillcolor=".toList [.mark ',', .name "fillcolor", .mark '='] := by decide
  have color : Reads (quoted n.content.color).toList [.quoted n.content.color] := by
    cases n.content <;> simp only [Content.color] <;> decide
  have ends : Reads "];\n".toList [.mark ']', .mark ';'] := by decide
  -- The line is put together from the left, as it is written.
  have named := (indent.append pointer).append label
  simp only [Node.dot, String.toList_append]
  exact (((named.append text).append fill).append color).append ends

/-- The line of an edge reads as its tokens, if both of its ends stand for themselves. -/
theorem reads_edge {e : Edge} (source : Dot.IsVerbatim e.source.text.toList)
    (target : Dot.IsVerbatim e.target.text.toList) : Reads e.dot.toList e.tokens := by
  have indent : Reads "  ".toList [] := by decide
  have arrow : Reads " -> ".toList [.arrow] := by decide
  have label : Reads " [label=".toList [.mark '[', .name "label", .mark '='] := by decide
  have kind : Reads (quoted e.kind.text).toList [.quoted e.kind.text] := by
    cases e.kind <;> decide
  have ends : Reads "];\n".toList [.mark ']', .mark ';'] := by decide
  have source := reads_quoted_iff.2 source
  have target := reads_quoted_iff.2 target
  have joined := ((indent.append source).append arrow).append target
  simp only [Edge.dot, String.toList_append]
  exact ((joined.append label).append kind).append ends

/-- The tokens of a node say that there is the node, with its attributes. -/
theorem says_node (n : Node) : Says n.tokens [.node n.pointer.text n.attributes] :=
  rfl

/-- The tokens of an edge say that there is the edge, with its attributes. -/
theorem says_edge (e : Edge) : Says e.tokens [.edge e.source.text e.target.text e.attributes] :=
  rfl

/-! ## Graphs -/

/-- What applies to all nodes and to all edges. -/
def commonStatements : List Statement :=
  [.setting "rankdir" "LR",
    .defaults "node" [("shape", "box"), ("style", "filled,rounded"), ("fontname", "Helvetica"),
      ("fontsize", "10")],
    .defaults "edge" [("fontname", "Helvetica"), ("fontsize", "8"), ("fontcolor", "#808080")]]

def headingTokens : List Token :=
  [.name "digraph", .name "DocumentGraph", .mark '\x7b',
    .name "rankdir", .mark '=', .name "LR", .mark ';']

def nodeDefaults : List Token :=
  [.name "node", .mark '[', .name "shape", .mark '=', .name "box", .mark ',',
    .name "style", .mark '=', .quoted "filled,rounded", .mark ',',
    .name "fontname", .mark '=', .quoted "Helvetica", .mark ',',
    .name "fontsize", .mark '=', .name "10", .mark ']', .mark ';']

def edgeDefaults : List Token :=
  [.name "edge", .mark '[', .name "fontname", .mark '=', .quoted "Helvetica", .mark ',',
    .name "fontsize", .mark '=', .name "8", .mark ',',
    .name "fontcolor", .mark '=', .quoted "#808080", .mark ']', .mark ';']

/-- What is before the nodes reads as the name of the graph and the settings that all graphs
have. -/
theorem reads_dotHeader :
    Reads dotHeader.toList (headingTokens ++ nodeDefaults ++ edgeDefaults) := by
  -- Line by line, since evaluating the whole text takes long.
  have heading : Reads "digraph DocumentGraph \x7b\n  rankdir=LR;\n".toList headingTokens := by
    decide +kernel
  have nodes : Reads
      "  node [shape=box, style=\"filled,rounded\", fontname=\"Helvetica\", fontsize=10];\n".toList
      nodeDefaults := by decide +kernel
  have edges : Reads
      "  edge [fontname=\"Helvetica\", fontsize=8, fontcolor=\"#808080\"];\n\n".toList
      edgeDefaults := by decide +kernel
  unfold dotHeader
  simp only [String.toList_append]
  exact (heading.append nodes).append edges

variable {g : Graph}

/-- The characters after the heading. -/
def drawingLines (g : Graph) : List Char :=
  g.nodes.flatMap (·.dot.toList) ++ "\n".toList ++ g.edges.flatMap (·.dot.toList) ++ "\x7d\n".toList

/-- A drawing is the header, and the lines of this graph. -/
theorem dot_eq : g.dot = dotHeader ++ String.ofList g.drawingLines := by
  simp [dot, drawingLines, ← String.toList_inj, String.toList_join, List.flatMap_map]

/-- A drawing is read as its lines are, after the statements that all drawings have. -/
theorem read_dot_of_reads {tokens : List Token} {statements : List Statement}
    (reads : Reads g.drawingLines (tokens ++ [.mark '\x7d'])) (meaning : Says tokens statements) :
    Dot.read g.dot = some ⟨"DocumentGraph", commonStatements ++ statements⟩ := by
  have common : Says (headingTokens.drop 3 ++ nodeDefaults ++ edgeDefaults) commonStatements := by
    decide
  rw [dot_eq]
  exact Dot.read_of_pieces rfl rfl reads_dotHeader reads (common.append meaning)

/-- The graph that is read is the graph that was drawn. -/
structure DrawnAs (g : Graph) (d : Dot.Document) : Prop where
  name : d.name = "DocumentGraph"
  /-- There is one statement for each node, and it names the pointer of the node. -/
  nodes : d.nodes = g.nodes.map fun n => (n.pointer.text, n.attributes)
  pointers : d.nodes.map (fun n => Pointer.parse n.1) = g.pointers.map .ok
  /-- There is one statement for each link that was found valid, and it names the pointers of both
  nodes and the kind of the reference. -/
  edges : d.edges = (g.links.filterMap g.joined?).map fun e =>
    ((e.source.text, e.target.text), [("label", e.kind.text)])
  ends : d.edges.map (fun e => (Pointer.parse e.1.1, Pointer.parse e.1.2)) =
    (g.links.filterMap g.joined?).map fun e => (.ok e.source, .ok e.target)

/-- The graph that is read of the drawing of a graph whose nodes are legible. -/
def drawing (g : Graph) : Dot.Document where
  name := "DocumentGraph"
  statements := commonStatements ++
    (g.nodes.map (fun n => .node n.pointer.text n.attributes) ++
      g.edges.map fun e => .edge e.source.text e.target.text e.attributes)

/-- A graph whose nodes are legible is read as what was drawn. -/
theorem read_dot (joined : g.Joined) (legible : ∀ n ∈ g.nodes, n.IsLegible) :
    Dot.read g.dot = some g.drawing := by
  -- The ends of edges are nodes, so they stand for themselves as well.
  have verbatim : ∀ p ∈ g.pointers, Dot.IsVerbatim p.text.toList := by
    intro p hp
    obtain ⟨n, hn, rfl⟩ := List.mem_map.1 hp
    exact (legible n hn).pointer
  have nodes := Reads.flatMap fun n hn => reads_node (legible n hn)
  have blank : Reads "\n".toList [] := by decide
  have edges := Reads.flatMap fun e he =>
    reads_edge (verbatim _ (joined e he).1) (verbatim _ (joined e he).2)
  have ends : Reads "\x7d\n".toList [.mark '\x7d'] := by decide
  refine read_dot_of_reads (((nodes.append blank).append edges).append ends) ?_
  rw [List.append_nil]
  exact (Says.flatMap fun n _ => says_node n).append (Says.flatMap fun e _ => says_edge e)

/-- What was drawn is the graph: its nodes, in order, and its edges with their kinds. -/
theorem drawnAs_drawing (edges : g.edges = g.links.filterMap g.joined?) :
    g.DrawnAs g.drawing := by
  have nodes : g.drawing.nodes = g.nodes.map fun n => (n.pointer.text, n.attributes) := by
    simp [Dot.Document.nodes, drawing, commonStatements, List.filterMap_map]
  have drawn : g.drawing.edges = g.edges.map fun e =>
      ((e.source.text, e.target.text), [("label", e.kind.text)]) := by
    simp [Dot.Document.edges, drawing, commonStatements, List.filterMap_map, Edge.attributes]
  constructor
  case name => rfl
  case nodes => exact nodes
  case pointers => simp [nodes, pointers, Pointer.parse_text]
  case edges => rw [drawn, edges]
  case ends => simp [drawn, edges, Pointer.parse_text]

/-- A text is read as it is if its quotes are escaped and no line break comes after a backslash. -/
theorem unescaped_eq {text : String} (enclosed : Dot.IsEnclosed text.toList)
    (lines : ∀ front rest, text.toList = front ++ '\n' :: rest → Dot.endsOpen front = false) :
    unescaped text = text := by
  rw [unescaped, Dot.read_content_of_enclosed enclosed lines, String.ofList_toList]

/-- A text in quotes is read as it is if and only if no quote is in it, and no backslash stands open
at its end or at the end of one of its lines. A text with escaped quotes ends with its quotes if and
only if no backslash stands open at its end or before a quote, and then it is read as it is unless
one stands open at the end of a line. If the pointers of all nodes are read as they are and the
labels end with their quotes, the drawing of a graph is read as the graph. -/
theorem drawn_as_graph {tree : Tree} (h : (ofTree tree).graph = some g) :
    (∀ text, Reads (quoted text).toList [.quoted text] ↔ Dot.IsVerbatim text.toList) ∧
    (∀ text token, Reads (quoted (escapeQuotes text)).toList [token] ↔
      Dot.IsEnclosed text.toList ∧ token = .quoted (unescaped text)) ∧
    (∀ text, Dot.IsEnclosed text.toList →
      (∀ front rest, text.toList = front ++ '\n' :: rest → Dot.endsOpen front = false) →
      unescaped text = text) ∧
    ((∀ n ∈ g.nodes, n.IsLegible) → ∃ d, Dot.read g.dot = some d ∧ g.DrawnAs d) := by
  refine ⟨fun _ => reads_quoted_iff, fun _ _ => reads_label_iff, fun _ => unescaped_eq,
    fun legible => ?_⟩
  exact ⟨g.drawing, read_dot (joined_ofTree h) legible, drawnAs_drawing (edges_ofTree h)⟩

namespace Drawn

open Sample (info place)

def quotation : Pointer :=
  place "x\" -> \"y"

/-- A token whose type has quotes and a pair of backslashes in it, and an alias of it. -/
def legible : Tree :=
  Sample.tree
    [.token (info (place "a")) (some (Sample.text "\"\\\\\"")) none,
     .aliasTo (info (place "b")) (Sample.text "color") (Sample.text "#/a" (place "b"))]
    []

/-- A token whose name closes its quotes and opens them again. -/
def illegible : Tree :=
  { legible with children := [.token (info quotation) none none] }

/-- The tokens that are read of its statement. -/
def misread : List Token :=
  [.quoted "#/x", .arrow, .quoted "y", .mark '[', .name "label", .mark '=',
    .quoted quotation.text, .mark ',', .name "fillcolor", .mark '=', .quoted "#80CBC4",
    .mark ']', .mark ';']

end Drawn

/-- The drawing of an alias and its target shows one edge between them. -/
theorem legible_drawn_as_graph :
    ∃ g, (ofTree Drawn.legible).graph = some g ∧ (∀ n ∈ g.nodes, n.IsLegible) ∧
      ∃ d, Dot.read g.dot = some d ∧ g.DrawnAs d ∧
        d.edges = [(("#/b", "#/a"), [("label", "alias")])] := by
  -- The graph is computed once, for all that is asked of it.
  have checked : (ofTree Drawn.legible).graph.map (fun g =>
      (decide (∀ n ∈ g.nodes, n.IsLegible), g.links.filterMap g.joined?)) =
        some (true, [⟨Sample.place "b", Sample.place "a", .aliasTo⟩]) := by
    decide +kernel
  obtain ⟨g, hg, same⟩ := Option.map_eq_some_iff.1 checked
  obtain ⟨legible, edges⟩ := Prod.mk.inj same
  have legible := of_decide_eq_true legible
  obtain ⟨_, _, _, drawn⟩ := drawn_as_graph hg
  obtain ⟨d, hd, drawnAs⟩ := drawn legible
  exact ⟨g, hg, legible, d, hd, drawnAs, by rw [drawnAs.edges, edges]; decide⟩

/-- A graph of one node and no edge is read as a graph of one edge between other nodes. -/
theorem node_drawn_as_edge :
    ∃ g, (ofTree Drawn.illegible).graph = some g ∧ g.pointers = [Drawn.quotation] ∧ g.edges = [] ∧
      ∃ d, Dot.read g.dot = some d ∧ d.nodes = [] ∧ d.edges.map (·.1) = [("#/x", "y")] := by
  -- The only node is drawn by a line that reads as an edge.
  have single : (ofTree Drawn.illegible).graph.map (fun g => (g.pointers, g.edges)) =
      some ([Drawn.quotation], []) := by decide +kernel
  have reads : (ofTree Drawn.illegible).graph.map
      (fun g => decide (Reads g.drawingLines (Drawn.misread ++ [.mark '\x7d']))) = some true := by
    decide +kernel
  have edge : Says Drawn.misread
      [.edge "#/x" "y" [("label", Drawn.quotation.text), ("fillcolor", "#80CBC4")]] := rfl
  obtain ⟨g, hg, same⟩ := Option.map_eq_some_iff.1 single
  obtain ⟨pointers, edges⟩ := Prod.mk.inj same
  rw [hg, Option.map_some, Option.some.injEq] at reads
  have read := read_dot_of_reads (of_decide_eq_true reads) edge
  exact ⟨g, hg, pointers, edges, _, read, rfl, rfl⟩

end DesignTokens.Graph
