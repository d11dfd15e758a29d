import DesignTokens.Encoding.Report
import DesignTokens.Tree.Basic
import DesignTokens.Tree.Reading

/-!
# DesignTokens.Encoding.Tree — the tree of a document as JSON

An optional part that is absent is left out.
-/

namespace DesignTokens

def Field.textJson (field : Field String) : Json :=
  field.toJson .string

def Field.valueJson (field : Field Json) : Json :=
  field.toJson id

def Field.membersJson (field : Field Json.Members) : Json :=
  field.toJson .object

namespace Tree

def Deprecation.toJson (d : Deprecation) : Json :=
  .record [("active", some (.bool d.active)), ("replacement", d.replacement.map Field.textJson)]

def Metadata.toJson (m : Metadata) : Json :=
  .record [
    ("description", m.description.map Field.textJson),
    ("extensions",
      if m.extensions.isEmpty then none
      else some (.object (m.extensions.map fun (key, payload) => (key, payload.valueJson)))),
    ("deprecated", m.deprecated.map (Field.toJson Deprecation.toJson)),
    ("last_modified", m.lastModified.map Field.textJson),
    ("last_used", m.lastUsed.map Field.textJson),
    ("usage_count", m.usageCount.map (Field.toJson .nat)),
    ("author", m.author.map Field.textJson),
    ("tags", Json.listOrNone (m.tags.map Field.textJson)),
    ("hash", m.hash.map Field.textJson)]

def NodeInfo.members (info : NodeInfo) (kind : String) : List (String × Option Json) :=
  [("kind", some (.string kind)), ("name", some (.string info.name)),
    ("pointer", some info.pointer.toJson), ("span", info.span.map Span.toJson),
    ("metadata", some info.metadata.toJson)]

mutual

def Node.toJson : Node → Json
  | .collection info children =>
    .record (info.members "collection" ++ [("children", some (.array (Node.listJson children)))])
  | .token info type value =>
    .record (info.members "token" ++
      [("token_type", type.map Field.textJson), ("value", value.map Field.valueJson)])
  | .aliasTo info type reference =>
    .record (info.members "alias" ++
      [("token_type", some type.textJson), ("reference", some reference.textJson)])

def Node.listJson : List Node → List Json
  | [] => []
  | node :: rest => Node.toJson node :: Node.listJson rest

end

end Tree

mutual

/-- An offer whose reference is a text. -/
def Offer.textJson : Offer (Field String) → Json
  | .mk pointer span reference value fallback =>
    .record [("pointer", some pointer.toJson), ("span", span.map Span.toJson),
      ("reference", reference.map Field.textJson), ("value", value.map Field.valueJson),
      ("fallback", Json.listOrNone (Offer.textListJson fallback))]

def Offer.textListJson : List (Offer (Field String)) → List Json
  | [] => []
  | offer :: rest => Offer.textJson offer :: Offer.textListJson rest

end

/-- An override whose references are texts. -/
def Override.textJson (o : Override (Field String)) : Json :=
  .record ([("token", some o.token.textJson), ("when", some o.conditions.membersJson)] ++
    (o.offer.textJson.members?.getD []).map fun (name, value) => (name, some value))

def Tree.toJson (tree : Tree) : Json :=
  .record [("uri", some tree.uri.toJson), ("pointer", some tree.pointer.toJson),
    ("span", tree.span.map Span.toJson), ("schema", tree.schema.map Field.textJson),
    ("version", tree.version.map Field.textJson), ("metadata", some tree.metadata.toJson),
    ("children", some (.array (Tree.Node.listJson tree.children))),
    ("overrides", some (.array (tree.overrides.map Override.textJson)))]

def Tree.Evaluation.toJson (e : Tree.Evaluation) : Json :=
  .record [("plugin", some (.string e.plugin)), ("namespace", some (.string e.namespaceKey)),
    ("pointer", some e.pointer.toJson), ("normalized", e.normalized)]

end DesignTokens
