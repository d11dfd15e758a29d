import DesignTokens.Json.Basic
import DesignTokens.Report.Diagnostic
import DesignTokens.Uri.Basic

/-!
# DesignTokens.Encoding.Report — pointers, spans and diagnostics as JSON

An optional part that is absent is left out of the object, and so is an empty list where the
encoding says so.
-/

namespace DesignTokens

/-- An object of the members that are present. -/
def Json.record (members : List (String × Option Json)) : Json :=
  .object (members.filterMap fun (name, value?) => value?.map fun value => (name, value))

def Json.listOrNone (items : List Json) : Option Json :=
  if items.isEmpty then none else some (.array items)

def Json.nat (n : Nat) : Json :=
  .int n

def Pointer.toJson (p : Pointer) : Json :=
  .string p.text

def Uri.toJson (u : Uri) : Json :=
  .string u.text

def Position.toJson (p : Position) : Json :=
  .object [("offset", .nat p.offset), ("line", .nat p.line), ("column", .nat p.column)]

def Span.toJson (s : Span) : Json :=
  .object [("uri", .string s.uri), ("start", s.start.toJson), ("end", s.stop.toJson)]

/-- A field: its value, encoded as given, and its place. -/
def Field.toJson {α : Type} (encode : α → Json) (field : Field α) : Json :=
  .record [("value", encode field.value), ("pointer", field.pointer.toJson),
    ("span", field.span.map Span.toJson)]

def Related.toJson (r : Related) : Json :=
  .record [("message", some (.string r.message)), ("pointer", r.pointer.map Pointer.toJson),
    ("span", r.span.map Span.toJson)]

def Diagnostic.toJson (d : Diagnostic) : Json :=
  .record [("code", some (.string d.code.text)), ("message", some (.string d.message)),
    ("severity", some (.string d.severity.text)), ("pointer", d.pointer.map Pointer.toJson),
    ("span", d.span.map Span.toJson), ("related", Json.listOrNone (d.related.map Related.toJson))]

end DesignTokens
