import DesignTokens.Encoding.Report
import DesignTokens.Resolution.Resolver

/-!
# DesignTokens.Encoding.Resolution — resolved tokens as JSON

An optional part that is absent is left out, and so is an empty list, except for the trace.
-/

namespace DesignTokens.Resolution

def Source.toJson (s : Source) : Json :=
  .record [("uri", some s.uri.toJson), ("pointer", some s.pointer.toJson),
    ("span", s.span.map Span.toJson)]

def Step.Kind.text : Step.Kind → String
  | .token => "token"
  | .aliasTo => "alias"
  | .override => "override"
  | .fallback => "fallback"

def Step.toJson (s : Step) : Json :=
  .record [("pointer", some s.pointer.toJson), ("uri", some s.uri.toJson),
    ("kind", some (.string s.kind.text)), ("span", s.span.map Span.toJson)]

def Applied.Kind.text : Applied.Kind → String
  | .override => "override"
  | .fallback => "fallback"

def Applied.toJson (a : Applied) : Json :=
  .record [("pointer", some a.pointer.toJson), ("kind", some (.string a.kind.text)),
    ("source", a.source.map Source.toJson)]

def Token.toJson (t : Token) : Json :=
  .record [("pointer", some t.pointer.toJson), ("uri", some t.uri.toJson),
    ("type", t.type.map .string), ("value", t.value), ("source", t.source.map Source.toJson),
    ("overrides_applied", Json.listOrNone (t.applied.map Applied.toJson)),
    ("warnings", Json.listOrNone (t.warnings.map Diagnostic.toJson)),
    ("trace", some (.array (t.trace.map Step.toJson)))]

def Derived.toJson (d : Derived) : Json :=
  .record [("plugin", some (.string d.plugin)), ("data", d.data)]

end DesignTokens.Resolution
