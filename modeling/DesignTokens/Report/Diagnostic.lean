import DesignTokens.Report.Code
import DesignTokens.Source

/-!
# DesignTokens.Report.Diagnostic — problems as data

1. **Diagnostics**: a code, a message, and where to look (`Diagnostic`), built by
   `Diagnostic.new` and the `with` functions.
2. **Logs** (`Log`): the diagnostics of a run in the order in which they were reported, with their
   text for a reader (`Log.text`).
-/

namespace DesignTokens

/-- A further place that a diagnostic refers to. -/
structure Related where
  message : String
  pointer : Option Pointer
  span : Option Span
deriving Repr, DecidableEq, Inhabited

/-- A problem: what it is, how serious it is, and where to look. -/
structure Diagnostic where
  code : Code
  message : String
  severity : Severity
  pointer : Option Pointer
  span : Option Span
  related : List Related
deriving Repr, DecidableEq, Inhabited

namespace Diagnostic

/-- A diagnostic of the usual severity of its code, without a place. -/
def new (code : Code) (message : String) : Diagnostic :=
  { code, message, severity := code.severity, pointer := none, span := none, related := [] }

def withPointer (d : Diagnostic) (pointer : Pointer) : Diagnostic :=
  { d with pointer := some pointer }

def withSpan (d : Diagnostic) (span : Option Span) : Diagnostic :=
  { d with span }

def located (d : Diagnostic) (pointer : Pointer) (span : Option Span) : Diagnostic :=
  (d.withPointer pointer).withSpan span

/-- Place the diagnostic where a field was read from. -/
def atField {α : Type} (d : Diagnostic) (field : Field α) : Diagnostic :=
  d.located field.pointer field.span

def withSeverity (d : Diagnostic) (severity : Severity) : Diagnostic :=
  { d with severity }

def withRelated (d : Diagnostic) (related : Related) : Diagnostic :=
  { d with related := d.related ++ [related] }

def isError (d : Diagnostic) : Bool :=
  d.severity = .error

def isWarning (d : Diagnostic) : Bool :=
  d.severity = .warning

/-- A pointer in parentheses, after a blank. -/
def pointerSuffix : Option Pointer → String
  | some p => " (" ++ p.text ++ ")"
  | none => ""

/-- The diagnostic for a reader: a line, and a line for each further place. -/
def text (d : Diagnostic) : String :=
  let place := match d.span with
    | some span => " at " ++ span.text
    | none => ""
  let further := d.related.map fun r => "\n  - " ++ r.message ++ pointerSuffix r.pointer
  "[" ++ d.code.text ++ "] " ++ d.severity.text ++ ": " ++ d.message ++ pointerSuffix d.pointer ++
    place ++ String.join further

end Diagnostic

/-- Diagnostics in the order in which they were reported. -/
abbrev Log := List Diagnostic

namespace Log

/-- Whether some diagnostic has the severity `error`, whatever its code. -/
def hasErrors (log : Log) : Bool :=
  log.any Diagnostic.isError

def errors (log : Log) : List Diagnostic :=
  log.filter Diagnostic.isError

def warnings (log : Log) : List Diagnostic :=
  log.filter Diagnostic.isWarning

def hasCode (log : Log) (code : Code) : Bool :=
  log.any (·.code = code)

def codes (log : Log) : List Code :=
  log.map (·.code)

/-- The highest severity; an empty log has none. -/
def worst? (log : Log) : Option Severity :=
  log.foldl (fun worst d => some (match worst with
    | some s => s.max d.severity
    | none => d.severity)) none

/-- The log for a reader: every diagnostic, then the counts of errors and warnings. -/
def text (log : Log) : String :=
  let summary :=
    if log.isEmpty then ""
    else s!"\n{log.errors.length} error(s), {log.warnings.length} warning(s)\n"
  String.join (log.map fun d => d.text ++ "\n") ++ summary

end Log

end DesignTokens
