import DesignTokens.Pointer

/-!
# DesignTokens.Source — where things stand in a source text

Positions are for reports only: no decision of the library depends on them.

1. **Positions and spans**: `Position`, `Span`.
2. **Source maps**: the span of each pointer of a document (`SourceMap`).
3. **Fields**: a value lifted out of a document, with the place it was read from (`Field`).
-/

namespace DesignTokens

/-- A place in a text: the offset, and the line and column to show. -/
structure Position where
  offset : Nat
  line : Nat
  column : Nat
deriving Repr, DecidableEq, Inhabited

/-- A stretch of the text of the document with the given URI. -/
structure Span where
  uri : String
  start : Position
  stop : Position
deriving Repr, DecidableEq, Inhabited

/-- The place where a span starts, to show. -/
def Span.text (s : Span) : String :=
  s!"{s.uri}:{s.start.line}:{s.start.column}"

/-- The spans of a document's values, the latest entry first. -/
structure SourceMap where
  entries : List (Pointer × Span)
deriving Repr, DecidableEq, Inhabited

namespace SourceMap

def empty : SourceMap := ⟨[]⟩

/-- Record the span of a pointer; it hides an earlier one. -/
def insert (m : SourceMap) (pointer : Pointer) (span : Span) : SourceMap :=
  ⟨(pointer, span) :: m.entries⟩

def get? (m : SourceMap) (pointer : Pointer) : Option Span :=
  m.entries.lookup pointer

end SourceMap

/-- A value lifted out of a document, with its pointer and its span there. -/
structure Field (α : Type) where
  value : α
  pointer : Pointer
  span : Option Span
deriving Repr, DecidableEq, Inhabited

/-- Apply a function to the value, keeping its place. -/
def Field.map {α β : Type} (f : α → β) (x : Field α) : Field β :=
  { value := f x.value, pointer := x.pointer, span := x.span }

end DesignTokens
