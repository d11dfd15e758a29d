import DesignTokens.Report.Diagnostic
import DesignTokens.Uri.Reader

/-!
# DesignTokens.Graph.Reference — references between nodes

A reference is a URI reference, read relative to the URI of its document. Its fragment is the
pointer of a node; without a fragment it refers to the root.

1. **References** (`Reference`): the target, with the text and place it was read from.
2. **Reading** (`Reference.resolve`), and why a text is no reference (`Reference.Fault`).
-/

namespace DesignTokens

/-- The node that a reference refers to: its document, without a fragment, and its pointer there.
It is external if the document is another one than that of the reference. -/
structure Reference.Target where
  uri : Uri
  pointer : Pointer
  external : Bool
deriving Repr, DecidableEq, Inhabited

/-- A reference, as it was written and where. -/
structure Reference where
  target : Reference.Target
  raw : String
  pointer : Pointer
  span : Option Span
deriving Repr, DecidableEq, Inhabited

namespace Reference

/-- Whether the document of the target has to be fetched over the network. -/
def Target.isNetwork (t : Target) : Bool :=
  t.uri.isNetwork

def Target.text (t : Target) : String :=
  t.uri.text ++ t.pointer.text

/-- Why a node depends on another one. -/
inductive Kind where
  | aliasTo
  | replacement
  | override
  | fallback
deriving Repr, DecidableEq, Inhabited

def Kind.text : Kind → String
  | .aliasTo => "alias"
  | .replacement => "replacement"
  | .override => "override"
  | .fallback => "fallback"

/-! ## Reading -/

/-- Why a text is no reference. -/
inductive Fault where
  | notUri (raw : String) (fault : Uri.Fault)
  | notPointer (error : Pointer.Error)
deriving Repr, DecidableEq

def Fault.code : Fault → Code
  | .notUri _ _ => .invalidReference
  | .notPointer _ => .invalidPointer

def Fault.message : Fault → String
  | .notUri raw fault => s!"reference '{raw}' is not a valid URI reference: {fault.message}"
  | .notPointer error => error.message

/-- The pointer that a fragment stands for; without a fragment it is the root. -/
def pointerOf : Option String → Except Pointer.Error Pointer
  | some fragment => Pointer.ofFragment fragment
  | none => .ok Pointer.root

/-- Read a reference relative to the URI of its document, which has no fragment. -/
def resolve (base : Uri) (field : Field String) : Except Fault Reference :=
  match Uri.join base field.value with
  | .error fault => .error (.notUri field.value fault)
  | .ok joined =>
    match pointerOf joined.fragment with
    | .error error => .error (.notPointer error)
    | .ok pointer =>
      let uri := joined.withoutFragment
      .ok {
        target := { uri, pointer, external := uri != base }
        raw := field.value, pointer := field.pointer, span := field.span }

end Reference

end DesignTokens
