import DesignTokens.Document
import DesignTokens.Plugin
import DesignTokens.Resolution.Basic

/-!
# DesignTokens.Resolution.Transform — data that plugins derive from tokens

Transforms belong to the host. They get to see every resolved token and may attach data to it; what
goes wrong in one of them is reported and does not touch the others.

1. **Transforms** (`Transform`): an answer to a token, which may depend on the tokens seen before.
2. **Runs** (`Transform.runAll`).
-/

namespace DesignTokens.Resolution

/-- What a transform makes of a token. -/
structure Transform.Output where
  data : Option Json
  log : Log
deriving Repr, Inhabited

/-- How a transform fails: with a failure of its own, or by a crash that may leave a text. -/
inductive Transform.Fault where
  | failed (failure : HostFailure)
  | crashed (text : Option String)
deriving Repr, DecidableEq

/-- A transform of the host. Its answer may depend on the tokens it was asked about earlier, the
latest first. -/
structure Transform where
  plugin : String
  answer : (earlier : List Token) → Token → Option Document →
    Except Transform.Fault Transform.Output

/-- Data that a plugin attached to a token. -/
structure Derived where
  plugin : String
  data : Option Json
deriving Repr, Inhabited

namespace Transform

def Fault.text : Fault → String
  | .failed failure => failure.text
  | .crashed (some text) => "panicked: " ++ text
  | .crashed none => "panicked: unknown panic"

def Fault.diagnostic (fault : Fault) (plugin : String) (pointer : Pointer) : Diagnostic :=
  let message := s!"transform '{plugin}' failed: {fault.text}"
  (Diagnostic.new .transformFailed message).withPointer pointer

/-- What transforms attach to a token, and what they report. -/
structure Outcome where
  derived : List Derived
  log : Log
deriving Repr, Inhabited

def run (transform : Transform) (earlier : List Token) (token : Token)
    (document : Option Document) : Outcome :=
  match transform.answer earlier token document with
  | .ok output => ⟨[⟨transform.plugin, output.data⟩], output.log⟩
  | .error fault => ⟨[], [fault.diagnostic transform.plugin token.pointer]⟩

def runAll (transforms : List Transform) (earlier : List Token) (token : Token)
    (document : Option Document) : Outcome :=
  let outcomes := transforms.map fun transform => transform.run earlier token document
  ⟨outcomes.flatMap (·.derived), outcomes.flatMap (·.log)⟩

end Transform

end DesignTokens.Resolution
