import DesignTokens.Resolution.Memory
import DesignTokens.Resolution.Transform

/-!
# DesignTokens.Resolution.Resolver — resolving the tokens of a document

A resolver answers questions for tokens one after the other. It remembers states and the outcome of
transforms. Its answers are those of a new resolver as long as every state that it has kept is the
one that a new walk would find wherever the state may be used. That fails where a walk was cut at
the limit for the depth and the state bears no mark of it: then an answer may depend on what was
asked before.

1. **Resolvers** (`Resolver`), made with `Resolver.new`.
2. **Answers** (`Resolution`): `Resolver.resolve` for a pointer, `Resolver.resolveText` for its
   text, `Resolver.resolveAll` for all tokens and aliases. Each gives the answer and the resolver to
   ask next.
-/

namespace DesignTokens

open Resolution

/-- An answer for a pointer: the token, unless the pointer names none, with what was reported and
what transforms attached. -/
structure Resolution where
  token : Option Token
  log : Log
  derived : List Derived
deriving Repr, Inhabited

/-- A resolver for the tokens of a document. -/
structure Resolver where
  env : Environment
  /-- The decoded document, for the transforms. -/
  document : Option Document := none
  transforms : List Transform := []
  memory : Memory := []
  /-- The outcome of the transforms for the tokens seen so far. -/
  transformed : List (Pointer × Transform.Outcome) := []
  /-- The tokens that the transforms were asked about, the latest first. -/
  asked : List Token := []

namespace Resolver

def new (env : Environment) : Resolver :=
  { env }

/-- The outcome of the transforms for a token: they run only the first time. -/
def transform (r : Resolver) (token : Token) : Transform.Outcome × Resolver :=
  if r.transforms.isEmpty then (⟨[], []⟩, r)
  else
    match r.transformed.lookup token.pointer with
    | some outcome => (outcome, r)
    | none =>
      -- Transforms see a token once, even if they fail at it.
      let outcome := Transform.runAll r.transforms r.asked token r.document
      (outcome, { r with
        transformed := (token.pointer, outcome) :: r.transformed
        asked := token :: r.asked })

/-- Resolve the node at a pointer. -/
def resolve (r : Resolver) (pointer : Pointer) : Resolution × Resolver :=
  let room := r.env.settings.maxDepth + 1
  let (walk, memory) := revisit r.env room [] r.env.root pointer r.memory
  let state := walk.value
  let r := { r with memory }
  if state.found then
    let token := state.token r.env.root.uri pointer
    let (outcome, r) := r.transform token
    ({ token := some token, log := state.log ++ outcome.log, derived := outcome.derived }, r)
  else ({ token := none, log := state.log, derived := [] }, r)

def resolveText (r : Resolver) (text : String) : Resolution × Resolver :=
  match Pointer.parse text with
  | .ok pointer => r.resolve pointer
  | .error error =>
    ({ token := none, log := [(Fault.badPointer error).diagnostic], derived := [] }, r)

/-- Resolve the nodes at some pointers, one after the other. -/
def resolveEach (r : Resolver) : List Pointer → List (Pointer × Resolution) × Resolver
  | [] => ([], r)
  | pointer :: rest =>
    let (answer, r) := r.resolve pointer
    let (answers, r) := r.resolveEach rest
    ((pointer, answer) :: answers, r)

/-- Resolve all tokens and aliases, in document order. -/
def resolveAll (r : Resolver) : List (Pointer × Resolution) × Resolver :=
  r.resolveEach r.env.root.tokens

end Resolver

end DesignTokens
