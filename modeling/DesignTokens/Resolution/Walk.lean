import DesignTokens.Resolution.Evaluation

/-!
# DesignTokens.Resolution.Walk — the plain recursion

A walk visits a node, and from there the nodes that its value depends on. Two things end it: a node
that is visited already further up, which is a cycle, and a limit for the number of levels.

1. **Keys** (`Key`): a node of some document.
2. **Walks** (`Walk`): a value, with the nodes that were touched and how many levels deep.
3. **Visits** (`visit`), with the fallback lists (`fallback`). The levels that are left are called
   the room; without room nothing is visited.
-/

namespace DesignTokens.Resolution

/-! ## Keys -/

/-- A node of the document with the given URI. -/
structure Key where
  pointer : Pointer
  uri : Uri
deriving Repr, DecidableEq, Inhabited

def Key.of (g : Graph) (pointer : Pointer) : Key :=
  ⟨pointer, g.uri⟩

/-- The keys of the first list, then those of the second that are not in the first. -/
def union (xs ys : List Key) : List Key :=
  xs ++ ys.filter fun key => !xs.contains key

def disjoint (xs ys : List Key) : Bool :=
  xs.all fun key => !ys.contains key

/-! ## Walks -/

/-- A value, with the nodes that were touched on the way to it, each once, and the number of levels
that the way went down. -/
structure Walk (α : Type) where
  value : α
  touched : List Key
  height : Nat
deriving Repr

namespace Walk

variable {α : Type}

instance : Monad Walk where
  pure x := ⟨x, [], 0⟩
  bind x f :=
    let y := f x.value
    ⟨y.value, union x.touched y.touched, max x.height y.height⟩

/-- A walk that starts at a node. -/
def touching (key : Key) (walk : Walk α) : Walk α :=
  { walk with touched := union [key] walk.touched }

def below (walk : Walk α) : Walk α :=
  { walk with height := walk.height + 1 }

end Walk

/-! ## Visits -/

/-- The state of a node that is pending further up. -/
def cycleState (g : Graph) (pointer : Pointer) : State :=
  .unresolved true ((Fault.cycle pointer).located pointer ((g.node? pointer).bind (·.span)))

/-- The state of a node for which no room is left. -/
def cutState (limit : Nat) (g : Graph) (pointer : Pointer) : State :=
  let span := (g.node? pointer).bind (·.span)
  { State.unresolved true ((Fault.tooDeep pointer limit).located pointer span) with
    truncated := true }

/-- The outcome of a fallback list for which no room is left. -/
def cutOutcome (limit : Nat) (owner : Pointer) : Outcome :=
  .error { log := [(Fault.fallbackTooDeep owner limit).located owner none], truncated := true }

mutual

/-- Visit a node, while some nodes are pending further up. -/
def visit (env : Environment) :
    (room : Nat) → (pending : List Key) → (g : Graph) → (pointer : Pointer) → Walk State
  | 0, pending, g, pointer =>
    let key := Key.of g pointer
    .touching key <| pure <|
      if pending.contains key then cycleState g pointer
      else cutState env.settings.maxDepth g pointer
  | room + 1, pending, g, pointer =>
    let key := Key.of g pointer
    .touching key <|
      if pending.contains key then pure (cycleState g pointer)
      else
        evaluate
          { visit := fun g pointer => (visit env room (key :: pending) g pointer).below
            fallback := fun g type owner entries =>
              (fallback env room (key :: pending) g type owner entries).below }
          env g pointer

/-- Try a fallback list, while some nodes are pending further up. -/
def fallback (env : Environment) :
    (room : Nat) → (pending : List Key) → (g : Graph) → (type : Option String) →
      (owner : Pointer) → (entries : List (Offer Reference)) → Walk Outcome
  | 0, _, _, _, owner, _ => pure (cutOutcome env.settings.maxDepth owner)
  | room + 1, pending, g, type, owner, entries =>
    tryEntries
      { visit := fun g pointer => (visit env room pending g pointer).below
        fallback := fun g type owner entries =>
          (fallback env room pending g type owner entries).below }
      env g type owner entries

end

/-- Visit a node of the root document, with nothing pending and all room. -/
def plain (env : Environment) (pointer : Pointer) : Walk State :=
  visit env (env.settings.maxDepth + 1) [] env.root pointer

end DesignTokens.Resolution
