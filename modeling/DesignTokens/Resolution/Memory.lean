import DesignTokens.Resolution.Walk

/-!
# DesignTokens.Resolution.Memory — the recursion that remembers

A walk that keeps what it found out. A state is used again only while none of the nodes that were
touched on the way to it is pending, and while there is room for as many levels as the way went
down. A state that depends on a node that is pending further up, or that is marked as truncated, is
not kept. So what is found does not depend on what was resolved before, unless a walk was cut and
the mark got lost: it does where a value that is written out, or an entry of a fallback list, is
taken after a candidate that was truncated.

1. **Memory** (`Memory`): what is known of the nodes visited so far.
2. **Walks with a memory** (`Recall`).
3. **Visits** (`revisit`), with the fallback lists (`retry`).
-/

namespace DesignTokens.Resolution

/-! ## Memory -/

/-- The state of a node, with the nodes it was found from and how many levels down. -/
structure Remembered where
  state : State
  touched : List Key
  height : Nat
deriving Repr

/-- What is known of some nodes; a later entry hides an earlier one, and stands before it. -/
abbrev Memory := List (Key × Remembered)

namespace Memory

/-- What is known of a node, if it can be used with the given room while some nodes are pending. -/
def usable? (memory : Memory) (room : Nat) (pending : List Key) (key : Key) : Option Remembered :=
  (memory.lookup key).filter fun entry =>
    entry.height < room && disjoint entry.touched pending

/-- Keep what a walk from a node gave, if it does not depend on a cut or on what is pending. -/
def keep (memory : Memory) (pending : List Key) (key : Key) (walk : Walk State) : Memory :=
  if !walk.value.truncated && disjoint walk.touched pending then
    (key, ⟨walk.value, walk.touched, walk.height⟩) :: memory
  else memory

end Memory

/-! ## Walks with a memory -/

/-- A walk that may use and extend a memory. -/
structure Recall (α : Type) where
  run : Memory → Walk α × Memory

namespace Recall

variable {α : Type}

instance : Monad Recall where
  pure x := ⟨fun memory => (pure x, memory)⟩
  bind x f := ⟨fun memory =>
    let (walk, memory) := x.run memory
    let (more, memory) := (f walk.value).run memory
    (do let _ ← walk; more, memory)⟩

def below (x : Recall α) : Recall α :=
  ⟨fun memory =>
    let (walk, memory) := x.run memory
    (walk.below, memory)⟩

end Recall

/-- Keep what a walk from a node gave. -/
def Memory.keeping (pending : List Key) (key : Key) (result : Walk State × Memory) :
    Walk State × Memory :=
  let walk := result.1.touching key
  (walk, result.2.keep pending key walk)

/-! ## Visits -/

mutual

/-- Visit a node, while some nodes are pending further up. -/
def revisit (env : Environment) :
    (room : Nat) → (pending : List Key) → (g : Graph) → (pointer : Pointer) → Memory →
      Walk State × Memory
  | 0, pending, g, pointer, memory =>
    let key := Key.of g pointer
    let state :=
      if pending.contains key then cycleState g pointer
      else cutState env.settings.maxDepth g pointer
    (.touching key (pure state), memory)
  | room + 1, pending, g, pointer, memory =>
    let key := Key.of g pointer
    match memory.usable? (room + 1) pending key with
    -- What was touched on the way to a state counts as touched again.
    | some known => (⟨known.state, known.touched, known.height⟩, memory)
    | none =>
      if pending.contains key then (.touching key (pure (cycleState g pointer)), memory)
      else
        let deeper : Deeper Recall := {
          visit := fun g pointer =>
            .below ⟨fun memory => revisit env room (key :: pending) g pointer memory⟩
          fallback := fun g type owner entries =>
            .below ⟨fun memory => retry env room (key :: pending) g type owner entries memory⟩ }
        Memory.keeping pending key ((evaluate deeper env g pointer).run memory)

/-- Try a fallback list, while some nodes are pending further up. -/
def retry (env : Environment) :
    (room : Nat) → (pending : List Key) → (g : Graph) → (type : Option String) →
      (owner : Pointer) → (entries : List (Offer Reference)) → Memory → Walk Outcome × Memory
  | 0, _, _, _, owner, _, memory => (pure (cutOutcome env.settings.maxDepth owner), memory)
  | room + 1, pending, g, type, owner, entries, memory =>
    let deeper : Deeper Recall := {
      visit := fun g pointer =>
        .below ⟨fun memory => revisit env room pending g pointer memory⟩
      fallback := fun g type owner entries =>
        .below ⟨fun memory => retry env room pending g type owner entries memory⟩ }
    (tryEntries deeper env g type owner entries).run memory

end

end DesignTokens.Resolution
