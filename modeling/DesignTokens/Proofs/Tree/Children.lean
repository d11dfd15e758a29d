import DesignTokens.Proofs.Json.Same
import DesignTokens.Proofs.Tree.Places
import Mathlib.Data.List.Nodup

/-!
# DesignTokens.Proofs.Tree.Children — the nodes below an object

The children of a collection are read from its named members, one after the other and each on its
own. The pointer of a node starts with the pointers of all collections around it; so, if no object
repeats a name, no two nodes have the same pointer.

1. **Named members** (`Tree.named`) and the nodes that are read from them (`Tree.readWalk`).
2. **Pointers** of the nodes below an object: they lie below its pointer (`Pointer.Within`).
3. **Distinctness** (`nodup_childWalk`, `nodup_walk_ofDocument`).
-/

namespace DesignTokens

/-! ## Named members -/

namespace Tree

/-- The members that name nodes. -/
def named (members : Json.Members) : Json.Members :=
  members.filter fun m => !isReserved m.1

/-- The node that is read from a value, if it is one, with all nodes below it. -/
def readWalk (ctx : Context) (name : String) (pointer : Pointer) (value : Json) : List Node :=
  (readNode ctx name pointer value).value.toList.flatMap Node.walk

/-- The nodes that are read from the named members of an object. -/
def childWalk (ctx : Context) (pointer : Pointer) (members : Json.Members) : List Node :=
  (named members).flatMap fun m => readWalk ctx m.1 (pointer.child m.1) m.2

variable {ctx : Context} {name : String} {pointer : Pointer} {members : Json.Members} {t : Node}

theorem walkList_eq_flatMap (nodes : List Node) :
    Node.walkList nodes = nodes.flatMap Node.walk := by
  induction nodes with
  | nil => rfl
  | cons node rest ih => rw [Node.walkList, ih, List.flatMap_cons]

/-- The nodes below an object are those of its named members. -/
theorem walkList_readChildren :
    Node.walkList (readChildren ctx pointer members).value = childWalk ctx pointer members := by
  induction members with
  | nil => rfl
  | cons member rest ih =>
    obtain ⟨name, value⟩ := member
    rw [walkList_eq_flatMap] at ih ⊢
    rw [childWalk, named] at ih ⊢
    rw [readChildren, List.filter_cons]
    cases reserved : isReserved name with
    | true => simpa using ih
    | false =>
      -- A member with a name of its own gives its node, if it has one, and all below it.
      simp only [Bool.false_eq_true, if_false, Bool.not_false, if_true, Reading.value_bind,
        Reading.value_pure, List.flatMap_append, List.flatMap_cons, ih]
      rfl

/-- The nodes of an object: the token or alias it is, or itself and all below. -/
theorem readWalk_object :
    readWalk ctx name pointer (.object members) =
      if isTokenLike members then (readToken ctx name pointer members).value.toList
      else .collection
        { name, pointer, span := ctx.sourceMap.get? pointer
          metadata := (readMetadata ctx members pointer).value }
        (readChildren ctx pointer members).value :: childWalk ctx pointer members := by
  unfold readWalk
  rw [value_readNode_object]
  split
  · cases h : (readToken ctx name pointer members).value with
    | none => rfl
    | some n => simp [(readToken_info h).2.2]
  · simp [Node.walk, walkList_readChildren]

/-- The first place that is too deep is in the first named member that has one. -/
theorem deepChild?_eq_findSome? (room : Nat) :
    deepChild? room pointer members =
      (named members).findSome? fun m => deepNode? room (pointer.child m.1) m.2 := by
  induction members with
  | nil => rfl
  | cons member rest ih =>
    obtain ⟨name, value⟩ := member
    rw [deepChild?, named, List.filter_cons]
    cases reserved : isReserved name with
    | true => simpa [named] using ih
    | false =>
      simp only [Bool.false_eq_true, if_false, Bool.not_false, if_true, List.findSome?_cons]
      rw [ih]
      cases deepNode? room (pointer.child name) value <;> rfl

/-- What is no object has no node. -/
theorem readWalk_plain {x : Json} (h : x.members? = none) : readWalk ctx name pointer x = [] := by
  cases x <;> simp_all [readWalk, readNode, Json.members?]

end Tree

/-! ## Pointers -/

/-- A pointer lies below another one, or is that one. -/
def Pointer.Within (p q : Pointer) : Prop :=
  p.segments <+: q.segments

namespace Pointer

variable {p q : Pointer} {a b : String}

theorem Within.of_child (h : (p.child a).Within q) : p.Within q :=
  (List.prefix_append p.segments [a]).trans h

theorem Within.ne (h : (p.child a).Within q) : q ≠ p := by
  rintro rfl
  have long : q.segments.length + 1 ≤ q.segments.length := by
    simpa [child] using h.length_le
  omega

/-- What lies below two members of one object lies below the same member. -/
theorem Within.child_eq (h : (p.child a).Within q) (h' : (p.child b).Within q) : a = b := by
  obtain ⟨us, hu⟩ := h
  obtain ⟨vs, hv⟩ := h'
  have same := hu.trans hv.symm
  simp only [child, List.append_assoc, List.append_cancel_left_eq, List.cons_append,
    List.nil_append, List.cons.injEq] at same
  exact same.1

end Pointer

namespace Tree

variable {ctx : Context}

/-! ## Distinctness -/

/-- The nodes that are read from a value lie below its pointer, each at a pointer of its own. -/
structure Apart (pointer : Pointer) (nodes : List Node) : Prop where
  within : ∀ t ∈ nodes, pointer.Within t.pointer
  nodup : (nodes.map Node.pointer).Nodup

/-- The nodes of different members stand apart. -/
theorem childWalk_apart (pointer : Pointer) {members : Json.Members}
    (nodup : members.names.Nodup)
    (each : ∀ m ∈ members, Apart (pointer.child m.1) (readWalk ctx m.1 (pointer.child m.1) m.2)) :
    (∀ t ∈ childWalk ctx pointer members, ∃ name, (pointer.child name).Within t.pointer) ∧
      ((childWalk ctx pointer members).map Node.pointer).Nodup := by
  have each' : ∀ m ∈ named members,
      Apart (pointer.child m.1) (readWalk ctx m.1 (pointer.child m.1) m.2) :=
    fun m hm => each m (List.mem_of_mem_filter hm)
  constructor
  · intro t ht
    obtain ⟨m, hm, ht⟩ := List.mem_flatMap.1 ht
    exact ⟨m.1, (each' m hm).within t ht⟩
  · rw [childWalk, List.map_flatMap, List.nodup_flatMap]
    refine ⟨fun m hm => (each' m hm).nodup, ?_⟩
    have distinct : (named members).Pairwise fun m m' => m.1 ≠ m'.1 :=
      (List.pairwise_map.1 nodup).filter _
    refine distinct.imp_of_mem fun hm hm' ne => ?_
    -- Two members have different names, so what stands below them does too.
    refine List.disjoint_left.2 fun q hq hq' => ?_
    obtain ⟨t, ht, rfl⟩ := List.mem_map.1 hq
    obtain ⟨t', ht', same⟩ := List.mem_map.1 hq'
    have within' := (each' _ hm').within t' ht'
    rw [same] at within'
    exact ne (((each' _ hm).within t ht).child_eq within')

/-- Without repeated names, the nodes that are read from a value are apart. -/
theorem readWalk_apart (x : Json) : ∀ (name : String) (pointer : Pointer), x.unambiguous = true →
    Apart pointer (readWalk ctx name pointer x) := by
  induction x using Json.induction with
  | object members ih =>
    intro name pointer clear
    obtain ⟨nodup, clear⟩ := Json.unambiguous_object_iff.1 clear
    rw [readWalk_object]
    split
    · -- A token or an alias is alone.
      cases read : (readToken ctx name pointer members).value with
      | none => exact ⟨fun _ h => absurd h List.not_mem_nil, List.nodup_nil⟩
      | some n =>
        obtain ⟨-, rfl, -⟩ := readToken_info read
        refine ⟨fun t ht => ?_, List.nodup_singleton _⟩
        rw [List.mem_singleton.1 ht]
        exact List.prefix_rfl
    · -- A collection stands above all the others.
      obtain ⟨below, distinct⟩ := childWalk_apart pointer nodup fun m hm =>
        ih m hm m.1 (pointer.child m.1) (clear m hm)
      refine ⟨?_, List.nodup_cons.2 ⟨fun here => ?_, distinct⟩⟩
      · intro t ht
        rcases List.mem_cons.1 ht with rfl | ht
        · exact List.prefix_rfl
        · obtain ⟨_, within⟩ := below t ht
          exact within.of_child
      · obtain ⟨t, ht, same⟩ := List.mem_map.1 here
        obtain ⟨_, within⟩ := below t ht
        exact within.ne same
  | _ =>
    intro name pointer _
    rw [readWalk_plain rfl]
    exact ⟨fun _ h => absurd h List.not_mem_nil, List.nodup_nil⟩

/-- Without repeated names, no two nodes below an object have the same pointer. -/
theorem nodup_childWalk (pointer : Pointer) {members : Json.Members}
    (clear : (Json.object members).unambiguous = true) :
    ((childWalk ctx pointer members).map Node.pointer).Nodup := by
  obtain ⟨nodup, clear⟩ := Json.unambiguous_object_iff.1 clear
  exact (childWalk_apart pointer nodup fun m hm =>
    readWalk_apart m.2 m.1 (pointer.child m.1) (clear m hm)).2

/-- Without repeated names, no two nodes of a document have the same pointer. -/
theorem nodup_walk_ofDocument {document : Document} {options : Options} {tree : Tree}
    (clear : document.data.unambiguous = true)
    (h : (ofDocument document options).value = some tree) :
    (tree.walk.map Node.pointer).Nodup := by
  obtain ⟨members, object, rfl⟩ := ofDocument_eq_some h
  change ((Node.walkList (readChildren _ _ members).value).map Node.pointer).Nodup
  rw [walkList_readChildren]
  exact nodup_childWalk Pointer.root (object ▸ clear)

end Tree

end DesignTokens
