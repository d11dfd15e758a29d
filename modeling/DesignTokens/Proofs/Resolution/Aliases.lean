import DesignTokens.Proofs.Resolution.Alone
import DesignTokens.Proofs.Resolution.Reports

/-!
# DesignTokens.Proofs.Resolution.Aliases — an alias is its target under another name

In a document that refers to no other one, an alias that is on no cycle has the value of its target,
found in the same way. The walk from the alias visits the target one level further down, and while
the alias is pending; neither makes a difference.

1. **Touched nodes** (`Contract.Kept.touched`): a walk touches only nodes that it may visit.
2. **Targets** (`visit_target`): the walk from the target does not come to the alias, and is not
   cut, so it is the same below the alias.
3. **States** (`plain_alias`): what the alias adds to the state of its target.
4. **Answers** (`alias_transparent`), after any calls.
-/

namespace DesignTokens.Resolution

open Resolver (askedFor answer)

/-! ## Touched nodes -/

namespace Contract

variable {C : Contract} {env : Environment} {pending : List Key}

/-- A node that may be visited while the given nodes, and perhaps others, are pending. -/
def Visited (C : Contract) (pending : List Key) (key : Key) : Prop :=
  ∃ pending' g pointer, pending ⊆ pending' ∧ C.pre pending' g pointer ∧ key = Key.of g pointer

/-- What may be visited while more is pending may be visited while less is. -/
theorem Visited.mono {fewer : List Key} {key : Key} (h : C.Visited pending key)
    (sub : fewer ⊆ pending) : C.Visited fewer key := by
  obtain ⟨pending', g, pointer, sub', pre, rfl⟩ := h
  exact ⟨pending', g, pointer, List.Subset.trans sub sub', pre, rfl⟩

/-- Walks that find what they should and touch only nodes of one kind. -/
def touchBridge (T : Key → Prop) : Bridge Walk Walk where
  rel P x _ := P x.value ∧ ∀ key ∈ x.touched, T key
  rel_imp h imp := ⟨imp _ h.1, h.2⟩
  rel_pure hP := ⟨hP, fun _ h => absurd h List.not_mem_nil⟩
  rel_bind := by
    intro α β P Q x y f k hx hf
    obtain ⟨hP, before⟩ := hx
    obtain ⟨hQ, after⟩ := hf x.value hP
    exact ⟨hQ, fun key hk => (mem_union.1 hk).elim (before key) (after key)⟩

/-- What is touched on the way from a node: the node itself, and nodes that may be visited while it
is pending. -/
def Touches (C : Contract) (pending : List Key) (g : Graph) (pointer : Pointer)
    (walk : Walk State) : Prop :=
  C.post g pointer walk.value ∧ ∀ key ∈ walk.touched,
    key = Key.of g pointer ∨ C.Visited (Key.of g pointer :: pending) key

private theorem Kept.touched_all (kept : C.Kept env) (room : Nat) :
    (∀ pending g pointer, C.pre pending g pointer →
      C.Touches pending g pointer (visit env room pending g pointer)) ∧
      ∀ pending g type owner entries, C.preList pending g entries →
        C.postList g entries (fallback env room pending g type owner entries).value ∧
          ∀ key ∈ (fallback env room pending g type owner entries).touched,
            C.Visited pending key := by
  induction room with
  | zero =>
    constructor
    · -- no room left: a node that is pending closes a cycle, and any other is cut
      intro pending g pointer pre
      by_cases cyclic : Key.of g pointer ∈ pending
      · rw [visit_of_mem env 0 pending g pointer cyclic]
        exact ⟨kept.cycle pre cyclic, by simp⟩
      · rw [visit_zero env pending g pointer cyclic]
        exact ⟨kept.cut pre, by simp⟩
    · intro pending g type owner entries pre
      rw [fallback_zero]
      exact ⟨kept.cutList pre owner, by simp⟩
  | succ room ih =>
    obtain ⟨visits, lists⟩ := ih
    -- What the levels below touch may be visited while this node is pending.
    have below : ∀ pending, C.Below (touchBridge (C.Visited pending)) pending
        (plainDeeper env room pending) (plainDeeper env room pending) := by
      intro pending
      constructor
      · intro g pointer pre
        obtain ⟨post, touched⟩ := visits pending g pointer pre
        refine ⟨post, fun key hk => ?_⟩
        rcases touched key hk with rfl | deeper
        · exact ⟨pending, g, pointer, List.Subset.refl _, pre, rfl⟩
        · exact deeper.mono (List.subset_cons_self _ _)
      · intro g type owner entries pre
        exact lists pending g type owner entries pre
    constructor
    · -- A node that is not pending is evaluated, and touched with all that is below it.
      intro pending g pointer pre
      by_cases cyclic : Key.of g pointer ∈ pending
      · rw [visit_of_mem env (room + 1) pending g pointer cyclic]
        exact ⟨kept.cycle pre cyclic, by simp⟩
      · rw [visit_succ env room pending g pointer cyclic]
        obtain ⟨post, touched⟩ := kept.node pre cyclic _ (below (Key.of g pointer :: pending))
        refine ⟨post, fun key hk => ?_⟩
        rcases mem_union.1 hk with here | deeper
        · exact .inl (List.mem_singleton.1 here)
        · exact .inr (touched key deeper)
    · intro pending g type owner entries pre
      rw [fallback_succ]
      exact kept.list pre type owner _ (below pending)

/-- A walk touches the node that it starts from, and nodes that may be visited while this one is
pending. -/
theorem Kept.touched (kept : C.Kept env) (room : Nat) {g : Graph} {pointer : Pointer}
    (pre : C.pre pending g pointer) :
    C.Touches pending g pointer (visit env room pending g pointer) :=
  (kept.touched_all room).1 pending g pointer pre

end Contract

/-! ## Targets -/

section Target

variable {env : Environment} (single : env.externals = []) (linked : env.root.Linked)
  {p q : Pointer} (hp : env.root.Holds p) (link : env.root.Leads p q)
  (other : p ≠ q) (outside : ¬ env.root.Depends q p)

include single linked hp link other outside

/-- A walk from the target of an alias does not come to the alias, unless the target depends on
it. -/
theorem alias_untouched (room : Nat) :
    Key.of env.root p ∉ (visit env room [Key.of env.root p] env.root q).touched := by
  -- The alias leads to its target, so it may be pending when the walk is there.
  have behind : Behind env.root [Key.of env.root p] q := by
    intro key hkey
    obtain rfl := List.mem_singleton.1 hkey
    exact ⟨hp, fun _ => .single link⟩
  intro touched
  rcases ((reach_kept single linked).touched room ⟨rfl, behind⟩).2 _ touched with same | deeper
  · exact other (congrArg Key.pointer same)
  · -- The alias would be visited while the target is pending, which leads to all that is visited.
    obtain ⟨pending, g, pointer, sub, ⟨rfl, behind⟩, same⟩ := deeper
    obtain rfl : p = pointer := congrArg Key.pointer same
    exact outside ((behind _ (sub List.mem_cons_self)).2 hp)

/-- Below an alias, its target is found as on its own. -/
theorem visit_target (enough : env.tokenCount * (env.listLevels + 1) ≤ env.settings.maxDepth) :
    visit env env.settings.maxDepth [Key.of env.root p] env.root q = plain env q := by
  have registered : env.Registered := by
    intro entry h
    rw [single] at h
    cases h
  have known : Key.of env.root p ∈ env.tokenKeys := by
    obtain ⟨node, found, valued⟩ := hp
    exact env.has_root.mem_tokenKeys found valued
  have roomy : Roomy env 0 env.settings.maxDepth [Key.of env.root p] := by
    refine ⟨List.nodup_singleton _, List.cons_subset.2 ⟨known, List.nil_subset _⟩, ?_⟩
    rw [List.length_singleton]
    omega
  have low := height_lt_of_roomy registered roomy env.has_root q
  refine (visit_local low (Nat.lt_succ_of_lt low) fun key hk => ?_).symm
  -- The walk would have to touch the alias to see that it is pending.
  refine iff_of_false (fun pending => ?_) List.not_mem_nil
  rw [List.mem_singleton] at pending
  subst pending
  exact alias_untouched single linked hp link other outside _ hk

end Target

/-! ## States -/

/-- What is reported on the replacement of a node that resolved to a type. -/
def replacementReport? (env : Environment) (g : Graph) (node : Graph.Node) (type : String) :
    Option Diagnostic :=
  node.replacement.bind fun r => (replacementFault? env g node r type).map (·.atReference r)

/-- The check of a replacement adds its report, if the type is known. -/
theorem log_checkReplacement_of_type {env : Environment} {g : Graph} {node : Graph.Node} {s : State}
    {type : String} (h : s.type = some type) :
    (checkReplacement env g node s).log =
      s.log ++ (replacementReport? env g node type).toList := by
  unfold checkReplacement replacementReport?
  rw [h]
  cases node.replacement with
  | none => simp
  | some r => cases fault : replacementFault? env g node r type <;> simp [fault, State.report]

/-- The type of the target of an alias is reported exactly if it has a value and another type. -/
theorem isSome_aliasTypeFault_iff {node : Graph.Node} {type : Field String} {reference : Reference}
    {target : State} :
    (aliasTypeFault? node type reference target).isSome = true ↔
      target.value.isSome = true ∧ ∃ actual, target.type = some actual ∧ actual ≠ type.value := by
  unfold aliasTypeFault?
  cases target.type with
  | none => simp
  | some actual =>
    -- Without a type or a value there is nothing to compare.
    cases target.value with
    | none => simp
    | some value =>
      by_cases same : type.value = actual
      · simp [TokenType.agree, same]
      · simp [TokenType.agree, same, Ne.symm same]

section Alias

variable {env : Environment} (single : env.externals = []) (linked : env.root.Linked)
  (enough : env.tokenCount * (env.listLevels + 1) ≤ env.settings.maxDepth)
  {node : Graph.Node} {type : Field String} {reference : Reference}
  (found : env.root.node? node.pointer = some node)
  (content : node.content = .aliasTo type reference)
  (internal : reference.target.external = false)
  (holds : env.root.Holds reference.target.pointer)
  (free : env.override? env.root node.pointer = none)
  (other : node.pointer ≠ reference.target.pointer)
  (outside : ¬ env.root.Depends reference.target.pointer node.pointer)

include single linked enough found content internal holds free other outside

/-- An alias that is on no cycle, and has no override, adds to the state of its target what every
alias adds, and the check of its own replacement. -/
theorem plain_alias :
    (plain env node.pointer).value = checkReplacement env env.root node
      (aliasState env.root node type reference (plain env reference.target.pointer).value) := by
  have mem := (Graph.node?_eq_some found).1
  have here : env.root.Holds node.pointer :=
    ⟨node, found, by simp [Graph.Node.isCollection, content]⟩
  have link := (linked.aliases node mem type reference content).internal internal here holds
  rw [← visit_target single linked here link other outside enough, plain,
    visit_succ env env.settings.maxDepth [] env.root node.pointer List.not_mem_nil,
    Walk.value_touching]
  simp only [evaluate, found, content, Deeper.follow, follow_internal internal, finish,
    applyOverride, free, plainDeeper, Walk.value_bind, Walk.value_below, Walk.value_pure]

end Alias

/-! ## Answers -/

section Answers

variable {env : Environment} (alone : env.root.externalReferences = [])
  (enough : env.root.tokens.length * (env.root.listLevels + 1) ≤ env.settings.maxDepth)

/-- Without other documents, each is under its own URI. -/
theorem registered_secluded (env : Environment) : env.secluded.Registered :=
  fun _ h => absurd h List.not_mem_nil

/-- The limit is enough without other documents as well, since only the root document counts. -/
theorem enough_secluded
    (enough : env.root.tokens.length * (env.root.listLevels + 1) ≤ env.settings.maxDepth) :
    env.secluded.tokenCount * (env.secluded.listLevels + 1) ≤ env.secluded.settings.maxDepth := by
  rw [tokenCount_secluded, listLevels_secluded]
  exact enough

include enough

/-- No walk in the root document is cut. -/
theorem height_secluded_le (pointer : Pointer) :
    (plain env.secluded pointer).height ≤ env.secluded.settings.maxDepth :=
  Nat.le_of_lt_succ (height_lt_of_roomy (registered_secluded env) (.start (enough_secluded enough))
    env.secluded.has_root pointer)

/-- The plain walk finds every token and alias. -/
theorem found_secluded {pointer : Pointer} (holds : env.root.Holds pointer) :
    (plain env.secluded pointer).value.found = true := by
  have registered := registered_secluded env
  have walk := ask_eq_plain registered (Memory.faithful_nil env.secluded)
    (soundFrom_of_height_le (height_secluded_le enough pointer))
  obtain ⟨g, known, uri, found⟩ := found_ask (Contract.meets_nil (reporting env.secluded)) pointer
  obtain rfl := known.distinct (Environment.rootAlone_of_registered registered) uri
  rw [walk] at found
  generalize (plain env.secluded pointer).value = s at found
  cases found with
  -- Only a node that is missing is not found, and this one is there.
  | missing absent _ => exact absurd holds absent
  | evaluated e _ _ _ => exact e.found_state

include alone

/-- After any calls, the answer for a token or an alias is made of the state that the plain walk
finds; all else in its log some transforms reported. -/
theorem resolve_of_plain (document : Option Document) (transforms : List Transform)
    (calls : List Resolver.Call) {pointer : Pointer} (holds : env.root.Holds pointer) :
    let given := ((({ env, document, transforms } : Resolver).performAll calls).resolve pointer).1
    let state := (plain env.secluded pointer).value
    given.token = some (state.token env.root.uri pointer) ∧
      ∃ more, given.log = state.log ++ more ∧
        (∀ d ∈ more, ∃ earlier token,
          d ∈ (Transform.runAll transforms earlier token document).log) ∧
        (transforms = [] → more = []) := by
  intro given state
  -- No walk is cut, so what is remembered from earlier calls makes no difference.
  obtain ⟨walk, token⟩ := ask_performAll_eq_plain (registered_secluded env) document transforms
    calls pointer fun p _ => height_secluded_le enough p
  obtain ⟨more, log, reported⟩ :=
    Resolver.log_performAll pointer env.secluded document transforms calls
  have same : given = _ := resolve_alone alone document transforms calls pointer
  rw [walk] at log
  rw [same]
  refine ⟨?_, more, log, reported, ?_⟩
  · rw [token, answer, if_pos (found_secluded enough holds)]
    rfl
  · rintro rfl
    -- Without transforms, there is nothing more.
    refine List.eq_nil_iff_forall_not_mem.2 fun d hd => ?_
    obtain ⟨_, _, none⟩ := reported d hd
    exact absurd none List.not_mem_nil

/-- The plain walk finds for an alias what it finds for the target, with the step of the alias, if
neither an override nor the target leads back to the alias. -/
theorem plain_of_outside {tree : Tree} (built : (Graph.ofTree tree).graph = some env.root)
    {node : Graph.Node} {type : Field String} {reference : Reference}
    (found : env.root.node? node.pointer = some node)
    (content : node.content = .aliasTo type reference)
    (holds : env.root.Holds reference.target.pointer)
    (free : env.override? env.root node.pointer = none)
    (other : node.pointer ≠ reference.target.pointer)
    (outside : node.pointer ∉
      (env.root.closure reference.target.pointer .outward none).map (·.1)) :
    (plain env.secluded node.pointer).value =
      checkReplacement env env.root node (aliasState env.root node type reference
        (plain env.secluded reference.target.pointer).value) := by
  have linked := Graph.linked_ofTree built
  have mem := (Graph.node?_eq_some found).1
  -- No reference of a node leads away, so the replacement is checked alike.
  obtain ⟨nodes, _⟩ := Graph.internal_of_alone alone
  have internal : reference.target.external = false :=
    nodes node mem reference (by simp [Graph.Node.references, Graph.Node.aliasReference?, content])
  -- The closure has all that the target depends on.
  have apart : ¬ env.root.Depends reference.target.pointer node.pointer := by
    intro depends
    exact outside (Graph.mem_closure_of_reaches (Graph.joined_ofTree built)
      (Graph.nodup_pointers_ofTree built) depends.to_reflTransGen other)
  have single : env.secluded.externals = [] := rfl
  rw [← checkReplacement_alone env env.root (nodes node mem)]
  exact plain_alias single linked (enough_secluded enough) found content internal holds free other
    apart

end Answers

/-- The token of an alias is that of its target, with one step more and the type of the alias. -/
theorem token_aliasState (env : Environment) (g : Graph) (node : Graph.Node) (type : Field String)
    (reference : Reference) (t : State) (uri : Uri) (pointer : Pointer) :
    let token :=
      (checkReplacement env g node (aliasState g node type reference t)).token uri node.pointer
    let target := t.token uri pointer
    token.value = target.value ∧ token.source = target.source ∧ token.applied = target.applied ∧
      token.trace = ⟨node.pointer, g.uri, .aliasTo, node.span⟩ :: target.trace ∧
      token.type = some type.value := by
  simp [State.token, aliasState]

/-- In a document that refers to no other one, with room enough for all of it, an alias without an
override that its target does not depend on is transparent. Whatever was asked before of either
resolver, the answer for the alias has the value, the source and the applied overrides of the answer
for the target. Its trace has one step more, its type is the declared one, and what is reported of
it begins with what is reported of the target; the alias adds that the target has another type, if
that has a value, and what is wrong with its own replacement. All else some transforms reported. -/
theorem alias_transparent {tree : Tree} {env : Environment}
    (built : (Graph.ofTree tree).graph = some env.root)
    (alone : env.root.externalReferences = [])
    (enough : env.root.tokens.length * (env.root.listLevels + 1) ≤ env.settings.maxDepth)
    {node : Graph.Node} {type : Field String} {reference : Reference}
    (found : env.root.node? node.pointer = some node)
    (content : node.content = .aliasTo type reference)
    (holds : env.root.Holds reference.target.pointer)
    (free : env.override? env.root node.pointer = none)
    (other : node.pointer ≠ reference.target.pointer)
    (outside : node.pointer ∉
      (env.root.closure reference.target.pointer .outward none).map (·.1))
    (document : Option Document) (transforms : List Transform)
    (calls calls' : List Resolver.Call) :
    let given :=
      ((({ env, document, transforms } : Resolver).performAll calls).resolve node.pointer).1
    let given' := ((({ env, document, transforms } : Resolver).performAll calls').resolve
      reference.target.pointer).1
    ∃ token target : Token, given.token = some token ∧ given'.token = some target ∧
      token.value = target.value ∧ token.source = target.source ∧
      token.applied = target.applied ∧
      token.trace = ⟨node.pointer, env.root.uri, .aliasTo, node.span⟩ :: target.trace ∧
      token.type = some type.value ∧
      ∃ (log more more' : Log) (mismatch : Option Diagnostic),
        given'.log = log ++ more' ∧
        given.log = log ++ mismatch.toList ++
          (replacementReport? env env.root node type.value).toList ++ more ∧
        (∀ d ∈ mismatch, d.code = .targetTypeMismatch) ∧
        (mismatch.isSome = true ↔ target.value.isSome = true ∧
          ∃ actual, target.type = some actual ∧ actual ≠ type.value) ∧
        (∀ d ∈ more ++ more', ∃ earlier token,
          d ∈ (Transform.runAll transforms earlier token document).log) ∧
        (transforms = [] → more = [] ∧ more' = []) := by
  intro given given'
  have here : env.root.Holds node.pointer :=
    ⟨node, found, by simp [Graph.Node.isCollection, content]⟩
  have state := plain_of_outside alone enough built found content holds free other outside
  obtain ⟨token, more, log, reported, silent⟩ :=
    resolve_of_plain alone enough document transforms calls here
  obtain ⟨token', more', log', reported', silent'⟩ :=
    resolve_of_plain alone enough document transforms calls' holds
  -- From here on, the two states are related by `state` only.
  generalize (plain env.secluded node.pointer).value = s at state token log
  generalize (plain env.secluded reference.target.pointer).value = t at state token' log'
  subst state
  have typed : (aliasState env.root node type reference t).type = some type.value := rfl
  obtain ⟨value, source, applied, trace, declared⟩ := token_aliasState env env.root node type
    reference t env.root.uri reference.target.pointer
  refine ⟨_, _, token, token', value, source, applied, trace, declared, t.log, more, more',
    aliasTypeFault? node type reference t, log', ?_, ?_, isSome_aliasTypeFault_iff, ?_,
    fun none => ⟨silent none, silent' none⟩⟩
  · -- the log of the alias: that of its target, then the two checks
    rw [log, log_checkReplacement_of_type typed]
    rfl
  · -- what its type is checked for
    exact fun d hd => code_of_aliasTypeFault hd
  · -- what the transforms reported for either
    exact fun d hd => (List.mem_append.1 hd).elim (reported d) (reported' d)

/-! ### An alias of another type -/

namespace Renamed

open Sample (info overridePlace place text treeAlias treeOverride treeToken)

/-- An alias `link` of `base`, which has another type and is to be replaced by `base`. In the mode
`on`, `base` is replaced by an alias of itself or else by `size`. -/
def tree : Tree :=
  let deprecated := (place "link").child "$deprecated"
  let second := (overridePlace.child "$fallback").index 0
  Sample.tree
    [.aliasTo
      { info (place "link") with
        metadata := {
          deprecated := some
            ⟨⟨true, some (text "#/base" (deprecated.child "$replacement"))⟩, deprecated, none⟩ } }
      (text "number" ((place "link").child "$type"))
      (text "#/base" ((place "link").child "$ref")),
     treeToken "base" "#000000",
     treeAlias "loop" "loop",
     .token (info (place "size")) (some (text "dimension" ((place "size").child "$type")))
      (some ⟨.string "4px", (place "size").child "$value", none⟩)]
    [treeOverride "base"
      (.mk overridePlace none (some (text "#/loop" (overridePlace.child "$ref"))) none
        [.mk second none (some (text "#/size" (second.child "$ref"))) none []])]

/-- There is just room enough for four nodes, with one list inside the override. -/
def env : Environment where
  root := Sample.graphOf tree
  externals := []
  settings := { context := [("mode", .string "on")], maxDepth := 8 }

def answer (calls : List Resolver.Call) (name : String) : Resolution :=
  ((({ env } : Resolver).performAll calls).resolve (place name)).1

/-- What `base` depends on does not lead to `link`. -/
theorem link_outside :
    place "link" ∉ (env.root.closure (place "base") .outward none).map (·.1) := by
  have pointers : env.root.pointers = [place "link", place "base", place "loop", place "size"] := by
    decide +kernel
  have base : env.root.step .outward (place "base") = [place "size", place "loop"] := by
    decide +kernel
  have loop : env.root.step .outward (place "loop") = [place "loop"] := by decide +kernel
  have size : env.root.step .outward (place "size") = [] := by decide +kernel
  simp [Graph.closure, Graph.search, pointers, base, loop, size]

end Renamed

set_option maxRecDepth 10000 in
/-- The answers for `link` and `base`, after different calls. To what is reported of `base`, namely
that `size` has another type, `link` adds two reports: that `base` has another type, and that its
replacement has. -/
theorem link_transparent :
    (Graph.ofTree Renamed.tree).graph = some Renamed.env.root ∧
      Renamed.env.root.tokens.length * (Renamed.env.root.listLevels + 1) ≤
        Renamed.env.settings.maxDepth ∧
      ∃ token target : Token,
        (Renamed.answer [.node (Sample.place "loop")] "link").token = some token ∧
        (Renamed.answer [.all] "base").token = some target ∧
        token.value = target.value ∧ token.source = target.source ∧
        token.applied = target.applied ∧ target.applied.map (·.kind) = [.override, .fallback] ∧
        token.trace.drop 1 = target.trace ∧
        (token.type, target.type) = (some "number", some "dimension") ∧
        (Renamed.answer [.all] "base").log.map (·.code) = [.targetTypeMismatch] ∧
        ((Renamed.answer [.node (Sample.place "loop")] "link").log.drop 1).length = 2 := by
  have built : (Graph.ofTree Renamed.tree).graph = some Renamed.env.root :=
    Sample.ofTree_graphOf (by decide +kernel)
  have enough : Renamed.env.root.tokens.length * (Renamed.env.root.listLevels + 1) ≤
      Renamed.env.settings.maxDepth := by decide +kernel
  have alone : Renamed.env.root.externalReferences = [] := List.isEmpty_iff.1 (by decide +kernel)
  have leads : (Renamed.env.root.node? (Sample.place "link")).bind (fun node =>
      node.aliasReference?.map fun r => (node.pointer, r.target.pointer)) =
        some (Sample.place "link", Sample.place "base") := by decide +kernel
  obtain ⟨node, found, refers⟩ := Option.bind_eq_some_iff.1 leads
  obtain ⟨reference, refers, same⟩ := Option.map_eq_some_iff.1 refers
  obtain ⟨here, there⟩ := Prod.mk.inj same
  rw [← here] at found
  obtain ⟨type, content⟩ : ∃ type, node.content = .aliasTo type reference := by
    cases content : node.content <;> simp_all [Graph.Node.aliasReference?]
  -- The target is a token of the graph.
  have holds : Renamed.env.root.Holds reference.target.pointer := by
    rw [there]
    exact (Graph.mem_tokens_iff (Graph.nodup_pointers_ofTree built)).1 (by decide +kernel)
  -- No override is in force for the alias.
  have free : Renamed.env.override? Renamed.env.root node.pointer = none := by
    rw [here]
    exact Option.isNone_iff_eq_none.1 (by decide +kernel)
  obtain ⟨token, target, given, given', value, source, applied, trace, _⟩ :=
    alias_transparent built alone enough found content holds free
      (by rw [here, there]; simp) (by rw [here, there]; exact Renamed.link_outside) none []
      [.node (Sample.place "loop")] [.all]
  -- The two answers are those that the theorem is about.
  rw [here] at given
  rw [there] at given'
  have types : ((Renamed.answer [.node (Sample.place "loop")] "link").token.bind (·.type),
      (Renamed.answer [.all] "base").token.bind (·.type)) = (some "number", some "dimension") := by
    decide +kernel
  have kinds : (Renamed.answer [.all] "base").token.map
      (fun target => target.applied.map (·.kind)) =
      some [.override, .fallback] := by decide +kernel
  have codes : (Renamed.answer [.all] "base").log.map (·.code) = [.targetTypeMismatch] := by
    decide +kernel
  have added : ((Renamed.answer [.node (Sample.place "loop")] "link").log.drop 1).length = 2 := by
    decide +kernel
  unfold Renamed.answer at types kinds codes added ⊢
  rw [given, given'] at types
  rw [given'] at kinds
  exact ⟨built, enough, token, target, given, given', value, source, applied, Option.some.inj kinds,
    by rw [trace, List.drop_one, List.tail_cons], types, codes, added⟩

end DesignTokens.Resolution
