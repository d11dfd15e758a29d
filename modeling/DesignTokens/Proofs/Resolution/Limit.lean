import DesignTokens.Proofs.Resolution.History
import DesignTokens.Proofs.Resolution.Reach
import Mathlib.Data.List.Dedup
import Mathlib.Data.List.Perm.Subperm

/-!
# DesignTokens.Proofs.Resolution.Limit — a limit that no walk comes up to

A node that is pending is not entered again, so that a walk is never inside more nodes than there
are. From one node to the next it goes through the fallback lists around a reference, of which no
more are inside one another than in the override that has the most. So a limit for the depth that
allows for both is never met, whatever cycles there are.

1. **Sizes**: the tokens and aliases of all documents (`Environment.tokenCount`), and the fallback
   lists inside one another (`Environment.listLevels`).
2. **Room to spare** (`Roomy`): what is left is enough for the nodes that are not pending yet.
3. **Heights** (`height_lt_of_roomy`): a walk with room to spare is not cut.
4. **Reports** (`whole_of_height_lt`): a walk that is not cut reports no limit.
5. **Answers** (`limit_never_reached`), after any calls.
-/

namespace DesignTokens

/-! ## Sizes -/

namespace Offer

variable {ρ : Type}

mutual

/-- How many fallback lists an offer has inside one another. -/
def listLevels : Offer ρ → Nat
  | .mk _ _ _ _ fallback => listLevelsOf fallback

/-- How many fallback lists are inside one another, from a list on. -/
def listLevelsOf : List (Offer ρ) → Nat
  | [] => 0
  | offer :: rest => max (listLevels offer + 1) (listLevelsOf rest)

end

/-- The levels of an offer are those of its list. -/
theorem listLevels_eq (offer : Offer ρ) : offer.listLevels = listLevelsOf offer.fallback := by
  cases offer
  simp [listLevels, fallback]

/-- An entry nests less deeply than its list. -/
theorem listLevels_lt_of_mem {entries : List (Offer ρ)} {e : Offer ρ} (h : e ∈ entries) :
    e.listLevels < listLevelsOf entries := by
  induction entries with
  | nil => cases h
  | cons head rest ih =>
    simp only [listLevelsOf]
    rcases List.mem_cons.1 h with rfl | h
    · omega
    · have := ih h
      omega

end Offer

namespace Resolution

namespace Environment

variable (env : Environment)

/-- The root document, and every other one that is found under some URI. -/
def documents : List Graph :=
  env.root :: (env.externals.map (·.1)).dedup.filterMap env.external?

/-- How many tokens and aliases there are in all documents. -/
def tokenCount : Nat :=
  (env.documents.flatMap (·.tokens)).length

/-- How many fallback lists are inside one another, in the override that has the most. -/
def listLevels : Nat :=
  ((env.documents.flatMap (·.overrides)).map (·.offer.listLevels)).max?.getD 0

def tokenKeys : List Key :=
  env.documents.flatMap fun g => g.tokens.map (Key.of g)

theorem length_tokenKeys : env.tokenKeys.length = env.tokenCount := by
  simp [tokenKeys, tokenCount, List.length_flatMap]

variable {env} {g : Graph}

/-- A graph that a walk may meet is one of the documents. -/
theorem Has.mem_documents (hg : env.Has g) : g ∈ env.documents := by
  rcases hg with rfl | ⟨_, found⟩
  · exact List.mem_cons_self
  · obtain ⟨front, back, happ, _⟩ := List.lookup_eq_some_iff.1 found
    refine List.mem_cons_of_mem _ (List.mem_filterMap.2 ⟨g.uri, ?_, found⟩)
    rw [List.mem_dedup, happ]
    simp

/-- A token or an alias of a loaded document is among the keys that are counted. -/
theorem Has.mem_tokenKeys (hg : env.Has g) {pointer : Pointer} {node : Graph.Node}
    (found : g.node? pointer = some node) (valued : node.isCollection = false) :
    Key.of g pointer ∈ env.tokenKeys := by
  obtain ⟨mem, rfl⟩ := Graph.node?_eq_some found
  refine List.mem_flatMap.2 ⟨g, hg.mem_documents, List.mem_map_of_mem ?_⟩
  exact List.mem_map_of_mem (List.mem_filter.2 ⟨mem, by simp [valued]⟩)

/-- No list of a loaded document nests more deeply than what is counted. -/
theorem Has.listLevels_le (hg : env.Has g) {entry : Override Reference}
    (he : entry ∈ g.overrides) : entry.offer.listLevels ≤ env.listLevels :=
  List.le_max?_getD_of_mem
    (List.mem_map_of_mem (List.mem_flatMap.2 ⟨g, hg.mem_documents, he⟩))

end Environment

/-! ## Room to spare -/

/-- There is room for all nodes that are not pending, each with all of its fallback lists, and for
some lists of the node that is evaluated. -/
structure Roomy (env : Environment) (lists room : Nat) (pending : List Key) : Prop where
  nodup : pending.Nodup
  known : pending ⊆ env.tokenKeys
  spare : env.tokenCount * (env.listLevels + 1) + lists <
    room + pending.length * (env.listLevels + 1)

namespace Roomy

variable {env : Environment} {lists room : Nat} {pending : List Key}

/-- There are not more pending nodes than there are tokens and aliases. -/
theorem length_le (h : Roomy env lists room pending) : pending.length ≤ env.tokenCount := by
  rw [← env.length_tokenKeys]
  exact (List.subperm_of_subset h.nodup h.known).length_le

/-- Room is left wherever the bound holds. -/
theorem room_pos (h : Roomy env lists room pending) : 0 < room := by
  have enough := Nat.mul_le_mul_right (env.listLevels + 1) h.length_le
  have spare := h.spare
  omega

theorem down (h : Roomy env (lists + 1) (room + 1) pending) : Roomy env lists room pending :=
  ⟨h.nodup, h.known, by have spare := h.spare; omega⟩

theorem mono {fewer : Nat} (h : Roomy env lists room pending) (le : fewer ≤ lists) :
    Roomy env fewer room pending :=
  ⟨h.nodup, h.known, by have spare := h.spare; omega⟩

/-- A node that is entered makes room for its fallback lists: it will not be entered again. -/
theorem enter (h : Roomy env 0 (room + 1) pending) {key : Key} (fresh : key ∉ pending)
    (token : key ∈ env.tokenKeys) : Roomy env env.listLevels room (key :: pending) := by
  refine ⟨List.nodup_cons.2 ⟨fresh, h.nodup⟩, List.cons_subset.2 ⟨token, h.known⟩, ?_⟩
  have spare := h.spare
  rw [List.length_cons, Nat.add_mul]
  omega

/-- At the start of a walk, when nothing is pending. -/
theorem start (enough : env.tokenCount * (env.listLevels + 1) ≤ env.settings.maxDepth) :
    Roomy env 0 (env.settings.maxDepth + 1) [] :=
  ⟨List.nodup_nil, List.nil_subset _, by simp only [List.length_nil]; omega⟩

end Roomy

/-! ## Heights -/

/-- With room for every node and for every level of a list, no walk reaches the limit. -/
private theorem low_all {env : Environment} (registered : env.Registered) (room : Nat) :
    (∀ pending g pointer, env.Has g → Roomy env 0 room pending →
      (visit env room pending g pointer).height < room) ∧
      ∀ pending g type owner entries, env.Has g → entries ≠ [] →
        Roomy env (Offer.listLevelsOf entries) room pending →
          (fallback env room pending g type owner entries).height < room := by
  induction room with
  | zero =>
    exact ⟨fun _ _ _ _ roomy => absurd roomy.room_pos (Nat.lt_irrefl 0),
      fun _ _ _ _ _ _ _ roomy => absurd roomy.room_pos (Nat.lt_irrefl 0)⟩
  | succ room ih =>
    obtain ⟨visits, lists⟩ := ih
    have visit : ∀ pending, Roomy env 0 room pending → ∀ target pointer, env.Has target →
        (heightBridge room).rel (fun _ => True)
          ((plainDeeper env room pending).visit target pointer)
          ((plainDeeper env room pending).visit target pointer) :=
      fun pending roomy target pointer ht => ⟨trivial, visits pending target pointer ht roomy⟩
    -- The lists that may be tried with so much room.
    have list : ∀ pending n, Roomy env n room pending → ∀ g, env.Has g → ∀ type owner entries,
        entries ≠ [] ∧ Offer.listLevelsOf entries ≤ n →
          (heightBridge room).rel (fun _ => True)
            ((plainDeeper env room pending).fallback g type owner entries)
            ((plainDeeper env room pending).fallback g type owner entries) :=
      fun pending n roomy g hg type owner entries h =>
        ⟨trivial, lists pending g type owner entries hg h.1 (roomy.mono h.2)⟩
    constructor
    · intro pending g pointer hg roomy
      by_cases cyclic : Key.of g pointer ∈ pending
      · simp [visit_of_mem env (room + 1) pending g pointer cyclic]
      · rw [visit_succ env room pending g pointer cyclic, Walk.height_touching]
        cases found : g.node? pointer with
        -- A place without a node, and a collection, are not walked from.
        | none => simp [evaluate, found]
        | some node =>
          cases valued : node.isCollection with
          | true =>
            obtain ⟨children, content⟩ := Graph.Node.exists_children valued
            simp [evaluate, found, content]
          | false =>
            -- The node becomes pending, so fewer of them are left, and all levels of its list are
            -- free again.
            have entered := roomy.enter cyclic (hg.mem_tokenKeys found valued)
            have below := (heightBridge room).evaluate_of_tried env
              (fun _ _ h => hg.follow registered h) (visit _ (entered.mono (Nat.zero_le _))) _
              (list _ _ entered g hg) pointer fun entry applies more => by
                have here := (Environment.override?_eq_some applies).1
                exact ⟨more, entry.offer.listLevels_eq ▸ hg.listLevels_le here⟩
            exact Nat.lt_succ_of_le below.2
    · intro pending g type owner entries hg some roomy
      -- Trying a list takes one of its levels.
      obtain ⟨n, hn⟩ : ∃ n, Offer.listLevelsOf entries = n + 1 := by
        obtain ⟨e, he⟩ := List.exists_mem_of_ne_nil entries some
        exact Nat.exists_eq_add_one_of_ne_zero
          (Nat.ne_of_gt (Nat.zero_lt_of_lt (Offer.listLevels_lt_of_mem he)))
      rw [hn] at roomy
      rw [fallback_succ]
      have below := (heightBridge room).tryEntries_of_tried env
        (fun _ _ h => hg.follow registered h) (visit _ (roomy.down.mono (Nat.zero_le _))) _
        (list _ _ roomy.down g hg) type owner entries fun e he more => by
          have deeper := Offer.listLevels_lt_of_mem he
          rw [e.listLevels_eq] at deeper
          exact ⟨more, by omega⟩
      exact Nat.lt_succ_of_le below.2

/-- With room to spare, a walk is not cut. -/
theorem height_lt_of_roomy {env : Environment} (registered : env.Registered) {room : Nat}
    {pending : List Key} (roomy : Roomy env 0 room pending) {g : Graph} (hg : env.Has g)
    (pointer : Pointer) : (visit env room pending g pointer).height < room :=
  (low_all registered room).1 pending g pointer hg roomy

/-! ## Reports -/

/-- No report says that the limit for the depth was exceeded. -/
def Unlimited (log : Log) : Prop :=
  ∀ d ∈ log, d.code ≠ .maxDepthExceeded

theorem unlimited_nil : Unlimited [] :=
  fun _ h => absurd h List.not_mem_nil

/-- A report for another reason. -/
theorem unlimited_located {fault : Fault} (other : fault.code ≠ .maxDepthExceeded)
    (pointer : Pointer) (span : Option Span) : Unlimited [fault.located pointer span] :=
  List.forall_mem_singleton.2 other

/-- A state that the limit for the depth has no part in. -/
structure State.Whole (s : State) : Prop where
  truncated : s.truncated = false
  log : Unlimited s.log

/-- An outcome that the limit for the depth has no part in. -/
def WholeOutcome : Outcome → Prop
  | .ok p => p.truncated = false ∧ Unlimited p.log
  | .error f => f.truncated = false ∧ Unlimited f.log

theorem survives_wholeOutcome : Survives WholeOutcome where
  nothing := ⟨rfl, unlimited_nil⟩
  merge := by
    intro failure outcome before later
    cases outcome with
    | ok payload => exact later
    | error failure' =>
      refine ⟨?_, List.forall_mem_append.2 ⟨before.2, later.2⟩⟩
      simp only [Failure.merge, before.1, later.1, Bool.or_false]

/-- The check of a replacement reports its own faults only. -/
theorem State.Whole.checkReplacement {s : State} (h : s.Whole) (env : Environment) (g : Graph)
    (node : Graph.Node) : (checkReplacement env g node s).Whole := by
  obtain ⟨checks, checked, known⟩ := log_checkReplacement env g node s
  constructor
  · rw [truncated_checkReplacement, h.truncated]
  · rw [checked]
    refine List.forall_mem_append.2 ⟨h.log, fun d hd => ?_⟩
    obtain ⟨reference, type, fault, _, hfault, rfl⟩ := known d hd
    exact ne_of_mem_of_not_mem (code_of_replacementFault hfault) (by decide)

namespace Bridge

variable {m n : Type → Type} [Monad m] [Monad n] (B : Bridge m n)
variable {d : Deeper m} {d' : Deeper n} {env : Environment} {g : Graph}
variable (visit : ∀ target pointer,
  B.rel State.Whole (d.visit target pointer) (d'.visit target pointer))
variable (fallback : ∀ type owner entries,
  B.rel WholeOutcome (d.fallback g type owner entries) (d'.fallback g type owner entries))

include visit

private theorem follow_whole (reference : Reference) :
    B.rel State.Whole (d.follow env g reference) (d'.follow env g reference) := by
  refine B.follow (fun target _ => visit target _) fun fault h => ⟨rfl, unlimited_located ?_ _ _⟩
  rw [code_of_follow h]
  decide

include fallback

private theorem tryOffer_whole (type : Option String) (offer : Offer Reference) :
    B.rel WholeOutcome (Resolution.tryOffer d env g type offer)
      (Resolution.tryOffer d' env g type offer) := by
  refine B.tryOffer survives_wholeOutcome ?_ ?_ fun _ => fallback type _ _
  · intro reference _
    refine B.rel_imp (B.follow_whole visit reference) fun s hs => ?_
    unfold targetOutcome
    split
    · refine ⟨hs.truncated, List.forall_mem_append.2 ⟨hs.log, fun d hd => ?_⟩⟩
      rw [code_of_overrideTypeFault (Option.mem_toList.1 hd)]
      decide
    · exact ⟨hs.truncated, hs.log⟩
  · intro field _
    unfold valueOutcome
    split
    · exact ⟨rfl, unlimited_nil⟩
    · exact ⟨rfl, unlimited_located (by simp [Fault.code]) _ _⟩

/-- A fallback list gives whole outcomes if the levels below do. -/
theorem tryEntries_whole (type : Option String) (owner : Pointer)
    (entries : List (Offer Reference)) :
    B.rel WholeOutcome (Resolution.tryEntries d env g type owner entries)
      (Resolution.tryEntries d' env g type owner entries) := by
  refine B.tryEntries survives_wholeOutcome ?_ ⟨rfl, unlimited_located (by simp [Fault.code]) _ _⟩
  intro e _
  refine B.rel_imp (B.tryOffer_whole visit fallback type e) fun outcome ho => ?_
  cases outcome with
  | ok payload => exact ho
  | error failure => exact ho

/-- A node is evaluated to a whole state if the levels below give such states. -/
theorem evaluate_whole (pointer : Pointer) :
    B.rel State.Whole (Resolution.evaluate d env g pointer)
      (Resolution.evaluate d' env g pointer) := by
  have finish : ∀ node s, s.Whole → B.rel State.Whole (Resolution.finish d env g node s)
      (Resolution.finish d' env g node s) := by
    intro node s whole
    refine B.finish (R := fun _ => WholeOutcome) ?_ ?_ ?_ ?_
    · -- Without an override, with one that gives a payload, and with one that gives none.
      intro _
      exact whole.checkReplacement env g node
    · intro entry _
      exact B.tryOffer_whole visit fallback s.type entry.offer
    · intro entry payload _ given
      refine State.Whole.checkReplacement ⟨?_, ?_⟩ env g node
      · simp only [State.replaceBy, whole.truncated, given.1, Bool.or_false]
      · exact List.forall_mem_append.2 ⟨whole.log, given.2⟩
    · intro entry failure _ failed
      refine State.Whole.checkReplacement ⟨?_, ?_⟩ env g node
      · simp only [State.keepDespite, whole.truncated, failed.1, Bool.or_false]
      · exact List.forall_mem_append.2 ⟨List.forall_mem_append.2 ⟨whole.log, failed.2⟩,
          unlimited_located (by simp [Fault.code]) _ _⟩
  refine B.evaluate ?_ ?_ ?_ ?_
  · intro _
    exact ⟨rfl, unlimited_located (by simp [Fault.code]) _ _⟩
  · intro node children _ _
    exact ⟨rfl, unlimited_located (by simp [Fault.code]) _ _⟩
  · -- A token may lack its value, which is another fault.
    intro node type value _ _
    refine finish node _ ⟨rfl, ?_⟩
    unfold tokenState
    dsimp only
    split
    · exact unlimited_nil
    · exact unlimited_located (by simp [Fault.code]) _ _
  · -- What an alias adds is a disagreement of types at most.
    intro node type reference _ _
    refine B.rel_bind (B.follow_whole visit reference) fun target whole => finish node _ ?_
    refine ⟨whole.truncated, List.forall_mem_append.2 ⟨whole.log, fun d hd => ?_⟩⟩
    rw [code_of_aliasTypeFault (Option.mem_toList.1 hd)]
    decide

end Bridge

/-- Walks that have a property unless they use up the room. -/
def unlessCut (room : Nat) : Bridge Walk Walk where
  rel P x _ := x.height < room → P x.value
  rel_imp h imp := fun low => imp _ (h low)
  rel_pure hP := fun _ => hP
  rel_bind := by
    intro α β P Q x y f h hx hf low
    rw [Walk.height_bind] at low
    exact hf x.value (hx (by omega)) (by omega)

/-- A walk that stays below its limit is whole, and so is a list. -/
private theorem whole_all (env : Environment) (room : Nat) :
    (∀ pending g pointer, (visit env room pending g pointer).height < room →
      (visit env room pending g pointer).value.Whole) ∧
      ∀ pending g type owner entries,
        (fallback env room pending g type owner entries).height < room →
          WholeOutcome (fallback env room pending g type owner entries).value := by
  induction room with
  | zero => exact ⟨fun _ _ _ h => absurd h (Nat.not_lt_zero _),
      fun _ _ _ _ _ h => absurd h (Nat.not_lt_zero _)⟩
  | succ room ih =>
    obtain ⟨visits, lists⟩ := ih
    have visit : ∀ pending target pointer, (unlessCut (room + 1)).rel State.Whole
        ((plainDeeper env room pending).visit target pointer)
        ((plainDeeper env room pending).visit target pointer) :=
      fun pending target pointer low => visits pending target pointer (Nat.lt_of_succ_lt_succ low)
    have fallback : ∀ pending g type owner entries, (unlessCut (room + 1)).rel WholeOutcome
        ((plainDeeper env room pending).fallback g type owner entries)
        ((plainDeeper env room pending).fallback g type owner entries) :=
      fun pending g type owner entries low =>
        lists pending g type owner entries (Nat.lt_of_succ_lt_succ low)
    constructor
    · intro pending g pointer low
      -- A node that is pending ends the walk with a report of its own.
      by_cases cyclic : Key.of g pointer ∈ pending
      · rw [visit_of_mem env (room + 1) pending g pointer cyclic]
        exact ⟨rfl, unlimited_located (by simp [Fault.code]) _ _⟩
      · rw [visit_succ env room pending g pointer cyclic] at low ⊢
        exact (unlessCut (room + 1)).evaluate_whole (visit _) (fallback _ g) pointer low
    · intro pending g type owner entries low
      rw [fallback_succ] at low ⊢
      exact (unlessCut (room + 1)).tryEntries_whole (visit _) (fallback _ g) type owner entries low

/-- A walk that is not cut is not marked as truncated, and reports no limit. -/
theorem whole_of_height_lt {env : Environment} {room : Nat} {pending : List Key} {g : Graph}
    {pointer : Pointer} (low : (visit env room pending g pointer).height < room) :
    (visit env room pending g pointer).value.Whole :=
  (whole_all env room).1 pending g pointer low

/-! ## Answers -/

/-- If the limit for the depth allows for all tokens and aliases of all documents, each with all of
its fallback lists, then no walk comes up to it, after any calls. No visit on the way is cut, and no
state is truncated or reports the limit; if an answer does, a transform said so. -/
theorem limit_never_reached {env : Environment} (registered : env.Registered)
    (enough : env.tokenCount * (env.listLevels + 1) ≤ env.settings.maxDepth)
    (document : Option Document) (transforms : List Transform) (calls : List Resolver.Call)
    (pointer : Pointer) :
    let r := ({ env, document, transforms } : Resolver).performAll calls
    let walk := (ask env r.memory pointer).1
    walk.height ≤ env.settings.maxDepth ∧ walk.value.Whole ∧
      (∀ v ∈ visitsFrom env pointer, (v.walk env).height < v.room ∧ (v.walk env).value.Whole) ∧
      ∀ d ∈ (r.resolve pointer).1.log, d.code = .maxDepthExceeded →
        ∃ earlier token, d ∈ (Transform.runAll transforms earlier token document).log := by
  intro r walk
  have low : ∀ p, (plain env p).height < env.settings.maxDepth + 1 := fun p =>
    height_lt_of_roomy registered (.start enough) env.has_root p
  have same : walk = plain env pointer := ask_after_calls registered rfl rfl fun p _ =>
    soundFrom_of_height_le (Nat.le_of_lt_succ (low p))
  have whole : walk.value.Whole := same ▸ whole_of_height_lt (low pointer)
  refine ⟨same ▸ Nat.le_of_lt_succ (low pointer), whole, fun v hv => ?_, fun d hd code => ?_⟩
  · -- The visits of the plain walk are the ones that stay below the limit.
    have uncut := uncut_of_height_lt (low pointer) v hv
    exact ⟨uncut, whole_of_height_lt uncut⟩
  · obtain ⟨more, log, reported⟩ :=
      Resolver.log_performAll pointer env document transforms calls
    rcases List.mem_append.1 (log ▸ hd) with hd | hd
    · -- What the walk reports is not the limit, so a transform reported it.
      exact absurd code (whole.log d hd)
    · exact reported d hd

/-! ### Two documents that refer to each other -/

namespace Entwined

open Sample (other overridePlace place referenceInto)

/-- In the mode `on`, a token is replaced by one of another document, which is named in a list
within a list. -/
def replaced (uri away : Uri) (name target : String) : Override Reference :=
  let outer := (overridePlace.child "$fallback").index 0
  let inner := (outer.child "$fallback").index 0
  let offer : Offer Reference := .mk overridePlace none none none
    [.mk outer none none none
      [.mk inner none (some (referenceInto away target (inner.child "$ref"))) none []]]
  let entry := Sample.override name [("mode", .string "on")] offer
  { entry with token := { entry.token with target := ⟨uri, place name, false⟩ } }

/-- A document with one token, which is replaced by one of another document. -/
def graph (uri away : Uri) (name target text : String) : Graph :=
  Sample.graph uri [Sample.token name text] [replaced uri away name target]

def environment (maxDepth : Nat) : Environment where
  root := graph Sample.home other "a" "b" "#aaaaaa"
  externals := [(other, graph other Sample.home "b" "a" "#bbbbbb")]
  settings := { context := [("mode", .string "on")], maxDepth }

theorem registered (maxDepth : Nat) : (environment maxDepth).Registered := by
  intro entry h
  obtain rfl := List.mem_singleton.1 h
  rfl

end Entwined

/-- Two tokens, with two lists around each reference: six levels are used up and not exceeded, and
with less the walk would go on below the limit. -/
theorem entwined_within_limit :
    (Entwined.environment 6).Registered ∧
      (Entwined.environment 6).tokenCount * ((Entwined.environment 6).listLevels + 1) ≤ 6 ∧
      (let r := ({ env := Entwined.environment 6 } : Resolver).performAll [.all]
       (ask (Entwined.environment 6) r.memory (Sample.place "a")).1.height ≤ 6 ∧
        (ask (Entwined.environment 6) r.memory (Sample.place "a")).1.value.Whole ∧
        (r.resolve (Sample.place "a")).1.log.codes =
          [.cycleDetected, .fallbackExhausted, .fallbackExhausted, .overrideFailed]) ∧
      (plain (Entwined.environment 5) (Sample.place "a")).height = 6 := by
  have enough : (Entwined.environment 6).tokenCount *
      ((Entwined.environment 6).listLevels + 1) ≤ 6 := by decide
  have reached := limit_never_reached (Entwined.registered 6) enough none [] [.all]
    (Sample.place "a")
  exact ⟨Entwined.registered 6, enough, ⟨reached.1, reached.2.1, by decide⟩, by decide⟩

end Resolution

end DesignTokens
