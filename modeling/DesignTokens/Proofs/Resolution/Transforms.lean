import DesignTokens.Proofs.Json.Same
import DesignTokens.Proofs.Resolution.Calls
import DesignTokens.Proofs.Sample

/-!
# DesignTokens.Proofs.Resolution.Transforms — transforms run once and leave resolution alone

A transform is a state machine that may fail at any token. The resolver shows every transform the
first token of each pointer, keeps what came out, and repeats it from then on. Two resolvers, one
with transforms and one without, are asked the same; what they answer differs only by that.

1. **Machines** (`Machine`), their answers one after the other (`Machine.answer`), and what all of
   them attach to a token and report on it (`Machine.contribution`).
2. **Tokens that are seen** (`see`): the first one for each pointer.
3. **In step** (`Resolver.Hosts`): a resolver with transforms beside one without them.
4. **Calls** (`Resolver.Together`): what one call keeps, and what any sequence of calls keeps.
5. **Isolation** (`Resolver.transforms_isolated`).
-/

namespace DesignTokens

open Resolution

namespace Resolution

/-! ## Machines -/

/-- A transform of the host as a state machine: each call gives an answer, which may be a failure or
a crash, and the state before the next call. -/
structure Machine where
  plugin : String
  State : Type
  initial : State
  step : State → Token → Option Document → Except Transform.Fault Transform.Output × State

namespace Machine

variable (document : Option Document)

/-- The state after a call for each of some tokens, one after the other. -/
def stateAfter (m : Machine) (tokens : List Token) : m.State :=
  tokens.foldl (fun state token => (m.step state token document).2) m.initial

/-- The answer to a call that comes after a call for each of some tokens. -/
def answer (m : Machine) (earlier : List Token) (token : Token) :
    Except Transform.Fault Transform.Output :=
  (m.step (m.stateAfter document earlier) token document).1

/-- The transform that a machine is. -/
def transform (m : Machine) : Transform where
  plugin := m.plugin
  answer earlier token document := m.answer document earlier.reverse token

/-- The answers of some machines to one call each, in their order. -/
def calls (machines : List Machine) (earlier : List Token) (token : Token) :
    List (String × Except Transform.Fault Transform.Output) :=
  machines.map fun m => (m.plugin, m.answer document earlier token)

/-- What is attached to a token: the outputs of the calls that succeeded. -/
def derived (calls : List (String × Except Transform.Fault Transform.Output)) : List Derived :=
  calls.filterMap fun (plugin, answer) => answer.toOption.map fun output => ⟨plugin, output.data⟩

/-- What is reported on a token: what the outputs come with, and one diagnostic for each call that
failed. -/
def reports (pointer : Pointer)
    (calls : List (String × Except Transform.Fault Transform.Output)) : Log :=
  calls.flatMap fun (plugin, answer) =>
    match answer with
    | .ok output => output.log
    | .error fault => [fault.diagnostic plugin pointer]

/-- What the transforms contribute to an answer. -/
def contribution (machines : List Machine) (earlier : List Token) (token : Token) :
    Transform.Outcome :=
  let calls := calls document machines earlier token
  ⟨derived calls, reports token.pointer calls⟩

/-- Transforms that are machines give what the machines contribute, one after the other. -/
theorem runAll_transforms (machines : List Machine) (earlier : List Token) (token : Token) :
    Transform.runAll (machines.map transform) earlier token document =
      contribution document machines earlier.reverse token := by
  induction machines with
  | nil => rfl
  | cons m rest ih =>
    simp only [Transform.runAll, contribution, calls, derived, reports, List.map_cons,
      List.flatMap_cons, List.filterMap_cons, Transform.Outcome.mk.injEq] at ih ⊢
    rw [ih.1, ih.2, Transform.run]
    cases h : m.answer document earlier.reverse token <;> simp [transform, h, Except.toOption]

/-- A call that fails is reported at the token. -/
theorem reported_at (fault : Transform.Fault) (plugin : String) (pointer : Pointer) :
    (fault.diagnostic plugin pointer).code = .transformFailed ∧
      (fault.diagnostic plugin pointer).pointer = some pointer :=
  ⟨rfl, rfl⟩

end Machine

/-! ## Tokens that are seen -/

/-- The tokens that were seen, after one more: only the first one for a pointer counts. -/
def see (seen : List Token) (token : Token) : List Token :=
  if token.pointer ∈ seen.map (·.pointer) then seen else seen ++ [token]

/-- The tokens that were seen, after some answers. -/
def seeAll (seen : List Token) (answers : List Resolution) : List Token :=
  (answers.filterMap (·.token)).foldl see seen

theorem seeAll_append (seen : List Token) (answers answers' : List Resolution) :
    seeAll seen (answers ++ answers') = seeAll (seeAll seen answers) answers' := by
  rw [seeAll, seeAll, seeAll, List.filterMap_append, List.foldl_append]

theorem isPrefix_see (seen : List Token) (token : Token) : seen <+: see seen token := by
  unfold see
  split
  · exact List.prefix_refl seen
  · exact List.prefix_append seen [token]

theorem isPrefix_seeAll (seen : List Token) (answers : List Resolution) :
    seen <+: seeAll seen answers := by
  unfold seeAll
  induction answers.filterMap (·.token) generalizing seen with
  | nil => exact List.prefix_refl seen
  | cons token rest ih => exact (isPrefix_see seen token).trans (ih (see seen token))

/-- The answer to a question that was also put to a resolver without transforms: what the transforms
contribute comes from the token of this pointer that was seen first. -/
def Extends (machines : List Machine) (document : Option Document) (seen : List Token)
    (plain answer : Resolution) : Prop :=
  match plain.token with
  | none => answer = plain
  | some token => ∃ earlier first later, seen = earlier ++ first :: later ∧
      first.pointer = token.pointer ∧
      answer.token = some token ∧
      answer.log = plain.log ++ (Machine.contribution document machines earlier first).log ∧
      answer.derived = (Machine.contribution document machines earlier first).derived

/-- What extends an answer goes on doing so when more is seen. -/
theorem Extends.mono {machines : List Machine} {document : Option Document}
    {seen seen' : List Token} {plain answer : Resolution}
    (h : Extends machines document seen plain answer) (more : seen <+: seen') :
    Extends machines document seen' plain answer := by
  unfold Extends at h ⊢
  split at h
  · exact h
  · obtain ⟨earlier, first, later, rfl, same, rest⟩ := h
    obtain ⟨more, rfl⟩ := more
    exact ⟨earlier, first, later ++ more, by simp, same, rest⟩

end Resolution

namespace Resolver

variable {machines : List Machine} {document : Option Document} {seen : List Token}
  {plain r : Resolver}

/-! ## In step -/

/-- The outcomes that a resolver keeps after its transforms were asked about some tokens, the latest
first. -/
def kept (document : Option Document) (machines : List Machine) :
    List Token → List (Pointer × Transform.Outcome)
  | [] => []
  | token :: earlier =>
    (token.pointer, Machine.contribution document machines earlier.reverse token) ::
      kept document machines earlier

/-- A resolver has machines as its transforms, and is beside a resolver without transforms; each
machine was called once for each of the tokens that were seen, in this order. -/
structure Hosts (machines : List Machine) (document : Option Document) (seen : List Token)
    (plain r : Resolver) : Prop where
  env : r.env = plain.env
  memory : r.memory = plain.memory
  bare : plain.transforms = []
  transforms : r.transforms = machines.map Machine.transform
  distinct : (seen.map (·.pointer)).Nodup
  asked : machines ≠ [] → r.asked.reverse = seen
  transformed : r.transformed = kept document machines r.asked
  document : r.document = document

/-- What is kept for a pointer comes from the token of this pointer that was seen. -/
theorem lookup_kept {tokens : List Token} {pointer : Pointer} {outcome : Transform.Outcome}
    (h : (kept document machines tokens).lookup pointer = some outcome) :
    ∃ earlier first later, tokens.reverse = earlier ++ first :: later ∧ first.pointer = pointer ∧
      outcome = Machine.contribution document machines earlier first := by
  induction tokens with
  | nil => simp [kept] at h
  | cons token earlier ih =>
    rw [kept, List.lookup_cons] at h
    split at h
    · -- The newest token has this pointer.
      next same =>
      cases h
      exact ⟨earlier.reverse, token, [], by simp, (beq_iff_eq.1 same).symm, rfl⟩
    · -- It has another one, so an earlier token is found.
      obtain ⟨before, first, later, split, named, rest⟩ := ih h
      exact ⟨before, first, later ++ [token], by simp [split], named, rest⟩

/-- Nothing is kept for a pointer that was not seen. -/
theorem lookup_kept_eq_none {tokens : List Token} {pointer : Pointer}
    (h : (kept document machines tokens).lookup pointer = none) :
    pointer ∉ tokens.map (·.pointer) := by
  induction tokens with
  | nil => simp
  | cons token earlier ih =>
    rw [kept, List.lookup_cons] at h
    split at h
    · cases h
    · next other =>
      rw [List.map_cons, List.mem_cons, not_or]
      exact ⟨fun same => by simp [same] at other, ih h⟩

theorem nodup_see {token : Token} (h : (seen.map (·.pointer)).Nodup) :
    ((see seen token).map (·.pointer)).Nodup := by
  unfold see
  split
  · exact h
  · next fresh =>
    rw [List.map_append, List.nodup_append]
    refine ⟨h, by simp, fun p hp q hq same => fresh ?_⟩
    rw [List.map_singleton, List.mem_singleton] at hq
    rwa [← hq, ← same]

/-- The token that stands for its pointer is among those that were seen. -/
theorem exists_first (seen : List Token) (token : Token) :
    ∃ earlier first later, see seen token = earlier ++ first :: later ∧
      first.pointer = token.pointer := by
  unfold see
  split
  · next known =>
    obtain ⟨first, hfirst, same⟩ := List.mem_map.1 known
    obtain ⟨earlier, later, split⟩ := List.append_of_mem hfirst
    exact ⟨earlier, first, later, split, same⟩
  · exact ⟨seen, token, [], rfl, rfl⟩

/-- The transforms at a token: they are called if its pointer is new to them, and not else. -/
theorem transform_of_hosts (h : Hosts machines document seen plain r) (token : Token) :
    (∃ earlier first later, see seen token = earlier ++ first :: later ∧
      first.pointer = token.pointer ∧
      (r.transform token).1 = Machine.contribution document machines earlier first) ∧
    Hosts machines document (see seen token) plain (r.transform token).2 := by
  -- Without machines the resolver transforms nothing, as one that has none.
  by_cases none : machines = []
  · subst none
    have idle : r.transform token = (⟨[], []⟩, r) := by
      rw [transform, h.transforms]
      rfl
    obtain ⟨earlier, first, later, split, same⟩ := exists_first seen token
    rw [idle]
    exact ⟨⟨earlier, first, later, split, same, rfl⟩,
      { h with distinct := nodup_see h.distinct, asked := fun some => absurd rfl some }⟩
  · have asked := h.asked none
    have busy : r.transforms.isEmpty = false := by simp [h.transforms, none]
    rw [transform, busy, h.transformed]
    simp only [Bool.false_eq_true, if_false]
    split
    · -- The pointer was transformed before, so the machines are not called again.
      next outcome found =>
      obtain ⟨earlier, first, later, split, same, outcome⟩ := lookup_kept found
      rw [asked] at split
      have known : see seen token = seen := by
        have mem : token.pointer ∈ seen.map (·.pointer) :=
          List.mem_map.2 ⟨first, by simp [split], same⟩
        rw [see, if_pos mem]
      rw [known]
      exact ⟨⟨earlier, first, later, split, same, outcome⟩, h⟩
    · -- It is new, so the machines are called with what was seen before.
      next absent =>
      have fresh : token.pointer ∉ seen.map (·.pointer) := by
        rw [← asked, List.map_reverse, List.mem_reverse]
        exact lookup_kept_eq_none absent
      have called : see seen token = seen ++ [token] := by rw [see, if_neg fresh]
      have outcome : Transform.runAll r.transforms r.asked token r.document =
          Machine.contribution document machines seen token := by
        rw [h.transforms, h.document, Machine.runAll_transforms, asked]
      rw [outcome]
      refine ⟨⟨seen, token, [], called, rfl, rfl⟩,
        { h with distinct := nodup_see h.distinct, asked := fun _ => ?_, transformed := ?_ }⟩
      · rw [List.reverse_cons, asked, called]
      · rw [kept, asked]

/-! ## Calls -/

/-- The same was asked of a resolver without transforms and of one with them: what both answered,
and what they became. -/
structure Together (machines : List Machine) (document : Option Document) (seen : List Token)
    (plains answers : List Resolution) (plain r : Resolver) : Prop where
  answers : List.Forall₂ (Extends machines document (seeAll seen plains)) plains answers
  after : Hosts machines document (seeAll seen plains) plain r

variable {plains plains' answers answers' : List Resolution} {plain' r' : Resolver}
  {pointer : Pointer}

/-- Nothing was asked. -/
theorem Hosts.refl (h : Hosts machines document seen plain r) :
    Together machines document seen [] [] plain r :=
  ⟨.nil, h⟩

/-- Two stretches of calls, one after the other. -/
theorem Together.trans (h : Together machines document seen plains answers plain r)
    (h' : Together machines document (seeAll seen plains) plains' answers' plain' r') :
    Together machines document seen (plains ++ plains') (answers ++ answers') plain' r' where
  answers := by
    rw [seeAll_append]
    refine List.rel_append (h.answers.imp fun a a' extends' => ?_) h'.answers
    exact extends'.mono (isPrefix_seeAll (seeAll seen plains) plains')
  after := by
    rw [seeAll_append]
    exact h'.after

/-- The resolver after a walk, before its transforms are asked. -/
def walked (r : Resolver) (pointer : Pointer) : Resolver :=
  { r with memory := (ask r.env r.memory pointer).2 }

theorem resolve_of_found {s : State} (found : s.found = true)
    (walk : (ask r.env r.memory pointer).1.value = s) :
    r.resolve pointer =
      let outcome := (r.walked pointer).transform (s.token r.env.root.uri pointer)
      ({ token := some (s.token r.env.root.uri pointer), log := s.log ++ outcome.1.log,
         derived := outcome.1.derived }, outcome.2) := by
  subst walk
  unfold resolve
  exact if_pos found

theorem resolve_of_not_found {s : State} (absent : s.found = false)
    (walk : (ask r.env r.memory pointer).1.value = s) :
    r.resolve pointer = ({ token := none, log := s.log, derived := [] }, r.walked pointer) := by
  subst walk
  unfold resolve
  exact if_neg (by simp only [Bool.not_eq_true]; exact absent)

/-- One pointer. -/
theorem together_resolve (h : Hosts machines document seen plain r) (pointer : Pointer) :
    Together machines document seen [(plain.resolve pointer).1] [(r.resolve pointer).1]
      (plain.resolve pointer).2 (r.resolve pointer).2 := by
  have hosts : Hosts machines document seen (plain.walked pointer) (r.walked pointer) :=
    { h with memory := by rw [walked, walked, h.env, h.memory] }
  have bare (token : Token) :
      (plain.walked pointer).transform token = (⟨[], []⟩, plain.walked pointer) := by
    rw [transform, hosts.bare]
    rfl
  -- Both resolvers walk with the same memory.
  have same : ask r.env r.memory pointer = ask plain.env plain.memory pointer := by
    rw [h.env, h.memory]
  cases found : (ask plain.env plain.memory pointer).1.value.found with
  | false =>
    -- No token, and nothing to transform.
    rw [resolve_of_not_found found rfl, resolve_of_not_found found (by rw [same])]
    exact ⟨.cons rfl .nil, hosts⟩
  | true =>
    -- A token, which the machines see.
    rw [resolve_of_found found rfl, resolve_of_found found (by rw [same]), h.env, bare]
    dsimp only
    obtain ⟨⟨earlier, first, later, split, named, outcome⟩, after⟩ := transform_of_hosts hosts
      ((ask plain.env plain.memory pointer).1.value.token plain.env.root.uri pointer)
    refine ⟨.cons ⟨earlier, first, later, split, named, rfl, ?_, ?_⟩ .nil, after⟩
    · rw [← outcome]
      simp
    · rw [← outcome]

theorem together_resolveText (h : Hosts machines document seen plain r) (text : String) :
    Together machines document seen [(plain.resolveText text).1] [(r.resolveText text).1]
      (plain.resolveText text).2 (r.resolveText text).2 := by
  unfold resolveText
  cases Pointer.parse text with
  | ok pointer => exact together_resolve h pointer
  | error fault => exact ⟨.cons rfl .nil, h⟩

theorem together_resolveEach (pointers : List Pointer)
    (h : Hosts machines document seen plain r) :
    Together machines document seen ((plain.resolveEach pointers).1.map (·.2))
      ((r.resolveEach pointers).1.map (·.2)) (plain.resolveEach pointers).2
      (r.resolveEach pointers).2 := by
  induction pointers generalizing seen plain r with
  | nil => exact h.refl
  | cons pointer rest ih =>
    have first := together_resolve h pointer
    exact first.trans (ih first.after)

/-- One call. -/
theorem together_perform (h : Hosts machines document seen plain r) (call : Call) :
    Together machines document seen (plain.answers call) (r.answers call) (plain.perform call)
      (r.perform call) := by
  cases call with
  | node pointer => exact together_resolve h pointer
  | named text => exact together_resolveText h text
  | all =>
    unfold answers perform resolveAll
    rw [h.env]
    exact together_resolveEach plain.env.root.tokens h

/-- All answers to some calls, one after the other. -/
def allAnswers (r : Resolver) : List Call → List Resolution
  | [] => []
  | call :: rest => r.answers call ++ (r.perform call).allAnswers rest

/-- Any sequence of calls. -/
theorem together_performAll (calls : List Call) (h : Hosts machines document seen plain r) :
    Together machines document seen (plain.allAnswers calls) (r.allAnswers calls)
      (plain.performAll calls) (r.performAll calls) := by
  induction calls generalizing seen plain r with
  | nil => exact h.refl
  | cons call rest ih =>
    have first := together_perform h call
    exact first.trans (ih first.after)

/-! ## Isolation -/

/-- A resolver with the given machines as its transforms, that was asked nothing yet. -/
def hosting (env : Environment) (document : Option Document) (machines : List Machine) : Resolver :=
  { env, document, transforms := machines.map Machine.transform }

/-- The tokens that are seen when a resolver is asked some questions. -/
def seenBy (env : Environment) (calls : List Call) : List Token :=
  seeAll [] ((new env).allAnswers calls)

/-- What the transforms contribute to every answer for a pointer: what they make of the first token
that was seen for it. -/
def contributionAt (document : Option Document) (machines : List Machine) (seen : List Token)
    (pointer : Pointer) : Transform.Outcome :=
  match seen.find? (·.pointer = pointer) with
  | some first =>
    Machine.contribution document machines (seen.takeWhile (·.pointer ≠ pointer)) first
  | none => ⟨[], []⟩

/-- An answer of a resolver without transforms, with what the transforms contribute. -/
def contributed (document : Option Document) (machines : List Machine) (seen : List Token)
    (plain : Resolution) : Resolution :=
  match plain.token with
  | none => plain
  | some token =>
    let outcome := contributionAt document machines seen token.pointer
    { token := some token, log := plain.log ++ outcome.log, derived := outcome.derived }

/-- The contribution for a pointer is that of its first token. -/
theorem contributionAt_of_split {earlier later : List Token} {first : Token}
    (distinct : ((earlier ++ first :: later).map (·.pointer)).Nodup) :
    contributionAt document machines (earlier ++ first :: later) first.pointer =
      Machine.contribution document machines earlier first := by
  -- No earlier token has the pointer.
  have other : ∀ t ∈ earlier, t.pointer ≠ first.pointer := by
    rw [List.map_append, List.map_cons, List.nodup_append] at distinct
    exact fun t ht => distinct.2.2 _ (List.mem_map_of_mem ht) _ List.mem_cons_self
  have found : (earlier ++ first :: later).find? (·.pointer = first.pointer) = some first := by
    rw [List.find?_append, List.find?_eq_none.2 (by simpa using other)]
    simp
  have before : (earlier ++ first :: later).takeWhile (·.pointer ≠ first.pointer) = earlier := by
    rw [List.takeWhile_append_of_pos (by simpa using other)]
    simp
  rw [contributionAt, found, before]

/-- An answer that extends another one is determined by it and by what was seen. -/
theorem eq_contributed (distinct : (seen.map (·.pointer)).Nodup) {a a' : Resolution}
    (h : Extends machines document seen a a') : a' = contributed document machines seen a := by
  unfold Extends at h
  unfold contributed
  split at h
  · exact h
  · obtain ⟨earlier, first, later, rfl, same, token, log, derived⟩ := h
    rw [← same, contributionAt_of_split distinct]
    dsimp only
    rw [← log, ← derived, ← token]

/-- Transforms are isolated from resolution and from each other. -/
structure Isolates (env : Environment) (document : Option Document) (machines : List Machine)
    (calls : List Call) : Prop where
  /-- Without what they contribute, all answers are those of a resolver without transforms. -/
  answers : (hosting env document machines).allAnswers calls =
    ((new env).allAnswers calls).map (contributed document machines (seenBy env calls))
  /-- They are called for the tokens that are seen, once and in this order, and for nothing else. -/
  called : machines ≠ [] →
    ((hosting env document machines).performAll calls).asked.reverse = seenBy env calls
  distinct : ((seenBy env calls).map (·.pointer)).Nodup
  /-- What they contribute to a token are their answers to the call for the one that is seen of its
  pointer, after a call for each of the tokens that are seen before. -/
  first : ∀ a ∈ (new env).allAnswers calls, ∀ token, a.token = some token →
    ∃ earlier first later, seenBy env calls = earlier ++ first :: later ∧
      first.pointer = token.pointer ∧
      contributionAt document machines (seenBy env calls) token.pointer =
        Machine.contribution document machines earlier first
  /-- A call that fails is reported at the pointer. -/
  failed : ∀ (fault : Transform.Fault) (plugin : String) (pointer : Pointer),
    (fault.diagnostic plugin pointer).code = .transformFailed ∧
      (fault.diagnostic plugin pointer).pointer = some pointer

/-- For any machines, which may fail at any token, and for any calls: every answer is that of a
resolver without transforms, with what the machines contribute. They contribute the same to every
answer for a pointer, since each of them is called once for it, when its first token is found. -/
theorem transforms_isolated (env : Environment) (document : Option Document)
    (machines : List Machine) (calls : List Call) : Isolates env document machines calls := by
  have start : Hosts machines document [] (new env) (hosting env document machines) :=
    { env := rfl, memory := rfl, bare := rfl, transforms := rfl, distinct := List.nodup_nil
      asked := fun _ => rfl, transformed := rfl, document := rfl }
  have together := together_performAll calls start
  have answers : List.Forall₂ (Extends machines document (seenBy env calls))
      ((new env).allAnswers calls) ((hosting env document machines).allAnswers calls) :=
    together.answers
  have distinct : ((seenBy env calls).map (·.pointer)).Nodup := together.after.distinct
  constructor
  case answers =>
    have equal : List.Forall₂ (· = ·) (((new env).allAnswers calls).map
        (contributed document machines (seenBy env calls)))
        ((hosting env document machines).allAnswers calls) :=
      List.forall₂_map_left_iff.2 (answers.imp fun a a' h => (eq_contributed distinct h).symm)
    rw [List.forall₂_eq_eq_eq] at equal
    exact equal.symm
  case distinct => exact distinct
  case first =>
    intro a ha token given
    obtain ⟨a', _, extended⟩ := (matched_of_forall₂ answers).left a ha
    rw [Extends, given] at extended
    obtain ⟨earlier, first, later, split, same, _⟩ := extended
    refine ⟨earlier, first, later, split, same, ?_⟩
    rw [split] at distinct
    rw [split, ← same, contributionAt_of_split distinct]
  case called => exact together.after.asked
  case failed => exact Machine.reported_at

/-! ### A transform that fails -/

namespace Flaky

open Sample (place)

/-- It counts its calls, and fails at the second one. -/
def counter : Machine where
  plugin := "counter"
  State := Nat
  initial := 0
  step n _ _ := (if n = 1 then .error (.failed ⟨["full"]⟩) else .ok ⟨some (.int n), []⟩, n + 1)

/-- It attaches nothing, and never fails. -/
def steady : Machine where
  plugin := "steady"
  State := Unit
  initial := ()
  step _ _ _ := (.ok ⟨none, []⟩, ())

def environment : Environment where
  root := Sample.graph Sample.home [Sample.token "a" "#aaaaaa", Sample.token "b" "#bbbbbb"] []
  externals := []
  settings := {}

/-- The failure at `b` is reported, and the other transform is called there all the same. When all
tokens are asked for later, none is called again. -/
example :
    ((hosting environment none [counter, steady]).allAnswers
        [.node (place "a"), .node (place "b"), .all]).map
      (fun answer => (answer.derived.map (·.plugin), answer.log.codes)) =
        [(["counter", "steady"], []), (["steady"], [.transformFailed]),
         (["counter", "steady"], []), (["steady"], [.transformFailed])] := by
  decide

end Flaky

end Resolver

end DesignTokens
