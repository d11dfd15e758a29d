import DesignTokens.Proofs.Graph.Likeness
import DesignTokens.Proofs.Resolution.Memory

/-!
# DesignTokens.Proofs.Resolution.Likeness — nodes of alike graphs are evaluated alike

Two walks that remember, one against a graph and one against an alike one, go the same way: they
touch the same nodes, go down as far, and find states that are alike. This is shown rule by rule for
the evaluation of one node, given that it is so of the levels below.

1. **States** and outcomes that are alike (`Likeness.States`, `Likeness.Outcomes`).
2. **Walks that remember** (`Likeness.Recalls`), from alike memories.
3. **Environments** (`Likeness.Environments`): references lead to alike graphs, and the same
   override applies.
4. **Candidates** (`Likeness.Recalls.tryOffer`, `Likeness.Recalls.tryEntries`).
5. **Nodes** (`Likeness.Recalls.evaluate`).
-/

namespace DesignTokens.Likeness

open Resolution

variable (L : Likeness)

/-! ## States -/

/-- A log, as far as it is compared. -/
def log (log : Log) : Log :=
  if L.reports then log else []

def source (s : Source) : Source :=
  { s with span := L.span s.span }

def step (s : Step) : Step :=
  { s with span := L.span s.span }

/-- What was applied, without the span of its source unless this is compared. -/
def applied (a : Applied) : Applied :=
  { a with source := a.source.map L.source }

/-- States with alike values from the same places, which were found on the same way. -/
structure States (s s' : State) : Prop where
  found : s.found = s'.found
  type : s.type = s'.type
  value : Option.Rel L.value s.value s'.value
  source : s.source.map L.source = s'.source.map L.source
  applied : s.applied.map L.applied = s'.applied.map L.applied
  trace : s.trace.map L.step = s'.trace.map L.step
  log : L.log s.log = L.log s'.log
  truncated : s.truncated = s'.truncated

/-- Usable values that are alike, from the same places. -/
structure Payloads (p p' : Payload) : Prop where
  value : L.value p.value p'.value
  source : p.source.map L.source = p'.source.map L.source
  type : p.type = p'.type
  trace : p.trace.map L.step = p'.trace.map L.step
  applied : p.applied.map L.applied = p'.applied.map L.applied
  log : L.log p.log = L.log p'.log
  truncated : p.truncated = p'.truncated

/-- Failures for the same reasons. -/
structure Failures (f f' : Failure) : Prop where
  log : L.log f.log = L.log f'.log
  truncated : f.truncated = f'.truncated

/-- Alike values, or failures for the same reasons. -/
inductive Outcomes : Outcome → Outcome → Prop where
  | ok {p p' : Payload} (h : L.Payloads p p') : Outcomes (.ok p) (.ok p')
  | error {f f' : Failure} (h : L.Failures f f') : Outcomes (.error f) (.error f')

section Reports

variable {L}

/-- It is enough to look at logs that are compared. -/
theorem log_eq {xs ys : Log} (h : L.reports = true → xs = ys) : L.log xs = L.log ys := by
  unfold log
  split
  · next compared => exact h compared
  · rfl

theorem log_append {xs xs' ys ys' : Log} (h : L.log xs = L.log xs') (h' : L.log ys = L.log ys') :
    L.log (xs ++ ys) = L.log (xs' ++ ys') := by
  unfold log at *
  split
  · next compared =>
    rw [if_pos compared, if_pos compared] at h h'
    rw [h, h']
  · rfl

theorem span_eq (compared : L.reports = true) (s : Option Span) : L.span s = s :=
  if_pos compared

theorem field_eq {α : Type} (compared : L.reports = true) (f : Field α) : L.field f = f := by
  simp [field, span_eq compared]

theorem reference_eq (compared : L.reports = true) (r : Reference) : L.reference r = r := by
  simp [reference, span_eq compared]

/-- Where reports are compared, alike references are equal. -/
theorem References.eq {r r' : Reference} (h : L.References r r') (compared : L.reports = true) :
    r = r' := by
  have same : L.reference r = L.reference r' := h
  rwa [reference_eq compared, reference_eq compared] at same

/-- Alike reports keep alike states alike. -/
theorem States.report {s s' : State} (h : L.States s s') {xs ys : Log}
    (hlog : L.log xs = L.log ys) :
    L.States (s.report xs) (s'.report ys) :=
  { h with log := log_append h.log hlog }

theorem States.unresolved (found : Bool) {d d' : Diagnostic} (h : L.reports = true → d = d') :
    L.States (.unresolved found d) (.unresolved found d') where
  found := rfl
  type := rfl
  value := .none
  source := rfl
  applied := rfl
  trace := rfl
  log := log_eq fun compared => by rw [State.unresolved, State.unresolved, h compared]
  truncated := rfl

end Reports

/-! ## Walks that remember -/

/-- Walks that find alike things in the same way. -/
structure Walks {α : Type} (R : α → α → Prop) (w w' : Walk α) : Prop where
  value : R w.value w'.value
  touched : w.touched = w'.touched
  height : w.height = w'.height

/-- Entries of a memory for one key, with alike states. -/
structure Entries (x y : Key × Remembered) : Prop where
  key : x.1 = y.1
  state : L.States x.2.state y.2.state
  touched : x.2.touched = y.2.touched
  height : x.2.height = y.2.height

/-- Memories of the same nodes, with alike states. -/
abbrev Memories (memory memory' : Memory) : Prop :=
  List.Forall₂ L.Entries memory memory'

/-- From alike memories, two walks find alike things and leave alike memories. -/
def Recalls {α : Type} (R : α → α → Prop) (x y : Recall α) : Prop :=
  ∀ ⦃memory memory' : Memory⦄, L.Memories memory memory' →
    Walks R (x.run memory).1 (y.run memory').1 ∧
      L.Memories (x.run memory).2 (y.run memory').2

section Rules

variable {L} {α β : Type} {R : α → α → Prop} {S : β → β → Prop}

theorem Recalls.pure {a a' : α} (h : R a a') :
    L.Recalls R (Pure.pure a) (Pure.pure a') :=
  fun _ _ memories => ⟨⟨h, rfl, rfl⟩, memories⟩

/-- Computations that keep memories alike may be run one after the other. -/
theorem Recalls.bind {x y : Recall α} {f k : α → Recall β} (h : L.Recalls R x y)
    (next : ∀ {a a'}, R a a' → L.Recalls S (f a) (k a')) : L.Recalls S (x >>= f) (y >>= k) := by
  intro memory memory' memories
  obtain ⟨first, memories'⟩ := h memories
  obtain ⟨second, memories''⟩ := next first.value memories'
  refine ⟨⟨second.value, ?_, ?_⟩, memories''⟩
  · exact congrArg₂ union first.touched second.touched
  · exact congrArg₂ max first.height second.height

theorem Recalls.map {x y : Recall α} {f k : α → β} (h : L.Recalls R x y)
    (next : ∀ {a a'}, R a a' → S (f a) (k a')) :
    L.Recalls S (x >>= fun a => Pure.pure (f a)) (y >>= fun a => Pure.pure (k a)) :=
  h.bind fun ha => .pure (next ha)

theorem Recalls.below {x y : Recall α} (h : L.Recalls R x y) : L.Recalls R x.below y.below := by
  intro memory memory' memories
  obtain ⟨walk, memories'⟩ := h memories
  exact ⟨⟨walk.value, walk.touched, congrArg (· + 1) walk.height⟩, memories'⟩

end Rules

/-! ## Environments -/

/-- Alike root documents, with the same other documents and settings. -/
structure Environments (env env' : Environment) : Prop where
  root : L.Graphs env.root env'.root
  externals : env.externals = env'.externals
  settings : env.settings = env'.settings

section Follow

variable {L} {env env' : Environment} {g g' : Graph}

/-- Alike references lead to alike graphs, or are refused for the same reason. -/
theorem Environments.follow (h : L.Environments env env') (hg : L.Graphs g g') {r r' : Reference}
    (hr : L.References r r') :
    (∃ target target', env.follow g r = .ok target ∧ env'.follow g' r' = .ok target' ∧
      L.Graphs target target') ∨
      ∃ fault, env.follow g r = .error fault ∧ env'.follow g' r' = .error fault := by
  have target : r.target = r'.target := ((L.reference_eq_iff).1 hr).1
  simp only [Environment.follow, Environment.external?, target, h.settings, h.root.uri, h.externals]
  split
  · -- The reference stays in its document.
    exact .inl ⟨g, g', rfl, rfl, hg⟩
  · split
    · exact .inr ⟨_, rfl, rfl⟩
    · split
      · exact .inl ⟨env.root, env'.root, rfl, rfl, h.root⟩
      · -- Nothing is compared of other documents, which are the same on both sides.
        cases env'.externals.lookup r'.target.uri with
        | none => exact .inr ⟨_, rfl, rfl⟩
        | some other => exact .inl ⟨other, other, rfl, rfl, Graphs.refl L other⟩

theorem forall₂_getLast? {α β : Type} {R : α → β → Prop} {xs : List α} {ys : List β}
    (h : List.Forall₂ R xs ys) : Option.Rel R xs.getLast? ys.getLast? := by
  induction h with
  | nil => exact .none
  | cons head tail ih =>
    cases tail with
    | nil => exact .some head
    | cons _ _ => simpa only [List.getLast?_cons_cons] using ih

/-- The overrides that apply to a node are alike. -/
theorem Environments.override? (h : L.Environments env env') (hg : L.Graphs g g')
    (pointer : Pointer) :
    Option.Rel (L.Overrides L.References) (env.override? g pointer)
      (env'.override? g' pointer) := by
  have targets : ∀ {o o' : Override Reference}, L.Overrides L.References o o' →
      (o.token.target.pointer = pointer ↔ o'.token.target.pointer = pointer) := by
    intro o o' like
    rw [((L.reference_eq_iff).1 like.token).1]
  have enables : ∀ {o o' : Override Reference}, L.Overrides L.References o o' →
      (env.enables o = true ↔ env'.enables o' = true) := by
    intro o o' like
    simp only [Environment.enables, like.conditions, h.settings]
  refine forall₂_getLast? (List.rel_filter (fun _ _ like => enables like) ?_)
  refine List.rel_filter (fun _ _ like => ?_) hg.overrides
  simpa using targets like

end Follow

/-! ## Candidates -/

/-- How two walks go deeper, so that they find alike things from alike graphs. -/
structure Deepers (d d' : Deeper Recall) : Prop where
  visit : ∀ {g g' : Graph} (pointer : Pointer), L.Graphs g g' →
    L.Recalls L.States (d.visit g pointer) (d'.visit g' pointer)
  fallback : ∀ {g g' : Graph} (type : Option String) (owner : Pointer)
    {entries entries' : List (Offer Reference)}, L.Graphs g g' →
    List.Forall₂ (L.Offers L.References) entries entries' →
      L.Recalls L.Outcomes (d.fallback g type owner entries) (d'.fallback g' type owner entries')

section Outcomes

variable {L} {g g' : Graph}

theorem Outcomes.target {r r' : Reference} {s s' : State} (hr : L.References r r')
    (h : L.States s s') (type : Option String) :
    L.Outcomes (targetOutcome type r s) (targetOutcome type r' s') := by
  unfold targetOutcome
  rcases optionRel_cases h.value with ⟨hs, hs'⟩ | ⟨value, value', hs, hs', like⟩
  · rw [hs, hs']
    exact .error ⟨h.log, h.truncated⟩
  · rw [hs, hs']
    refine .ok ⟨like, h.source, h.type, h.trace, h.applied, ?_, h.truncated⟩
    exact log_append h.log (log_eq fun compared => by rw [hr.eq compared, h.type])

/-- A value is admitted on both sides or on neither, since the check respects the order. -/
theorem Outcomes.value {f f' : Field Json} (hf : L.Values f f') (huri : g.uri = g'.uri)
    (type : Option String) : L.Outcomes (valueOutcome g type f) (valueOutcome g' type f') := by
  unfold valueOutcome
  simp only [L.respectful.admits_eq hf.value]
  split
  · -- The value is admitted.
    refine .ok ⟨hf.value, ?_, rfl, rfl, rfl, rfl, rfl⟩
    simp [Source.ofField, source, huri, hf.pointer, hf.span]
  · -- It is not, and the report names its place.
    refine .error ⟨log_eq fun compared => ?_, rfl⟩
    have span := hf.span
    rw [span_eq compared, span_eq compared] at span
    rw [hf.pointer, span]

/-- What was reported for alike candidates before alike outcomes. -/
theorem Outcomes.merge {f f' : Failure} {o o' : Outcome} (hf : L.Failures f f')
    (h : L.Outcomes o o') : L.Outcomes (o.mapError f.merge) (o'.mapError f'.merge) := by
  cases h with
  | ok h => exact .ok h
  | error h =>
    refine .error ⟨log_append hf.log h.log, ?_⟩
    exact congrArg₂ or hf.truncated h.truncated

/-- An entry that is taken is listed alike. -/
theorem Outcomes.throughEntry {e e' : Offer Reference} {o o' : Outcome}
    (he : L.Offers L.References e e') (huri : g.uri = g'.uri) (h : L.Outcomes o o') :
    L.Outcomes (o.map (·.throughEntry g e)) (o'.map (·.throughEntry g' e')) := by
  cases h with
  | error h => exact .error h
  | ok h =>
    refine .ok ⟨h.value, h.source, h.type, ?_, ?_, h.log, h.truncated⟩
    · simp [Payload.throughEntry, step, he.pointer, he.span, huri, h.trace]
    · simp [Payload.throughEntry, applied, he.pointer, h.source, h.applied]

end Outcomes

namespace Recalls

variable {L} {env env' : Environment} {d d' : Deeper Recall} {g g' : Graph}

/-- The first usable value is alike if all candidates are. -/
theorem firstUsable {cs cs' : List (Recall Outcome)}
    (h : List.Forall₂ (L.Recalls L.Outcomes) cs cs') :
    L.Recalls L.Outcomes (Resolution.firstUsable cs) (Resolution.firstUsable cs') := by
  induction h with
  | nil => exact .pure (.error ⟨rfl, rfl⟩)
  | cons head _ ih =>
    refine head.bind fun outcomes => ?_
    cases outcomes with
    | ok payloads => exact .pure (.ok payloads)
    | error failures => exact ih.map fun later => later.merge failures

variable (henv : L.Environments env env') (deepers : L.Deepers d d') (hg : L.Graphs g g')

include henv deepers hg

/-- References that are alike are followed to alike states, or fail alike. -/
theorem follow {r r' : Reference} (hr : L.References r r') :
    L.Recalls L.States (d.follow env g r) (d'.follow env' g' r') := by
  unfold Deeper.follow
  rcases henv.follow hg hr with ⟨target, target', h, h', graphs⟩ | ⟨fault, h, h'⟩
  · rw [h, h', ((L.reference_eq_iff).1 hr).1]
    exact deepers.visit _ graphs
  · rw [h, h']
    exact .pure (.unresolved true fun compared => by rw [hr.eq compared])

/-- Alike offers are tried to alike outcomes: first the reference, then the value, then the list. -/
theorem tryOffer (type : Option String) {o o' : Offer Reference}
    (h : L.Offers L.References o o') :
    L.Recalls L.Outcomes (Resolution.tryOffer d env g type o)
      (Resolution.tryOffer d' env' g' type o') := by
  refine firstUsable (List.rel_append (List.rel_append ?_ ?_) ?_)
  · rcases optionRel_cases h.reference with ⟨hr, hr'⟩ | ⟨r, r', hr, hr', like⟩
    · rw [hr, hr']
      exact .nil
    · rw [hr, hr']
      refine .cons ?_ .nil
      exact (follow henv deepers hg like).map fun states => .target like states type
  · rcases optionRel_cases h.value with ⟨hv, hv'⟩ | ⟨f, f', hv, hv', like⟩
    · rw [hv, hv']
      exact .nil
    · rw [hv, hv']
      exact .cons (.pure (.value like hg.uri type)) .nil
  · have list := h.fallback
    rw [h.pointer]
    generalize o.fallback = entries, o'.fallback = entries' at list
    cases list with
    | nil => exact .nil
    | cons head tail => exact .cons (deepers.fallback type _ hg (.cons head tail)) .nil

/-- Alike lists of entries are tried to alike outcomes. -/
theorem tryEntries (type : Option String) (owner : Pointer)
    {entries entries' : List (Offer Reference)}
    (h : List.Forall₂ (L.Offers L.References) entries entries') :
    L.Recalls L.Outcomes (Resolution.tryEntries d env g type owner entries)
      (Resolution.tryEntries d' env' g' type owner entries') := by
  refine firstUsable (List.rel_append ?_ (.cons (.pure (.error ⟨rfl, rfl⟩)) .nil))
  refine List.forall₂_map_left_iff.2 (List.forall₂_map_right_iff.2 (h.imp fun e e' like => ?_))
  exact (tryOffer henv deepers hg type like).map fun outcomes => outcomes.throughEntry like hg.uri

end Recalls

/-! ## Nodes -/

section Nodes

variable {L} {g g' : Graph} {node node' : Graph.Node} {s s' : State}

/-- A diagnostic at alike places. -/
theorem log_located {fault fault' : Fault} {pointer pointer' : Pointer} {span span' : Option Span}
    (hfault : L.reports = true → fault = fault') (hpointer : pointer = pointer')
    (hspan : L.span span = L.span span') :
    L.log [fault.located pointer span] = L.log [fault'.located pointer' span'] := by
  refine log_eq fun compared => ?_
  rw [span_eq compared, span_eq compared] at hspan
  rw [hfault compared, hpointer, hspan]

/-- Alike tokens have alike states. -/
theorem States.token (huri : g.uri = g'.uri) (hn : L.Nodes node node')
    {type type' : Option (Field String)} {value value' : Option (Field Json)}
    (htype : type.map L.field = type'.map L.field) (hvalue : Option.Rel L.Values value value') :
    L.States (tokenState g node type value) (tokenState g' node' type' value') := by
  have trace : [(⟨node.pointer, g.uri, .token, node.span⟩ : Step)].map L.step =
      [(⟨node'.pointer, g'.uri, .token, node'.span⟩ : Step)].map L.step := by
    simp [step, hn.pointer, hn.span, huri]
  have types : type.map (·.value) = type'.map (·.value) := by
    have values := congrArg (Option.map Field.value) htype
    simpa [field, Option.map_map, Function.comp_def] using values
  rcases optionRel_cases hvalue with ⟨rfl, rfl⟩ | ⟨f, f', rfl, rfl, like⟩
  · -- Without a value, the report is at the node.
    refine ⟨rfl, types, .none, rfl, rfl, trace, ?_, rfl⟩
    exact log_located (fun _ => by rw [hn.pointer]) hn.pointer hn.span
  · refine ⟨rfl, types, .some like.value, ?_, rfl, trace, rfl, rfl⟩
    simp [tokenState, Source.ofField, Likeness.source, huri, like.pointer, like.span]

/-- Aliases with alike targets have alike states. -/
theorem States.aliasTo (huri : g.uri = g'.uri) (hn : L.Nodes node node')
    {type type' : Field String} {r r' : Reference} (htype : L.field type = L.field type')
    (hr : L.References r r') (h : L.States s s') :
    L.States (aliasState g node type r s) (aliasState g' node' type' r' s') := by
  obtain ⟨types, pointers, spans⟩ := (L.field_eq_iff).1 htype
  have fault : L.reports = true →
      aliasTypeFault? node type r s = aliasTypeFault? node' type' r' s' := by
    intro compared
    rw [field_eq compared, field_eq compared] at htype
    have some : s.value.isSome = s'.value.isSome := optionRel_isSome h.value
    -- What the report says depends on the target's type and on whether it has a value.
    have shape : ∀ (n : Graph.Node) (t : State), aliasTypeFault? n type r t =
        if t.value.isSome then (t.type.filter (!TokenType.agree type.value ·)).map fun actual =>
          (Fault.aliasType n.pointer type.value r.raw actual).located type.pointer type.span
        else none := by
      intro n t
      unfold aliasTypeFault?
      cases ht : t.type with
      | none => cases t.value <;> rfl
      | some actual => cases t.value <;> cases hagree : TokenType.agree type.value actual <;>
          simp [hagree]
    rw [← htype, ← hr.eq compared, shape, shape, h.type, some, hn.pointer]
  refine ⟨rfl, congrArg Option.some types, h.value, h.source, h.applied, ?_, ?_, h.truncated⟩
  · simp [aliasState, step, hn.pointer, hn.span, huri, h.trace]
  · exact log_append h.log (log_eq fun compared => by rw [fault compared])

/-- The payload of alike overrides replaces alike values. -/
theorem States.replaceBy (huri : g.uri = g'.uri) (h : L.States s s')
    {entry entry' : Override Reference} (he : L.Overrides L.References entry entry')
    {p p' : Payload} (hp : L.Payloads p p') :
    L.States (s.replaceBy g entry p) (s'.replaceBy g' entry' p') where
  found := h.found
  type := congrArg₂ Option.or hp.type h.type
  value := .some hp.value
  source := hp.source
  applied := by
    simp [State.replaceBy, Likeness.applied, Override.pointer, he.offer.pointer, h.applied,
      hp.applied, hp.source]
  trace := by
    simp [State.replaceBy, step, Override.pointer, Override.span, he.offer.pointer,
      he.offer.span, huri, h.trace, hp.trace]
  log := log_append h.log hp.log
  truncated := congrArg₂ or h.truncated hp.truncated

theorem States.keepDespite (h : L.States s s') {pointer pointer' : Pointer}
    (hpointer : pointer = pointer') {entry entry' : Override Reference}
    (he : L.Overrides L.References entry entry') {f f' : Failure} (hf : L.Failures f f') :
    L.States (s.keepDespite pointer entry f) (s'.keepDespite pointer' entry' f') :=
  { h with
    log := log_append (log_append h.log hf.log)
      (log_located (fun _ => by rw [hpointer]) he.offer.pointer he.offer.span)
    truncated := congrArg₂ or h.truncated hf.truncated }

variable {env env' : Environment} (henv : L.Environments env env') (hg : L.Graphs g g')

include henv hg

/-- The replacements of alike nodes are checked with the same result. -/
theorem States.checkReplacement (hn : L.Nodes node node') (h : L.States s s') :
    L.States (checkReplacement env g node s) (checkReplacement env' g' node' s') := by
  cases compared : L.reports with
  | false =>
    -- The check changes the log only, which is not compared.
    obtain ⟨_, checked, _⟩ := checkReplacement_eq env g node s
    obtain ⟨_, checked', _⟩ := checkReplacement_eq env' g' node' s'
    rw [checked, checked']
    exact h.report (log_eq fun reports => by simp [compared] at reports)
  | true =>
    unfold Resolution.checkReplacement
    rw [h.type]
    rcases optionRel_cases (hn.replacement compared) with ⟨hr, hr'⟩ | ⟨r, r', hr, hr', like⟩
    · rw [hr, hr']
      exact h
    · obtain rfl := like.eq compared
      rw [hr, hr']
      cases s'.type with
      | none => exact h
      | some type =>
        have fault : replacementFault? env g node r type =
            replacementFault? env' g' node' r type := by
          unfold replacementFault?
          rcases henv.follow hg like with ⟨target, target', ht, ht', graphs⟩ | ⟨fault, ht, ht'⟩
          · -- The target is in a loaded document, where it is missing or has some type.
            rw [ht, ht']
            dsimp only
            rcases optionRel_cases (graphs.node? r.target.pointer) with
              ⟨hm, hm'⟩ | ⟨m, m', hm, hm', nodes⟩
            · rw [hm, hm']
            · have types := nodes.type
              rw [show L.field (α := String) = id from funext (field_eq compared), Option.map_id,
                id, id] at types
              rw [hm, hm']
              -- The reference cannot be followed, for the same reason on both sides.
              simp only [nodes.isCollection, types, hn.pointer]
          · rw [ht, ht']
        exact h.report (by rw [fault])

end Nodes

section Evaluate

variable {L} {env env' : Environment} {d d' : Deeper Recall} {g g' : Graph}
variable (henv : L.Environments env env') (deepers : L.Deepers d d') (hg : L.Graphs g g')

include henv deepers hg

/-- Alike overrides are applied to alike states, or there is none on either side. -/
theorem Recalls.applyOverride (pointer : Pointer) {s s' : State} (h : L.States s s') :
    L.Recalls L.States (applyOverride d env g pointer s) (applyOverride d' env' g' pointer s') := by
  unfold Resolution.applyOverride
  rcases optionRel_cases (henv.override? hg pointer) with ⟨ho, ho'⟩ | ⟨o, o', ho, ho', like⟩
  · rw [ho, ho']
    exact .pure h
  · rw [ho, ho', h.type]
    refine (Recalls.tryOffer henv deepers hg s'.type like.offer).bind fun outcomes => ?_
    cases outcomes with
    | ok payloads => exact .pure (h.replaceBy hg.uri like payloads)
    | error failures => exact .pure (h.keepDespite rfl like failures)

theorem Recalls.finish {node node' : Graph.Node} (hn : L.Nodes node node') {s s' : State}
    (h : L.States s s') :
    L.Recalls L.States (finish d env g node s) (finish d' env' g' node' s') := by
  unfold Resolution.finish
  rw [hn.pointer]
  refine (Recalls.applyOverride henv deepers hg node'.pointer h).map fun states => ?_
  exact states.checkReplacement henv hg hn

/-- The nodes at one pointer of alike graphs are evaluated alike, if the levels below are. -/
theorem Recalls.evaluate (pointer : Pointer) :
    L.Recalls L.States (evaluate d env g pointer) (evaluate d' env' g' pointer) := by
  unfold Resolution.evaluate
  rcases optionRel_cases (hg.node? pointer) with ⟨hn, hn'⟩ | ⟨node, node', hn, hn', nodes⟩
  · rw [hn, hn']
    exact .pure (.unresolved false fun _ => by rw [hg.uri])
  · rw [hn, hn']
    have contents := nodes.content
    generalize content : node.content = c, content' : node'.content = c' at contents
    cases contents with
    | collection =>
      simp only [content, content']
      refine .pure (States.unresolved false fun compared => ?_)
      have span := nodes.span
      rw [span_eq compared, span_eq compared] at span
      rw [span]
    | token htype hvalue =>
      simp only [content, content']
      exact Recalls.finish henv deepers hg nodes (.token hg.uri nodes htype hvalue)
    | aliasTo htype href =>
      simp only [content, content']
      refine (Recalls.follow henv deepers hg href).bind fun states => ?_
      exact Recalls.finish henv deepers hg nodes (.aliasTo hg.uri nodes htype href states)

end Evaluate

end DesignTokens.Likeness
