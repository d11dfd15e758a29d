import DesignTokens.Proofs.Resolution.Congruence
import DesignTokens.Proofs.Resolution.Reach

/-!
# DesignTokens.Proofs.Resolution.Refusals — which references are refused

A reference is refused if its document is one of the network that may not be followed, or is not
loaded. A resolution refuses none but the references that loaded documents have to other documents,
however it came to them: by an alias, a replacement, an override or a fallback list, in the root
document or further on.

1. **References** (`Graph.Cites`): those that an evaluation follows are references of the graph.
2. **Refusals** (`Environment.Refuses`, `Environment.Refused`): why one is refused, and what is
   reported of it.
3. **Logs** (`Refusals`): every refusal in a log is one of a loaded document.
4. **Evaluation** (`Bridge.evaluate_refusals`): that is kept from the levels below a node to it.
5. **Visits** (`refusing_kept`): it holds of every visit, and of all that is remembered.
6. **Answers** (`Resolver.accounted_performAll`), after any calls.
-/

namespace DesignTokens

/-! ## References -/

/-- The references among these that lead to other documents are references of the graph. -/
def Graph.Cites (g : Graph) (refs : List Reference) : Prop :=
  ∀ r ∈ refs, r.target.external = true → r ∈ g.externalReferences

namespace Graph

variable {g : Graph}

/-- What depends on fewer references is cited as well. -/
theorem Cites.mono {refs refs' : List Reference} (h : g.Cites refs') (sub : refs ⊆ refs') :
    g.Cites refs :=
  fun r hr => h r (sub hr)

/-- A graph has the references of its nodes. -/
theorem cites_node {node : Node} (hn : node ∈ g.nodes) : g.Cites node.references := by
  intro r hr external
  have among : r ∈ g.nodes.flatMap Node.references := List.mem_flatMap.2 ⟨node, hn, hr⟩
  exact List.mem_filter.2 ⟨List.mem_append_left _ among, external⟩

/-- A graph has the references of its overrides, those of their fallback lists included. -/
theorem cites_override {entry : Override Reference} (he : entry ∈ g.overrides) :
    g.Cites entry.offer.references := by
  intro r hr external
  have among : r ∈ g.overrides.flatMap (·.offer.references) := List.mem_flatMap.2 ⟨entry, he, hr⟩
  exact List.mem_filter.2 ⟨List.mem_append_right _ among, external⟩

end Graph

namespace Resolution

/-! ## Refusals -/

namespace Environment

/-- Why a reference to another document is refused. -/
inductive Refuses (env : Environment) (r : Reference) : Fault → Prop where
  | forbidden (network : r.target.isNetwork = true)
      (offline : env.settings.allowNetwork = false) : Refuses env r (.networkForbidden r.target)
  | missing (allowed : (r.target.isNetwork && !env.settings.allowNetwork) = false)
      (other : r.target.uri ≠ env.root.uri) (absent : env.external? r.target.uri = none) :
      Refuses env r (.notLoaded r.target.uri)

/-- A reference that cannot be followed leads to another document, and is refused. -/
theorem refuses_of_follow {env : Environment} {g : Graph} {r : Reference} {fault : Fault}
    (h : env.follow g r = .error fault) : r.target.external = true ∧ env.Refuses r fault := by
  -- A reference within its document is never refused.
  simp only [follow] at h
  split at h
  · cases h
  · next external =>
    refine ⟨by simpa using external, ?_⟩
    split at h
    · next blocked =>
      cases h
      rw [Bool.and_eq_true, Bool.not_eq_true'] at blocked
      exact .forbidden blocked.1 blocked.2
    · next allowed =>
      -- Neither is one into the root document.
      split at h
      · cases h
      · next other =>
        split at h
        · cases h
        · next absent =>
          cases h
          exact .missing (Bool.eq_false_iff.2 allowed) other absent

/-- The report that a reference of a loaded document is refused, at its place. -/
def Refused (env : Environment) (d : Diagnostic) : Prop :=
  ∃ g r fault, env.Loads g ∧ r ∈ g.externalReferences ∧ env.Refuses r fault ∧
    d = fault.atReference r

end Environment

/-! ## Logs -/

/-- Every refusal that is reported is that of a reference of a loaded document. -/
def Refusals (env : Environment) (log : Log) : Prop :=
  ∀ d ∈ log, d.code = .externalReference → env.Refused d

namespace Refusals

variable {env : Environment} {log log' : Log}

theorem nil (env : Environment) : Refusals env [] :=
  fun _ h => absurd h List.not_mem_nil

theorem append (h : Refusals env log) (h' : Refusals env log') : Refusals env (log ++ log') := by
  intro d hd
  rcases List.mem_append.1 hd with hd | hd
  · exact h d hd
  · exact h' d hd

/-- Reports of another kind. -/
theorem of_other (other : ∀ d ∈ log, d.code ≠ .externalReference) : Refusals env log :=
  fun d hd code => absurd code (other d hd)

/-- A fault of another kind. -/
theorem located {fault : Fault} (other : fault.code ≠ .externalReference) (pointer : Pointer)
    (span : Option Span) : Refusals env [fault.located pointer span] := by
  apply of_other
  intro d hd
  obtain rfl := List.mem_singleton.1 hd
  exact other

/-- A reference of a loaded document that cannot be followed. -/
theorem reference {g : Graph} (loaded : env.Loads g) {r : Reference} (cites : g.Cites [r])
    {fault : Fault} (h : env.follow g r = .error fault) :
    Refusals env [fault.atReference r] := by
  intro d hd _
  obtain rfl := List.mem_singleton.1 hd
  rcases Environment.refuses_of_follow h with ⟨external, refuses⟩
  exact ⟨g, r, fault, loaded, cites r List.mem_cons_self external, refuses, rfl⟩

end Refusals

/-- A replacement is refused only if its reference cannot be followed. -/
theorem follow_of_replacementFault {env : Environment} {g : Graph} {node : Graph.Node}
    {r : Reference} {type : String} {fault : Fault}
    (h : replacementFault? env g node r type = some fault) :
    env.follow g r = .error fault ∨ fault.code ≠ .externalReference := by
  unfold replacementFault? at h
  split at h
  · -- The target is not reached, for the reason the reference is refused.
    next follow =>
    cases h
    exact .inl follow
  · -- It is reached, and what is wrong with it is another fault.
    right
    split at h
    · cases h
      simp [Fault.code]
    · split at h
      · cases h
        simp [Fault.code]
      · split at h
        · cases h
        · cases h
          simp [Fault.code]

/-- The check of a replacement refuses no other reference than that of the node. -/
theorem Refusals.check {env : Environment} {g : Graph} (loaded : env.Loads g) {node : Graph.Node}
    (hn : node ∈ g.nodes) {s : State} (h : Refusals env s.log) :
    Refusals env (checkReplacement env g node s).log := by
  unfold checkReplacement
  split
  · next r type replacement _ =>
    apply h.append
    cases found : replacementFault? env g node r type with
    | none => exact Refusals.nil env
    | some fault =>
      show Refusals env [fault.atReference r]
      rcases follow_of_replacementFault found with refused | other
      · have cites : g.Cites [r] := by
          apply (Graph.cites_node hn).mono
          simp [Graph.Node.references, replacement]
        exact Refusals.reference loaded cites refused
      · exact Refusals.located other _ _
  · exact h

/-- What was tried refused no other reference than one of a loaded document. -/
def OutcomeRefusals (env : Environment) : Outcome → Prop
  | .ok p => Refusals env p.log
  | .error f => Refusals env f.log

/-- What a failed candidate reports stays before what the next one reports. -/
theorem survives_outcomeRefusals (env : Environment) : Survives (OutcomeRefusals env) where
  nothing := Refusals.nil env
  merge := by
    intro failure outcome before later
    cases outcome with
    | ok payload => exact later
    | error failure' => exact before.append later

/-! ## Evaluation -/

namespace Bridge

variable {m n : Type → Type} [Monad m] [Monad n] (B : Bridge m n) {d : Deeper m} {d' : Deeper n}
  {env : Environment} {g : Graph} (loaded : env.Loads g)
  (visit : ∀ target pointer, env.Loads target →
    B.rel (fun s => Refusals env s.log) (d.visit target pointer) (d'.visit target pointer))
  (fallback : ∀ type owner entries, g.Cites (Offer.referencesOf entries) →
    B.rel (OutcomeRefusals env) (d.fallback g type owner entries)
      (d'.fallback g type owner entries))

include loaded visit

/-- A reference is followed, or is refused with a report that names why. -/
theorem follow_refusals {r : Reference} (cites : g.Cites [r]) :
    B.rel (fun s => Refusals env s.log) (d.follow env g r) (d'.follow env g r) := by
  apply B.follow
  · intro target h
    exact visit target _ (loaded.follow h)
  · intro fault h
    exact Refusals.reference loaded cites h

include fallback

/-- An offer reports its own refusals and those of its list. -/
theorem tryOffer_refusals {offer : Offer Reference} (cites : g.Cites offer.references)
    (type : Option String) :
    B.rel (OutcomeRefusals env) (Resolution.tryOffer d env g type offer)
      (Resolution.tryOffer d' env g type offer) := by
  apply B.tryOffer (survives_outcomeRefusals env)
  · intro r hr
    have cited : g.Cites [r] := by
      apply cites.mono
      simpa using mem_references_of_reference hr
    refine B.rel_imp (B.follow_refusals loaded visit cited) fun s hs => ?_
    unfold targetOutcome
    split
    · refine hs.append (.of_other fun d hd => ?_)
      have code := code_of_overrideTypeFault (Option.mem_toList.1 hd)
      simp [code]
    · exact hs
  · intro field _
    unfold valueOutcome
    split
    · exact Refusals.nil env
    · exact Refusals.located (by simp [Fault.code]) _ _
  · intro _
    exact fallback type _ _ (cites.mono (fallback_subset_references offer))

/-- So does a list of offers. -/
theorem tryEntries_refusals {entries : List (Offer Reference)}
    (cites : g.Cites (Offer.referencesOf entries)) (type : Option String) (owner : Pointer) :
    B.rel (OutcomeRefusals env) (Resolution.tryEntries d env g type owner entries)
      (Resolution.tryEntries d' env g type owner entries) := by
  apply B.tryEntries (survives_outcomeRefusals env)
  · intro e he
    have cited : g.Cites e.references := cites.mono (references_subset_of_mem he)
    refine B.rel_imp (B.tryOffer_refusals loaded visit fallback cited type) fun outcome ho => ?_
    cases outcome with
    | ok payload => exact ho
    | error failure => exact ho
  · exact Refusals.located (by simp [Fault.code]) _ _

/-- An override and a replacement report their refusals. -/
theorem finish_refusals {node : Graph.Node} (hn : node ∈ g.nodes) {s : State}
    (hs : Refusals env s.log) :
    B.rel (fun s => Refusals env s.log) (Resolution.finish d env g node s)
      (Resolution.finish d' env g node s) := by
  apply B.finish (R := fun _ => OutcomeRefusals env)
  · -- Without an override, with one that gives a payload, and with one that gives none.
    intro _
    exact hs.check loaded hn
  · intro entry he
    have cites := Graph.cites_override (Environment.override?_eq_some he).1
    exact B.tryOffer_refusals loaded visit fallback cites s.type
  · intro entry payload _ hp
    apply Refusals.check loaded hn
    exact hs.append hp
  · intro entry failure _ hf
    apply Refusals.check loaded hn
    apply (hs.append hf).append
    exact Refusals.located (by simp [Fault.code]) _ _

/-- A node of a loaded document refuses only references of loaded documents, if that is so of the
levels below it. -/
theorem evaluate_refusals (pointer : Pointer) :
    B.rel (fun s => Refusals env s.log) (Resolution.evaluate d env g pointer)
      (Resolution.evaluate d' env g pointer) := by
  apply B.evaluate
  · -- No node, or a collection.
    intro _
    exact Refusals.located (by simp [Fault.code]) _ _
  · intro node children _ _
    exact Refusals.located (by simp [Fault.code]) _ _
  · -- A token, which refuses nothing itself.
    intro node type value hn _
    apply B.finish_refusals loaded visit fallback (Graph.node?_eq_some hn).1
    unfold tokenState
    dsimp only
    split
    · exact Refusals.nil env
    · exact Refusals.located (by simp [Fault.code]) _ _
  · -- An alias, whose reference may be refused.
    intro node type r hn content
    have here := (Graph.node?_eq_some hn).1
    have cites : g.Cites [r] := by
      apply (Graph.cites_node here).mono
      simp [Graph.Node.references, Graph.Node.aliasReference?, content]
    refine B.rel_bind (B.follow_refusals loaded visit cites) fun target ht => ?_
    apply B.finish_refusals loaded visit fallback here
    refine ht.append (.of_other fun d hd => ?_)
    have code := code_of_aliasTypeFault (Option.mem_toList.1 hd)
    simp [code]

end Bridge

/-! ## Visits -/

/-- Only references of loaded documents are refused. It does not matter of which node a state is, so
that documents of the same URI do no harm. -/
def refusing (env : Environment) : Contract where
  pre _ g _ := env.Loads g
  post _ _ s := Refusals env s.log
  preList _ g entries := env.Loads g ∧ g.Cites (Offer.referencesOf entries)
  postList _ _ outcome := OutcomeRefusals env outcome
  stored _ s := Refusals env s.log

/-- Every visit refuses only references of loaded documents. -/
theorem refusing_kept (env : Environment) : (refusing env).Kept env where
  reuse _ known := known
  store _ _ post := post
  cycle _ _ := Refusals.located (by simp [Fault.code]) _ _
  cut _ := Refusals.located (by simp [Fault.code]) _ _
  cutList _ _ := Refusals.located (by simp [Fault.code]) _ _
  node := by
    intro pending g pointer loaded _ m n _ _ B d d' below
    exact B.evaluate_refusals loaded (fun _ _ h => below.visit h)
      (fun _ _ _ cites => below.fallback ⟨loaded, cites⟩) pointer
  list := by
    rintro pending g entries ⟨loaded, cites⟩ type owner m n _ _ B d d' below
    exact B.tryEntries_refusals loaded (fun _ _ h => below.visit h)
      (fun _ _ _ cites => below.fallback ⟨loaded, cites⟩) cites type owner

end Resolution

/-! ## Answers -/

namespace Resolver

open Resolution

/-- Every refusal in a log is reported by a transform, or is that of a reference of a loaded
document. -/
def Accounted (r : Resolver) (log : Log) : Prop :=
  ∀ d ∈ log, d.code = .externalReference → r.env.Refused d ∨
    ∃ earlier token, d ∈ (Transform.runAll r.transforms earlier token r.document).log

namespace After

variable {r r' : Resolver} {pointers : List Pointer} (h : After r pointers r')

include h

/-- What a memory holds does not depend on the calls made of the resolver. -/
theorem refusals (meets : (refusing r.env).Meets r.memory) :
    (refusing r'.env).Meets r'.memory := by
  rw [h.env, h.memory]
  exact (refusing_kept r.env).askAll (fun _ => r.env.loads_root) meets pointers

/-- Nor does what the reports of an answer mean. -/
theorem accounted {log : Log} (accounted : r'.Accounted log) : r.Accounted log := by
  intro d hd code
  have known := accounted d hd code
  rwa [h.env, h.transforms, h.document] at known

end After

section Answers

variable {r : Resolver} (meets : (refusing r.env).Meets r.memory) (honest : r.Honest)

include meets honest

/-- Every refusal in an answer is accounted for. -/
theorem accounted_resolve (pointer : Pointer) : r.Accounted (r.resolve pointer).1.log := by
  intro d hd code
  obtain ⟨more, log, reported⟩ := r.log_resolve pointer honest
  have found : Refusals r.env (ask r.env r.memory pointer).1.value.log :=
    (refusing_kept r.env).stored_ask (fun _ => r.env.loads_root) meets pointer
  rw [log] at hd
  rcases List.mem_append.1 hd with hd | hd
  · exact .inl (found d hd code)
  · exact .inr (reported d hd)

theorem accounted_resolveText (text : String) : r.Accounted (r.resolveText text).1.log := by
  unfold resolveText
  cases Pointer.parse text with
  | ok pointer => exact accounted_resolve meets honest pointer
  | error error =>
    intro d hd code
    rw [List.mem_singleton.1 hd] at code
    cases code

theorem accounted_resolveEach (pointers : List Pointer) :
    ∀ entry ∈ (r.resolveEach pointers).1, r.Accounted entry.2.log := by
  induction pointers generalizing r with
  | nil => exact fun _ h => absurd h List.not_mem_nil
  | cons pointer rest ih =>
    have first := after_resolve r pointer
    intro entry he
    rcases List.mem_cons.1 he with rfl | he
    · exact accounted_resolve meets honest pointer
    · exact first.accounted (ih (first.refusals meets) (first.honest honest) entry he)

theorem accounted_answers (call : Call) : ∀ answer ∈ r.answers call, r.Accounted answer.log := by
  intro answer ha
  cases call with
  | node pointer =>
    rw [List.mem_singleton.1 ha]
    exact accounted_resolve meets honest pointer
  | named text =>
    rw [List.mem_singleton.1 ha]
    exact accounted_resolveText meets honest text
  | all =>
    obtain ⟨entry, he, rfl⟩ := List.mem_map.1 ha
    exact accounted_resolveEach meets honest _ entry he

end Answers

/-- Whatever a new resolver was asked before, every refusal in an answer is reported by a transform,
or is that of a reference of a loaded document. -/
theorem accounted_performAll {r : Resolver} (fresh : r.memory = []) (unused : r.transformed = [])
    (calls : List Call) (call : Call) :
    ∀ answer ∈ (r.performAll calls).answers call, r.Accounted answer.log := by
  have after := after_performAll r calls
  have meets : (refusing r.env).Meets r.memory := fresh ▸ Contract.meets_nil _
  have honest : r.Honest := by
    unfold Honest
    rw [unused]
    exact fun _ h => absurd h List.not_mem_nil
  intro answer ha
  have accounted := accounted_answers (after.refusals meets) (after.honest honest) call
  exact after.accounted (accounted answer ha)

end Resolver

end DesignTokens
