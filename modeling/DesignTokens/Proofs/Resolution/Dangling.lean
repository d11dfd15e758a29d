import DesignTokens.Proofs.Resolution.Reach

/-!
# DesignTokens.Proofs.Resolution.Dangling — no dangling references after a build without reports

When a graph is built, the references of its nodes are checked; those that overrides may lead to are
not, since a fallback list is there for the case that they lead nowhere. So of a document on its own
whose graph was built without a report, a resolution can only miss what an override refers to.

1. **Documents** (`Graph.Intact`): all references stay in the document, and those of nodes lead to
   tokens and aliases.
2. **Reports** (`Admits`): what may still be reported of such a document.
3. **Evaluation** (`admitted_kept`): nothing else is reported of the evaluation of a token or an
   alias. Of a pointer that names neither, only that is reported, at the pointer itself; so it
   depends on the reference whether it may be.
4. **Trees** (`only_overrides_dangle`).
-/

namespace DesignTokens

/-! ## Documents -/

/-- All references stay in the document, and those of nodes lead to tokens and aliases. -/
structure Graph.Intact (g : Graph) : Prop where
  nodes : ∀ n ∈ g.nodes, ∀ r ∈ n.references, r.target.external = false ∧ g.Holds r.target.pointer
  overrides : ∀ o ∈ g.overrides, ∀ r ∈ o.offer.references, r.target.external = false

/-- The graph of a tree that was built without a report and has no references to other documents. -/
theorem Graph.intact_of_clean {tree : Tree} {g : Graph} (built : Graph.ofTree tree = ⟨some g, []⟩)
    (alone : g.externalReferences = []) : g.Intact := by
  obtain ⟨nodes, overrides⟩ := internal_of_alone alone
  exact ⟨fun n hn r hr => ⟨nodes n hn r hr, holds_of_clean built hn hr (nodes n hn r hr)⟩,
    overrides⟩

namespace Resolution

/-! ## Reports -/

/-- The codes for a way that ends without a value, or goes on to another type. -/
def wayCodes : List Code :=
  [.missingBaseValue, .cycleDetected, .maxDepthExceeded, .targetTypeMismatch]

/-- The codes for an override that gives no value. -/
def overrideCodes : List Code :=
  [.invalidOverrideValue, .fallbackExhausted, .overrideFailed]

def nodeCodes : List Code :=
  [.unknownPointer, .invalidNodeKind]

/-- What may be reported of a document whose nodes have no dangling references: that an override
refers to what is no token or alias is reported where it refers to. -/
inductive Admits (g : Graph) (d : Diagnostic) : Prop where
  | way (code : d.code ∈ wayCodes)
  | override (overridden : g.overrides ≠ []) (code : d.code ∈ overrideCodes)
  | target {o : Override Reference} (ho : o ∈ g.overrides) {r : Reference}
      (hr : r ∈ o.offer.references) (absent : ¬ g.Holds r.target.pointer)
      (code : d.code ∈ nodeCodes) (place : d.pointer = some r.target.pointer)

namespace Admits

variable {g : Graph} {d : Diagnostic}

/-- No other document is missing. -/
theorem code_ne_external (h : Admits g d) : d.code ≠ .externalReference := by
  have foreign : ∀ codes ∈ [wayCodes, overrideCodes, nodeCodes], .externalReference ∉ codes := by
    decide
  intro external
  cases h with
  | way code => exact foreign _ (by simp) (external ▸ code)
  | override _ code => exact foreign _ (by simp) (external ▸ code)
  | target _ _ _ code _ => exact foreign _ (by simp) (external ▸ code)

/-- A pointer that names no token is the target of an override's reference. -/
theorem dangles (h : Admits g d) (code : d.code ∈ nodeCodes) :
    ∃ o ∈ g.overrides, ∃ r ∈ o.offer.references,
      d.pointer = some r.target.pointer ∧ ¬ g.Holds r.target.pointer := by
  have apart : ∀ code ∈ nodeCodes, code ∉ wayCodes ∧ code ∉ overrideCodes := by decide
  cases h with
  | way other => exact absurd other (apart _ code).1
  | override _ other => exact absurd other (apart _ code).2
  | target ho hr absent _ place => exact ⟨_, ho, _, hr, place, absent⟩

/-- Without overrides, only the way to a value is reported. -/
theorem way_of_plain (h : Admits g d) (plain : g.overrides = []) : d.code ∈ wayCodes := by
  cases h with
  | way code => exact code
  | override overridden _ => exact absurd plain overridden
  | target ho _ _ _ _ => exact absurd plain (List.ne_nil_of_mem ho)

end Admits

/-- All that is reported may be. -/
def Admitted (g : Graph) (log : Log) : Prop :=
  ∀ d ∈ log, Admits g d

namespace Admitted

variable {g : Graph} {log log' : Log}

theorem nil (g : Graph) : Admitted g [] :=
  fun _ h => absurd h List.not_mem_nil

theorem append (h : Admitted g log) (h' : Admitted g log') : Admitted g (log ++ log') := by
  intro d hd
  rcases List.mem_append.1 hd with hd | hd
  · exact h d hd
  · exact h' d hd

/-- Reports on the way are always allowed. -/
theorem of_ways (ways : ∀ d ∈ log, d.code ∈ wayCodes) : Admitted g log :=
  fun d hd => .way (ways d hd)

/-- So is a single one. -/
theorem way {fault : Fault} (code : fault.code ∈ wayCodes) (pointer : Pointer)
    (span : Option Span) : Admitted g [fault.located pointer span] := by
  refine of_ways fun d hd => ?_
  obtain rfl := List.mem_singleton.1 hd
  exact code

/-- Reports on overrides are allowed where there are overrides. -/
theorem override {fault : Fault} (overridden : g.overrides ≠ []) (code : fault.code ∈ overrideCodes)
    (pointer : Pointer) (span : Option Span) : Admitted g [fault.located pointer span] := by
  intro d hd
  obtain rfl := List.mem_singleton.1 hd
  exact .override overridden code

end Admitted

/-- What is reported of the node at a pointer may be, or is that the pointer names no token or
alias. -/
def Explained (g : Graph) (p : Pointer) (s : State) : Prop :=
  ∀ d ∈ s.log, Admits g d ∨ ¬ g.Holds p ∧ d.code ∈ nodeCodes ∧ d.pointer = some p

namespace Explained

variable {g : Graph} {p : Pointer} {s : State}

/-- A state that reports only what it may is explained. -/
theorem of_admitted (h : Admitted g s.log) : Explained g p s :=
  fun d hd => .inl (h d hd)

/-- What is missing is reported at its own pointer. -/
theorem unresolved {fault : Fault} (absent : ¬ g.Holds p) (code : fault.code ∈ nodeCodes)
    (found : Bool) (span : Option Span) :
    Explained g p (.unresolved found (fault.located p span)) := by
  intro d hd
  obtain rfl := List.mem_singleton.1 hd
  exact .inr ⟨absent, code, rfl⟩

/-- The target of a reference that was checked. -/
theorem of_holds (h : Explained g p s) (here : g.Holds p) : Admitted g s.log := by
  intro d hd
  rcases h d hd with admits | ⟨absent, _⟩
  · exact admits
  · exact absurd here absent

/-- The target of a reference of an override, which was not. -/
theorem of_override {o : Override Reference} {r : Reference} (h : Explained g r.target.pointer s)
    (ho : o ∈ g.overrides) (hr : r ∈ o.offer.references) : Admitted g s.log := by
  intro d hd
  rcases h d hd with admits | ⟨absent, code, place⟩
  · exact admits
  · exact .target ho hr absent code place

end Explained

/-- The outcome of a candidate, whether or not it gives a value. -/
def OutcomeAdmitted (g : Graph) : Outcome → Prop
  | .ok p => Admitted g p.log
  | .error f => Admitted g f.log

/-- What failed before and what comes later report only what they may. -/
theorem survives_outcomeAdmitted (g : Graph) : Survives (OutcomeAdmitted g) where
  nothing := Admitted.nil g
  merge := by
    intro failure outcome before later
    cases outcome with
    | ok payload => exact later
    | error failure' => exact before.append later

/-! ## Evaluation -/

/-- In an intact document, only what may be is reported. -/
def admitted (env : Environment) : Contract where
  pre _ g _ := g = env.root
  post g p s := Explained g p s
  preList _ g entries :=
    g = env.root ∧ ∃ o ∈ g.overrides, Offer.referencesOf entries ⊆ o.offer.references
  postList g _ outcome := OutcomeAdmitted g outcome
  stored := StoredAs env fun g p s => Explained g p s

/-- The check of the replacement of a node reports at most that its type is another one. -/
theorem Admitted.checkReplacement {env : Environment} {g : Graph} (intact : g.Intact)
    {node : Graph.Node} (hn : node ∈ g.nodes) {s : State} (h : Admitted g s.log) :
    Admitted g (checkReplacement env g node s).log := by
  unfold Resolution.checkReplacement
  split
  · next reference type replacement _ =>
    -- The target of the replacement is there, as it was checked when the graph was built.
    have mem : reference ∈ node.references := by simp [Graph.Node.references, replacement]
    obtain ⟨internal, target, found, valued⟩ := intact.nodes node hn reference mem
    refine Admitted.append h ?_
    simp only [replacementFault?, follow_internal internal, found, valued, Bool.false_eq_true,
      if_false]
    split
    · exact Admitted.nil g
    · exact Admitted.way (by simp [Fault.code, wayCodes]) _ _
  · exact h

section Rules

variable {env : Environment} (intact : env.root.Intact) {m n : Type → Type} [Monad m] [Monad n]
  {B : Bridge m n} {d : Deeper m} {d' : Deeper n} {pending : List Key}
  (below : (admitted env).Below B pending d d')

include intact below

omit intact in
/-- A reference in the document is followed to an explained state. -/
theorem follow_explained {r : Reference} (internal : r.target.external = false) :
    B.rel (Explained env.root r.target.pointer) (d.follow env env.root r)
      (d'.follow env env.root r) := by
  refine B.follow ?_ ?_
  · intro target h
    rw [follow_internal internal] at h
    cases h
    exact below.visit rfl
  · intro fault h
    rw [follow_internal internal] at h
    cases h

/-- An offer of an override reports only what it may, since it may dangle. -/
theorem tryOffer_admitted {o : Override Reference} (ho : o ∈ env.root.overrides)
    {offer : Offer Reference} (sub : offer.references ⊆ o.offer.references)
    (type : Option String) :
    B.rel (OutcomeAdmitted env.root) (tryOffer d env env.root type offer)
      (tryOffer d' env env.root type offer) := by
  have overridden : env.root.overrides ≠ [] := List.ne_nil_of_mem ho
  refine B.tryOffer (survives_outcomeAdmitted _) ?_ ?_ ?_
  · -- What its reference leads to may be missing; that is a dangling override.
    intro r hr
    have mem : r ∈ o.offer.references := sub (mem_references_of_reference hr)
    have internal := intact.overrides o ho r mem
    refine B.rel_imp (follow_explained below internal) fun s explained => ?_
    have log : Admitted env.root s.log := explained.of_override ho mem
    unfold targetOutcome
    split
    · refine log.append (.of_ways fun d hd => ?_)
      have code := code_of_overrideTypeFault (Option.mem_toList.1 hd)
      simp [code, wayCodes]
    · exact log
  · -- its value
    intro field _
    unfold valueOutcome
    split
    · exact Admitted.nil _
    · exact Admitted.override overridden (by simp [Fault.code, overrideCodes]) _ _
  · -- its fallback list, whose references are those of the same override
    intro _
    have later : Offer.referencesOf offer.fallback ⊆ o.offer.references :=
      List.Subset.trans (fallback_subset_references offer) sub
    exact below.fallback ⟨rfl, o, ho, later⟩

/-- So does a fallback list of an override. -/
theorem tryEntries_admitted {o : Override Reference} (ho : o ∈ env.root.overrides)
    {entries : List (Offer Reference)} (sub : Offer.referencesOf entries ⊆ o.offer.references)
    (type : Option String) (owner : Pointer) :
    B.rel (OutcomeAdmitted env.root) (tryEntries d env env.root type owner entries)
      (tryEntries d' env env.root type owner entries) := by
  refine B.tryEntries (survives_outcomeAdmitted _) ?_ ?_
  · intro e he
    have inside : e.references ⊆ o.offer.references :=
      List.Subset.trans (references_subset_of_mem he) sub
    refine B.rel_imp (tryOffer_admitted intact below ho inside type) fun outcome h => ?_
    cases outcome with
    | ok payload => exact h
    | error failure => exact h
  · exact Admitted.override (List.ne_nil_of_mem ho) (by simp [Fault.code, overrideCodes]) _ _

/-- A node is finished with reports that are allowed. -/
theorem finish_admitted {node : Graph.Node} (hn : node ∈ env.root.nodes) {s : State}
    (hs : Admitted env.root s.log) :
    B.rel (fun s => Admitted env.root s.log) (finish d env env.root node s)
      (finish d' env env.root node s) := by
  refine B.finish (R := fun _ => OutcomeAdmitted env.root) ?_ ?_ ?_ ?_
  · -- no override
    intro _
    exact hs.checkReplacement intact hn
  · -- what the override offers
    intro entry he
    obtain ⟨mem, _, _⟩ := Environment.override?_eq_some he
    exact tryOffer_admitted intact below mem (List.Subset.refl _) s.type
  · -- replaced
    intro entry payload _ hp
    have log : Admitted env.root (s.replaceBy env.root entry payload).log := hs.append hp
    exact log.checkReplacement intact hn
  · -- kept in spite of the override
    intro entry failure he hf
    obtain ⟨mem, _, _⟩ := Environment.override?_eq_some he
    have failed : Admitted env.root
        [(Fault.overrideFailed node.pointer).located entry.pointer entry.span] :=
      Admitted.override (List.ne_nil_of_mem mem) (by simp [Fault.code, overrideCodes]) _ _
    have log : Admitted env.root (s.keepDespite node.pointer entry failure).log :=
      (hs.append hf).append failed
    exact log.checkReplacement intact hn

/-- A node is evaluated to an explained state. -/
theorem evaluate_explained (p : Pointer) :
    B.rel (Explained env.root p) (evaluate d env env.root p) (evaluate d' env env.root p) := by
  refine B.evaluate ?_ ?_ ?_ ?_
  · -- no node there
    intro missing
    refine Explained.unresolved ?_ (by simp [Fault.code, nodeCodes]) _ _
    rintro ⟨node, found, _⟩
    rw [missing] at found
    cases found
  · -- a collection
    intro node children hn hc
    refine Explained.unresolved ?_ (by simp [Fault.code, nodeCodes]) _ _
    rintro ⟨node', found, valued⟩
    rw [hn] at found
    cases found
    simp [Graph.Node.isCollection, hc] at valued
  · -- a token
    intro node type value hn hc
    obtain ⟨mem, rfl⟩ := Graph.node?_eq_some hn
    have base : Admitted env.root (tokenState env.root node type value).log := by
      simp only [tokenState]
      split
      · exact Admitted.nil _
      · exact Admitted.way (by simp [Fault.code, wayCodes]) _ _
    exact B.rel_imp (finish_admitted intact below mem base) fun s hs => .of_admitted hs
  · -- An alias: its target is there, since the document is intact.
    intro node type reference hn hc
    obtain ⟨mem, rfl⟩ := Graph.node?_eq_some hn
    have alias_mem : reference ∈ node.references := by
      simp [Graph.Node.references, Graph.Node.aliasReference?, hc]
    obtain ⟨internal, holds⟩ := intact.nodes node mem reference alias_mem
    refine B.rel_bind (follow_explained below internal) fun target explained => ?_
    have base : Admitted env.root (aliasState env.root node type reference target).log := by
      refine Admitted.append (explained.of_holds holds) (.of_ways fun d hd => ?_)
      have code := code_of_aliasTypeFault (Option.mem_toList.1 hd)
      simp [code, wayCodes]
    exact B.rel_imp (finish_admitted intact below mem base) fun s hs => .of_admitted hs

end Rules

/-- In an intact document, every visit reports only what it may. -/
theorem admitted_kept {env : Environment} (intact : env.root.Intact) :
    (admitted env).Kept env where
  reuse := by
    rintro pending g p s rfl h
    exact h _ _ env.has_root rfl
  store := by
    rintro pending g p s rfl - post
    exact storedAs_of_has env.has_root post
  cycle := by
    rintro pending g p rfl _
    exact .of_admitted (Admitted.way (by simp [Fault.code, wayCodes]) _ _)
  cut := by
    rintro pending g p rfl
    exact .of_admitted (Admitted.way (by simp [Fault.code, wayCodes]) _ _)
  cutList := by
    rintro pending g entries - owner
    exact Admitted.way (by simp [Fault.code, wayCodes]) _ _
  node := by
    rintro pending g p rfl _ m n _ _ B d d' below
    exact evaluate_explained intact below p
  list := by
    rintro pending g entries ⟨rfl, o, ho, sub⟩ type owner m n _ _ B d d' below
    exact tryEntries_admitted intact below ho sub type owner

/-! ## Trees -/

/-- Resolve a token of a document whose graph was built without a report and has no references to
other documents, after any calls. Unless a transform reported it, a diagnostic does not say that
another document is missing, and one that says that a pointer names no token stands where a
reference of an override leads to. Without overrides there are only those of `wayCodes`. -/
theorem only_overrides_dangle {tree : Tree} {env : Environment}
    (built : Graph.ofTree tree = ⟨some env.root, []⟩) (alone : env.root.externalReferences = [])
    (document : Option Document) (transforms : List Transform) (calls : List Resolver.Call)
    {pointer : Pointer} (here : pointer ∈ env.root.tokens) :
    let r := ({ env, document, transforms } : Resolver).performAll calls
    ∀ d ∈ (r.resolve pointer).1.log,
      (∃ earlier token, d ∈ (Transform.runAll transforms earlier token document).log) ∨
        d.code ≠ .externalReference ∧
        (d.code = .unknownPointer ∨ d.code = .invalidNodeKind →
          ∃ o ∈ env.root.overrides, ∃ r ∈ o.offer.references,
            d.pointer = some r.target.pointer ∧ ¬ env.root.Holds r.target.pointer) ∧
        (env.root.overrides = [] →
          d.code ∈
            [.missingBaseValue, .cycleDetected, .maxDepthExceeded, .targetTypeMismatch]) := by
  intro r d hd
  have after := Resolver.after_performAll ({ env, document, transforms } : Resolver) calls
  have henv : r.env = env := after.env
  have honest : r.Honest := after.honest fun _ h => absurd h List.not_mem_nil
  obtain ⟨more, hlog, reported⟩ := r.log_resolve pointer honest
  rw [henv] at hlog
  rcases List.mem_append.1 (hlog ▸ hd) with hd | hd
  · -- The log of the state: it is explained, and the node is there.
    right
    have intact := Graph.intact_of_clean built alone
    have nodup := Graph.nodup_pointers_ofTree (congrArg Graph.Built.graph built)
    have explained : Explained env.root pointer (ask env r.memory pointer).1.value :=
      (admitted_kept intact).ask_performAll (fun _ => rfl) rfl rfl calls pointer
    have holds := (Graph.mem_tokens_iff nodup).1 here
    have admits : Admits env.root d := explained.of_holds holds d hd
    refine ⟨admits.code_ne_external, fun code => admits.dangles ?_, admits.way_of_plain⟩
    simpa [nodeCodes] using code
  · -- what the transforms reported
    obtain ⟨earlier, token, mem⟩ := reported d hd
    rw [after.transforms, after.document] at mem
    exact .inl ⟨earlier, token, mem⟩

/-! ### A reference that leads nowhere -/

namespace Astray

open Sample (colorType info overridePlace place text treeAlias treeOverride treeToken)

/-- An alias `link` of `base`, and a node `old` that `base` replaces. In the mode `on`, the override
of `base` refers to a node that does not exist, then to a collection. -/
def tree : Tree :=
  let deprecated := (place "old").child "$deprecated"
  let second := overridePlace.child "$fallback"
  Sample.tree
    [treeToken "base" "#000000",
     treeAlias "link" "base",
     .token
      { info (place "old") with
        metadata := {
          deprecated := some
            ⟨⟨true, some (text "#/base" (deprecated.child "$replacement"))⟩, deprecated, none⟩ } }
      (some (colorType "old")) (some ⟨.string "#ffffff", (place "old").child "$value", none⟩),
     .collection (info (place "group")) []]
    [treeOverride "base"
      (.mk overridePlace none (some (text "#/gone" (overridePlace.child "$ref"))) none
        [.mk second none (some (text "#/group" (second.child "$ref"))) none []])]

def env : Environment where
  root := Sample.graphOf tree
  externals := []
  settings := { context := [("mode", .string "on")] }

def log : Log :=
  ((({ env } : Resolver).performAll [.node (place "old")]).resolve (place "link")).1.log

end Astray

set_option maxRecDepth 10000 in
/-- Both references of the override are reported, although nothing was when the graph was built. -/
theorem only_override_astray :
    Graph.ofTree Astray.tree = ⟨some Astray.env.root, []⟩ ∧
      Astray.env.root.externalReferences = [] ∧
      Sample.place "link" ∈ Astray.env.root.tokens ∧
      (Astray.log.any fun d => d.code = .unknownPointer ∧ d.pointer = some (Sample.place "gone"))
        = true ∧
      (Astray.log.any fun d => d.code = .invalidNodeKind ∧ d.pointer = some (Sample.place "group"))
        = true ∧
      ∀ d ∈ Astray.log, d.code ≠ .externalReference ∧
        (d.code = .unknownPointer ∨ d.code = .invalidNodeKind →
          ∃ o ∈ Astray.env.root.overrides, ∃ r ∈ o.offer.references,
            d.pointer = some r.target.pointer ∧
              ¬ Astray.env.root.Holds r.target.pointer) := by
  have graph : (Graph.ofTree Astray.tree).graph = some Astray.env.root :=
    Sample.ofTree_graphOf (by decide +kernel)
  have clean : (Graph.ofTree Astray.tree).log.isEmpty = true := by decide +kernel
  have built : Graph.ofTree Astray.tree = ⟨some Astray.env.root, []⟩ := by
    rw [← graph, ← List.isEmpty_iff.1 clean]
  have alone : Astray.env.root.externalReferences = [] :=
    List.isEmpty_iff.1 (by decide +kernel)
  have here : Sample.place "link" ∈ Astray.env.root.tokens := by decide +kernel
  -- Without transforms, every report is one of the resolution.
  refine ⟨built, alone, here, by decide +kernel, by decide +kernel, fun d hd => ?_⟩
  rcases only_overrides_dangle built alone none [] [.node (Sample.place "old")] here d hd with
    ⟨_, _, mem⟩ | ⟨external, dangling, _⟩
  · exact absurd mem List.not_mem_nil
  · exact ⟨external, dangling⟩

end Resolution

end DesignTokens
