import DesignTokens.Proofs.Workspace.Crawl
import Mathlib.Data.List.Induction
import Mathlib.Data.List.Infix

/-!
# DesignTokens.Proofs.Workspace.Fates — what becomes of the documents that are named

A document that is named during a crawl is found in the end, or something was reported that says why
it is not.

1. **Parses without a graph** (`Workspace.hasErrors_parseHandle`) report an error.
2. **Fates** (`Crawl.Fate`): what becomes of a document. It stays so (`Crawl.Fate.mono`).
3. **Accounts** (`Crawl.Accounts`): every document that is known has a fate, or is waiting.
4. **Steps**: discoveries and visits keep that. A document that is neither waiting nor found yet, as
   its graph is still looked at, is kept apart.
5. **Crawls** (`Crawl.crawl_accounts`): in the end none is waiting (`Crawl.fate_of_reference`).
-/

namespace DesignTokens

/-! ## Parses without a graph -/

theorem Log.hasErrors_append_right (log : Log) {log' : Log} (h : log'.hasErrors = true) :
    Log.hasErrors (log ++ log') = true := by
  unfold Log.hasErrors at h ⊢
  rw [List.any_append, h, Bool.or_true]

/-- If there is no tree of a document, an error says why. -/
theorem Tree.hasErrors_ofDocument {document : Document} {options : Options}
    (h : (ofDocument document options).value = none) :
    (ofDocument document options).log.hasErrors = true := by
  unfold ofDocument at h ⊢
  dsimp only at h ⊢
  split
  · -- An object, which is too deep.
    next data =>
    rw [data] at h
    dsimp only at h ⊢
    split
    · rfl
    · next flat =>
      rw [flat] at h
      cases h
  · -- No object.
    rfl

/-- If there is no graph of a tree, an error says why. -/
theorem Graph.hasErrors_ofTree {tree : Tree} (h : (ofTree tree).graph = none) :
    (ofTree tree).log.hasErrors = true := by
  unfold ofTree at h ⊢
  dsimp only at h ⊢
  split
  · next anchored =>
    rw [if_pos anchored] at h
    cases h
  · rfl

namespace Workspace

variable {w : Workspace}

/-- Without a graph an error is reported. -/
theorem hasErrors_parse {document : Document} (h : (w.parse document none).graph = none) :
    (w.parse document none).log.hasErrors = true := by
  unfold parse parseFresh at h ⊢
  dsimp only [Option.filter_none] at h ⊢
  split
  · next valid =>
    rw [if_pos valid] at h
    -- The document is not read.
    split
    · next unread => exact Log.hasErrors_append_right _ (Tree.hasErrors_ofDocument unread)
    · -- It is read, but no graph is built.
      next tree read =>
      rw [read] at h
      exact Log.hasErrors_append_right _ (Graph.hasErrors_ofTree h)
  · -- It is not valid.
    exact Log.hasErrors_append_right _ rfl

/-- If there is no graph of a text, an error says why. -/
theorem hasErrors_parseHandle {handle : Handle} (h : (w.parseHandle handle none).graph = none) :
    (w.parseHandle handle none).log.hasErrors = true := by
  unfold parseHandle at h ⊢
  cases decoded : w.host.decode handle with
  | ok document =>
    rw [decoded] at h
    exact hasErrors_parse h
  | error failure => rfl

end Workspace

namespace Crawl

/-! ## Fates -/

/-- The crawl reported a fault where some reference was read from. -/
def Tells (c : Crawl) (fault : Workspace.Fault) : Prop :=
  ∃ r : Reference, fault.diagnostic.located r.pointer r.span ∈ c.log

/-- A document was requested, and could not be loaded or has no graph. -/
inductive Failed (w : Workspace) (c : Crawl) (uri : Uri) : Prop where
  | load {request : Request} {failure : HostFailure} (asked : request ∈ c.requests)
      (located : request.location = uri.text) (refused : w.host.load request = .error failure)
      (told : c.Tells (.loadFailed uri.text failure))
  | parse {request : Request} {handle : Handle} (asked : request ∈ c.requests)
      (located : request.location = uri.text) (loaded : w.host.load request = .ok handle)
      (barren : (w.parseHandle handle none).graph = none)
      (errors : (w.parseHandle handle none).log.hasErrors = true)
      (told : (w.parseHandle handle none).log ⊆ c.log)

/-- A document is one of those past the limit, and the first of them was reported. -/
inductive Late (w : Workspace) (ns : List Naming) (c : Crawl) (uri : Uri) : Prop where
  | past {first : Found} {rest : List Found}
      (skipped : (discoveries w.configuration ns).drop w.configuration.maxDocuments =
        first :: rest)
      (here : uri ∈ (first :: rest).map (·.uri))
      (told : c.Tells (.tooManyDocuments w.configuration.maxDocuments first.uri))

/-- What becomes of a document that was named. -/
inductive Fate (w : Workspace) (ns : List Naming) (c : Crawl) (uri : Uri) : Prop where
  | found (there : uri ∈ c.graphs.map (·.1))
  | skipped (network : uri.isNetwork = true)
      (offline : w.configuration.resolver.allowNetwork = false)
      (told : c.Tells (.networkSkipped uri))
  | failed (why : Failed w c uri)
  | late (why : Late w ns c uri)

/-- A crawl has gone on, and more was named: nothing is taken back. -/
structure Grows (w : Workspace) (ns : List Naming) (c : Crawl) (ns' : List Naming) (c' : Crawl) :
    Prop where
  discoveries : discoveries w.configuration ns <+: discoveries w.configuration ns'
  log : c.log ⊆ c'.log
  graphs : c.graphs.map (·.1) ⊆ c'.graphs.map (·.1)
  requests : c.requests ⊆ c'.requests

/-- What is discovered stays discovered, in the same order. -/
theorem discoveries_extend (configuration : Configuration) (ns ms : List Naming) :
    discoveries configuration ns <+: discoveries configuration (ns ++ ms) := by
  have firsts : ∀ ms, firsts ns <+: firsts (ns ++ ms) := by
    intro ms
    induction ms using List.reverseRecOn with
    | nil => rw [List.append_nil]
    | append_singleton ms n ih =>
      -- One more naming adds one discovery at most, at the end.
      rw [← List.append_assoc, firsts_concat]
      split
      · exact ih
      · exact ih.trans (List.prefix_append _ _)
  exact ((firsts ms).filterMap _).filter _

section Fates

variable {w : Workspace} {ns ns' : List Naming} {c c' : Crawl} {uri : Uri}

/-- What the log tells stays told. -/
theorem Tells.mono {fault : Workspace.Fault} (h : c.Tells fault) (log : c.log ⊆ c'.log) :
    c'.Tells fault := by
  rcases h with ⟨r, hr⟩
  exact ⟨r, log hr⟩

theorem tells_report (c : Crawl) (fault : Workspace.Fault) (r : Reference) :
    (c.report fault r).Tells fault :=
  ⟨r, List.mem_append_right _ (List.mem_singleton_self _)⟩

variable (grows : Grows w ns c ns' c')

include grows

theorem Failed.mono (h : Failed w c uri) : Failed w c' uri := by
  cases h with
  | load asked located refused told =>
    exact .load (grows.requests asked) located refused (told.mono grows.log)
  | parse asked located loaded barren errors told =>
    exact .parse (grows.requests asked) located loaded barren errors
      (List.Subset.trans told grows.log)

theorem Late.mono (h : Late w ns c uri) : Late w ns' c' uri := by
  cases h with
  | @past first rest skipped here told =>
    obtain ⟨more, longer⟩ := grows.discoveries.drop w.configuration.maxDocuments
    rw [skipped] at longer
    refine .past longer.symm ?_ (told.mono grows.log)
    have sub : first :: rest ⊆ first :: rest ++ more := List.subset_append_left _ _
    exact List.map_subset _ sub here

theorem Fate.mono (h : Fate w ns c uri) : Fate w ns' c' uri := by
  cases h with
  | found there => exact .found (grows.graphs there)
  | skipped network offline told => exact .skipped network offline (told.mono grows.log)
  | failed why => exact .failed (why.mono grows)
  | late why => exact .late (why.mono grows)

end Fates

/-! ## Accounts -/

/-- A document has a fate, or waits in the queue; some are kept apart. -/
def Placed (w : Workspace) (ns : List Naming) (apart : List Uri) (c : Crawl) (uri : Uri) : Prop :=
  uri ∈ apart ∨ uri ∈ c.queue.map (·.uri) ∨ Fate w ns c uri

/-- If there are documents past the limit, the first of them was reported. -/
def Warned (w : Workspace) (ns : List Naming) (c : Crawl) : Prop :=
  ∀ first rest,
    (discoveries w.configuration ns).drop w.configuration.maxDocuments = first :: rest →
      c.Tells (.tooManyDocuments w.configuration.maxDocuments first.uri)

/-- The account of a crawl: no document that is known was lost, the limit was reported, and all
graphs are those of documents that were loaded. -/
structure Accounts (w : Workspace) (ns : List Naming) (apart : List Uri) (c : Crawl) : Prop where
  follows : Follows w ns c
  known : ∀ u ∈ c.known, Placed w ns apart c u
  warned : Warned w ns c
  graphs : ∀ entry ∈ c.graphs, ∃ request ∈ c.requests, (w.load request).graph = some entry.2

section Account

variable {w : Workspace} {ns ns' : List Naming} {apart apart' : List Uri} {c c' : Crawl}

/-- What waits goes on waiting. -/
theorem placed_of_waiting {uri : Uri} (h : uri ∈ apart ∨ uri ∈ c.queue.map (·.uri)) :
    Placed w ns apart c uri := by
  rcases h with there | queued
  · exact .inl there
  · exact .inr (.inl queued)

/-- Within the limit there is nothing to warn of. -/
theorem warned_of_within
    (within : (discoveries w.configuration ns).length ≤ w.configuration.maxDocuments) :
    Warned w ns c := by
  intro first rest past
  rw [List.drop_eq_nil_of_le within] at past
  cases past

/-- The first document past the limit stays the same. -/
theorem Warned.mono (h : Warned w ns c) (grows : Grows w ns c ns' c')
    (beyond : w.configuration.maxDocuments < (discoveries w.configuration ns).length) :
    Warned w ns' c' := by
  intro first rest past
  cases before : (discoveries w.configuration ns).drop w.configuration.maxDocuments with
  | nil => exact absurd (List.drop_eq_nil_iff.1 before) (Nat.not_le.2 beyond)
  | cons earliest others =>
    obtain ⟨more, longer⟩ := grows.discoveries.drop w.configuration.maxDocuments
    rw [before, past] at longer
    cases longer
    exact (h _ _ before).mono grows.log

/-- What is past the limit came too late, and that is told. -/
theorem Warned.late (h : Warned w ns c) {f : Found}
    (past : f ∈ (discoveries w.configuration ns).drop w.configuration.maxDocuments) :
    Late w ns c f.uri := by
  cases skipped : (discoveries w.configuration ns).drop w.configuration.maxDocuments with
  | nil =>
    rw [skipped] at past
    exact absurd past List.not_mem_nil
  | cons first rest =>
    rw [skipped] at past
    exact .past skipped (List.mem_map_of_mem past) (h first rest skipped)

/-- A crawl that goes on keeps its account, if it accounts for what is new and for what is moved. -/
theorem Accounts.step (a : Accounts w ns apart c) (follows : Follows w ns' c')
    (grows : Grows w ns c ns' c')
    (new : Warned w ns' c' → ∀ u ∈ c'.known, u ∈ c.known ∨ Placed w ns' apart' c' u)
    (moved : ∀ u, u ∈ apart ∨ u ∈ c.queue.map (·.uri) → Placed w ns' apart' c' u)
    (warned : (discoveries w.configuration ns).length ≤ w.configuration.maxDocuments →
      Warned w ns' c')
    (graphs : ∀ entry ∈ c'.graphs,
      entry ∈ c.graphs ∨ ∃ request ∈ c'.requests, (w.load request).graph = some entry.2) :
    Accounts w ns' apart' c' := by
  have limit : Warned w ns' c' := by
    by_cases within : (discoveries w.configuration ns).length ≤ w.configuration.maxDocuments
    · exact warned within
    · exact a.warned.mono grows (Nat.lt_of_not_le within)
  refine ⟨follows, ?_, limit, ?_⟩
  · intro u hu
    rcases new limit u hu with before | placed
    · -- Known before: it waited, or has a fate already.
      rcases a.known u before with there | queued | fate
      · exact moved u (.inl there)
      · exact moved u (.inr queued)
      · exact .inr (.inr (fate.mono grows))
    · -- Known from this step.
      exact placed
  · intro entry he
    rcases graphs entry he with before | loaded
    · obtain ⟨request, asked, loaded⟩ := a.graphs entry before
      exact ⟨request, grows.requests asked, loaded⟩
    · exact loaded

/-- A crawl that gets to know one more document keeps its account, if it accounts for that one and
lets all others go on waiting. -/
theorem Accounts.learn {uri : Uri} (a : Accounts w ns apart c) (follows : Follows w ns' c')
    (grows : Grows w ns c ns' c') (known : c'.known = uri :: c.known) (aparts : apart ⊆ apart')
    (queues : c.queue ⊆ c'.queue) (graphs : c'.graphs = c.graphs)
    (warned : (discoveries w.configuration ns).length ≤ w.configuration.maxDocuments →
      Warned w ns' c')
    (placed : Warned w ns' c' → Placed w ns' apart' c' uri) : Accounts w ns' apart' c' := by
  apply a.step follows grows
  · intro limit u hu
    rw [known] at hu
    rcases List.mem_cons.1 hu with rfl | before
    · -- The new one.
      exact .inr (placed limit)
    · -- Those of before.
      exact .inl before
  · intro u waiting
    rcases waiting with there | queued
    · exact .inl (aparts there)
    · exact .inr (.inl (List.map_subset _ queues queued))
  · exact warned
  · intro entry he
    rw [graphs] at he
    exact .inl he

/-- A document that was kept apart is no longer, when it has a fate. -/
theorem Accounts.settle {uri : Uri} (a : Accounts w ns (uri :: apart) c) (fate : Fate w ns c uri) :
    Accounts w ns apart c where
  follows := a.follows
  known u hu := by
    rcases a.known u hu with there | placed
    · rcases List.mem_cons.1 there with rfl | there
      · exact .inr (.inr fate)
      · exact .inl there
    · exact .inr placed
  warned := a.warned
  graphs := a.graphs

/-! ## Steps -/

namespace Accounts

/-- The document of a graph is kept apart, until the graph is added. -/
theorem own (a : Accounts w ns apart c) (uri : Uri) :
    Accounts w (ns ++ [.own uri]) (uri :: apart) { c with known := uri :: c.known } := by
  have same : discoveries w.configuration (ns ++ [.own uri]) = discoveries w.configuration ns :=
    discoveries_own uri
  have grows : Grows w ns c (ns ++ [.own uri]) { c with known := uri :: c.known } :=
    ⟨discoveries_extend _ _ _, fun _ h => h, fun _ h => h, fun _ h => h⟩
  apply a.learn (a.follows.own uri) grows rfl (List.subset_cons_self _ _) (fun _ h => h) rfl
  · intro within
    apply warned_of_within
    rwa [same]
  · intro _
    exact .inl List.mem_cons_self

section Discovery

variable {f : Found}

/-- Nothing changes if the document is known. -/
theorem again (a : Accounts w ns apart c) (there : f.uri ∈ c.known) :
    Accounts w (ns ++ [.reference f]) apart c := by
  apply a.step (a.follows.again there)
    ⟨discoveries_extend _ _ _, fun _ h => h, fun _ h => h, fun _ h => h⟩
  · intro _ u hu
    exact .inl hu
  · intro u waiting
    exact placed_of_waiting waiting
  · intro within
    apply warned_of_within
    rwa [a.follows.discoveries_of_known there]
  · intro entry he
    exact .inl he

/-- A document of the network is skipped. -/
theorem skip (a : Accounts w ns apart c) (new : f.uri ∉ c.known)
    (blocked : permitted w.configuration f.uri = false) :
    Accounts w (ns ++ [.reference f]) apart
      ((c.mark f).report (.networkSkipped f.uri) f.reference) := by
  have offline : f.uri.isNetwork = true ∧ w.configuration.resolver.allowNetwork = false := by
    simpa [permitted] using blocked
  apply a.learn (a.follows.skip new blocked)
    ⟨discoveries_extend _ _ _, List.subset_append_left _ _, fun _ h => h, fun _ h => h⟩ rfl
    (fun _ h => h) (fun _ h => h) rfl
  · intro within
    apply warned_of_within
    rwa [a.follows.discoveries_of_blocked new blocked]
  · intro _
    exact .inr (.inr (.skipped offline.1 offline.2 (tells_report _ _ _)))

/-- A further document past the limit is late, as the first one is. -/
theorem pass (a : Accounts w ns apart c) (new : f.uri ∉ c.known)
    (allowed : permitted w.configuration f.uri = true) (full : c.budget = 0)
    (reported : c.limitReported = true) : Accounts w (ns ++ [.reference f]) apart (c.mark f) := by
  have beyond := a.follows.limited.1 reported
  apply a.learn (a.follows.pass new allowed full reported)
    ⟨discoveries_extend _ _ _, fun _ h => h, fun _ h => h, fun _ h => h⟩ rfl
    (fun _ h => h) (fun _ h => h) rfl
  · intro within
    -- The limit was passed before.
    exact absurd within (Nat.not_le.2 beyond)
  · intro warned
    refine .inr (.inr (.late (warned.late ?_)))
    rw [a.follows.discoveries_of_allowed new allowed,
      List.drop_append_of_le_length (Nat.le_of_lt beyond)]
    exact List.mem_append_right _ (List.mem_singleton_self f)

/-- The first document past the limit is late, and reported as such. -/
theorem exceed (a : Accounts w ns apart c) (new : f.uri ∉ c.known)
    (allowed : permitted w.configuration f.uri = true) (full : c.budget = 0)
    (unreported : c.limitReported = false) :
    Accounts w (ns ++ [.reference f]) apart
      { (c.mark f).report (.tooManyDocuments w.configuration.maxDocuments f.uri) f.reference with
        limitReported := true } := by
  have past : (discoveries w.configuration (ns ++ [.reference f])).drop
      w.configuration.maxDocuments = [f] := by
    rw [a.follows.discoveries_of_allowed new allowed, ← a.follows.length_of_full full unreported,
      List.drop_left]
  apply a.learn (a.follows.exceed new allowed full unreported)
    ⟨discoveries_extend _ _ _, List.subset_append_left _ _, fun _ h => h, fun _ h => h⟩ rfl
    (fun _ h => h) (fun _ h => h) rfl
  · -- This is the first one past the limit.
    intro _ first rest skipped
    rw [past] at skipped
    cases skipped
    exact tells_report (c.mark f) _ _
  · intro warned
    refine .inr (.inr (.late (warned.late ?_)))
    rw [past]
    exact List.mem_singleton_self f

/-- A document within the limit waits in the queue. -/
theorem enqueue (a : Accounts w ns apart c) (new : f.uri ∉ c.known)
    (allowed : permitted w.configuration f.uri = true) (room : c.budget ≠ 0) :
    Accounts w (ns ++ [.reference f]) apart
      { c.mark f with queue := c.queue ++ [f], budget := c.budget - 1 } := by
  have budget := a.follows.budget
  apply a.learn (a.follows.enqueue new allowed room)
    ⟨discoveries_extend _ _ _, fun _ h => h, fun _ h => h, fun _ h => h⟩ rfl
    (fun _ h => h) (List.subset_append_left _ _) rfl
  · intro _
    apply warned_of_within
    rw [a.follows.length_of_allowed new allowed]
    omega
  · intro _
    refine .inr (.inl ?_)
    exact List.mem_map_of_mem (List.mem_append_right _ (List.mem_singleton_self f))

end Discovery

/-- The document of a reference is skipped, queued or past the limit, unless it is known. -/
theorem discover (a : Accounts w ns apart c) (referrer : Uri) (r : Reference) :
    Accounts w (ns ++ [.reference (.of referrer r)]) apart
      (c.discover w.configuration referrer r) := by
  have discovered := discovers w.configuration c referrer r
  generalize Found.of referrer r = f, c.discover w.configuration referrer r = c' at discovered
  cases discovered with
  | known there => exact a.again there
  | blocked new blocked => exact a.skip new blocked
  | further new allowed full reported => exact a.pass new allowed full reported
  | past new allowed full unreported => exact a.exceed new allowed full unreported
  | queued new allowed room => exact a.enqueue new allowed room

/-- All references of a graph are followed up. -/
theorem discoverAll (a : Accounts w ns apart c) (g : Graph) :
    Accounts w (ns ++ g.externalReferences.map fun r => .reference (.of g.uri r)) apart
      (c.discoverAll w.configuration g) := by
  unfold Crawl.discoverAll
  generalize g.externalReferences = references
  induction references generalizing ns c with
  | nil => simpa using a
  | cons r rest ih =>
    rw [List.map_cons, List.append_cons]
    exact ih (a.discover g.uri r)

/-- A document that was kept apart is found when its graph is added. -/
theorem addGraph {uri : Uri} (a : Accounts w ns (uri :: apart) c) {g : Graph}
    (loaded : ∃ request ∈ c.requests, (w.load request).graph = some g) :
    Accounts w ns apart (c.addGraph uri g) := by
  have keys : c.graphs.map (·.1) ⊆ (c.addGraph uri g).graphs.map (·.1) := by
    intro u hu
    obtain ⟨entry, he, rfl⟩ := List.mem_map.1 hu
    by_cases here : entry.1 = uri
    · rw [here]
      exact List.mem_cons_self
    · -- The graph of another URI is kept.
      have kept : entry ∈ c.graphs.filter (·.1 ≠ uri) := List.mem_filter.2 ⟨he, by simpa using here⟩
      exact List.mem_cons_of_mem _ (List.mem_map_of_mem kept)
  have grows : Grows w ns c ns (c.addGraph uri g) :=
    ⟨List.prefix_rfl, fun _ h => h, keys, fun _ h => h⟩
  have added : Accounts w ns (uri :: apart) (c.addGraph uri g) := by
    apply a.step (a.follows.addGraph uri g) grows
    · intro _ u hu
      exact .inl hu
    · intro u waiting
      exact placed_of_waiting waiting
    · exact warned_of_within
    · intro entry he
      rcases List.mem_cons.1 he with rfl | he
      · exact .inr loaded
      · exact .inl (List.mem_filter.1 he).1
  exact added.settle (.found List.mem_cons_self)

/-- A graph that is added is found, at its own URI, too, and its references are followed up. -/
theorem addLoaded {uri : Uri} (a : Accounts w ns (uri :: apart) c) {g : Graph}
    (loaded : ∃ request ∈ c.requests, (w.load request).graph = some g) :
    Accounts w (ns ++ g.namings) apart (c.addLoaded w.configuration uri g) := by
  have discovered := (a.own g.uri).discoverAll g
  rw [List.append_assoc] at discovered
  have requests : _ = c.requests := ((a.follows.own g.uri).discoverAll g).2
  rw [← requests] at loaded
  exact (discovered.addGraph loaded).addGraph loaded

/-- The next document of the queue is kept apart, while it is loaded. -/
theorem request {found : Found} {rest : List Found} (a : Accounts w ns apart c)
    (queue : c.queue = found :: rest) {log : Log}
    (follows : Follows w ns
      { c with queue := rest, requests := c.requests ++ [found.request], log })
    (longer : c.log ⊆ log) :
    Accounts w ns (found.uri :: apart)
      { c with queue := rest, requests := c.requests ++ [found.request], log } := by
  apply a.step follows
  · exact ⟨List.prefix_rfl, longer, fun _ h => h, List.subset_append_left _ _⟩
  · intro _ u hu
    exact .inl hu
  · intro u waiting
    -- What was set apart stays so.
    rcases waiting with there | queued
    · exact .inl (List.mem_cons_of_mem _ there)
    · rw [queue, List.map_cons] at queued
      -- The request takes the first of the queue.
      rcases List.mem_cons.1 queued with rfl | queued
      · exact .inl List.mem_cons_self
      · exact .inr (.inl queued)
  · exact warned_of_within
  · intro entry he
    exact .inl he

/-- The next document of the queue is loaded, and found or reported. -/
theorem visit {found : Found} {rest : List Found}
    (a : Accounts w (ns ++ loadedNamings w c.requests) apart c)
    (queue : c.queue = found :: rest) :
    Accounts w (ns ++ loadedNamings w (c.requests ++ [found.request])) apart
      (Crawl.visit w found { c with queue := rest }) := by
  rw [loadedNamings_concat, ← List.append_assoc]
  unfold Crawl.visit
  dsimp only
  have asked : (⟨found.uri.text, some found.referrer⟩ : Request) = found.request := rfl
  have among : found.request ∈ c.requests ++ [found.request] :=
    List.mem_append_right _ (List.mem_singleton_self _)
  rw [asked]
  cases loaded : w.host.load found.request with
  | error failure =>
    have none : (w.load found.request).graph = none := by rw [Workspace.load, loaded]
    rw [none, Option.elim_none, List.append_nil]
    have requested := a.request queue (a.follows.refused queue loaded)
      (List.subset_append_left _ _)
    exact requested.settle (.failed (.load among rfl loaded (tells_report c _ found.reference)))
  | ok handle =>
    have parsed : w.load found.request = w.parseHandle handle none := by
      rw [Workspace.load, loaded]
    have requested := a.request queue (a.follows.answered queue loaded)
      (List.subset_append_left _ _)
    rw [parsed]
    dsimp only
    cases graph : (w.parseHandle handle none).graph with
    | none =>
      rw [Option.elim_none, List.append_nil]
      exact requested.settle (.failed (.parse among rfl loaded graph
        (Workspace.hasErrors_parseHandle graph) (List.subset_append_right _ _)))
    | some g =>
      have there : (w.load found.request).graph = some g := by rw [parsed, graph]
      exact requested.addLoaded ⟨found.request, among, there⟩

/-- The account is kept until all that was queued is loaded. -/
theorem run (a : Accounts w (ns ++ loadedNamings w c.requests) apart c) :
    Accounts w (ns ++ loadedNamings w (c.run w).requests) apart (c.run w) := by
  induction c using Crawl.run.induct w with
  | case1 c empty =>
    have done : c.run w = c := by rw [Crawl.run, empty]
    rw [done]
    -- Nothing waits.
    exact a
  | case2 c found rest queue ih =>
    -- The first in the queue is visited.
    have next : c.run w = (Crawl.visit w found { c with queue := rest }).run w := by
      rw [Crawl.run, queue]
    have visited := a.visit queue
    rw [← (a.follows.visit queue).2] at visited
    rw [next]
    exact ih visited

end Accounts

end Account

/-! ## Crawls -/

/-- The account of a crawl holds in the end; only the root document stays apart. -/
theorem crawl_accounts (w : Workspace) (root : Graph) :
    Accounts w (root.namings ++ loadedNamings w (w.crawl root).requests) [root.uri]
      (w.crawl root) := by
  have none : discoveries w.configuration [.own root.uri] = [] := rfl
  have start : Accounts w [.own root.uri] [root.uri]
      { known := [root.uri], queue := [], budget := w.configuration.maxDocuments
        limitReported := false, log := [], graphs := [], requests := [] } := by
    refine ⟨follows_start w root.uri, fun u hu => .inl hu, ?_, fun _ h => absurd h List.not_mem_nil⟩
    apply warned_of_within
    rw [none]
    exact Nat.zero_le _
  apply Accounts.run
  have requests := (start.follows.discoverAll root).2
  rw [requests, loadedNamings, List.filterMap_nil, List.flatMap_nil, List.append_nil]
  exact start.discoverAll root

/-- The root document, or one that was loaded. -/
def Covers (w : Workspace) (root g : Graph) : Prop :=
  g = root ∨ ∃ request ∈ (w.crawl root).requests, (w.load request).graph = some g

/-- All that is named in a crawl. -/
def named (w : Workspace) (root : Graph) : List Naming :=
  root.namings ++ loadedNamings w (w.crawl root).requests

/-- Every other document that the root document or a loaded one refers to has a fate. -/
theorem fate_of_reference {w : Workspace} {root g : Graph} (hg : Covers w root g) {r : Reference}
    (hr : r ∈ g.externalReferences) (other : r.target.uri ≠ root.uri) :
    Fate w (named w root) (w.crawl root) r.target.uri := by
  have a := crawl_accounts w root
  have cited : Naming.reference (.of g.uri r) ∈ g.namings :=
    List.mem_cons_of_mem _ (List.mem_map.2 ⟨r, hr, rfl⟩)
  have among : Naming.reference (.of g.uri r) ∈ named w root := by
    rcases hg with rfl | ⟨request, asked, loaded⟩
    · exact List.mem_append_left _ cited
    · refine List.mem_append_right _ (List.mem_flatMap.2 ⟨g, ?_, cited⟩)
      -- The graph was loaded by a request.
      exact List.mem_filterMap.2 ⟨request, asked, loaded⟩
  have known : r.target.uri ∈ (w.crawl root).known :=
    (a.follows.known _).2 (List.mem_map_of_mem among)
  -- It is the root, or waits, or has a fate; and in the end nothing waits.
  rcases a.known _ known with there | queued | fate
  · exact absurd (List.mem_singleton.1 there) other
  · rw [(crawl_follows w root).2] at queued
    exact absurd queued List.not_mem_nil
  · exact fate

end Crawl

end DesignTokens
