import DesignTokens.Proofs.Sample
import DesignTokens.Proofs.Workspace.Discoveries
import DesignTokens.Proofs.Workspace.Parse
import Mathlib.Algebra.BigOperators.Group.List.Basic

/-!
# DesignTokens.Proofs.Workspace.Crawl — which documents a crawl loads

A crawl loads the documents that are named by the root graph and by the graphs it has loaded, in the
order in which they are first named, up to a limit.

1. **Steps** (`Crawl.Follows`): the state of a crawl follows from what was named so far; a discovery
   and a visit keep that.
2. **Runs** (`Crawl.Follows.run`): every run ends, in a state that follows from all that was named.
3. **Crawls** (`Crawl.Safe`): the requests are the first discoveries (`Workspace.crawl_safe`).
-/

namespace DesignTokens

namespace Crawl

/-! ## Steps -/

/-- How often a log says that there are too many documents. -/
def limitCount (log : Log) : Nat :=
  log.countP (·.code = .documentLimit)

/-- The state of a crawl follows from what was named so far: the requests and the queue are the
first discoveries, and the limit is reported once when there are more. What was reported while a
document was parsed is counted apart. -/
structure Follows (w : Workspace) (ns : List Naming) (c : Crawl) : Prop where
  known : ∀ u, u ∈ c.known ↔ u ∈ ns.map Naming.uri
  queued : c.requests ++ c.queue.map Found.request =
    ((discoveries w.configuration ns).take w.configuration.maxDocuments).map Found.request
  budget : c.budget = w.configuration.maxDocuments - (discoveries w.configuration ns).length
  limited : c.limitReported = true ↔
    w.configuration.maxDocuments < (discoveries w.configuration ns).length
  limits : limitCount c.log =
    (if w.configuration.maxDocuments < (discoveries w.configuration ns).length then 1 else 0) +
      (c.requests.map fun r => limitCount (w.load r).log).sum

section Steps

variable {w : Workspace} {ns : List Naming} {c : Crawl}

theorem limitCount_append (log log' : Log) :
    limitCount (log ++ log') = limitCount log + limitCount log' :=
  List.countP_append

/-- What follows the namings does so with one more graph. -/
theorem Follows.addGraph (h : Follows w ns c) (uri : Uri) (g : Graph) :
    Follows w ns (c.addGraph uri g) :=
  ⟨h.known, h.queued, h.budget, h.limited, h.limits⟩

/-- The document of a graph is known from then on. -/
theorem Follows.own (h : Follows w ns c) (uri : Uri) :
    Follows w (ns ++ [.own uri]) { c with known := uri :: c.known } where
  known u := by simp [h.known u, Naming.uri, or_comm]
  queued := by rw [discoveries_own]; exact h.queued
  budget := by rw [discoveries_own]; exact h.budget
  limited := by rw [discoveries_own]; exact h.limited
  limits := by rw [discoveries_own]; exact h.limits

/-- A report counts if it is one of the limit. -/
theorem limitCount_report (c : Crawl) (fault : Workspace.Fault) (r : Reference) :
    limitCount (c.report fault r).log =
      limitCount c.log + if fault.code = .documentLimit then 1 else 0 := by
  rw [report, limitCount_append]
  refine congrArg (limitCount c.log + ·) ?_
  by_cases code : fault.code = .documentLimit <;>
    simp [limitCount, Workspace.Fault.diagnostic, Diagnostic.new, Diagnostic.located,
      Diagnostic.withPointer, Diagnostic.withSpan, code]

/-- The document of a reference is known from then on. -/
def mark (c : Crawl) (f : Found) : Crawl :=
  { c with known := f.uri :: c.known }

/-- What a discovery does: nothing, if the document is known; else it is queued, if it is permitted
and within the limit, of which the first document past it is reported. -/
inductive Discovers (configuration : Configuration) (c : Crawl) (f : Found) : Crawl → Prop where
  | known (there : f.uri ∈ c.known) : Discovers configuration c f c
  | blocked (new : f.uri ∉ c.known) (blocked : permitted configuration f.uri = false) :
    Discovers configuration c f ((c.mark f).report (.networkSkipped f.uri) f.reference)
  | further (new : f.uri ∉ c.known) (allowed : permitted configuration f.uri = true)
      (full : c.budget = 0) (reported : c.limitReported = true) :
    Discovers configuration c f (c.mark f)
  | past (new : f.uri ∉ c.known) (allowed : permitted configuration f.uri = true)
      (full : c.budget = 0) (unreported : c.limitReported = false) :
    Discovers configuration c f
      { (c.mark f).report (.tooManyDocuments configuration.maxDocuments f.uri) f.reference with
        limitReported := true }
  | queued (new : f.uri ∉ c.known) (allowed : permitted configuration f.uri = true)
      (room : c.budget ≠ 0) :
    Discovers configuration c f
      { c.mark f with queue := c.queue ++ [f], budget := c.budget - 1 }

/-- Each discovery is one of the five. -/
theorem discovers (configuration : Configuration) (c : Crawl) (referrer : Uri) (r : Reference) :
    Discovers configuration c (.of referrer r) (c.discover configuration referrer r) := by
  unfold Crawl.discover
  dsimp only
  split
  · -- The document is known.
    next there =>
    have known : r.target.uri ∈ c.known := by simpa using there
    exact .known known
  · next there =>
    have new : r.target.uri ∉ c.known := by simpa using there
    split
    · -- The network may not be used.
      next blocked =>
      refine .blocked new ?_
      rw [permitted, Bool.not_eq_false']
      exact blocked
    · next allowed =>
      have allowed : permitted configuration (Found.of referrer r).uri = true := by
        rw [permitted, Bool.not_eq_true']
        exact Bool.eq_false_iff.2 allowed
      split
      · -- The limit is reached.
        next full =>
        split
        · next reported => exact .further new allowed full reported
        · next unreported => exact .past new allowed full (Bool.eq_false_iff.2 unreported)
      · -- There is room.
        next room => exact .queued new allowed room

/-! ### Discoveries

What becomes of the state when one more reference is named, in each of the five cases. -/

section Discovery

variable {f : Found}

/-- The document of a reference that is named is known. -/
theorem Follows.known_concat (h : Follows w ns c) (u : Uri) :
    u ∈ f.uri :: c.known ↔ u ∈ (ns ++ [Naming.reference f]).map Naming.uri := by
  rw [List.mem_cons, h.known u, List.map_append, List.mem_append, List.map_singleton,
    List.mem_singleton, or_comm]
  rfl

/-- A document is discovered only once. -/
theorem Follows.discoveries_of_known (h : Follows w ns c) (there : f.uri ∈ c.known) :
    discoveries w.configuration (ns ++ [.reference f]) = discoveries w.configuration ns :=
  Crawl.discoveries_of_known ((h.known _).1 there)

/-- A new document is discovered if it may be loaded. -/
theorem Follows.discoveries_of_new (h : Follows w ns c) (new : f.uri ∉ c.known) :
    discoveries w.configuration (ns ++ [.reference f]) =
      discoveries w.configuration ns ++ if permitted w.configuration f.uri then [f] else [] :=
  discoveries_reference w.configuration fun named => new ((h.known _).2 named)

/-- A reference that is blocked discovers nothing. -/
theorem Follows.discoveries_of_blocked (h : Follows w ns c) (new : f.uri ∉ c.known)
    (blocked : permitted w.configuration f.uri = false) :
    discoveries w.configuration (ns ++ [.reference f]) = discoveries w.configuration ns := by
  rw [h.discoveries_of_new new, blocked, if_neg Bool.false_ne_true, List.append_nil]

/-- One that is new and allowed discovers its document. -/
theorem Follows.discoveries_of_allowed (h : Follows w ns c) (new : f.uri ∉ c.known)
    (allowed : permitted w.configuration f.uri = true) :
    discoveries w.configuration (ns ++ [.reference f]) = discoveries w.configuration ns ++ [f] := by
  rw [h.discoveries_of_new new, allowed, if_pos rfl]

theorem Follows.length_of_allowed (h : Follows w ns c) (new : f.uri ∉ c.known)
    (allowed : permitted w.configuration f.uri = true) :
    (discoveries w.configuration (ns ++ [.reference f])).length =
      (discoveries w.configuration ns).length + 1 := by
  rw [h.discoveries_of_allowed new allowed, List.length_append, List.length_singleton]

/-- Where the budget is used up and the limit is not reported yet, it was just reached. -/
theorem Follows.length_of_full (h : Follows w ns c) (full : c.budget = 0)
    (unreported : c.limitReported = false) :
    (discoveries w.configuration ns).length = w.configuration.maxDocuments := by
  have within : ¬w.configuration.maxDocuments < (discoveries w.configuration ns).length := by
    rw [← h.limited, unreported]
    exact Bool.false_ne_true
  have budget := h.budget
  omega

/-- Nothing changes if the document is known. -/
theorem Follows.again (h : Follows w ns c) (there : f.uri ∈ c.known) :
    Follows w (ns ++ [.reference f]) c := by
  have same := h.discoveries_of_known there
  refine ⟨fun u => ?_, ?_, ?_, ?_, ?_⟩
  · rw [← h.known_concat u, List.mem_cons]
    refine ⟨.inr, ?_⟩
    rintro (rfl | here)
    · exact there
    · exact here
  · rw [same]; exact h.queued
  · rw [same]; exact h.budget
  · rw [same]; exact h.limited
  · rw [same]; exact h.limits

/-- A document of the network is reported, and not discovered. -/
theorem Follows.skip (h : Follows w ns c) (new : f.uri ∉ c.known)
    (blocked : permitted w.configuration f.uri = false) :
    Follows w (ns ++ [.reference f])
      ((c.mark f).report (.networkSkipped f.uri) f.reference) := by
  have same := h.discoveries_of_blocked new blocked
  refine ⟨h.known_concat, ?_, ?_, ?_, ?_⟩
  · rw [same]; exact h.queued
  · rw [same]; exact h.budget
  · rw [same]; exact h.limited
  · -- The report is not one of the limit.
    have silent := limitCount_report (c.mark f) (.networkSkipped f.uri) f.reference
    rw [same, silent]
    exact h.limits

/-- A further document past the limit is discovered, and neither queued nor reported. -/
theorem Follows.pass (h : Follows w ns c) (new : f.uri ∉ c.known)
    (allowed : permitted w.configuration f.uri = true) (full : c.budget = 0)
    (reported : c.limitReported = true) : Follows w (ns ++ [.reference f]) (c.mark f) := by
  -- The limit was reported, so it is already passed.
  have past := h.limited.1 reported
  have length := h.length_of_allowed new allowed
  refine ⟨h.known_concat, ?_, ?_, ?_, ?_⟩
  · rw [h.discoveries_of_allowed new allowed, List.take_append_of_le_length (Nat.le_of_lt past)]
    exact h.queued
  · rw [length, Nat.sub_eq_zero_of_le (by omega)]
    exact full
  · rw [length]
    exact iff_of_true reported (by omega)
  · have limits := h.limits
    rw [if_pos past] at limits
    rw [length, if_pos (by omega)]
    exact limits

/-- The first document past the limit is discovered and reported. -/
theorem Follows.exceed (h : Follows w ns c) (new : f.uri ∉ c.known)
    (allowed : permitted w.configuration f.uri = true) (full : c.budget = 0)
    (unreported : c.limitReported = false) :
    Follows w (ns ++ [.reference f])
      { (c.mark f).report (.tooManyDocuments w.configuration.maxDocuments f.uri) f.reference with
        limitReported := true } := by
  have reached := h.length_of_full full unreported
  have length := h.length_of_allowed new allowed
  refine ⟨h.known_concat, ?_, ?_, ?_, ?_⟩
  · rw [h.discoveries_of_allowed new allowed, List.take_append_of_le_length (by omega)]
    exact h.queued
  · rw [length, Nat.sub_eq_zero_of_le (by omega)]
    exact full
  · rw [length]
    exact iff_of_true rfl (by omega)
  · have once : limitCount ((c.mark f).report
        (.tooManyDocuments w.configuration.maxDocuments f.uri) f.reference).log =
          limitCount c.log + 1 := limitCount_report _ _ _
    have limits := h.limits
    rw [if_neg (by omega), Nat.zero_add] at limits
    rw [length, if_pos (by omega), once, limits, Nat.add_comm]
    rfl

/-- A document within the limit is discovered and queued. -/
theorem Follows.enqueue (h : Follows w ns c) (new : f.uri ∉ c.known)
    (allowed : permitted w.configuration f.uri = true) (room : c.budget ≠ 0) :
    Follows w (ns ++ [.reference f])
      { c.mark f with queue := c.queue ++ [f], budget := c.budget - 1 } := by
  have length := h.length_of_allowed new allowed
  have budget := h.budget
  refine ⟨h.known_concat, ?_, ?_, ?_, ?_⟩
  · -- All discoveries are within the limit, before and after.
    have queued := h.queued
    rw [List.take_of_length_le (by omega)] at queued
    have longer : c.requests ++ (c.queue ++ [f]).map Found.request =
        (discoveries w.configuration ns ++ [f]).map Found.request := by
      rw [List.map_append, ← List.append_assoc, queued, List.map_append]
    rw [List.take_of_length_le (by omega), h.discoveries_of_allowed new allowed]
    exact longer
  · rw [length, Nat.sub_add_eq, ← budget]
  · rw [length]
    exact h.limited.trans (iff_of_false (by omega) (by omega))
  · have limits := h.limits
    rw [if_neg (by omega)] at limits
    rw [length, if_neg (by omega)]
    exact limits

end Discovery

/-- The state follows from one more naming if the document of a reference is discovered. -/
theorem Follows.discover (h : Follows w ns c) (referrer : Uri) (r : Reference) :
    Follows w (ns ++ [.reference (.of referrer r)])
      (c.discover w.configuration referrer r) := by
  have step := discovers w.configuration c referrer r
  generalize Found.of referrer r = f, c.discover w.configuration referrer r = c' at step
  cases step with
  | known there => exact h.again there
  | blocked new blocked => exact h.skip new blocked
  | further new allowed full reported => exact h.pass new allowed full reported
  | past new allowed full unreported => exact h.exceed new allowed full unreported
  | queued new allowed room => exact h.enqueue new allowed room

/-- Discoveries make no requests. -/
theorem requests_discover (configuration : Configuration) (c : Crawl) (referrer : Uri)
    (r : Reference) : (c.discover configuration referrer r).requests = c.requests := by
  have step := discovers configuration c referrer r
  generalize c.discover configuration referrer r = c' at step
  cases step <;> rfl

/-- All references of a graph are followed up. -/
theorem Follows.discoverAll (h : Follows w ns c) (g : Graph) :
    Follows w (ns ++ g.externalReferences.map fun r => .reference (.of g.uri r))
        (c.discoverAll w.configuration g) ∧
      (c.discoverAll w.configuration g).requests = c.requests := by
  unfold Crawl.discoverAll
  generalize g.externalReferences = references
  induction references generalizing ns c with
  | nil => exact ⟨by simpa using h, rfl⟩
  | cons r rest ih =>
    obtain ⟨follows, requests⟩ := ih (h.discover g.uri r)
    refine ⟨?_, requests.trans (requests_discover _ _ _ _)⟩
    rw [List.map_cons, List.append_cons]
    exact follows

/-- A graph that is added names its own document and those that it refers to. -/
theorem Follows.addLoaded (h : Follows w ns c) (uri : Uri) (g : Graph) :
    Follows w (ns ++ g.namings) (c.addLoaded w.configuration uri g) ∧
      (c.addLoaded w.configuration uri g).requests = c.requests := by
  obtain ⟨follows, requests⟩ := (h.own g.uri).discoverAll g
  rw [List.append_assoc] at follows
  exact ⟨(follows.addGraph g.uri g).addGraph uri g, requests⟩

/-- The next document of the queue is requested, whatever comes of it. -/
theorem Follows.request {found : Found} {rest : List Found} (h : Follows w ns c)
    (queue : c.queue = found :: rest) (log : Log)
    (counted : limitCount log = limitCount c.log + limitCount (w.load found.request).log) :
    Follows w ns { c with queue := rest, requests := c.requests ++ [found.request], log } where
  known := h.known
  queued := by
    have queued := h.queued
    rw [queue, List.map_cons, List.append_cons] at queued
    exact queued
  budget := h.budget
  limited := h.limited
  limits := by
    rw [counted, h.limits, List.map_append, List.sum_append, Nat.add_assoc]
    rfl

/-- A document that cannot be loaded is requested and reported. -/
theorem Follows.refused {found : Found} {rest : List Found} (h : Follows w ns c)
    (queue : c.queue = found :: rest) {failure : HostFailure}
    (refused : w.host.load found.request = .error failure) :
    Follows w ns { c with
      queue := rest, requests := c.requests ++ [found.request]
      log := (c.report (.loadFailed found.uri.text failure) found.reference).log } := by
  have parsed : w.load found.request =
      { log := [(Workspace.Fault.loadFailed found.uri.text failure).diagnostic] } := by
    rw [Workspace.load, refused]
    rfl
  exact h.request queue _ (by rw [limitCount_report, parsed]; rfl)

/-- A document that is loaded is requested and parsed. -/
theorem Follows.answered {found : Found} {rest : List Found} (h : Follows w ns c)
    (queue : c.queue = found :: rest) {handle : Handle}
    (loaded : w.host.load found.request = .ok handle) :
    Follows w ns { c with
      queue := rest, requests := c.requests ++ [found.request]
      log := c.log ++ (w.parseHandle handle none).log } := by
  have parsed : w.load found.request = w.parseHandle handle none := by
    rw [Workspace.load, loaded]
  exact h.request queue _ (by rw [limitCount_append, parsed])

/-- The next document of the queue is loaded, and what its graph names follows. -/
theorem Follows.visit {found : Found} {rest : List Found}
    (h : Follows w (ns ++ loadedNamings w c.requests) c) (queue : c.queue = found :: rest) :
    Follows w (ns ++ loadedNamings w (c.requests ++ [found.request]))
        (Crawl.visit w found { c with queue := rest }) ∧
      (Crawl.visit w found { c with queue := rest }).requests = c.requests ++ [found.request] := by
  rw [loadedNamings_concat, ← List.append_assoc]
  unfold Crawl.visit
  dsimp only
  have asked : (⟨found.uri.text, some found.referrer⟩ : Request) = found.request := rfl
  rw [asked]
  cases loaded : w.host.load found.request with
  | error failure =>
    -- Nothing is loaded, so no reference is added.
    have none : (w.load found.request).graph = none := by rw [Workspace.load, loaded]
    refine ⟨?_, rfl⟩
    rw [none, Option.elim_none, List.append_nil]
    exact h.refused queue loaded
  | ok handle =>
    -- A text is loaded.
    have parsed : w.load found.request = w.parseHandle handle none := by
      rw [Workspace.load, loaded]
    have requested := h.answered queue loaded
    rw [parsed]
    dsimp only
    -- It has no graph.
    cases (w.parseHandle handle none).graph with
    | none =>
      refine ⟨?_, rfl⟩
      rw [Option.elim_none, List.append_nil]
      exact requested
    -- It has one, whose references are discovered.
    | some g => exact requested.addLoaded found.uri g

/-! ## Runs -/

/-- A run ends when all that was queued is loaded. -/
theorem Follows.run (h : Follows w (ns ++ loadedNamings w c.requests) c) :
    Follows w (ns ++ loadedNamings w (c.run w).requests) (c.run w) ∧ (c.run w).queue = [] := by
  induction c using Crawl.run.induct w with
  | case1 c empty =>
    -- Nothing waits.
    have done : c.run w = c := by rw [Crawl.run, empty]
    rw [done]
    exact ⟨h, empty⟩
  | case2 c found rest queue ih =>
    -- The first in the queue is visited.
    have next : c.run w = (Crawl.visit w found { c with queue := rest }).run w := by
      rw [Crawl.run, queue]
    obtain ⟨follows, requests⟩ := h.visit queue
    rw [next]
    refine ih ?_
    rw [requests]
    exact follows

end Steps

/-- A crawl starts with nothing but the root document. -/
theorem follows_start (w : Workspace) (uri : Uri) :
    Follows w [.own uri]
      { known := [uri], queue := [], budget := w.configuration.maxDocuments
        limitReported := false, log := [], graphs := [], requests := [] } := by
  have none : discoveries w.configuration [.own uri] = [] := rfl
  refine ⟨fun u => by simp [Naming.uri], ?_, ?_, ?_, ?_⟩ <;> simp [none, limitCount]

/-- The state in which a crawl ends follows from the root graph and the documents that were
loaded. -/
theorem crawl_follows (w : Workspace) (root : Graph) :
    Follows w (root.namings ++ loadedNamings w (w.crawl root).requests) (w.crawl root) ∧
      (w.crawl root).queue = [] := by
  obtain ⟨follows, requests⟩ := (follows_start w root.uri).discoverAll root
  refine Follows.run ?_
  rw [requests, loadedNamings, List.filterMap_nil, List.flatMap_nil, List.append_nil]
  exact follows

/-! ## Crawls -/

/-- What a crawl does, where `found` are the documents that are named first, if they may be loaded,
by the root graph and by the documents that were loaded. -/
structure Safe (w : Workspace) (root : Graph) (found : List Found) (final : Crawl) : Prop where
  discovered : found = discoveries w.configuration (root.namings ++ loadedNamings w final.requests)
  ended : final.queue = []
  /-- They are requested in this order, up to the limit. -/
  requested : final.requests = (found.take w.configuration.maxDocuments).map Found.request
  bounded : final.requests.length ≤ w.configuration.maxDocuments
  distinct : (root.uri :: found.map (·.uri)).Nodup
  offline : w.configuration.resolver.allowNetwork = false → ∀ f ∈ found, f.uri.isNetwork = false
  /-- The loader is never given a text twice, nor that of the root. -/
  inputs : root.WellAddressed → w.host.WellAddressed →
    (root.uri.text :: final.requests.map (·.location)).Nodup
  /-- The limit is reported once if there are more documents, apart from what is reported while
  documents are loaded. -/
  limit : limitCount final.log =
    (if w.configuration.maxDocuments < found.length then 1 else 0) +
      (final.requests.map fun r => limitCount (w.load r).log).sum
  /-- That is nothing, if the host leaves the limit to the crawl. -/
  limitAlone : (∀ d, w.host.Says d → d.code ≠ .documentLimit) →
    limitCount final.log = if w.configuration.maxDocuments < found.length then 1 else 0

variable {w : Workspace} {ns : List Naming}

/-- Every reference of a graph leads to a well-formed URI. -/
theorem wellFormed_namings {g : Graph} (hg : g.WellAddressed) :
    ∀ n ∈ g.namings, n.uri.WellFormed := by
  intro n hn
  rcases List.mem_cons.1 hn with rfl | hn
  · exact hg.own
  · obtain ⟨r, hr, rfl⟩ := List.mem_map.1 hn
    exact hg.references r hr

theorem wellFormed_loadedNamings (hw : w.host.WellAddressed) (requests : List Request) :
    ∀ n ∈ loadedNamings w requests, n.uri.WellFormed := by
  intro n hn
  obtain ⟨g, hg, hn⟩ := List.mem_flatMap.1 hn
  obtain ⟨request, _, loaded⟩ := List.mem_filterMap.1 hg
  exact wellFormed_namings (Workspace.wellAddressed_load hw loaded) n hn

/-- Documents with different URIs are requested with different texts. -/
theorem nodup_locations {uri : Uri} {found : List Found}
    (distinct : (uri :: found.map (·.uri)).Nodup) (own : uri.WellFormed)
    (others : ∀ f ∈ found, f.uri.WellFormed) (limit : Nat) :
    (uri.text :: ((found.take limit).map Found.request).map (·.location)).Nodup := by
  have wellFormed : ∀ u ∈ uri :: found.map (·.uri), u.WellFormed := by
    intro u hu
    rcases List.mem_cons.1 hu with rfl | hu
    · exact own
    · obtain ⟨f, hf, rfl⟩ := List.mem_map.1 hu
      exact others f hf
  have texts : ((uri :: found.map (·.uri)).map Uri.text).Nodup :=
    distinct.map_on fun u hu v hv => Uri.text_inj (wellFormed u hu) (wellFormed v hv)
  refine texts.sublist ?_
  rw [List.map_cons, List.map_map, List.map_map]
  exact ((List.take_sublist limit found).map _).cons_cons _

/-- A load does not report the limit, unless the host does. -/
theorem limitCount_eq_zero_of_load (host : ∀ d, w.host.Says d → d.code ≠ .documentLimit)
    (request : Request) : limitCount (w.load request).log = 0 := by
  refine List.countP_eq_zero.2 fun d hd code => ?_
  have code := of_decide_eq_true code
  rcases Workspace.says_load hd with said | content | way
  · exact host d said code
  · rw [code] at content
    exact content rfl
  · rw [code] at way
    revert way
    decide

end Crawl

/-- Every crawl is safe, whatever the host answers. -/
theorem Workspace.crawl_safe (w : Workspace) (root : Graph) :
    ∃ found, Crawl.Safe w root found (w.crawl root) := by
  obtain ⟨follows, ended⟩ := Crawl.crawl_follows w root
  generalize w.crawl root = final at follows ended
  have requested := follows.queued
  rw [ended, List.map_nil, List.append_nil] at requested
  have limit := follows.limits
  have distinct : (root.uri :: (Crawl.discoveries w.configuration
      (root.namings ++ Crawl.loadedNamings w final.requests)).map (·.uri)).Nodup :=
    List.nodup_cons.2 ⟨Crawl.not_discovered_own root.uri, Crawl.nodup_discoveries _ _⟩
  refine ⟨_, rfl, ended, requested, ?_, distinct, ?_, ?_, limit, ?_⟩
  · -- No more requests than the limit.
    rw [requested, List.length_map]
    exact List.length_take_le _ _
  · -- Off the network without leave.
    intro offline f hf
    have allowed := Crawl.permitted_of_discovered hf
    rw [Crawl.permitted, offline] at allowed
    simpa using allowed
  · -- No location twice.
    intro hr hw
    rw [requested]
    refine Crawl.nodup_locations distinct hr.own (fun f hf => ?_) _
    rcases List.mem_append.1 (Crawl.named_of_discovered hf) with named | named
    · exact Crawl.wellFormed_namings hr _ named
    · exact Crawl.wellFormed_loadedNamings hw _ _ named
  · -- One report of the limit at most.
    intro host
    rw [limit, List.sum_eq_zero, Nat.add_zero]
    intro count hcount
    obtain ⟨request, _, rfl⟩ := List.mem_map.1 hcount
    exact Crawl.limitCount_eq_zero_of_load host request

/-! ### A document that answers elsewhere, one that is gone, and one too many -/

namespace Tight

open Sample (color file isDocument_file linkTo)

def root : Graph :=
  Sample.graph (file "root") [linkTo "x" (file "a") "x", linkTo "y" (file "b") "x"] []

/-- The document that answers under another URI refers to the second one, to a third one, to where
it was asked for, and to the root. -/
def answer : Document :=
  Sample.document "moved" [("x", color "$ref" "b"), ("y", color "$ref" "c"),
    ("z", color "$ref" "a"), ("w", color "$ref" "root")]

def web : Workspace where
  host := {
    load := fun request =>
      if request.location = "file:///a" then .ok ⟨file "moved", ""⟩ else .error ⟨["gone"]⟩
    decode := fun _ => .ok answer }
  configuration := { maxDocuments := 2 }

theorem wellAddressed_root : root.WellAddressed := by
  refine ⟨(isDocument_file (by decide +kernel)).wellFormed, fun r hr => ?_⟩
  have targets : ∀ r ∈ root.externalReferences,
      r.target.uri = file "a" ∨ r.target.uri = file "b" := by decide
  rcases targets r hr with uri | uri
  · rw [uri]
    exact (isDocument_file (by decide +kernel)).wellFormed
  · rw [uri]
    exact (isDocument_file (by decide +kernel)).wellFormed

end Tight

/-- The first two documents are requested, and the third one is past the limit. -/
theorem tight_web_crawled :
    Tight.root.WellAddressed ∧ Tight.web.host.WellAddressed ∧
      (∀ d, Tight.web.host.Says d → d.code ≠ .documentLimit) ∧
      ∃ found, Crawl.Safe Tight.web Tight.root found (Tight.web.crawl Tight.root) ∧
        found.map (·.uri) = ["a", "b", "c"].map Sample.file ∧
        (Tight.web.crawl Tight.root).requests.map (·.location) = ["file:///a", "file:///b"] ∧
        Crawl.limitCount (Tight.web.crawl Tight.root).log = 1 := by
  have host : Tight.web.host.WellAddressed := by
    rintro _ _ ⟨⟩
    exact (Sample.isDocument_file (by decide +kernel)).wellFormed
  have silent : ∀ d, Tight.web.host.Says d → d.code ≠ .documentLimit := by
    rintro d (⟨_, hd⟩ | ⟨_, _, _, has, _⟩)
    · cases hd
    · cases has
  obtain ⟨found, safe⟩ := Workspace.crawl_safe Tight.web Tight.root
  refine ⟨Tight.wellAddressed_root, host, silent, found, safe, ?_, by decide +kernel,
    by decide +kernel⟩
  rw [safe.discovered]
  decide +kernel

end DesignTokens
