import DesignTokens.Workspace.Parse

/-!
# DesignTokens.Workspace.Crawl — loading the documents that a document refers to

Starting from a graph, every document that is referred to is loaded once, in the order in which the
documents are discovered, up to a limit. A document that cannot be loaded is reported and its branch
is left out.

1. **Discoveries** (`Crawl.discover`): a document not known so far is queued, if it may be loaded.
2. **Visits** (`Crawl.visit`): the next document is loaded, and what it refers to is discovered.
   A visit takes one document from the queue and every discovery uses up budget, so the crawl ends.
3. **Crawls** (`Workspace.crawl`).
-/

namespace DesignTokens

/-- A document that waits to be loaded, and the reference that it was discovered by. -/
structure Crawl.Found where
  uri : Uri
  referrer : Uri
  reference : Reference
deriving Repr, DecidableEq, Inhabited

structure Crawl where
  /-- The documents discovered so far. -/
  known : List Uri
  /-- The documents that wait to be loaded, in order. -/
  queue : List Crawl.Found
  /-- How many documents may still be queued. -/
  budget : Nat
  limitReported : Bool
  log : Log
  /-- The graphs loaded so far, by URI; no URI occurs twice. -/
  graphs : List (Uri × Graph)
  /-- The requests so far, in order. -/
  requests : List Request
deriving Repr, Inhabited

namespace Crawl

/-- How many documents may still be loaded. -/
def remaining (c : Crawl) : Nat :=
  c.budget + c.queue.length

/-- Add a graph, in place of an earlier one at the URI. -/
def addGraph (c : Crawl) (uri : Uri) (g : Graph) : Crawl :=
  { c with graphs := (uri, g) :: c.graphs.filter (·.1 ≠ uri) }

/-! ## Discoveries -/

/-- Report a fault where a reference was read from. -/
def report (c : Crawl) (fault : Workspace.Fault) (reference : Reference) : Crawl :=
  { c with log := c.log ++ [fault.diagnostic.located reference.pointer reference.span] }

/-- Queue the document that a reference in a document leads to, unless it is known, or may not be
loaded. -/
def discover (configuration : Configuration) (referrer : Uri) (c : Crawl) (reference : Reference) :
    Crawl :=
  let uri := reference.target.uri
  if c.known.contains uri then c
  else
    -- Whatever becomes of the document, it is not discovered twice.
    let c := { c with known := uri :: c.known }
    if reference.target.isNetwork && !configuration.resolver.allowNetwork then
      c.report (.networkSkipped uri) reference
    else if c.budget = 0 then
      -- Only the first document past the limit is reported.
      if c.limitReported then c
      else
        { c.report (.tooManyDocuments configuration.maxDocuments uri) reference with
          limitReported := true }
    else
      { c with queue := c.queue ++ [⟨uri, referrer, reference⟩], budget := c.budget - 1 }

/-- A discovery moves at most one unit of budget to the queue. -/
theorem remaining_discover (configuration : Configuration) (referrer : Uri) (c : Crawl)
    (reference : Reference) :
    (c.discover configuration referrer reference).remaining = c.remaining := by
  unfold discover
  simp only
  split
  · rfl
  · split
    · rfl
    · split
      · split <;> rfl
      · rename_i h
        simp only [remaining, List.length_append, List.length_cons, List.length_nil] at h ⊢
        omega

/-- Discover every document that a graph refers to. -/
def discoverAll (configuration : Configuration) (g : Graph) (c : Crawl) : Crawl :=
  g.externalReferences.foldl (discover configuration g.uri) c

/-- Discoveries change nothing about how many documents may still be loaded. -/
theorem remaining_discoverAll (configuration : Configuration) (g : Graph) (c : Crawl) :
    (c.discoverAll configuration g).remaining = c.remaining := by
  unfold discoverAll
  generalize g.externalReferences = references
  induction references generalizing c with
  | nil => rfl
  | cons reference rest ih => rw [List.foldl_cons, ih, remaining_discover]

/-! ## Visits -/

/-- Add a graph that was found at a URI, and discover what it refers to. It can be found at its own
URI, too. -/
def addLoaded (configuration : Configuration) (uri : Uri) (g : Graph) (c : Crawl) : Crawl :=
  let c := { c with known := g.uri :: c.known }
  ((c.discoverAll configuration g).addGraph g.uri g).addGraph uri g

/-- Load a document that was discovered. -/
def visit (w : Workspace) (found : Found) (c : Crawl) : Crawl :=
  let request : Request := ⟨found.uri.text, some found.referrer⟩
  let c := { c with requests := c.requests ++ [request] }
  match w.host.load request with
  | .error failure => c.report (.loadFailed found.uri.text failure) found.reference
  | .ok handle =>
    let parsed := w.parseHandle handle none
    let c := { c with log := c.log ++ parsed.log }
    match parsed.graph with
    | none => c
    | some g => c.addLoaded w.configuration found.uri g

/-- A visit changes nothing about how many documents may still be loaded. -/
theorem remaining_visit (w : Workspace) (found : Found) (c : Crawl) :
    (c.visit w found).remaining = c.remaining := by
  unfold visit
  simp only
  split
  · rfl
  · split
    · rfl
    · simp only [addLoaded, addGraph, remaining]
      exact remaining_discoverAll _ _ _

/-- Load the documents in the queue, and all that are discovered on the way. -/
def run (w : Workspace) (c : Crawl) : Crawl :=
  match _h : c.queue with
  | [] => c
  | found :: rest => run w (visit w found { c with queue := rest })
termination_by c.remaining
decreasing_by
  rw [remaining_visit]
  simp only [remaining, _h, List.length_cons]
  omega

end Crawl

/-! ## Crawls -/

/-- Load the documents that a graph refers to, directly or through others. -/
def Workspace.crawl (w : Workspace) (root : Graph) : Crawl :=
  let start : Crawl := {
    known := [root.uri], queue := [], budget := w.configuration.maxDocuments
    limitReported := false, log := [], graphs := [], requests := [] }
  (start.discoverAll w.configuration root).run w

end DesignTokens
