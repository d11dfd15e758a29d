import DesignTokens.Workspace.Crawl
import Mathlib.Data.List.Nodup

/-!
# DesignTokens.Proofs.Workspace.Discoveries — which documents are named first

1. **Namings** (`Crawl.Naming`): a graph names its own document, then those that it refers to.
2. **First namings** (`Crawl.firsts`): each document once, in the order of the namings.
3. **Discoveries** (`Crawl.discoveries`): the references that name a document first, if it may be
   loaded.
-/

namespace DesignTokens

/-! ## Namings -/

namespace Crawl

/-- A reference in a document, as it waits to be followed. -/
def Found.of (referrer : Uri) (reference : Reference) : Found :=
  ⟨reference.target.uri, referrer, reference⟩

/-- A document is named: as that of a graph, or by a reference. -/
inductive Naming where
  | own (uri : Uri)
  | reference (found : Found)

namespace Naming

def uri : Naming → Uri
  | .own uri => uri
  | .reference found => found.uri

def found? : Naming → Option Found
  | .own _ => none
  | .reference found => some found

end Naming

end Crawl

/-- What a graph names: its own document, then those that it refers to. -/
def Graph.namings (g : Graph) : List Crawl.Naming :=
  .own g.uri :: g.externalReferences.map fun r => .reference (.of g.uri r)

namespace Crawl

def loadedNamings (w : Workspace) (requests : List Request) : List Naming :=
  (requests.filterMap fun r => (w.load r).graph).flatMap Graph.namings

/-- One more request adds the references of what it loads. -/
theorem loadedNamings_concat (w : Workspace) (requests : List Request) (request : Request) :
    loadedNamings w (requests ++ [request]) =
      loadedNamings w requests ++ (w.load request).graph.elim [] Graph.namings := by
  rw [loadedNamings, List.filterMap_append, List.flatMap_append, loadedNamings]
  cases h : (w.load request).graph <;> simp [h]

/-! ## First namings -/

/-- The first naming of each document. -/
def firsts : List Naming → List Naming
  | [] => []
  | n :: rest => n :: (firsts rest).filter (·.uri ≠ n.uri)

/-- One more naming is a first one, unless its URI was named before. -/
theorem firsts_concat (ns : List Naming) (n : Naming) :
    firsts (ns ++ [n]) =
      if n.uri ∈ ns.map Naming.uri then firsts ns else firsts ns ++ [n] := by
  induction ns with
  | nil => rfl
  | cons m rest ih =>
    rw [List.cons_append, firsts, ih, firsts, List.map_cons]
    by_cases there : n.uri ∈ rest.map Naming.uri
    · rw [if_pos there, if_pos (List.mem_cons_of_mem _ there)]
    · rw [if_neg there, List.filter_append]
      by_cases same : n.uri = m.uri
      · rw [if_pos (List.mem_cons.2 (.inl same)), List.filter_cons_of_neg (by simpa using same)]
        exact congrArg (m :: ·) (List.append_nil _)
      · rw [if_neg (fun h => (List.mem_cons.1 h).elim same there),
          List.filter_cons_of_pos (by simpa using same)]
        rfl

/-- No URI is named first twice. -/
theorem nodup_firsts (ns : List Naming) : ((firsts ns).map Naming.uri).Nodup := by
  induction ns with
  | nil => exact List.nodup_nil
  | cons n rest ih =>
    rw [firsts, List.map_cons, List.nodup_cons]
    constructor
    · intro again
      obtain ⟨m, hm, same⟩ := List.mem_map.1 again
      have other : m.uri ≠ n.uri := by simpa using (List.mem_filter.1 hm).2
      exact other same
    · exact ih.sublist (List.filter_sublist.map _)

/-! ## Discoveries -/

/-- Whether a document may be loaded. -/
def permitted (configuration : Configuration) (uri : Uri) : Bool :=
  !(uri.isNetwork && !configuration.resolver.allowNetwork)

/-- The references that name a document first, if it may be loaded. -/
def discoveries (configuration : Configuration) (ns : List Naming) : List Found :=
  ((firsts ns).filterMap Naming.found?).filter fun f => permitted configuration f.uri

def Found.request (f : Found) : Request :=
  ⟨f.uri.text, some f.referrer⟩

section Discoveries

variable {configuration : Configuration} {ns : List Naming}

/-- What was named before discovers nothing. -/
theorem discoveries_of_known {n : Naming} (known : n.uri ∈ ns.map Naming.uri) :
    discoveries configuration (ns ++ [n]) = discoveries configuration ns := by
  rw [discoveries, firsts_concat, if_pos known, discoveries]

/-- A URI of its own discovers nothing. -/
theorem discoveries_own (uri : Uri) :
    discoveries configuration (ns ++ [.own uri]) = discoveries configuration ns := by
  rw [discoveries, firsts_concat]
  split
  · rfl
  · rw [List.filterMap_append, List.filter_append]
    exact List.append_nil _

variable (configuration) in
/-- A new reference discovers its document, if that is permitted. -/
theorem discoveries_reference {found : Found} (new : found.uri ∉ ns.map Naming.uri) :
    discoveries configuration (ns ++ [.reference found]) =
      discoveries configuration ns ++
        if permitted configuration found.uri then [found] else [] := by
  have new : (Naming.reference found).uri ∉ ns.map Naming.uri := new
  rw [discoveries, firsts_concat, if_neg new, List.filterMap_append, List.filter_append]
  cases h : permitted configuration found.uri <;> simp [discoveries, Naming.found?, h]

/-- No document is discovered twice. -/
theorem nodup_discoveries (configuration : Configuration) (ns : List Naming) :
    ((discoveries configuration ns).map (·.uri)).Nodup := by
  -- Each naming with a reference keeps its URI.
  have uris : ∀ ms : List Naming,
      ((ms.filterMap Naming.found?).map (·.uri)).Sublist (ms.map Naming.uri) := by
    intro ms
    induction ms with
    | nil => exact List.Sublist.slnil
    | cons m rest ih =>
      cases m with
      | own uri => exact ih.cons _
      | reference found => exact ih.cons_cons _
  exact ((nodup_firsts ns).sublist (uris _)).sublist (List.filter_sublist.map _)

/-- A document that is discovered is named by a reference. -/
theorem named_of_discovered {f : Found} (hf : f ∈ discoveries configuration ns) :
    .reference f ∈ ns := by
  have sub : ∀ ms : List Naming, firsts ms ⊆ ms := by
    intro ms
    induction ms with
    | nil => exact fun _ hn => hn
    | cons m rest ih => exact List.cons_subset_cons m fun n hn => ih (List.mem_filter.1 hn).1
  obtain ⟨n, hn, found⟩ := List.mem_filterMap.1 (List.mem_filter.1 hf).1
  cases n with
  | own uri => cases found
  | reference f' =>
    cases found
    exact sub ns hn

theorem permitted_of_discovered {f : Found} (hf : f ∈ discoveries configuration ns) :
    permitted configuration f.uri = true :=
  (List.mem_filter.1 hf).2

/-- The document of the first naming is not discovered, if it is that of a graph. -/
theorem not_discovered_own (uri : Uri) :
    uri ∉ (discoveries configuration (.own uri :: ns)).map (·.uri) := by
  intro again
  obtain ⟨f, hf, same⟩ := List.mem_map.1 again
  obtain ⟨n, hn, found⟩ := List.mem_filterMap.1 (List.mem_filter.1 hf).1
  rw [firsts] at hn
  rcases List.mem_cons.1 hn with rfl | hn
  · -- The first naming is no reference.
    cases found
  · -- Any other one has another URI.
    have other : n.uri ≠ uri := of_decide_eq_true (List.mem_filter.1 hn).2
    cases n with
    | own _ => cases found
    | reference _ =>
      cases found
      exact other same

end Discoveries

end Crawl

end DesignTokens
