import DesignTokens.Proofs.Resolution.Refusals
import DesignTokens.Proofs.Workspace.Fates

/-!
# DesignTokens.Proofs.Workspace.Completeness — what a crawl leaves out, a resolver does not find

A crawl looks for references in the graphs, a resolver follows them as it comes to them. Both see
the same ones: when a resolver misses a document, the crawl has already said why.

1. **References that are not followed** (`Crawl.Unfollowed`).
2. **Resolvers** (`Workspace.crawl_complete`) for a document, with what was loaded for it.
-/

namespace DesignTokens

open Resolution

namespace Crawl

/-! ## References that are not followed -/

/-- What a resolver reports of a reference that it cannot follow: that the network is not allowed,
or that the document is not loaded, and then it failed or was past the limit. -/
inductive Unfollowed (w : Workspace) (root : Graph) (r : Reference) : Diagnostic → Prop where
  | network (network : r.target.isNetwork = true)
      (offline : w.configuration.resolver.allowNetwork = false) :
      Unfollowed w root r ((Resolution.Fault.networkForbidden r.target).atReference r)
  | failed (why : Failed w (w.crawl root) r.target.uri) :
      Unfollowed w root r ((Resolution.Fault.notLoaded r.target.uri).atReference r)
  | late (why : Late w (named w root) (w.crawl root) r.target.uri) :
      Unfollowed w root r ((Resolution.Fault.notLoaded r.target.uri).atReference r)

/-- The environment of a resolver for a document, with what was loaded for it. -/
def environment (w : Workspace) (root : Graph) : Environment where
  root := root
  externals := (w.crawl root).graphs
  settings := w.configuration.resolver

variable {w : Workspace} {root g : Graph}

/-- A resolver is led to no other documents than those that the crawl has followed up. -/
theorem covers_of_loads (h : (environment w root).Loads g) : Covers w root g := by
  rcases h with rfl | ⟨uri, found⟩
  · exact .inl rfl
  · obtain ⟨front, back, split, _⟩ := List.lookup_eq_some_iff.1 found
    have there : (uri, g) ∈ (environment w root).externals := by
      rw [split]
      exact List.mem_append_right _ List.mem_cons_self
    exact .inr ((crawl_accounts w root).graphs _ there)

/-- A document that a resolver misses is not among those that were found. -/
theorem not_found_of_external? {uri : Uri} (absent : (environment w root).external? uri = none) :
    uri ∉ (w.crawl root).graphs.map (·.1) := by
  intro there
  obtain ⟨entry, he, rfl⟩ := List.mem_map.1 there
  have other := List.lookup_eq_none_iff.1 absent entry he
  rw [bne_self_eq_false] at other
  cases other

/-- A reference that is refused was left out by the crawl, unless it is not allowed. -/
theorem unfollowed_of_refuses (hg : Covers w root g) {r : Reference}
    (hr : r ∈ g.externalReferences) {fault : Resolution.Fault}
    (refuses : (environment w root).Refuses r fault) :
    Unfollowed w root r (fault.atReference r) := by
  cases refuses with
  -- The network may not be used.
  | forbidden network offline => exact .network network offline
  | missing allowed other absent =>
    -- No document was loaded, and the crawl says why.
    cases fate_of_reference hg hr other with
    | found there => exact absurd there (not_found_of_external? absent)
    | skipped network offline =>
      have blocked : (r.target.isNetwork &&
          !(environment w root).settings.allowNetwork) = true := by
        rw [Bool.and_eq_true, Bool.not_eq_true']
        exact ⟨network, offline⟩
      rw [blocked] at allowed
      cases allowed
    | failed why => exact .failed why
    | late why => exact .late why

end Crawl

/-! ## Resolvers -/

/-- A crawl is complete. Every document that the root document or a loaded one refers to is found,
or was not allowed, failed or was past the limit, and this was reported. So whatever a resolver is
asked for, if it reports that a document is not loaded, that one failed or was past the limit,
unless a transform reported it. -/
theorem Workspace.crawl_complete (w : Workspace) (parsed : Parsed) (root : Graph)
    (h : parsed.graph = some root) :
    (∀ g, Crawl.Covers w root g → ∀ r ∈ g.externalReferences, r.target.uri ≠ root.uri →
      Crawl.Fate w (Crawl.named w root) (w.crawl root) r.target.uri) ∧
    ∃ resolver, w.resolver? parsed (w.crawl root).graphs = some resolver ∧
      ∀ (calls : List Resolver.Call) (call : Resolver.Call),
        ∀ answer ∈ (resolver.performAll calls).answers call, ∀ d ∈ answer.log,
          d.code = .externalReference →
            (∃ g r, Crawl.Covers w root g ∧ r ∈ g.externalReferences ∧
              Crawl.Unfollowed w root r d) ∨
            ∃ earlier token,
              d ∈ (Transform.runAll w.host.transforms earlier token parsed.document).log := by
  constructor
  · intro g hg r hr other
    exact Crawl.fate_of_reference hg hr other
  · let resolver : Resolver := {
      env := Crawl.environment w root, document := parsed.document
      transforms := w.host.transforms }
    have made : w.resolver? parsed (w.crawl root).graphs = some resolver := by
      rw [Workspace.resolver?, h]
      rfl
    refine ⟨resolver, made, ?_⟩
    intro calls call answer ha d hd code
    rcases Resolver.accounted_performAll (r := resolver) rfl rfl calls call answer ha d hd code
      with refused | reported
    · -- The answer refuses a reference of a graph that was loaded.
      obtain ⟨g, r, fault, loads, hr, refuses, rfl⟩ := refused
      have hg : Crawl.Covers w root g := Crawl.covers_of_loads loads
      exact .inl ⟨g, r, hg, hr, Crawl.unfollowed_of_refuses hg hr refuses⟩
    · -- A transform reported it.
      exact .inr reported

/-! ### A web with holes -/

namespace Patchy

open Sample (color file linkTo remote)

/-- The root refers to two tokens of a document, to another document and to the network. -/
def root : Graph :=
  Sample.graph (file "root")
    [linkTo "first" (file "a") "x", linkTo "second" (file "a") "y", linkTo "third" (file "b") "x",
     linkTo "fourth" remote "x"] []

/-- The document that answers under another URI refers to two further ones. -/
def answer : Document :=
  Sample.document "moved" [("x", color "$ref" "c#/x"), ("y", color "$ref" "d#/x")]

/-- One document can be loaded, one is gone, and one cannot be decoded; and there may be three. -/
def web : Workspace where
  host := {
    load := fun request =>
      if request.location = "file:///a" then .ok ⟨file "moved", ""⟩
      else if request.location = "file:///c" then .ok ⟨file "c", ""⟩
      else .error ⟨["gone"]⟩
    decode := fun handle => if handle.uri = file "moved" then .ok answer else .error ⟨["broken"]⟩ }
  configuration := { maxDocuments := 3 }

def parsed : Parsed where
  graph := some root

end Patchy

/-- All four aliases lead to a hole: to a document that has no graph, to one past the limit, to one
that is gone, and to the network. -/
theorem patchy_web_explained :
    Patchy.parsed.graph = some Patchy.root ∧
      (Patchy.web.crawl Patchy.root).log.codes =
        [.networkReferenceSkipped, .documentLimit, .loadFailed, .decodeFailed] ∧
      ∃ resolver, Patchy.web.resolver? Patchy.parsed (Patchy.web.crawl Patchy.root).graphs =
          some resolver ∧
        ((resolver.performAll [.named "#/first"]).answers .all).map (·.log.codes) =
          List.replicate 4 [.externalReference] ∧
        ∀ answer ∈ (resolver.performAll [.named "#/first"]).answers .all, ∀ d ∈ answer.log,
          ∃ g r, Crawl.Covers Patchy.web Patchy.root g ∧ r ∈ g.externalReferences ∧
            Crawl.Unfollowed Patchy.web Patchy.root r d := by
  obtain ⟨_, resolver, made, explained⟩ := Patchy.web.crawl_complete Patchy.parsed Patchy.root rfl
  have codes : ((Patchy.web.resolver? Patchy.parsed (Patchy.web.crawl Patchy.root).graphs).map
      fun resolver => ((resolver.performAll [.named "#/first"]).answers .all).map (·.log.codes)) =
        some (List.replicate 4 [.externalReference]) := by
    decide +kernel
  rw [made] at codes
  have codes := Option.some.inj codes
  refine ⟨rfl, by decide +kernel, resolver, made, codes, ?_⟩
  intro answer ha d hd
  have code : d.code = .externalReference := by
    have among : answer.log.codes ∈ List.replicate 4 [Code.externalReference] := by
      rw [← codes]
      exact List.mem_map_of_mem ha
    have kind : d.code ∈ answer.log.codes := List.mem_map_of_mem hd
    rw [List.eq_of_mem_replicate among] at kind
    exact List.mem_singleton.1 kind
  -- What is explained is a reference, since there are no transforms.
  rcases explained [.named "#/first"] .all answer ha d hd code with reference | ⟨_, _, reported⟩
  · exact reference
  · exact absurd reported List.not_mem_nil

end DesignTokens
