import DesignTokens.Proofs.Graph.OfTree
import DesignTokens.Proofs.Json.Reader
import DesignTokens.Proofs.Resolution.Contract
import DesignTokens.Proofs.Sample

/-!
# DesignTokens.Proofs.Resolution.Provenance — where values come from

A resolved value stands in one of the documents, at the place that is given as its source, and the
trace ends at the object around it.

1. **Sources** (`Sourced`): a value, its source and a trace are in step.
2. **Evaluation** (`provenance_kept`): they are in step after every visit, as long as the values of
   the graphs stand in their documents.
3. **Documents** (`source_resolve`): that is so for graphs that were built from documents, as two
   of them show (`Themed`).
-/

namespace DesignTokens.Resolution

variable {docs : List Document}

/-! ## Sources -/

/-- The source of a value is the place in one of the documents where the value stands. -/
def Source.Holds (docs : List Document) (source : Source) (value : Json) : Prop :=
  ∃ d ∈ docs, d.uri = source.uri ∧ d.data.at? source.pointer = some value

/-- A trace ends at the object whose `$value` is at the source. -/
def EndsAt (trace : List Step) (source : Source) : Prop :=
  ∃ step, trace.getLast? = some step ∧ step.uri = source.uri ∧
    step.pointer.child "$value" = source.pointer

/-- A value has a source, where it stands and where the trace ends; without a value there is no
source. -/
def Sourced (docs : List Document) (trace : List Step) (source : Option Source) :
    Option Json → Prop
  | none => source = none
  | some value => ∃ src, source = some src ∧ src.Holds docs value ∧ EndsAt trace src

/-- Steps before do not change the last one. -/
theorem EndsAt.append {trace : List Step} {source : Source} (h : EndsAt trace source)
    (front : List Step) : EndsAt (front ++ trace) source := by
  obtain ⟨step, last, place⟩ := h
  refine ⟨step, ?_, place⟩
  rw [List.getLast?_append, last]
  rfl

/-- Steps may be put in front of a trace. -/
theorem Sourced.append {trace : List Step} {source : Option Source} {value : Option Json}
    (h : Sourced docs trace source value) (front : List Step) :
    Sourced docs (front ++ trace) source value := by
  cases value with
  | none => exact h
  | some value =>
    obtain ⟨src, hs, holds, ends⟩ := h
    exact ⟨src, hs, holds, ends.append front⟩

/-- A value that stands under an object is sourced at the step for this object. -/
theorem sourced_of_standsUnder {d : Document} (hd : d ∈ docs) {owner : Pointer}
    {field : Field Json} (h : field.StandsUnder d.data owner) (kind : Step.Kind)
    (span : Option Span) :
    Sourced docs [⟨owner, d.uri, kind, span⟩] (some (.ofField d.uri field)) (some field.value) :=
  ⟨_, rfl, ⟨d, hd, rfl, h.value⟩, _, rfl, rfl, h.pointer.symm⟩

/-! ## Evaluation -/

/-- The values of every document that references can lead to stand in one of the given ones. -/
def Environment.StandsIn (env : Environment) (docs : List Document) : Prop :=
  ∀ g, env.Has g → ∃ d ∈ docs, d.uri = g.uri ∧ g.StandsIn d.data

/-- The values of an offer and its entries stand in the document with the URI of a graph. -/
def OfferStands (docs : List Document) (g : Graph) (offer : Offer Reference) : Prop :=
  ∃ d ∈ docs, d.uri = g.uri ∧ offer.Every fun o =>
    ∀ field, o.value = some field → field.StandsUnder d.data o.pointer

/-- The entries of a list stand in the same document. -/
theorem OfferStands.entry {g : Graph} {offer e : Offer Reference} (h : OfferStands docs g offer)
    (he : e ∈ offer.fallback) : OfferStands docs g e := by
  obtain ⟨d, hd, huri, every⟩ := h
  exact ⟨d, hd, huri, every.entry he⟩

/-- What a payload of an offer is when it is put behind the step for the offer. -/
def SourcedAfter (docs : List Document) (g : Graph) (offer : Offer Reference)
    (outcome : Outcome) : Prop :=
  ∀ p, outcome = .ok p → ∀ kind,
    Sourced docs (⟨offer.pointer, g.uri, kind, offer.span⟩ :: p.trace) p.source (some p.value)

/-- After every visit, value, source and trace are in step. -/
def provenance (env : Environment) (docs : List Document) : Contract where
  pre _ g _ := env.Has g
  post _ _ s := Sourced docs s.trace s.source s.value
  preList _ g entries := env.Has g ∧ ∀ e ∈ entries, OfferStands docs g e
  postList _ _ outcome := ∀ p, outcome = .ok p → Sourced docs p.trace p.source (some p.value)
  stored _ s := Sourced docs s.trace s.source s.value

section Rules

variable {env : Environment} {m n : Type → Type} [Monad m] [Monad n] {B : Bridge m n}
  {d : Deeper m} {d' : Deeper n} {pending : List Key} {g : Graph}

/-- A value taken from another node keeps the source it has there. -/
theorem targetOutcome_sourced {type : Option String} {reference : Reference} {s : State}
    (h : Sourced docs s.trace s.source s.value) (offer : Offer Reference) :
    SourcedAfter docs g offer (targetOutcome type reference s) := by
  intro p hp kind
  unfold targetOutcome at hp
  split at hp
  · next value hv =>
    cases hp
    rw [hv] at h
    exact h.append [_]
  · cases hp

/-- A value that an entry writes out has its place in the entry's document as source. -/
theorem valueOutcome_sourced {type : Option String} {offer : Offer Reference}
    (stands : OfferStands docs g offer) {field : Field Json} (hv : offer.value = some field) :
    SourcedAfter docs g offer (valueOutcome g type field) := by
  intro p hp kind
  obtain ⟨doc, hd, huri, every⟩ := stands
  unfold valueOutcome at hp
  split at hp
  · cases hp
    rw [← huri]
    exact sourced_of_standsUnder hd (every.here field hv) kind offer.span
  · cases hp

variable (registered : env.Registered) (hg : env.Has g)
  (below : (provenance env docs).Below B pending d d')

include registered hg below

theorem follow_sourced (reference : Reference) :
    B.rel (fun s => Sourced docs s.trace s.source s.value) (d.follow env g reference)
      (d'.follow env g reference) := by
  refine B.follow ?_ fun _ _ => rfl
  intro target h
  exact below.visit (hg.follow registered h)

/-- Whatever an offer gives has the right source. -/
theorem tryOffer_sourced {offer : Offer Reference} (stands : OfferStands docs g offer)
    (type : Option String) :
    B.rel (SourcedAfter docs g offer) (tryOffer d env g type offer)
      (tryOffer d' env g type offer) := by
  refine B.tryOffer (Survives.of_payload _) ?_ ?_ ?_
  · intro r _
    refine B.rel_imp (follow_sourced registered hg below r) fun s hs => ?_
    exact targetOutcome_sourced hs offer
  · intro field hv
    exact valueOutcome_sourced stands hv
  · intro _
    refine B.rel_imp (below.fallback ⟨hg, fun e he => stands.entry he⟩) ?_
    intro outcome ho p hp kind
    exact (ho p hp).append [_]

/-- An override gives its own source with its value. -/
theorem finish_sourced (stands : env.StandsIn docs) (node : Graph.Node) {s : State}
    (hs : Sourced docs s.trace s.source s.value) :
    B.rel (fun s => Sourced docs s.trace s.source s.value) (finish d env g node s)
      (finish d' env g node s) := by
  refine B.finish (R := fun entry => SourcedAfter docs g entry.offer) ?_ ?_ ?_ ?_
  · intro _
    simpa using hs
  · intro entry he
    -- The entry is an override of this document, so its values stand there.
    obtain ⟨doc, hd, huri, values⟩ := stands g hg
    have here := (Environment.override?_eq_some he).1
    exact tryOffer_sourced registered hg below ⟨doc, hd, huri, values.offers entry here⟩ s.type
  · intro entry payload _ hp
    simpa [State.replaceBy, Override.pointer, Override.span] using
      (hp payload rfl .override).append s.trace
  · intro entry failure _ _
    simpa [State.keepDespite] using hs

end Rules

/-- Every visit keeps value, source and trace in step. -/
theorem provenance_kept {env : Environment} (registered : env.Registered)
    (stands : env.StandsIn docs) : (provenance env docs).Kept env where
  reuse _ known := known
  store _ _ post := post
  cycle _ _ := rfl
  cut _ := rfl
  cutList _ _ := by
    intro p hp
    cases hp
  node := by
    intro pending g pointer hg _ m n _ _ B d d' below
    refine B.evaluate (fun _ => rfl) (fun _ _ _ _ => rfl) ?_ ?_
    · intro node type value hn hc
      refine finish_sourced registered hg below stands node ?_
      cases value with
      | none => exact rfl
      | some field =>
        -- The value is written at the token itself.
        obtain ⟨doc, hd, huri, values⟩ := stands g hg
        have value := values.tokens node (Graph.node?_eq_some hn).1 type field hc
        simpa [tokenState, huri] using sourced_of_standsUnder hd value .token node.span
    · intro node type reference hn hc
      refine B.rel_bind (follow_sourced registered hg below reference) fun target ht => ?_
      exact finish_sourced registered hg below stands node (ht.append [_])
  list := by
    intro pending g entries pre type owner m n _ _ B d d' below
    obtain ⟨hg, hentries⟩ := pre
    refine B.tryEntries (Survives.of_payload _) ?_ ?_
    · -- Each entry stands in the document of its list.
      intro e he
      refine B.rel_imp (tryOffer_sourced registered hg below (hentries e he) type) ?_
      intro outcome ho p hp
      cases outcome with
      | ok payload =>
        cases hp
        exact ho payload rfl .fallback
      | error failure => cases hp
    · -- An exhausted list gives nothing.
      intro p hp
      cases hp

/-! ## Documents -/

/-- The values of graphs that were built from documents stand in these. -/
theorem Environment.standsIn_of_documents {env : Environment}
    (bare : ∀ d ∈ docs, d.uri.withoutFragment = d.uri)
    (clear : ∀ d ∈ docs, d.data.unambiguous = true) (root : ∃ d ∈ docs, env.root.IsOf d)
    (others : ∀ entry ∈ env.externals, ∃ d ∈ docs, entry.2.IsOf d) : env.StandsIn docs := by
  intro g hg
  have isOf : ∃ d ∈ docs, g.IsOf d := by
    rcases hg with rfl | ⟨_, found⟩
    · exact root
    · obtain ⟨front, back, happ, _⟩ := List.lookup_eq_some_iff.1 found
      exact others (g.uri, g) (happ ▸ List.mem_append_right front List.mem_cons_self)
  obtain ⟨d, hd, hof⟩ := isOf
  exact ⟨d, hd, by rw [hof.uri, bare d hd], hof.standsIn (clear d hd)⟩

/-- For graphs that were built from documents, the value of a token stands in one of these, at the
place that is its source; the last step of the trace is the object around it. Documents that were
read from text are unambiguous (`Json.unambiguous_of_parse?`). -/
theorem source_resolve {env : Environment} (registered : env.Registered)
    (bare : ∀ d ∈ docs, d.uri.withoutFragment = d.uri)
    (clear : ∀ d ∈ docs, d.data.unambiguous = true) (root : ∃ d ∈ docs, env.root.IsOf d)
    (others : ∀ entry ∈ env.externals, ∃ d ∈ docs, entry.2.IsOf d)
    (document : Option Document) (transforms : List Transform) (calls : List Resolver.Call)
    (pointer : Pointer) {token : Token}
    (h : ((({ env, document, transforms } : Resolver).performAll calls).resolve pointer).1.token =
      some token) :
    (token.value = none → token.source = none) ∧
      ∀ value, token.value = some value → ∃ source, token.source = some source ∧
        (∃ d ∈ docs, d.uri = source.uri ∧ d.data.at? source.pointer = some value) ∧
        ∃ step, token.trace.getLast? = some step ∧ step.uri = source.uri ∧
          step.pointer.child "$value" = source.pointer := by
  have stands := env.standsIn_of_documents bare clear root others
  let r : Resolver := { env, document, transforms }
  have henv : (r.performAll calls).env = env := (r.after_performAll calls).env
  have post := (provenance_kept registered stands).ask_performAll (fun _ => env.has_root)
    (r := r) rfl rfl calls pointer
  have made := Resolver.eq_token_of_resolve _ pointer h
  rw [henv] at made
  generalize (ask env _ pointer).1.value = s at made post
  have sourced : Sourced docs s.trace s.source s.value := post
  subst made
  constructor
  · intro hv
    have hv : s.value = none := hv
    rwa [hv] at sourced
  · intro value hv
    have hv : s.value = some value := hv
    rwa [hv] at sourced

/-! ### Two documents -/

namespace Themed

open Sample (color colorText objectText)

/-- A token of another document, which is read from its text. -/
def palette : Document :=
  { Sample.document "palette.json" [("blue", color "$value" "#0000ff")] with
    text := objectText [("blue", colorText "$value" "#0000ff")] }

/-- An alias of an alias of a token of the palette. In the mode `dark`, a fallback list replaces it,
whose first entry leads nowhere. -/
def theme : Document :=
  let fallback : Json := .array
    [.object [("$ref", .string "#/nothing")], .object [("$value", .string "#000080")]]
  let entry : Json := .object
    [("$token", .string "#/base"), ("$when", .object [("mode", .string "dark")]),
     ("$fallback", fallback)]
  Sample.document "theme.json"
    [("brand", color "$ref" "palette.json#/blue"), ("base", color "$ref" "#/brand"),
     ("$overrides", .array [entry])]

def graphOf (d : Document) : Graph :=
  (Graph.ofDocument? d {}).getD default

/-- The graph built from a document is one of that document. -/
theorem isOf_graphOf {d : Document} (known : (Graph.ofDocument? d {}).isSome = true) :
    (graphOf d).IsOf d := by
  obtain ⟨tree, htree, hgraph⟩ := Option.bind_eq_some_iff.1 (Sample.eq_some_getD known)
  exact ⟨{}, tree, htree, hgraph⟩

def environment : Environment where
  root := graphOf theme
  externals := [(palette.uri, graphOf palette)]
  settings := { context := [("mode", .string "dark")] }

def answer : Resolution :=
  ((({ env := environment } : Resolver).performAll [.all]).resolve (Pointer.root.child "base")).1

end Themed

set_option maxRecDepth 10000 in
/-- The value of `base` is the second entry of the fallback list. -/
theorem source_resolve_base :
    Themed.environment.Registered ∧
      (∀ d ∈ [Themed.theme, Themed.palette],
        d.uri.withoutFragment = d.uri ∧ d.data.unambiguous = true) ∧
      Themed.environment.root.IsOf Themed.theme ∧
      (∀ entry ∈ Themed.environment.externals, entry.2.IsOf Themed.palette) ∧
      ∃ token, Themed.answer.token = some token ∧ token.value.bind Json.text? = some "#000080" ∧
        ∃ value source, token.value = some value ∧ token.source = some source ∧
          (∃ d ∈ [Themed.theme, Themed.palette],
            d.uri = source.uri ∧ d.data.at? source.pointer = some value) ∧
          ∃ step, token.trace.getLast? = some step ∧ step.uri = source.uri ∧
            step.pointer.child "$value" = source.pointer := by
  -- The hypotheses, each on the two documents.
  have registered : Themed.environment.Registered := by
    intro entry h
    obtain rfl := List.mem_singleton.1 h
    decide +kernel
  have bare : ∀ d ∈ [Themed.theme, Themed.palette], d.uri.withoutFragment = d.uri := by decide
  have read : Json.parse? Themed.palette.text = some Themed.palette.data := rfl
  have clear : ∀ d ∈ [Themed.theme, Themed.palette], d.data.unambiguous = true :=
    List.forall_mem_cons.2
      ⟨by decide, List.forall_mem_singleton.2 (Json.unambiguous_of_parse? read)⟩
  have root : Themed.environment.root.IsOf Themed.theme :=
    Themed.isOf_graphOf (by decide +kernel)
  have others : ∀ entry ∈ Themed.environment.externals, entry.2.IsOf Themed.palette := by
    intro entry h
    obtain rfl := List.mem_singleton.1 h
    exact Themed.isOf_graphOf (by decide +kernel)
  have text : Themed.answer.token.bind (fun token => token.value.bind Json.text?) =
      some "#000080" := by decide +kernel
  refine ⟨registered, fun d hd => ⟨bare d hd, clear d hd⟩, root, others, ?_⟩
  obtain ⟨token, htoken, htext⟩ := Option.bind_eq_some_iff.1 text
  obtain ⟨value, hvalue, _⟩ := Option.bind_eq_some_iff.1 htext
  have asked := htoken
  unfold Themed.answer at asked
  -- The general statement, for the answer to `#/base` after all nodes were asked for.
  have sourced := source_resolve registered bare clear
    ⟨Themed.theme, List.mem_cons_self, root⟩
    (fun entry h => ⟨Themed.palette, List.mem_cons_of_mem _ List.mem_cons_self, others entry h⟩)
    none [] [.all] (Pointer.root.child "base") asked
  obtain ⟨source, hsource, holds, ends⟩ := sourced.2 value hvalue
  exact ⟨token, htoken, htext, value, source, hvalue, hsource, holds, ends⟩

end DesignTokens.Resolution
