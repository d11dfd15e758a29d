import DesignTokens.Graph.Basic
import DesignTokens.Proofs.Json.Same

/-!
# DesignTokens.Proofs.Graph.Likeness — graphs that a resolution cannot tell apart

Two graphs are alike if the nodes and overrides that are found under each pointer are, apart from
what a resolution does not look at: the order of the nodes, their names, their metadata, and, if
reports are not compared, positions and replacements.

1. **Likeness** (`Likeness`): which values count as equal, and whether reports are compared.
2. **Parts**: fields, references, offers and overrides.
3. **Graphs** (`Likeness.Graphs`), by their nodes (`Likeness.Nodes`).
-/

namespace DesignTokens

/-- How far two things are compared: which values count as equal, and whether reports and positions
have to be equal. -/
structure Likeness where
  value : Json → Json → Prop
  respectful : Json.Respectful value
  reports : Bool

namespace Likeness

variable (L : Likeness)

/-! ## Parts -/

def span (s : Option Span) : Option Span :=
  if L.reports then s else none

def field {α : Type} (f : Field α) : Field α :=
  { f with span := L.span f.span }

def reference (r : Reference) : Reference :=
  { r with span := L.span r.span }

/-- Two fields show the same if their values and places do, and their spans as far as these are
looked at. -/
theorem field_eq_iff {α : Type} {f f' : Field α} :
    L.field f = L.field f' ↔
      f.value = f'.value ∧ f.pointer = f'.pointer ∧ L.span f.span = L.span f'.span := by
  simp [field]

/-- Two references show the same if their targets, texts and places do. -/
theorem reference_eq_iff {r r' : Reference} :
    L.reference r = L.reference r' ↔ r.target = r'.target ∧ r.raw = r'.raw ∧
      r.pointer = r'.pointer ∧ L.span r.span = L.span r'.span := by
  simp [reference]

/-- Fields with alike values. -/
structure Values (f f' : Field Json) : Prop where
  value : L.value f.value f'.value
  pointer : f.pointer = f'.pointer
  span : L.span f.span = L.span f'.span

theorem Values.refl (f : Field Json) : L.Values f f :=
  ⟨L.respectful.refl _, rfl, rfl⟩

section Offers

variable {ρ : Type} (R : ρ → ρ → Prop)

/-- Offers at the same place whose references, values and fallback lists are alike. -/
inductive Offers : Offer ρ → Offer ρ → Prop where
  | mk {pointer : Pointer} {span span' : Option Span} {reference reference' : Option ρ}
      {value value' : Option (Field Json)} {fallback fallback' : List (Offer ρ)}
      (hspan : L.span span = L.span span') (href : Option.Rel R reference reference')
      (hvalue : Option.Rel L.Values value value')
      (hfallback : List.Forall₂ Offers fallback fallback') :
      Offers (.mk pointer span reference value fallback)
        (.mk pointer span' reference' value' fallback')

/-- Overrides of alike tokens that apply in the same contexts and offer the same. -/
structure Overrides (o o' : Override ρ) : Prop where
  token : R o.token o'.token
  conditions : ∀ context, (Conditions.ofMembers o.conditions.value).hold context =
    (Conditions.ofMembers o'.conditions.value).hold context
  offer : L.Offers R o.offer o'.offer

mutual

theorem Offers.refl (refl : ∀ r, R r r) : ∀ o : Offer ρ, L.Offers R o o
  | .mk _ _ reference value fallback =>
    .mk rfl (optionRel_refl refl reference) (optionRel_refl (Values.refl L) value)
      (Offers.refl_list refl fallback)

theorem Offers.refl_list (refl : ∀ r, R r r) :
    ∀ os : List (Offer ρ), List.Forall₂ (L.Offers R) os os
  | [] => .nil
  | o :: rest => .cons (Offers.refl refl o) (Offers.refl_list refl rest)

end

variable {L R} {o o' : Offer ρ}

theorem Offers.pointer (h : L.Offers R o o') : o.pointer = o'.pointer := by
  cases h
  rfl

theorem Offers.span (h : L.Offers R o o') : L.span o.span = L.span o'.span := by
  cases h
  assumption

theorem Offers.reference (h : L.Offers R o o') : Option.Rel R o.reference o'.reference := by
  cases h
  assumption

theorem Offers.value (h : L.Offers R o o') : Option.Rel L.Values o.value o'.value := by
  cases h
  assumption

theorem Offers.fallback (h : L.Offers R o o') :
    List.Forall₂ (L.Offers R) o.fallback o'.fallback := by
  cases h
  assumption

end Offers

/-- References that read alike and lead to the same place. -/
def References (r r' : Reference) : Prop :=
  L.reference r = L.reference r'

theorem References.refl (r : Reference) : L.References r r :=
  rfl

/-! ## Graphs -/

/-- Nodes of the same kind with alike contents. -/
inductive Contents : Graph.Content → Graph.Content → Prop where
  | collection {children children' : List Pointer} :
      Contents (.collection children) (.collection children')
  | token {type type' : Option (Field String)} {value value' : Option (Field Json)}
      (htype : type.map L.field = type'.map L.field) (hvalue : Option.Rel L.Values value value') :
      Contents (.token type value) (.token type' value')
  | aliasTo {type type' : Field String} {reference reference' : Reference}
      (htype : L.field type = L.field type') (href : L.References reference reference') :
      Contents (.aliasTo type reference) (.aliasTo type' reference')

/-- Nodes of one pointer with alike contents and, if reports are compared, alike replacements. -/
structure Nodes (n n' : Graph.Node) : Prop where
  pointer : n.pointer = n'.pointer
  span : L.span n.span = L.span n'.span
  content : L.Contents n.content n'.content
  replacement : L.reports = true → Option.Rel L.References n.replacement n'.replacement

/-- Graphs of one document with alike nodes under each pointer, and alike overrides. -/
structure Graphs (g g' : Graph) : Prop where
  uri : g.uri = g'.uri
  node? : ∀ pointer, Option.Rel L.Nodes (g.node? pointer) (g'.node? pointer)
  overrides : List.Forall₂ (L.Overrides L.References) g.overrides g'.overrides

theorem Contents.refl (c : Graph.Content) : L.Contents c c := by
  cases c with
  | collection _ => exact .collection
  | token _ value => exact .token rfl (optionRel_refl (Values.refl L) value)
  | aliasTo _ _ => exact .aliasTo rfl rfl

theorem Nodes.refl (n : Graph.Node) : L.Nodes n n :=
  ⟨rfl, rfl, Contents.refl L n.content, fun _ => optionRel_refl (References.refl L) _⟩

/-- A graph is like itself. -/
theorem Graphs.refl (g : Graph) : L.Graphs g g where
  uri := rfl
  node? _ := optionRel_refl (Nodes.refl L) _
  overrides := List.forall₂_same.2 fun o _ =>
    ⟨References.refl L _, fun _ => rfl, Offers.refl L L.References (References.refl L) o.offer⟩

variable {L} {n n' : Graph.Node}

/-- Likeness tells collections from tokens and aliases. -/
theorem Nodes.isCollection (h : L.Nodes n n') : n.isCollection = n'.isCollection := by
  have content := h.content
  unfold Graph.Node.isCollection
  generalize n.content = c, n'.content = c' at content
  cases content <;> rfl

/-- Nodes that are alike have types that show the same. -/
theorem Nodes.type (h : L.Nodes n n') : n.type.map L.field = n'.type.map L.field := by
  have content := h.content
  unfold Graph.Node.type
  generalize n.content = c, n'.content = c' at content
  cases content with
  | collection => rfl
  | token htype _ => exact htype
  | aliasTo htype _ => exact congrArg some htype

end Likeness

end DesignTokens
