import DesignTokens.Proofs.Uri.Reader

/-!
# DesignTokens.Proofs.Uri.Scheme — where a number sign stands in a URI

1. **Schemes** (`Uri.Named`): that of a URI that is read holds no number sign.
2. **Documents** (`Uri.IsDocument`): a number sign in the text of a well-formed URI starts its
   fragment, so that there is none in the URI of a document.
-/

namespace DesignTokens.Uri

/-! ## Schemes -/

/-- A URI whose scheme holds no number sign. -/
def Named (u : Uri) : Prop :=
  '#' ∉ u.scheme.toList

theorem named_file {u : Uri} (h : u.scheme = "file") : u.Named := by
  rw [Named, h]
  decide

/-- No capital letter is made a `#`. -/
theorem eq_mark_of_toLower {c : Char} (h : c.toLower = '#') : c = '#' := by
  unfold Char.toLower at h
  split at h
  · next upper =>
    have value : (c.val + ('a'.val - 'A'.val)).toNat = 35 := congrArg (·.val.toNat) h
    have least : 65 ≤ c.val.toNat := UInt32.le_iff_toNat_le.1 upper.1
    have most : c.val.toNat ≤ 90 := UInt32.le_iff_toNat_le.1 upper.2
    have step : ('a'.val - 'A'.val).toNat = 32 := by decide
    rw [UInt32.toNat_add, step] at value
    omega
  · exact h

/-- A scheme holds no `#`. -/
theorem mark_not_mem_scheme {text rest : List Char} {scheme : String}
    (h : splitScheme? text = some (scheme, rest)) : '#' ∉ scheme.toList := by
  unfold splitScheme? at h
  dsimp only at h
  split at h
  · next first more _ found _ =>
    rw [Option.ite_none_right_eq_some] at h
    cases h.2
    rw [String.toList_ofList]
    intro mark
    obtain ⟨c, hc, lower⟩ := List.mem_map.1 mark
    rw [← found] at hc
    have isSchemeChar := List.mem_takeWhile_imp (clean_subset _ hc)
    rw [eq_mark_of_toLower lower] at isSchemeChar
    revert isSchemeChar
    decide
  · cases h

variable {base : Option Uri} {text : List Char} {parts : Parts} {u : Uri}

/-- What follows two slashes keeps the scheme. -/
theorem scheme_readAfterSlashes {scheme : String} {kind : Kind}
    (h : readAfterSlashes scheme kind text parts = .ok u) : u.scheme = scheme := by
  unfold readAfterSlashes at h
  dsimp only [bind, Except.bind, pure, Except.pure] at h
  split at h
  · cases h
  · cases h
    rfl

theorem scheme_readFileAfterSlashes (h : readFileAfterSlashes text parts = .ok u) :
    u.scheme = "file" := by
  unfold readFileAfterSlashes at h
  dsimp only at h
  split at h
  · cases h
    rfl
  · obtain ⟨host, _, rfl⟩ := exists_of_map_eq_ok h
    split <;> rfl

theorem scheme_readFileFromRoot : (readFileFromRoot base text parts).scheme = "file" := by
  unfold readFileFromRoot
  split
  · rfl
  · split <;> rfl

theorem named_readFileRelative (hb : ∀ b ∈ base, b.Named) :
    (readFileRelative base parts).Named := by
  unfold readFileRelative
  split
  · exact named_file rfl
  · next b =>
    have hb : b.Named := hb b rfl
    split
    · exact hb
    · exact hb
    · dsimp only
      split <;> exact named_file rfl

/-- A file is named, with a base or without. -/
theorem named_readFile (hb : ∀ b ∈ base, b.Named) (h : readFile base text = .ok u) : u.Named := by
  unfold readFile at h
  dsimp only at h
  split at h
  · exact named_file (scheme_readFileAfterSlashes h)
  · cases h
    exact named_file scheme_readFileFromRoot
  · cases h
    exact named_readFileRelative hb

theorem scheme_readRelative {base : Uri} (h : readRelative base text = .ok u) :
    u.scheme = base.scheme := by
  unfold readRelative at h
  dsimp only at h
  split at h
  · exact scheme_readAfterSlashes h
  · cases h
    rfl
  · split at h <;> cases h <;> rfl

/-- What starts with a scheme has it, unless it is a file. -/
theorem named_readAbsolute (hb : ∀ b ∈ base, b.Named) {scheme : String}
    (named : '#' ∉ scheme.toList) (h : readAbsolute base scheme text = .ok u) : u.Named := by
  unfold readAbsolute at h
  dsimp only at h
  split at h
  · -- A file.
    refine named_readFile (fun b found => ?_) h
    exact hb b (Option.filter_eq_some_iff.1 found).1
  · -- A scheme that has hosts by rule, which may be read from the base.
    split at h
    · next found _ =>
      rw [Named, scheme_readRelative h]
      exact hb _ (Option.filter_eq_some_iff.1 found).1
    · rwa [Named, scheme_readAfterSlashes h]
  · -- Any other scheme.
    split at h
    · rwa [Named, scheme_readAfterSlashes h]
    · cases h
      exact named
    · cases h
      exact named

/-- The scheme of a URI that is read holds no number sign if that of its base does not. -/
theorem named_read (hb : ∀ b ∈ base, b.Named) {input : String} (h : read base input = .ok u) :
    u.Named := by
  unfold read at h
  dsimp only at h
  split at h
  · -- With a scheme of its own.
    next scheme rest found => exact named_readAbsolute hb (mark_not_mem_scheme found) h
  · cases h
  · -- With that of the base.
    next b _ =>
    have hb : b.Named := hb b rfl
    split at h
    · cases h
      exact hb
    · split at h
      · cases h
      · split at h
        · refine named_readFile ?_ h
          rintro _ ⟨⟩
          exact hb
        · rwa [Named, scheme_readRelative h]

/-! ## Documents -/

/-- A URI that can be that of a document: it has no fragment. -/
structure IsDocument (u : Uri) : Prop where
  wellFormed : u.WellFormed
  named : u.Named
  plain : u.fragment = none

theorem isDocument_of_parse {input : String} (h : parse input = .ok u) (plain : u.fragment = none) :
    u.IsDocument :=
  ⟨wellFormed_parse h, named_read (fun _ none => by cases none) h, plain⟩

/-- The text of a document's URI holds no number sign. -/
theorem IsDocument.mark_not_mem_text (h : u.IsDocument) : '#' ∉ u.text.toList := by
  intro hc
  rw [toList_text, h.plain] at hc
  rcases List.mem_append.1 hc with scheme | hc
  · -- In the scheme there is none.
    exact h.named scheme
  · rcases List.mem_cons.1 hc with colon | hc
    · -- The colon after it is another mark.
      cases colon
    · rcases List.mem_append.1 hc with hc | fragment
      · -- In the path and in the query there is none.
        rcases List.mem_append.1 hc with front | query
        · exact (free_front h.wellFormed).not_mem (by decide) front
        · cases hq : u.query with
          | none =>
            rw [hq] at query
            cases query
          | some q =>
            rw [hq] at query
            rcases List.mem_cons.1 query with question | query
            · cases question
            · exact h.wellFormed.query q hq query
      · -- A document has no fragment.
        cases fragment

end DesignTokens.Uri
