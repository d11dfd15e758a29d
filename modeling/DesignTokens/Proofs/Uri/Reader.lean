import DesignTokens.Proofs.Uri.Path
import Mathlib.Data.List.TakeWhile

/-!
# DesignTokens.Proofs.Uri.Reader — every URI that is read is well-formed

1. **Parts** of a reference: where it is cut, no mark is left.
2. **Authorities** (`Uri.wellFormed_readAuthority`) and **URIs** that are put together.
3. **`file` URIs** (`Uri.wellFormed_readFile`).
4. **References** (`Uri.wellFormed_read`): read against a well-formed base or none, a text stands
   for a well-formed URI.
-/

namespace DesignTokens.Uri

/-! ## Parts -/

/-- What stands before a mark holds no such mark. -/
theorem cut_fst (mark : Char) (text : List Char) :
    mark ∉ (cut mark text).1 ∧ (cut mark text).1 ⊆ text := by
  unfold cut
  split
  · -- The mark is not there, so that is the whole text.
    next none =>
    refine ⟨fun there => ?_, fun c hc => hc⟩
    have other := List.dropWhile_eq_nil_iff.1 none mark there
    simp at other
  · refine ⟨fun there => ?_, List.takeWhile_subset _⟩
    have other := List.mem_takeWhile_imp there
    simp at other

theorem free_body (text : List Char) : Free "?#" (Parts.ofText text).body := by
  obtain ⟨noHash, _⟩ := cut_fst '#' text
  obtain ⟨noQuestion, sub⟩ := cut_fst '?' (cut '#' text).1
  intro c hc isMark
  have hc : c ∈ (cut '?' (cut '#' text).1).1 := List.dropWhile_subset _ hc
  simp only [String.reduceToList, List.mem_cons, List.not_mem_nil, or_false] at isMark
  rcases isMark with rfl | rfl
  · exact noQuestion hc
  · exact noHash (sub hc)

theorem not_isBreak_of_head? (text : List Char) :
    ∀ c ∈ (Parts.ofText text).body.head?, isBreak c = false := by
  intro c hc
  have head := List.head?_dropWhile_not isBreak (cut '?' (cut '#' text).1).1
  have hc : ((cut '?' (cut '#' text).1).1.dropWhile isBreak).head? = some c := hc
  rw [hc] at head
  exact head

/-- A colon is no letter, so it is not made a small one. -/
theorem eq_colon_of_toLower {c : Char} (h : c.toLower = ':') : c = ':' := by
  unfold Char.toLower at h
  split at h
  · -- A capital letter is moved by 32, and 58 is not reached from there.
    next upper =>
    have value : (c.val + ('a'.val - 'A'.val)).toNat = 58 := congrArg (·.val.toNat) h
    have least : 65 ≤ c.val.toNat := UInt32.le_iff_toNat_le.1 upper.1
    have most : c.val.toNat ≤ 90 := UInt32.le_iff_toNat_le.1 upper.2
    have step : ('a'.val - 'A'.val).toNat = 32 := by decide
    rw [UInt32.toNat_add, step] at value
    omega
  · exact h

/-- A scheme holds no colon. -/
theorem colon_not_mem_scheme {text rest : List Char} {scheme : String}
    (h : splitScheme? text = some (scheme, rest)) : ':' ∉ scheme.toList := by
  unfold splitScheme? at h
  dsimp only at h
  split at h
  · next first more _ found _ =>
    rw [Option.ite_none_right_eq_some] at h
    cases h.2
    rw [String.toList_ofList]
    intro colon
    obtain ⟨c, hc, lower⟩ := List.mem_map.1 colon
    rw [← found] at hc
    have isSchemeChar := List.mem_takeWhile_imp (clean_subset _ hc)
    rw [eq_colon_of_toLower lower] at isSchemeChar
    revert isSchemeChar
    decide
  · cases h

/-! ## Authorities -/

theorem free_readCredentials (text : List Char) : Free "/?#@" (readCredentials text).toList := by
  unfold readCredentials
  split
  · rw [String.toList_append, String.toList_append]
    exact ((free_encodeCredentials _).append (by decide)).append (free_encodeCredentials _)
  · exact free_encodeCredentials _

theorem Host.wellFormed_empty : Host.WellFormed "" :=
  ⟨by decide, by decide⟩

/-- What is read as an authority is well-formed. -/
theorem wellFormed_readAuthority {scheme : String} {kind : Kind} {text rest : List Char}
    {followed : Bool} {a : Authority}
    (h : readAuthority scheme kind text followed = .ok (a, rest)) : a.WellFormed := by
  unfold readAuthority at h
  dsimp only [bind, Except.bind, pure, Except.pure, throw, throwThe, MonadExceptOf.throw] at h
  split at h
  · cases h
  split at h
  · cases h
  split at h
  all_goals
    split at h
    · cases h
    next host found =>
    have host : Host.WellFormed host := by
      first
      | exact Host.wellFormed_ofOther found
      | exact Host.wellFormed_ofSpecial found
    split at h
    · cases h
    split at h
    · cases h
    split at h
    · cases h
    cases h
    exact ⟨free_readCredentials _, host⟩

/-! ## URIs -/

/-- A URI is well-formed if its parts are. -/
theorem wellFormed_complete {scheme : String} {authority : Option Authority} {path : Path}
    (noColon : ':' ∉ scheme.toList) (authorities : ∀ a, authority = some a → a.WellFormed)
    (paths : path.WellFormed (authority.isSome = true))
    (kind : authority = none → kindOf scheme = .other) (parts : Parts) :
    (complete scheme authority path parts).WellFormed where
  scheme := noColon
  authority := authorities
  path := paths
  query q hq := by
    obtain ⟨text, _, rfl⟩ := Option.map_eq_some_iff.1 hq
    exact (free_encodeQuery _ text).not_mem (by decide)
  kind := kind

theorem sound_empty (alone : Prop) : PathText.Sound alone ⟨[""], false⟩ :=
  ⟨by decide, fun _ => by decide⟩

/-- The segments of a path that follows an authority. -/
theorem free_readPath {kind : Kind} {before : List String}
    (free : ∀ s ∈ before, Free "/?#" s.toList) (text : List Char) :
    ∀ s ∈ (readPath kind before text).segments, Free "/?#" s.toList :=
  have sound : PathText.Sound False ⟨before, false⟩ := ⟨free, nofun⟩
  (sound_readPath nofun sound text).free

theorem free_empty : ∀ s ∈ [""], Free "/?#" s.toList :=
  (sound_empty False).free

theorem free_nil : ∀ s ∈ ([] : List String), Free "/?#" s.toList :=
  fun _ hs => absurd hs List.not_mem_nil

/-- A URI with an authority. -/
theorem wellFormed_hosted {scheme : String} (noColon : ':' ∉ scheme.toList) {a : Authority}
    (ha : a.WellFormed) {segments : List String} (free : ∀ s ∈ segments, Free "/?#" s.toList)
    (parts : Parts) : (complete scheme (some a) (.rooted segments) parts).WellFormed := by
  refine wellFormed_complete noColon ?_ ?_ (fun none => by cases none) parts
  · rintro b ⟨⟩
    exact ha
  · exact ⟨free, fun none => absurd rfl none⟩

/-- What follows two slashes is an authority, and then a path. -/
theorem wellFormed_readAfterSlashes {scheme : String} (noColon : ':' ∉ scheme.toList)
    {kind : Kind} {body : List Char} {parts : Parts} {u : Uri}
    (h : readAfterSlashes scheme kind body parts = .ok u) : u.WellFormed := by
  unfold readAfterSlashes at h
  dsimp only [bind, Except.bind, pure, Except.pure] at h
  split at h
  · cases h
  · next read found =>
    cases h
    refine wellFormed_hosted noColon (wellFormed_readAuthority found) ?_ parts
    split
    · exact free_readPath free_empty _
    · split
      · split
        · exact free_nil
        · exact free_empty
      · exact free_readPath free_empty _

/-- A `file` URI whose path goes on from some segments. -/
theorem wellFormed_fileUri {host : String} (hh : Host.WellFormed host) {before : List String}
    (free : ∀ s ∈ before, Free "/?#" s.toList) (text : List Char) (parts : Parts) :
    (fileUri host (readPath .file before text) parts).WellFormed := by
  have credentials : Free "/?#@" "".toList := by decide
  exact wellFormed_hosted (by decide) ⟨credentials, hh⟩ (free_readPath free text) parts

section Base

variable {base : Uri} (hb : base.WellFormed)

include hb

theorem wellFormed_hostOf : Host.WellFormed (hostOf base) := by
  unfold hostOf
  cases ha : base.authority with
  | none => exact Host.wellFormed_empty
  | some a => exact (hb.authority a ha).host

theorem free_segmentsOf : ∀ s ∈ segmentsOf base, Free "/?#" s.toList := by
  unfold segmentsOf
  have path := hb.path
  cases hp : base.path with
  | rootless text => exact nofun
  | rooted segments =>
    rw [hp] at path
    exact path.1

/-- A reference to the document of its base keeps all but the fragment. -/
theorem wellFormed_withFragment (fragment : Option String) :
    ({ base with fragment } : Uri).WellFormed :=
  ⟨hb.scheme, hb.authority, hb.path, hb.query, hb.kind⟩

/-- A reference with a query keeps the path of its base. -/
theorem wellFormed_withQuery (parts : Parts) :
    (complete base.scheme base.authority base.path parts).WellFormed :=
  wellFormed_complete hb.scheme hb.authority hb.path hb.kind parts

theorem free_driveOf : ∀ s ∈ driveOf (segmentsOf base), Free "/?#" s.toList :=
  fun s hs => free_segmentsOf hb s (List.mem_of_mem_take (List.mem_of_mem_filter hs))

theorem wellFormed_readFileFromRoot (body : List Char) (parts : Parts) :
    (readFileFromRoot (some base) body parts).WellFormed := by
  unfold readFileFromRoot
  dsimp only
  split
  · exact wellFormed_fileUri Host.wellFormed_empty free_nil _ parts
  · refine wellFormed_fileUri ?_ (free_driveOf hb) _ parts
    split
    · exact wellFormed_hostOf hb
    · exact Host.wellFormed_empty

theorem wellFormed_readFileRelative (parts : Parts) :
    (readFileRelative (some base) parts).WellFormed := by
  unfold readFileRelative
  dsimp only
  split
  · -- A fragment only, or a query.
    exact wellFormed_withFragment hb _
  · exact wellFormed_withQuery hb parts
  · -- A path, from a drive or from the segments of the base.
    split
    · exact wellFormed_fileUri Host.wellFormed_empty free_empty _ parts
    · have before : PathText.Sound False ⟨segmentsOf base, false⟩ := ⟨free_segmentsOf hb, nofun⟩
      exact wellFormed_fileUri (wellFormed_hostOf hb) before.dropName.free _ parts

/-- The segments that a relative path goes on from; `rooted` says that there is a path to go on
from. -/
theorem sound_before (rooted : base.canAnchor = true) :
    let before := (PathText.dropName (kindOf base.scheme) ⟨segmentsOf base, false⟩).segments
    PathText.Sound (base.authority = none) ⟨if before.isEmpty then [""] else before, false⟩ := by
  have segments : PathText.Sound (base.authority = none) ⟨segmentsOf base, false⟩ := by
    refine ⟨free_segmentsOf hb, fun none => ?_⟩
    have path := hb.path
    unfold canAnchor at rooted
    unfold segmentsOf
    rw [none] at path rooted
    cases hp : base.path with
    | rootless text =>
      rw [hp] at rooted
      cases rooted
    | rooted segments =>
      rw [hp] at path
      exact path.2 nofun
  dsimp only
  split
  · exact sound_empty _
  · exact ⟨segments.dropName.free, segments.dropName.plain⟩

end Base

theorem exists_of_map_eq_ok {ε α β : Type} {f : α → β} {x : Except ε α} {y : β}
    (h : x.map f = .ok y) : ∃ a, x = .ok a ∧ y = f a := by
  cases x with
  | error e => cases h
  | ok a =>
    cases h
    exact ⟨a, rfl, rfl⟩

theorem wellFormed_readFileHost {text : List Char} {host : String}
    (h : readFileHost text = .ok host) : Host.WellFormed host := by
  unfold readFileHost at h
  split at h
  · cases h
    exact Host.wellFormed_empty
  · obtain ⟨special, read, rfl⟩ := exists_of_map_eq_ok h
    split
    · exact Host.wellFormed_empty
    · exact Host.wellFormed_ofSpecial read

/-- A file with a host, or with a drive in its place. -/
theorem wellFormed_readFileAfterSlashes {body : List Char} {parts : Parts} {u : Uri}
    (h : readFileAfterSlashes body parts = .ok u) : u.WellFormed := by
  unfold readFileAfterSlashes at h
  dsimp only at h
  split at h
  · cases h
    exact wellFormed_fileUri Host.wellFormed_empty free_empty _ parts
  · obtain ⟨host, read, rfl⟩ := exists_of_map_eq_ok h
    split
    · exact wellFormed_fileUri Host.wellFormed_empty free_empty _ parts
    · refine wellFormed_fileUri ?_ free_empty _ parts
      split
      · exact Host.wellFormed_empty
      · exact wellFormed_readFileHost read

section Read

variable {base : Option Uri} (hb : ∀ b ∈ base, b.WellFormed) {text : List Char} {u : Uri}

include hb

theorem wellFormed_readFile (h : readFile base text = .ok u) : u.WellFormed := by
  unfold readFile at h
  dsimp only at h
  split at h
  · -- Two slashes, and then a host.
    exact wellFormed_readFileAfterSlashes h
  · -- One slash: named from the root.
    cases h
    cases base with
    | none => exact wellFormed_fileUri Host.wellFormed_empty free_nil _ _
    | some b => exact wellFormed_readFileFromRoot (hb b rfl) _ _
  · -- No slash: named from a base, if there is one.
    cases h
    cases base with
    | none => exact wellFormed_fileUri Host.wellFormed_empty free_empty _ _
    | some b => exact wellFormed_readFileRelative (hb b rfl) _

end Read

/-! ## References -/

/-- A URI with the scheme and the authority of its base, whose path goes on from some segments. -/
theorem wellFormed_rooted {base : Uri} (hb : base.WellFormed) {before : List String}
    (sound : PathText.Sound (base.authority = none) ⟨before, false⟩) (text : List Char)
    (parts : Parts) :
    (complete base.scheme base.authority
      (.rooted (readPath (kindOf base.scheme) before text).segments) parts).WellFormed := by
  have read := sound_readPath hb.kind sound text
  refine wellFormed_complete hb.scheme hb.authority ?_ hb.kind parts
  exact ⟨read.free, fun none => read.plain (Option.not_isSome_iff_eq_none.1 none)⟩

/-- What is read from a base that can anchor it is well-formed. -/
theorem wellFormed_readRelative {base : Uri} (hb : base.WellFormed)
    (rooted : base.canAnchor = true) {text : List Char} {u : Uri}
    (h : readRelative base text = .ok u) : u.WellFormed := by
  unfold readRelative at h
  dsimp only at h
  split at h
  · -- An authority of its own.
    exact wellFormed_readAfterSlashes hb.scheme h
  · -- A path from the root.
    cases h
    exact wellFormed_rooted hb (sound_empty _) _ _
  · split at h
    · -- A fragment.
      cases h
      exact wellFormed_withFragment hb _
    · -- A query.
      cases h
      exact wellFormed_withQuery hb _
    · -- A path from the segments of the base.
      cases h
      exact wellFormed_rooted hb (sound_before hb rooted) _ _

/-- The schemes with hosts can always anchor references. -/
theorem WellFormed.canAnchor {u : Uri} (h : u.WellFormed) (hosted : kindOf u.scheme ≠ .other) :
    u.canAnchor = true := by
  unfold Uri.canAnchor
  split
  · next none _ => exact absurd (h.kind none) hosted
  · rfl

/-- A path that starts with no slash, without an authority. -/
theorem wellFormed_rootless {scheme : String} (noColon : ':' ∉ scheme.toList)
    (other : kindOf scheme = .other) {text : List Char} (free : Free "?#" text)
    (noBreak : ∀ c ∈ text.head?, isBreak c = false) (noSlash : text.head? ≠ some '/')
    (parts : Parts) :
    (complete scheme none (.rootless (encodeRootless text)) parts).WellFormed := by
  refine wellFormed_complete noColon (fun a none => by cases none) ?_ (fun _ => other) parts
  refine ⟨nofun, free_encodeRootless free, ?_⟩
  rw [encodeRootless, String.toList_ofList]
  cases text with
  | nil =>
    intro slash
    cases slash
  | cons c rest =>
    have kept : clean (c :: rest) = c :: clean rest := by
      rw [clean, List.filter_cons_of_pos (by rw [noBreak c rfl]; rfl), clean]
    obtain ⟨first, more, eq, which⟩ := encode_cons (keepOutside "") c (clean rest)
    rw [kept, eq]
    rintro ⟨⟩
    rcases which with rfl | percent
    · exact noSlash rfl
    · cases percent

/-- What starts with a scheme is well-formed, whatever its kind. -/
theorem wellFormed_readAbsolute {base : Option Uri} (hb : ∀ b ∈ base, b.WellFormed)
    {scheme : String} (noColon : ':' ∉ scheme.toList) {text : List Char} {u : Uri}
    (h : readAbsolute base scheme text = .ok u) : u.WellFormed := by
  have same {p : Uri → Bool} {b : Uri} (hf : base.filter p = some b) : b.WellFormed ∧ p b = true :=
    ⟨hb b (Option.filter_eq_some_iff.1 hf).1, (Option.filter_eq_some_iff.1 hf).2⟩
  unfold readAbsolute at h
  dsimp only at h
  split at h
  · -- A file.
    exact wellFormed_readFile (fun b hf => (same hf).1) h
  · -- A scheme that has hosts by rule.
    next special =>
    split at h
    · next b _ found _ =>
      obtain ⟨hb, scheme⟩ := same found
      have scheme := of_decide_eq_true scheme
      refine wellFormed_readRelative hb (hb.canAnchor ?_) h
      rw [scheme, special]
      nofun
    · exact wellFormed_readAfterSlashes noColon h
  · -- Any other scheme.
    next other =>
    split at h
    · exact wellFormed_readAfterSlashes noColon h
    · cases h
      have read := sound_readPath (fun _ => rfl) (sound_empty True)
      refine wellFormed_complete noColon (fun a none => by cases none) ?_ (fun _ => other) _
      exact ⟨(read _).free, fun _ => (read _).plain trivial⟩
    · next noSlash =>
      cases h
      refine wellFormed_rootless noColon other (free_body text) ?_ ?_ _
      · exact not_isBreak_of_head? text
      · intro slash
        obtain ⟨rest, eq⟩ := List.head?_eq_some_iff.1 slash
        exact noSlash rest eq

/-- A text that is read, against a well-formed base if there is one, stands for a well-formed
URI. -/
theorem wellFormed_read {base : Option Uri} (hb : ∀ b ∈ base, b.WellFormed)
    {input : String} {u : Uri} (h : read base input = .ok u) : u.WellFormed := by
  unfold read at h
  dsimp only at h
  split at h
  · -- With a scheme of its own.
    next scheme rest found => exact wellFormed_readAbsolute hb (colon_not_mem_scheme found) h
  · -- Without a scheme, a base is needed.
    cases h
  · next b _ =>
    have hb := hb _ rfl
    -- A base that anchors nothing takes a fragment at most.
    split at h
    · cases h
      exact wellFormed_withFragment hb _
    · split at h
      · cases h
      · next anchor =>
        split at h
        · exact wellFormed_readFile (by rintro b ⟨⟩; exact hb) h
        · exact wellFormed_readRelative hb (by simpa using anchor) h

theorem wellFormed_join {base : Uri} (hb : base.WellFormed) {reference : String} {u : Uri}
    (h : join base reference = .ok u) : u.WellFormed :=
  wellFormed_read (by rintro b ⟨⟩; exact hb) h

theorem wellFormed_parse {input : String} {u : Uri} (h : parse input = .ok u) : u.WellFormed :=
  wellFormed_read (fun _ none => by cases none) h

/-- Without its fragment a URI stays well-formed, also where spaces at the end are cut. -/
theorem WellFormed.withoutFragment {u : Uri} (h : u.WellFormed) :
    u.withoutFragment.WellFormed := by
  refine ⟨h.scheme, h.authority, ?_, h.query, h.kind⟩
  have path := h.path
  unfold Uri.withoutFragment
  dsimp only
  split
  · next text eq _ =>
    rw [eq] at path
    obtain ⟨lone, free, noSlash⟩ := path
    refine ⟨lone, ?_, ?_⟩ <;> rw [String.toList_ofList]
    · -- Less text holds no more marks.
      refine free.sub fun c hc => ?_
      exact List.mem_reverse.1 (List.dropWhile_subset _ (List.mem_reverse.1 hc))
    · -- What is left is the start of the text.
      obtain ⟨dropped, whole⟩ : text.toList.reverse.dropWhile (· == ' ') <:+ text.toList.reverse :=
        List.dropWhile_suffix _
      have whole := congrArg List.reverse whole
      rw [List.reverse_append, List.reverse_reverse] at whole
      intro slash
      refine noSlash ?_
      rw [← whole, List.head?_append, slash]
      rfl
  · exact path

end DesignTokens.Uri
