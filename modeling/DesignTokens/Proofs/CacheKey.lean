import DesignTokens.CacheKey
import DesignTokens.Proofs.Json.Canonical
import DesignTokens.Proofs.Pointer
import DesignTokens.Proofs.Sample

/-!
# DesignTokens.Proofs.CacheKey — what a key tells

1. **Hashes** are 64 digits (`ContentHash.length_ofText`); whether a hash tells its text is assumed
   of the texts at hand (`ContentHash.Separates`).
2. **Settings** (`Resolution.Settings.eq_of_keyText`): the text that is hashed tells the context,
   but for the order of members, and the limits.
3. **Documents and tokens** (`Identity.parts_of_documentKey`, `Identity.parts_of_tokenKey`): a key
   falls into its parts again, since two of them have a fixed length and the last starts with a
   number sign.
4. **Keys** (`keys_stable_and_telling`).
-/

namespace DesignTokens

/-! ## Hashes -/

/-- Every word is written with eight digits, with leading zeros. -/
theorem Sha256.length_hexWord (word : UInt32) : (hexWord word).length = 8 :=
  rfl

/-- A digest has eight words, so 64 digits. -/
theorem Sha256.length_hexDigest (bytes : List UInt8) : (hexDigest bytes).toList.length = 64 := by
  rw [hexDigest, String.toList_ofList, digest, List.length_flatMap]
  simp only [length_hexWord]
  rfl

/-- A digest holds none of the marks that keys are put together with. -/
theorem Sha256.isAlphanum_of_mem_hexDigest {bytes : List UInt8} {c : Char}
    (h : c ∈ (hexDigest bytes).toList) : c.isAlphanum = true := by
  have digits : ∀ n < 16, (Nat.digitChar n).isAlphanum = true := by decide
  rw [hexDigest, String.toList_ofList] at h
  obtain ⟨word, _, hc⟩ := List.mem_flatMap.1 h
  obtain ⟨shift, _, rfl⟩ := List.mem_map.1 hc
  exact digits _ (Nat.mod_lt _ (by decide))

namespace ContentHash

/-- No two of some texts have the same hash. -/
def Separates (texts : List String) : Prop :=
  ∀ a ∈ texts, ∀ b ∈ texts, ofText a = ofText b → a = b

/-- Two texts of the same hash are the same, unless they are one of the collisions that are left
out. -/
theorem Separates.eq {a b : String} (h : Separates [a, b]) (hashes : ofText a = ofText b) : a = b :=
  h a List.mem_cons_self b (List.mem_cons_of_mem _ List.mem_cons_self) hashes

/-- A text does not collide with itself. -/
theorem separates_of_eq {a b : String} (same : a = b) : Separates [a, b] := by
  intro c hc d hd _
  rw [same, List.mem_cons, List.mem_singleton, or_self] at hc hd
  rw [hc, hd]

/-- All content hashes have the same length. -/
theorem length_ofText (content : String) : (ofText content).text.toList.length = 64 :=
  Sha256.length_hexDigest _

theorem not_mem_ofText (content : String) {c : Char} (mark : c.isAlphanum = false) :
    c ∉ (ofText content).text.toList := by
  intro hc
  rw [Sha256.isAlphanum_of_mem_hexDigest hc] at mark
  cases mark

end ContentHash

/-! ## Settings -/

namespace Resolution.Settings

variable {s t : Settings}

/-- The limits as they are hashed. -/
def limitText (s : Settings) : String :=
  "depth=" ++ toString s.maxDepth ++ "|network=" ++ (if s.allowNetwork then "true" else "false")

/-- A key text is the canonical context and the limits, with a bar between them. -/
theorem toList_keyText (s : Settings) : s.keyText.toList =
    (Json.object s.context).canonical.toList ++ '|' :: s.limitText.toList := by
  have shape : s.keyText = (Json.object s.context).canonical ++
      ("|depth=" ++ toString s.maxDepth ++ "|network=") ++
        (if s.allowNetwork then "true" else "false") := rfl
  rw [shape, limitText]
  simp

/-- The limits can be read off their text, since no number holds a bar. -/
theorem limits_of_limitText (h : s.limitText = t.limitText) :
    s.maxDepth = t.maxDepth ∧ s.allowNetwork = t.allowNetwork := by
  have free : ∀ n : ℕ, '|' ∉ (toString n).toList := by
    intro n hc
    have digit := Uri.Authority.isDigit_of_mem_toString hc
    cases digit
  have shape : ∀ s : Settings, s.limitText.toList =
      "depth=".toList ++ ((toString s.maxDepth).toList ++
        '|' :: ("network=".toList ++ (if s.allowNetwork then "true" else "false").toList)) := by
    intro s
    rw [limitText]
    simp
  have texts := congrArg String.toList h
  rw [shape, shape] at texts
  obtain ⟨depths, networks⟩ := Uri.append_mark_inj (free _) (free _) (List.append_cancel_left texts)
  refine ⟨Json.toString_injective (String.toList_inj.1 depths), ?_⟩
  have networks := List.append_cancel_left networks
  -- Only where the two flags differ is there something to show.
  cases hs : s.allowNetwork <;> cases ht : t.allowNetwork <;> rw [hs, ht] at networks
  · cases networks
  · cases networks

/-- The text that is hashed tells the context, but for the order of members, and the limits. -/
theorem parts_of_keyText (clear : (Json.object t.context).unambiguous = true)
    (h : s.keyText = t.keyText) :
    (Json.object s.context).same (Json.object t.context) = true ∧
      s.maxDepth = t.maxDepth ∧ s.allowNetwork = t.allowNetwork := by
  have texts := congrArg String.toList h
  rw [toList_keyText, toList_keyText] at texts
  obtain ⟨same, limits⟩ := Json.told_canonical clear (Json.ends_cons (by decide) _)
    (Json.ends_cons (by decide) _) texts
  exact ⟨same, limits_of_limitText (String.toList_inj.1 (List.cons.inj limits).2)⟩

/-- The text that is hashed does not show the order of members in the context. -/
theorem keyText_of_reordered (s : Settings) {context : Json.Members}
    (h : Relation.ReflTransGen Json.Reorders (.object s.context) (.object context)) :
    { s with context }.keyText = s.keyText := by
  rw [keyText, keyText, Json.canonical_of_reordered h]

/-- Equal keys are hashes of equal texts. -/
theorem keyText_of_key (separate : ContentHash.Separates [s.keyText, t.keyText])
    (h : s.key = t.key) : s.keyText = t.keyText := by
  have hashes : ContentHash.ofText s.keyText = ContentHash.ofText t.keyText :=
    congrArg ContentHash.mk h
  exact separate.eq hashes

end Resolution.Settings

/-! ## Documents and tokens -/

namespace Identity

variable {u v : Uri} {content content' : String} {s t : Resolution.Settings} {p q : Pointer}

/-- A document key is the URI and the hash of the content, with `@` between them. -/
theorem toList_documentKey (identity : Identity) : identity.documentKey.toList =
    identity.uri.text.toList ++ '@' :: identity.hash.text.toList := by
  simp [documentKey]

/-- A token key is the keys of the document and of the settings, and the pointer after `#`. -/
theorem toList_tokenKey (identity : Identity) (s : Resolution.Settings) (p : Pointer) :
    (identity.tokenKey s p).toList =
      identity.documentKey.toList ++ ':' :: s.key.toList ++ '#' :: p.body := by
  simp [tokenKey, Pointer.text]

/-- A document key tells the URI from the hash, since the hash has a fixed length. -/
theorem parts_of_documentKey (hu : u.WellFormed) (hv : v.WellFormed)
    (h : (Identity.of u content).documentKey = (Identity.of v content').documentKey) :
    u = v ∧ ContentHash.ofText content = ContentHash.ofText content' := by
  have texts := congrArg String.toList h
  rw [toList_documentKey, toList_documentKey] at texts
  -- The hash has a fixed length, so the key is split from its end; the URI may hold an `@` itself.
  have lengths : ('@' :: (Identity.of u content).hash.text.toList).length =
      ('@' :: (Identity.of v content').hash.text.toList).length :=
    congrArg Nat.succ ((ContentHash.length_ofText content).trans
      (ContentHash.length_ofText content').symm)
  obtain ⟨uris, hashes⟩ := List.append_inj' texts lengths
  refine ⟨Uri.text_inj hu hv (String.toList_inj.1 uris), ?_⟩
  have hashes := String.toList_inj.1 (List.cons.inj hashes).2
  exact congrArg ContentHash.mk hashes

/-- No number sign comes before the pointer in the key of a token. -/
theorem mark_not_mem_front (hu : u.IsDocument) (s : Resolution.Settings) :
    '#' ∉ (Identity.of u content).documentKey.toList ++ ':' :: s.key.toList := by
  rw [toList_documentKey]
  intro hc
  -- The document part ends where the settings begin; both are digits after their mark.
  rcases List.mem_append.1 hc with document | settings
  · rcases List.mem_append.1 document with uri | hash
    · exact hu.mark_not_mem_text uri
    · rcases List.mem_cons.1 hash with mark | digit
      · cases mark
      · exact ContentHash.not_mem_ofText content (by decide) digit
  · rcases List.mem_cons.1 settings with mark | digit
    · cases mark
    · exact ContentHash.not_mem_ofText s.keyText (by decide) digit

/-- What comes before the pointer in the key of a token. -/
theorem parts_of_front (hu : u.WellFormed) (hv : v.WellFormed)
    (h : (Identity.of u content).documentKey.toList ++ ':' :: s.key.toList =
      (Identity.of v content').documentKey.toList ++ ':' :: t.key.toList) :
    u = v ∧ ContentHash.ofText content = ContentHash.ofText content' ∧ s.key = t.key := by
  have lengths : (':' :: s.key.toList).length = (':' :: t.key.toList).length :=
    congrArg Nat.succ ((ContentHash.length_ofText s.keyText).trans
      (ContentHash.length_ofText t.keyText).symm)
  obtain ⟨documents, settings⟩ := List.append_inj' h lengths
  obtain ⟨uris, hashes⟩ := parts_of_documentKey hu hv (String.toList_inj.1 documents)
  exact ⟨uris, hashes, String.toList_inj.1 (List.cons.inj settings).2⟩

/-- A token key tells all its parts: the first `#` in it is the one before the pointer. -/
theorem parts_of_tokenKey (hu : u.IsDocument) (hv : v.IsDocument)
    (h : (Identity.of u content).tokenKey s p = (Identity.of v content').tokenKey t q) :
    u = v ∧ ContentHash.ofText content = ContentHash.ofText content' ∧ s.key = t.key ∧ p = q := by
  have texts := congrArg String.toList h
  rw [toList_tokenKey, toList_tokenKey] at texts
  obtain ⟨fronts, pointers⟩ := Uri.append_mark_inj (mark_not_mem_front hu s)
    (mark_not_mem_front hv t) texts
  obtain ⟨uris, hashes, settings⟩ := parts_of_front hu.wellFormed hv.wellFormed fronts
  refine ⟨uris, hashes, settings, Pointer.eq_of_text (String.toList_inj.1 ?_)⟩
  rw [Pointer.text, Pointer.text, String.toList_ofList, String.toList_ofList, pointers]

/-- At one pointer, it does not matter whether the URIs have fragments. -/
theorem parts_of_tokenKey_at (hu : u.WellFormed) (hv : v.WellFormed)
    (h : (Identity.of u content).tokenKey s p = (Identity.of v content').tokenKey t p) :
    u = v ∧ ContentHash.ofText content = ContentHash.ofText content' ∧ s.key = t.key := by
  have texts := congrArg String.toList h
  rw [toList_tokenKey, toList_tokenKey] at texts
  exact parts_of_front hu hv (List.append_cancel_right texts)

end Identity

/-! ## Keys -/

/-- The key of settings does not show the order of members anywhere in the context, and tells the
settings if it tells what was hashed. The keys of documents and tokens tell all they are made of. -/
theorem keys_stable_and_telling :
    (∀ (s : Resolution.Settings) (context : Json.Members),
      Relation.ReflTransGen Json.Reorders (.object s.context) (.object context) →
        { s with context }.key = s.key) ∧
    (∀ s t : Resolution.Settings, (Json.object t.context).unambiguous = true →
      ContentHash.Separates [s.keyText, t.keyText] → s.key = t.key →
        (Json.object s.context).same (.object t.context) = true ∧ s.maxDepth = t.maxDepth ∧
          s.allowNetwork = t.allowNetwork) ∧
    ∀ (u v : Uri) (content content' : String) (s t : Resolution.Settings) (p q : Pointer),
      u.IsDocument → v.IsDocument →
        ((Identity.of u content).tokenKey s p = (Identity.of v content').tokenKey t q →
          u = v ∧ ContentHash.ofText content = ContentHash.ofText content' ∧ s.key = t.key ∧
            p = q) ∧
        ((Identity.of u content).documentKey = (Identity.of v content').documentKey →
          u = v ∧ ContentHash.ofText content = ContentHash.ofText content') := by
  refine ⟨?_, ?_, ?_⟩
  · -- The canonical text sorts the members, so their order does not reach the key.
    intro s context reordered
    rw [Resolution.Settings.key, Resolution.Settings.keyText_of_reordered s reordered,
      Resolution.Settings.key]
  · -- Equal keys are equal texts, and the texts can be read back.
    intro s t clear separate keys
    have texts := Resolution.Settings.keyText_of_key separate keys
    exact Resolution.Settings.parts_of_keyText clear texts
  · -- The keys of identities are texts with marks that their parts do not hold.
    intro u v content content' s t p q hu hv
    constructor
    · exact Identity.parts_of_tokenKey hu hv
    · exact Identity.parts_of_documentKey hu.wellFormed hv.wellFormed

namespace Themes

def layout : Json.Members :=
  [("wide", .bool true), ("columns", .int 3)]

/-- Settings whose context has an object in it. -/
def dark : Resolution.Settings where
  context := [("theme", .string "dark"), ("layout", .object layout)]

/-- The same settings, with the context written in another order outside and inside. -/
def turned : Resolution.Settings where
  context := [("layout", .object layout.reverse), ("theme", .string "dark")]

def identity (name : String) : Identity :=
  .of (Sample.file name) "\x7b\x7d"

/-- The two contexts differ by the order of members at two levels. -/
theorem reordered : Relation.ReflTransGen Json.Reorders (.object dark.context)
    (.object turned.context) := by
  have inside : Json.Reorders (.object layout) (.object layout.reverse) :=
    .here (by decide) layout.reverse_perm.symm
  have outside : Json.Reorders (.object dark.context)
      (.object [("theme", .string "dark"), ("layout", .object layout.reverse)]) :=
    .member [("theme", .string "dark")] "layout" [] inside
  refine .tail (.single outside) (.here (by decide) ?_)
  exact .swap ("layout", _) ("theme", _) []

theorem keyText_turned : turned.keyText = dark.keyText :=
  dark.keyText_of_reordered reordered

end Themes

/-- Contexts that are written in another order have one key; other pointers and other documents
have other keys. -/
theorem themes_keyed :
    Themes.turned.key = Themes.dark.key ∧
      (Json.object Themes.turned.context).same (.object Themes.dark.context) = true ∧
      (Themes.identity "a").tokenKey Themes.dark Pointer.root ≠
        (Themes.identity "a").tokenKey Themes.turned (Pointer.root.child "b") ∧
      (Themes.identity "a").documentKey ≠ (Themes.identity "c").documentKey := by
  obtain ⟨stable, settings, identities⟩ := keys_stable_and_telling
  have key : Themes.turned.key = Themes.dark.key :=
    stable Themes.dark Themes.turned.context Themes.reordered
  have separate : ContentHash.Separates [Themes.turned.keyText, Themes.dark.keyText] :=
    ContentHash.separates_of_eq Themes.keyText_turned
  have a : (Sample.file "a").IsDocument := Sample.isDocument_file (by decide +kernel)
  have c : (Sample.file "c").IsDocument := Sample.isDocument_file (by decide +kernel)
  refine ⟨key, (settings _ _ (by decide) separate key).1, ?_, ?_⟩
  · -- Two tokens of one document differ in their pointers.
    intro same
    obtain ⟨_, _, _, pointers⟩ := (identities _ _ _ _ _ _ _ _ a a).1 same
    cases pointers
  · -- Two documents differ in their URIs.
    intro same
    obtain ⟨uris, _⟩ := (identities _ _ _ _ Themes.dark Themes.dark Pointer.root Pointer.root
      a c).2 same
    exact absurd uris (by decide)

end DesignTokens
