import DesignTokens.Proofs.Uri.Host

/-!
# DesignTokens.Proofs.Uri.Path — which paths are read

1. **Encoding**: an encoded text holds none of the marks that its part excludes.
2. **Pieces** between slashes hold no slash.
3. **Steps** (`Uri.PathText.Sound`): no mark gets into the segments of a path, and without a host
   no dot segment.
4. **Paths** (`Uri.sound_readPath`).
-/

namespace DesignTokens.Uri

/-! ## Encoding -/

/-- A character that is kept is none of those outside. -/
theorem not_mem_of_keepOutside {excluded : String} {c : Char}
    (h : keepOutside excluded c = true) : c ∉ excluded.toList := by
  unfold keepOutside at h
  rw [Bool.and_eq_true, Bool.not_eq_true'] at h
  intro hc
  rw [List.contains_iff_mem.2 hc] at h
  cases h.2

/-- An encoded text holds none of the marks that are excluded. -/
theorem free_encode_keepOutside {marks excluded : String} {text : List Char}
    (sub : marks.toList ⊆ excluded.toList)
    (plain : Free marks "%0123456789ABCDEF".toList) :
    Free marks (Text.Percent.encode (keepOutside excluded) text) :=
  free_encode (fun _ _ kept isMark => not_mem_of_keepOutside kept (sub isMark)) plain

theorem free_encodeCredentials (text : List Char) :
    Free "/?#@" (encodeCredentials text).toList := by
  rw [encodeCredentials, String.toList_ofList]
  exact free_encode_keepOutside (by decide) (by decide)

theorem free_encodeQuery (special : Bool) (text : List Char) :
    Free "#" (encodeQuery special text).toList := by
  rw [encodeQuery, String.toList_ofList]
  cases special <;> exact free_encode_keepOutside (by decide) (by decide)

theorem clean_subset (text : List Char) : clean text ⊆ text :=
  List.filter_subset_self text

theorem free_encodeRootless {text : List Char} (h : Free "?#" text) :
    Free "?#" (encodeRootless text).toList := by
  rw [encodeRootless, String.toList_ofList]
  exact free_encode (fun c hc _ => h c (clean_subset text hc)) (by decide)

theorem free_encodePath {text : List Char} (h : '/' ∉ text) :
    Free "/?#" (encodePath text).toList := by
  rw [encodePath, String.toList_ofList]
  refine free_encode (fun c hc kept isMark => ?_) (by decide)
  rcases List.mem_cons.1 isMark with rfl | isMark
  · exact h hc
  · have excluded : ['?', '#'] ⊆ " \"<>\x60#?\x7b\x7d".toList := by decide
    exact not_mem_of_keepOutside kept (excluded isMark)

/-- The encoded form of a text starts with its first character, or with a percent sign. -/
theorem encode_cons (keep : Char → Bool) (c : Char) (rest : List Char) :
    ∃ first more, Text.Percent.encode keep (c :: rest) =
      first :: (more ++ Text.Percent.encode keep rest) ∧ (first = c ∨ first = '%') := by
  rw [Text.Percent.encode, List.flatMap_cons]
  split
  · exact ⟨c, [], rfl, .inl rfl⟩
  · have size : (String.utf8EncodeChar c).length ≠ 0 := by
      rw [String.length_utf8EncodeChar]
      exact Nat.ne_of_gt (Char.utf8Size_pos c)
    -- Each character has at least one byte, so an escape is not empty.
    cases bytes : String.utf8EncodeChar c with
    | nil =>
      rw [bytes] at size
      exact absurd rfl size
    | cons b bytes => exact ⟨'%', _, rfl, .inr rfl⟩

/-- Nothing but a dot is encoded as a dot. -/
theorem eq_dot_of_encodePath {text : List Char} (h : encodePath text = ".") : text = ['.'] := by
  have chars := congrArg String.toList h
  rw [encodePath, String.toList_ofList] at chars
  generalize keepOutside _ = keep at chars
  cases text with
  | nil => cases chars
  | cons c rest =>
    obtain ⟨first, more, eq, which⟩ := encode_cons keep c rest
    rw [eq] at chars
    obtain ⟨rfl, none⟩ := List.cons.inj chars
    have none := (List.append_eq_nil_iff.1 none).2
    cases rest with
    | nil =>
      rcases which with same | percent
      · rw [← same]
        rfl
      · cases percent
    | cons d rest =>
      obtain ⟨first, more, eq, _⟩ := encode_cons keep d rest
      rw [eq] at none
      cases none

/-! ## Pieces -/

/-- The pieces between slashes hold none. -/
theorem slash_not_mem_piece (kind : Kind) (text : List Char) :
    ∀ piece ∈ Text.splitWhere (isSlash kind) text, '/' ∉ piece := by
  induction text with
  | nil =>
    intro piece hp
    rw [Text.splitWhere, List.mem_singleton] at hp
    rw [hp]
    exact List.not_mem_nil
  | cons c rest ih =>
    intro piece hp
    unfold Text.splitWhere at hp
    -- A slash ends the first piece.
    split at hp
    · rcases List.mem_cons.1 hp with rfl | hp
      · exact List.not_mem_nil
      · exact ih piece hp
    · -- Another character goes into it.
      next other =>
      have ne : '/' ≠ c := by
        rintro rfl
        exact other (by simp [isSlash])
      split at hp
      · obtain rfl := List.mem_singleton.1 hp
        simpa using ne
      · next first more eq =>
        rcases List.mem_cons.1 hp with rfl | hp
        · intro slash
          rcases List.mem_cons.1 slash with same | slash
          · exact ne same
          · exact ih first (by rw [eq]; exact List.mem_cons_self) slash
        · exact ih piece (by rw [eq]; exact List.mem_cons_of_mem _ hp)

/-! ## Drive letters -/

theorem free_letter {letter : Char} (h : letter.isAlpha = true) : Free "/?#" [letter, ':'] := by
  have marks : "/?#".toList.any Char.isAlpha = false := by decide
  exact .cons (fun isMark => List.any_eq_false.1 marks letter isMark h) (by decide)

theorem free_drive {segment : List Char} (h : isDriveLetter segment = true) :
    Free "/?#" (segment.take 1 ++ [':']) := by
  unfold isDriveLetter at h
  split at h
  · exact free_letter (Bool.and_eq_true_iff.1 h).1
  · cases h

/-- What stands before a break is a letter, and the rest is part of the segment. -/
theorem afterDriveBreak?_eq_some {segment rest : List Char} {letter : Char}
    (h : afterDriveBreak? segment = some (letter, rest)) :
    letter.isAlpha = true ∧ rest ⊆ segment := by
  unfold afterDriveBreak? at h
  split at h
  · next first more eq =>
    split at h
    · next mark after eq' =>
      rw [Option.ite_none_right_eq_some, Bool.and_eq_true, Bool.and_eq_true] at h
      obtain ⟨⟨⟨alpha, _⟩, _⟩, same⟩ := h
      cases same
      refine ⟨alpha, fun c hc => ?_⟩
      have inMore : c ∈ more := by
        refine List.dropWhile_subset isBreak ?_
        rw [eq']
        exact List.mem_cons_of_mem _ (List.mem_cons_of_mem _ (clean_subset _ hc))
      refine List.dropWhile_subset isBreak ?_
      rw [eq]
      exact List.mem_cons_of_mem _ inMore
    · cases h
  · cases h

/-! ## Steps -/

namespace PathText

/-- No mark is in the segments of a path; if the path is alone, without a host before it, there are
segments and none of them is a dot. -/
structure Sound (alone : Prop) (p : PathText) : Prop where
  free : ∀ s ∈ p.segments, Free "/?#" s.toList
  plain : alone → p.segments ≠ [] ∧ "." ∉ p.segments

variable {alone : Prop} {kind : Kind} {p : PathText}

theorem Sound.addSlash (h : Sound alone p) : Sound alone p.addSlash where
  free s hs := by
    rcases List.mem_append.1 hs with hs | hs
    · exact h.free s hs
    · rw [List.mem_singleton.1 hs]
      decide
  plain lone := by
    unfold PathText.addSlash
    exact ⟨by simp, by simpa using (h.plain lone).2⟩

theorem Sound.endInSlash (h : Sound alone p) : Sound alone p.endInSlash := by
  unfold PathText.endInSlash
  split
  · exact h
  · exact h.addSlash

/-- A text at the end of the last segment. -/
theorem Sound.extend (h : Sound alone p) {text : String} (free : Free "/?#" text.toList)
    (ne : text ≠ ".") : Sound alone (p.extend text) := by
  have last : Free "/?#" (p.segments.getLastD "").toList ∧
      (alone → p.segments.getLastD "" ≠ ".") := by
    rw [List.getLastD_eq_getLast?]
    cases hl : p.segments.getLast? with
    | none => exact ⟨by decide, fun _ => by decide⟩
    | some s =>
      have there : s ∈ p.segments := List.mem_of_mem_getLast? hl
      exact ⟨h.free s there, fun lone same => (h.plain lone).2 (same ▸ there)⟩
  refine ⟨fun s hs => ?_, fun lone => ⟨by simp [PathText.extend], fun dot => ?_⟩⟩
  · -- No segment holds a mark.
    rcases List.mem_append.1 hs with hs | hs
    · exact h.free s (List.dropLast_subset _ hs)
    · rw [List.mem_singleton.1 hs, String.toList_append]
      exact last.1.append free
  · -- And none is a dot.
    rcases List.mem_append.1 dot with dot | dot
    · exact (h.plain lone).2 (List.dropLast_subset _ dot)
    · have chars := congrArg String.toList (List.mem_singleton.1 dot)
      rw [String.toList_append] at chars
      -- One of the two texts is a dot, and the other one is empty.
      rcases List.append_eq_singleton_iff.1 chars.symm with ⟨_, is⟩ | ⟨is, _⟩
      · exact ne (String.toList_inj.1 is)
      · exact last.2 lone (String.toList_inj.1 is)

theorem Sound.emptyLast (h : Sound alone p) :
    Sound alone { p with segments := p.segments.dropLast ++ [""] } where
  free s hs := by
    rcases List.mem_append.1 hs with hs | hs
    · exact h.free s (List.dropLast_subset _ hs)
    · rw [List.mem_singleton.1 hs]
      decide
  plain lone := by
    refine ⟨by simp, fun dot => ?_⟩
    rcases List.mem_append.1 dot with dot | dot
    · exact (h.plain lone).2 (List.dropLast_subset _ dot)
    · simp at dot

theorem Sound.dropName (h : Sound alone p) : Sound alone (p.dropName kind) := by
  unfold PathText.dropName
  split
  · split
    · exact h
    · exact h.emptyLast
  · exact h

theorem Sound.goUp (h : Sound alone p) : Sound alone (p.goUp kind) := by
  unfold PathText.goUp
  split
  · next last more eq =>
    split
    · exact h
    · refine Sound.dropName ⟨fun s hs => h.free s (List.dropLast_subset _ hs), fun lone => ?_⟩
      refine ⟨?_, fun dot => (h.plain lone).2 (List.dropLast_subset _ dot)⟩
      -- The segment before the open one is left.
      have segments : p.segments = more.reverse ++ [last, ""] := by
        simpa using congrArg List.reverse eq
      simp [segments, List.dropLast_append_of_ne_nil]
  · exact h.dropName

section Add

-- The schemes whose paths can be alone have no drive letters.
variable (other : alone → kind = .other)

include other

/-- One segment, which may be a dot or two. -/
theorem Sound.addPlain (h : Sound alone p) {segment : List Char} (free : '/' ∉ segment)
    (more : Bool) : Sound alone (p.addPlain kind segment more) := by
  have finish : ∀ q : PathText, Sound alone q → Sound alone (if more then q.addSlash else q) := by
    intro q hq
    split
    · exact hq.addSlash
    · exact hq
  unfold PathText.addPlain
  dsimp only
  split
  · -- Two dots go up.
    split
    · exact h.goUp.endInSlash
    · exact h.goUp
  · -- One dot stays.
    split
    · exact h.endInSlash
    · next notDot =>
      refine finish _ ?_
      split
      · -- A drive letter starts the path again.
        next drive =>
        refine ⟨fun s hs => ?_, fun lone => ?_⟩
        · rw [List.mem_singleton.1 hs, String.toList_ofList]
          exact free_drive drive.2.2
        · rw [other lone] at drive
          cases drive.1
      · -- Anything else is added at the end, escaped.
        split
        · exact h
        · refine h.extend (free_encodePath free) fun dot => notDot ?_
          rw [eq_dot_of_encodePath dot]
          rfl

/-- One segment, which may hold a drive letter and a break. -/
theorem Sound.add (h : Sound alone p) {segment : List Char} (free : '/' ∉ segment)
    (more : Bool) : Sound alone (p.add kind segment more) := by
  have slashless := free
  have free : '/' ∉ clean segment := fun slash => free (clean_subset segment slash)
  unfold PathText.add
  split
  · split
    · next letter rest found =>
      obtain ⟨alpha, sub⟩ := afterDriveBreak?_eq_some found
      have added : Sound alone
          { p with segments := [String.ofList [letter, ':'], encodePath rest] } := by
        refine ⟨fun s hs => ?_, fun lone => nomatch other lone⟩
        simp only [List.mem_cons, List.not_mem_nil, or_false] at hs
        rcases hs with rfl | rfl
        · rw [String.toList_ofList]
          exact free_letter alpha
        · exact free_encodePath fun slash => slashless (sub slash)
      dsimp only
      split
      · exact added.addSlash
      · exact added
    · exact h.addPlain other free more
  · split
    · exact h.addSlash.addPlain other free more
    · exact h.addPlain other free more
  · exact h.addPlain other free more

theorem Sound.addAll (h : Sound alone p) {pieces : List (List Char)}
    (free : ∀ piece ∈ pieces, '/' ∉ piece) : Sound alone (p.addAll kind pieces) := by
  induction pieces generalizing p with
  | nil => exact h
  | cons piece rest ih =>
    have next := fun more => h.add other (free piece List.mem_cons_self) more
    cases rest with
    | nil => exact next false
    | cons piece' rest => exact ih (next true) fun q hq => free q (List.mem_cons_of_mem _ hq)

/-- The path of a file without what stands before its drive. -/
theorem Sound.trim (h : Sound alone p) : Sound alone (p.trim kind) := by
  unfold PathText.trim
  split
  · split
    · refine ⟨fun s hs => ?_, fun lone => nomatch other lone⟩
      rw [List.mem_singleton.1 hs]
      decide
    · refine ⟨fun s hs => h.free s ?_, fun lone => nomatch other lone⟩
      exact List.dropWhile_subset _ hs
  · exact h

end Add

end PathText

/-! ## Paths -/

theorem sound_readPath {alone : Prop} {kind : Kind} (other : alone → kind = .other)
    {before : List String} (h : PathText.Sound alone ⟨before, false⟩) (text : List Char) :
    PathText.Sound alone (readPath kind before text) :=
  (h.addAll other (slash_not_mem_piece kind text)).trim other

end DesignTokens.Uri
