import DesignTokens.Proofs.Uri.Text
import Mathlib.Data.Nat.Digits.Defs

/-!
# DesignTokens.Proofs.Uri.Host — which characters hosts are made of

1. **Percent-encoding** (`Percent.free_encode`): what is not kept becomes percent signs and digits.
2. **Punycode** (`Punycode.free_encode`, `Punycode.free_of_decode?`).
3. **Domain names** (`DomainName.free_ofText?`).
4. **Hosts**: every host that is read is well-formed (`Host.wellFormed_ofSpecial`,
   `Host.wellFormed_ofOther`).
-/

namespace DesignTokens

/-! ## Percent-encoding -/

namespace Text.Percent

theorem hexDigit_mem {n : Nat} (h : n < 16) : hexDigit n ∈ "0123456789ABCDEF".toList := by
  have all : ∀ n < 16, hexDigit n ∈ "0123456789ABCDEF".toList := by decide
  exact all n h

theorem mem_encodeByte {b : UInt8} {c : Char} (hc : c ∈ encodeByte b) :
    c ∈ "%0123456789ABCDEF".toList := by
  have byte := b.toNat_lt
  simp only [encodeByte, List.mem_cons, List.not_mem_nil, or_false] at hc
  rcases hc with rfl | rfl | rfl
  · decide
  · exact List.mem_cons_of_mem _ (hexDigit_mem (by omega))
  · exact List.mem_cons_of_mem _ (hexDigit_mem (by omega))

/-- A character of an encoded text is one that is kept, or stands for a byte. -/
theorem mem_encode {keep : Char → Bool} {text : List Char} {c : Char} (hc : c ∈ encode keep text) :
    c ∈ text ∧ keep c = true ∨ c ∈ "%0123456789ABCDEF".toList := by
  obtain ⟨d, hd, hc⟩ := List.mem_flatMap.1 hc
  split at hc
  · next kept =>
    obtain rfl := List.mem_singleton.1 hc
    exact .inl ⟨hd, kept⟩
  · obtain ⟨b, _, hc⟩ := List.mem_flatMap.1 hc
    exact .inr (mem_encodeByte hc)

end Text.Percent

namespace Uri

/-- An encoded text holds none of some marks, if none of them is both there and kept. -/
theorem free_encode {marks : String} {keep : Char → Bool} {text : List Char}
    (kept : ∀ c ∈ text, keep c = true → c ∉ marks.toList)
    (plain : Free marks "%0123456789ABCDEF".toList) :
    Free marks (Text.Percent.encode keep text) := by
  intro c hc
  rcases Text.Percent.mem_encode hc with ⟨there, keeps⟩ | coded
  · exact kept c there keeps
  · exact plain c coded

/-! ## Punycode -/

/-- The marks that end a host which is no address in brackets. -/
def hostMarks : String :=
  "/?#@:"

namespace Punycode

/-- A digit of a code is no mark. -/
theorem digit_not_mark {c : Char} (h : (digit? c).isSome = true) : c ∉ hostMarks.toList := by
  intro hc
  simp only [hostMarks, String.reduceToList, List.mem_cons, List.not_mem_nil, or_false] at hc
  rcases hc with rfl | rfl | rfl | rfl | rfl <;> cases h

/-- Nor is a character that stands for a digit. -/
theorem digitOf_not_mark {value : Nat} (h : value < 36) : digitOf value ∉ hostMarks.toList := by
  have all : ∀ value < 36, digitOf value ∉ hostMarks.toList := by decide
  exact all value h

/-- A threshold leaves at least ten digits. -/
theorem threshold_le (place bias : Nat) : threshold place bias ≤ 26 := by
  unfold threshold
  split
  · omega
  · split <;> omega

/-- The digits of a number hold no mark. -/
theorem free_digitsOf (bias fuel place number : Nat) :
    Free hostMarks (digitsOf bias fuel place number) := by
  induction fuel generalizing place number with
  | zero => exact .nil _
  | succ fuel ih =>
    have limit := threshold_le place bias
    unfold digitsOf
    dsimp only
    split
    · -- The last digit.
      exact .cons (digitOf_not_mark (by omega)) (.nil _)
    · -- A digit below the threshold, with others after it.
      have below := Nat.mod_lt (number - threshold place bias)
        (show 0 < 36 - threshold place bias by omega)
      exact .cons (digitOf_not_mark (by omega)) (ih _ _)

/-- One character adds digits only. -/
theorem free_pass {basic code : Nat} {e : Encoder} (h : Free hostMarks e.digits) (c : Char) :
    Free hostMarks (e.pass basic code c).digits := by
  unfold Encoder.pass
  split
  · exact h
  · split
    · exact h.append (free_digitsOf _ _ _ _)
    · exact h

theorem free_passAll {basic code : Nat} {e : Encoder} (h : Free hostMarks e.digits)
    (text : List Char) : Free hostMarks (text.foldl (Encoder.pass basic code) e).digits := by
  induction text generalizing e with
  | nil => exact h
  | cons c rest ih => exact ih (free_pass h c)

theorem free_encodeCodes (input : List Char) (basic before : Nat) (codes : List Nat) {e : Encoder}
    (h : Free hostMarks e.digits) :
    Free hostMarks (encodeCodes input basic before codes e).digits := by
  induction codes generalizing before e with
  | nil => exact h
  | cons code rest ih =>
    unfold encodeCodes
    refine ih _ ?_
    exact @free_passAll basic code
      { e with delta := e.delta + (code - before) * (e.count + 1) } h input

/-- What is encoded holds no mark if the text holds none. -/
theorem free_encode {input : List Char} (h : Free hostMarks input) :
    Free hostMarks (encode input) := by
  refine Free.append ?_ (free_encodeCodes _ _ _ _ (.nil _))
  split
  · exact .nil _
  · exact (h.sub (List.filter_subset_self _)).append (by decide)

/-- Inserting a character loses none. -/
theorem mem_insertIdx_mod {text : List Char} (place : Nat) (c : Char) {x : Char} (hx : x ∈ text) :
    x ∈ text.insertIdx (place % (text.length + 1)) c :=
  (List.mem_insertIdx (Nat.lt_succ_iff.1 (Nat.mod_lt place (Nat.succ_pos _)))).2 (.inr hx)

/-- Every character that was read as a digit is one, and the text so far only grows. -/
theorem step_eq_some {d d' : Decoder} {c : Char} (h : d.step c = some d') :
    (digit? c).isSome = true ∧ d.text ⊆ d'.text := by
  obtain ⟨digit, isDigit, h⟩ := Option.bind_eq_some_iff.1 h
  refine ⟨by rw [isDigit]; rfl, ?_⟩
  dsimp only at h
  split at h
  · unfold Decoder.insert? at h
    dsimp only at h
    split at h
    · cases h
      exact fun x hx => mem_insertIdx_mod _ _ hx
    · cases h
  · cases h
    exact fun x hx => hx

/-- A reader that gets to the end has read digits only, and has lost nothing. -/
theorem foldlM_step {d d' : Decoder} {digits : List Char}
    (h : digits.foldlM Decoder.step d = some d') :
    (∀ c ∈ digits, (digit? c).isSome = true) ∧ d.text ⊆ d'.text := by
  induction digits generalizing d with
  | nil =>
    cases h
    exact ⟨fun c hc => absurd hc List.not_mem_nil, fun x hx => hx⟩
  | cons c rest ih =>
    rw [List.foldlM_cons] at h
    obtain ⟨next, step, h⟩ := Option.bind_eq_some_iff.1 h
    obtain ⟨digit, grows⟩ := step_eq_some step
    obtain ⟨digits, grows'⟩ := ih h
    exact ⟨List.forall_mem_cons.2 ⟨digit, digits⟩, fun x hx => grows' (grows hx)⟩

/-- Each character is a basic one, a hyphen or a digit. -/
theorem mem_splitBasic {input : List Char} {c : Char} (hc : c ∈ input) :
    c ∈ (splitBasic input).1 ∨ c = '-' ∨ c ∈ (splitBasic input).2 := by
  unfold splitBasic
  split
  · -- The last hyphen is where the basic characters end.
    next hyphen first before eq =>
    have isHyphen : hyphen = '-' := by
      have head := List.head?_dropWhile_not (· != '-') input.reverse
      rw [eq] at head
      simpa using head
    have whole : input.reverse.takeWhile (· != '-') ++ input.reverse.dropWhile (· != '-') =
        input.reverse := List.takeWhile_append_dropWhile
    rw [eq, isHyphen] at whole
    rw [← List.mem_reverse, ← whole] at hc
    simpa [or_comm, or_assoc, or_left_comm] using hc
  · exact .inr (.inr hc)

/-- A text that stands for one without marks has none, either. -/
theorem free_of_decode? {input text : List Char} (h : decode? input = some text)
    (free : Free hostMarks text) : Free hostMarks input := by
  obtain ⟨d, hd, h⟩ := Option.bind_eq_some_iff.1 h
  obtain ⟨digits, grows⟩ := foldlM_step hd
  split at h
  · cases h
    intro c hc
    rcases mem_splitBasic hc with basic | rfl | digit
    · -- A basic character stays in the text.
      exact free c (grows basic)
    · decide
    · -- A digit is no mark.
      exact digit_not_mark (digits c digit)
  · cases h

end Punycode

/-! ## Domain names -/

namespace DomainName

/-- A label without forbidden characters holds no mark. -/
theorem free_of_not_isForbidden {label : List Char} (h : label.any isForbidden = false) :
    Free hostMarks label :=
  .of_any h (by decide)

/-- All marks are characters of ASCII. -/
theorem free_of_isNormalLabel {label : List Char} (h : isNormalLabel label = true) :
    Free hostMarks label := by
  intro c hc isMark
  have normal := List.all_eq_true.1 (Bool.and_eq_true_iff.1 h).1 c hc
  have ascii : hostMarks.toList.all (fun c => c.toNat < 128) = true := by decide
  have forbidden : hostMarks.toList.all isForbidden = true := by decide
  rw [if_pos (of_decide_eq_true (List.all_eq_true.1 ascii c isMark)),
    List.all_eq_true.1 forbidden c isMark] at normal
  cases normal

/-- A label that is read as a domain name's holds no mark. -/
theorem free_of_decoded? {label text : List Char} (h : decoded? label = some text) :
    Free hostMarks label := by
  unfold decoded? at h
  split at h
  · -- A label that is encoded already.
    next rest =>
    split at h
    · cases h
    · obtain ⟨decoded, normal⟩ := Option.filter_eq_some_iff.1 h
      have start : Free hostMarks ['x', 'n', '-', '-'] := by decide
      exact start.append (Punycode.free_of_decode? decoded (free_of_isNormalLabel normal))
  · -- Another one, in letters or in characters of any script.
    dsimp only at h
    rw [Option.ite_none_right_eq_some] at h
    have good := h.1
    split at good
    · exact free_of_not_isForbidden (by simpa using good)
    · exact free_of_isNormalLabel good

theorem free_encoded {label text : List Char} (h : decoded? label = some text) :
    Free hostMarks (encoded label) := by
  have free := free_of_decoded? h
  unfold encoded
  split
  · exact free
  · exact Free.append (by decide) (Punycode.free_encode free)

/-- Where a list is mapped as a whole, each entry is. -/
theorem exists_of_mapM {α β : Type} {f : α → Option β} {xs : List α} {ys : List β}
    (h : xs.mapM f = some ys) {x : α} (hx : x ∈ xs) : ∃ y ∈ ys, f x = some y := by
  induction xs generalizing ys with
  | nil => cases hx
  | cons head rest ih =>
    rw [List.mapM_cons] at h
    obtain ⟨first, hfirst, h⟩ := Option.bind_eq_some_iff.1 h
    obtain ⟨more, hmore, h⟩ := Option.bind_eq_some_iff.1 h
    cases h
    rcases List.mem_cons.1 hx with rfl | hx
    · exact ⟨first, List.mem_cons_self, hfirst⟩
    · obtain ⟨y, hy, found⟩ := ih hmore hx
      exact ⟨y, List.mem_cons_of_mem _ hy, found⟩

/-- A domain name holds no mark. -/
theorem free_ofText? {text domain : List Char} (h : ofText? text = some domain) :
    Free hostMarks domain := by
  obtain ⟨all, settled, rfl⟩ := Option.map_eq_some_iff.1 h
  have decoded := (Option.filter_eq_some_iff.1 settled).1
  refine Free.flatten_intersperse ?_ (by decide)
  intro piece hp
  obtain ⟨label, hl, rfl⟩ := List.mem_map.1 hp
  obtain ⟨out, _, hout⟩ := exists_of_mapM decoded hl
  exact free_encoded hout

end DomainName

/-! ## Hosts -/

namespace Host

/-- A host without a colon is well-formed if no mark is in it. -/
theorem WellFormed.ofFree {host : List Char} (h : Free hostMarks host) :
    WellFormed (String.ofList host) := by
  refine ⟨?_, ?_⟩
  · rw [String.toList_ofList]
    exact h.fewer (by decide)
  · rw [String.toList_ofList]
    exact fun colon => absurd colon (h.not_mem (by decide))

/-- Texts with a separator between them hold no mark if neither they nor the separator do. -/
theorem free_intercalate {marks between : String} {texts : List String}
    (h : ∀ t ∈ texts, Free marks t.toList) (hb : Free marks between.toList) :
    Free marks (String.intercalate between texts).toList := by
  rw [String.toList_intercalate]
  refine Free.flatten_intersperse (fun p hp => ?_) hb
  obtain ⟨t, ht, rfl⟩ := List.mem_map.1 hp
  exact h t ht

theorem free_ipv4Text (address : Nat) : Free hostMarks (ipv4Text address).toList := by
  refine free_intercalate (fun t ht => ?_) (by decide)
  obtain ⟨i, _, rfl⟩ := List.mem_map.1 ht
  exact (Authority.free_toString _).fewer (by decide)

/-- Hexadecimal digits are no marks. -/
theorem free_toDigits (n : Nat) : Free "/?#@" (Nat.toDigits 16 n) := by
  have digits : ∀ n < 16, Free "/?#@" [Nat.digitChar n] := by decide
  induction n using Nat.strongRecOn with
  | ind n ih =>
    rw [Nat.toDigits_eq_if (by decide)]
    split
    · next small => exact digits n small
    · exact (ih (n / 16) (by omega)).append (digits _ (Nat.mod_lt _ (by decide)))

/-- An address of eight pieces holds colons, but no other mark. -/
theorem free_ipv6Text (pieces : List Nat) : Free "/?#@" (ipv6Text pieces).toList := by
  have hex : ∀ ps : List Nat, Free "/?#@"
      (String.intercalate ":" (ps.map fun p => String.ofList (Nat.toDigits 16 p))).toList := by
    intro ps
    refine free_intercalate (fun t ht => ?_) (by decide)
    obtain ⟨p, _, rfl⟩ := List.mem_map.1 ht
    rw [String.toList_ofList]
    exact free_toDigits p
  unfold ipv6Text
  dsimp only
  split
  · -- Nothing is left out.
    exact hex pieces
  · -- The longest run of zeros is.
    rw [String.toList_append, String.toList_append]
    exact ((hex _).append (by decide)).append (hex _)

/-- A host in brackets ends in one. -/
theorem wellFormed_bracketed? {text : List Char} {host : String}
    (h : bracketed? text = some host) : WellFormed host := by
  unfold bracketed? at h
  split at h
  · obtain ⟨pieces, _, rfl⟩ := Option.map_eq_some_iff.1 h
    refine ⟨?_, fun _ => ?_⟩
    · rw [String.toList_append, String.toList_append]
      exact Free.append (Free.append (by decide) (free_ipv6Text pieces)) (by decide)
    · rw [String.toList_append]
      exact List.getLast?_concat
  · cases h

/-- The host of a scheme that has one by rule is well-formed. -/
theorem wellFormed_ofSpecial {text : List Char} {host : String} (h : ofSpecial text = .ok host) :
    WellFormed host := by
  unfold ofSpecial at h
  split at h
  · split at h
    · -- An address in brackets.
      next found =>
      cases h
      exact wellFormed_bracketed? found
    · cases h
  · split at h
    · cases h
    · -- A name, or four numbers.
      next domain found =>
      obtain ⟨decoded, _, name⟩ := Option.bind_eq_some_iff.1 found
      split at h
      · cases h
      · split at h
        · split at h
          · cases h
            have free := free_ipv4Text ‹Nat›
            simpa using WellFormed.ofFree free
          · cases h
        · cases h
          exact .ofFree (DomainName.free_ofText? name)

/-- So is the host of any other scheme. -/
theorem wellFormed_ofOther {text : List Char} {host : String} (h : ofOther text = .ok host) :
    WellFormed host := by
  unfold ofOther at h
  split at h
  · split at h
    · -- An address in brackets.
      next found =>
      cases h
      exact wellFormed_bracketed? found
    · cases h
  · split at h
    · cases h
    · -- A name without forbidden characters.
      next allowed =>
      cases h
      have free : Free hostMarks text := .of_any (Bool.eq_false_iff.2 allowed) (by decide)
      exact .ofFree (free_encode (fun c hc _ => free c hc) (by decide))

end Host

end Uri

end DesignTokens
