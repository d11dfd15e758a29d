import DesignTokens.Json.Reader
import DesignTokens.Proofs.Json.Place

/-!
# DesignTokens.Proofs.Json.Reader — values that were read from text

What the reader gives is unambiguous: a member that is repeated in the text takes the place of the
one before. It is enough to look at one step of the scanner and one of the reader.

1. **Runs** (`foldlM_preserves`): what every step preserves, a whole run preserves.
2. **Members** (`unambiguous_put`): adding a member keeps an object unambiguous.
3. **Tokens** (`Token.clear_scan`): the only values that the scanner gives are bare words.
4. **Reading** (`Reader.Clear.step`, `unambiguous_of_parse?`).
-/

namespace DesignTokens.Json

/-! ## Runs -/

/-- A run of partial steps keeps what each step keeps. -/
theorem foldlM_preserves {σ α : Type} {P : σ → Prop} {Q : α → Prop} {step : σ → α → Option σ}
    (preserves : ∀ s a s', P s → Q a → step s a = some s' → P s') {inputs : List α} {s s' : σ}
    (hs : P s) (hinputs : ∀ a ∈ inputs, Q a) (run : inputs.foldlM step s = some s') : P s' := by
  induction inputs generalizing s with
  | nil =>
    cases run
    exact hs
  | cons a rest ih =>
    rw [List.forall_mem_cons] at hinputs
    rw [List.foldlM_cons] at run
    obtain ⟨next, first, more⟩ := Option.bind_eq_some_iff.1 run
    exact ih (preserves s a next hs hinputs.1 first) hinputs.2 more

/-! ## Members -/

variable {members : Members} {name : String} {value : Json}

/-- After a member is put, its name is there as well. -/
theorem Members.mem_names_put {other : String} :
    other ∈ (members.put name value).names ↔ other ∈ members.names ∨ other = name := by
  induction members with
  | nil => simp [put, names]
  | cons member rest ih =>
    obtain ⟨known, old⟩ := member
    simp only [put]
    -- a member of this name is replaced
    split
    · next same =>
      rw [same]
      exact (or_iff_left_of_imp fun h => h ▸ List.mem_cons_self).symm
    · -- a member of another name is passed over
      simp only [names, List.map_cons, List.mem_cons] at ih ⊢
      rw [ih, or_assoc]

/-- Names that are there once stay so. -/
theorem Members.nodup_names_put (h : members.names.Nodup) :
    (members.put name value).names.Nodup := by
  induction members with
  | nil => simp [put, names]
  | cons member rest ih =>
    obtain ⟨known, old⟩ := member
    obtain ⟨new, rest'⟩ := List.nodup_cons.1 h
    simp only [put]
    split
    · exact h
    · next other =>
      refine List.nodup_cons.2 ⟨fun mem => ?_, ih rest'⟩
      rcases mem_names_put.1 mem with mem | same
      · exact new mem
      · exact other same

/-- A member after another one was put is an old one, or has the new value. -/
theorem Members.mem_put {member : String × Json} (h : member ∈ members.put name value) :
    member ∈ members ∨ member.2 = value := by
  induction members with
  | nil =>
    obtain rfl := List.mem_singleton.1 h
    exact .inr rfl
  | cons first rest ih =>
    obtain ⟨known, old⟩ := first
    simp only [put] at h
    split at h
    · rcases List.mem_cons.1 h with rfl | h
      · exact .inr rfl
      · exact .inl (List.mem_cons_of_mem _ h)
    · rcases List.mem_cons.1 h with rfl | h
      · exact .inl List.mem_cons_self
      · exact (ih h).imp_left (List.mem_cons_of_mem _)

/-- Adding a member to an unambiguous object. -/
theorem unambiguous_put (h : (object members).unambiguous = true)
    (hvalue : value.unambiguous = true) (name : String) :
    (object (members.put name value)).unambiguous = true := by
  obtain ⟨nodup, inner⟩ := unambiguous_object_iff.1 h
  refine unambiguous_object_iff.2 ⟨Members.nodup_names_put nodup, fun member hm => ?_⟩
  rcases Members.mem_put hm with hm | same
  · exact inner member hm
  · rwa [same]

/-! ## Tokens -/

/-- An integer is unambiguous. -/
theorem unambiguous_integer? {negative : Bool} {digits : List Char}
    (h : integer? negative digits = some value) : value.unambiguous = true := by
  cases negative with
  | true | false =>
    simp only [integer?, if_true, Bool.false_eq_true, if_false] at h
    split at h
    · cases h
      rfl
    · obtain ⟨_, _, rfl⟩ := Option.map_eq_some_iff.1 h
      rfl

/-- A number is unambiguous. -/
theorem unambiguous_numeral? {text : List Char} (h : numeral? text = some value) :
    value.unambiguous = true := by
  unfold numeral? at h
  split at h
  dsimp only at h
  split at h
  · cases h
  · split at h
    · exact unambiguous_integer? h
    · split at h
      · cases h
      · obtain ⟨_, _, h⟩ := Option.bind_eq_some_iff.1 h
        obtain ⟨_, _, rfl⟩ := Option.map_eq_some_iff.1 h
        rfl
    · obtain ⟨_, _, h⟩ := Option.bind_eq_some_iff.1 h
      obtain ⟨_, _, rfl⟩ := Option.map_eq_some_iff.1 h
      rfl

/-- A word is unambiguous. -/
theorem unambiguous_word? {text : List Char} (h : word? text = some value) :
    value.unambiguous = true := by
  unfold word? at h
  split at h
  · cases h
    rfl
  · split at h
    · cases h
      rfl
    · split at h
      · cases h
        rfl
      · exact unambiguous_numeral? h

namespace Token

/-- A value that is a token of its own is unambiguous. -/
def Clear : Token → Prop
  | .scalar value => value.unambiguous = true
  | _ => True

/-- A token that begins is clear, whatever it is. -/
theorem clear_start {tokens : List Token} {c : Char} {s : Scan}
    (h : ∀ t ∈ tokens, t.Clear) (hs : start tokens c = some s) : ∀ t ∈ s.tokens, t.Clear := by
  have cons : ∀ t : Token, t.Clear → ∀ t' ∈ t :: tokens, t'.Clear := by
    intro t ht
    exact List.forall_mem_cons.2 ⟨ht, h⟩
  unfold start at hs
  split at hs
  case h_7 =>
    cases hs
    exact h
  case h_8 =>
    split at hs
    · cases hs
      exact h
    · split at hs <;> cases hs
      exact h
  all_goals
    cases hs
    exact cons _ trivial

/-- A step of the scanner. -/
theorem clear_step (s : Scan) (c : Char) (s' : Scan) (h : ∀ t ∈ s.tokens, t.Clear)
    (hs : s.step c = some s') : ∀ t ∈ s'.tokens, t.Clear := by
  obtain ⟨tokens, mode⟩ := s
  cases mode with
  -- Between tokens, one begins.
  | between => exact clear_start h hs
  | word read =>
    -- A word is read on, or it ends and another token begins.
    simp only [Scan.step] at hs
    split at hs
    · cases hs
      exact h
    · obtain ⟨value, word, hs⟩ := Option.bind_eq_some_iff.1 hs
      have here : (Token.scalar value).Clear := unambiguous_word? word
      exact clear_start (List.forall_mem_cons.2 ⟨here, h⟩) hs
  | text read =>
    -- A text ends at a quote, and goes on otherwise.
    simp only [Scan.step] at hs
    split at hs
    · cases hs
      exact List.forall_mem_cons.2 ⟨trivial, h⟩
    · split at hs
      · cases hs
        exact h
      · split at hs <;> cases hs
        exact h
  | escape read =>
    -- All that follows is within a text, and adds no token.
    simp only [Scan.step] at hs
    split at hs
    · cases hs
      exact h
    · obtain ⟨_, _, rfl⟩ := Option.map_eq_some_iff.1 hs
      exact h
  | unicode read high count digits =>
    simp only [Scan.step] at hs
    obtain ⟨_, _, hs⟩ := Option.bind_eq_some_iff.1 hs
    split at hs
    · obtain ⟨_, _, rfl⟩ := Option.map_eq_some_iff.1 hs
      exact h
    · cases hs
      exact h
  | surrogate read high =>
    simp only [Scan.step] at hs
    split at hs <;> cases hs
    exact h
  | surrogateEscape read high =>
    simp only [Scan.step] at hs
    split at hs <;> cases hs
    exact h

/-- All tokens of a text. -/
theorem clear_scan {text : String} {tokens : List Token} (h : scan text = some tokens) :
    ∀ t ∈ tokens, t.Clear := by
  obtain ⟨s, run, finish⟩ := Option.bind_eq_some_iff.1 h
  have read : ∀ t ∈ s.tokens, t.Clear :=
    foldlM_preserves (P := fun s : Scan => ∀ t ∈ s.tokens, t.Clear) (Q := fun _ => True)
      (fun s c s' hs _ => clear_step s c s' hs) (fun _ ht => absurd ht List.not_mem_nil)
      (fun _ _ => trivial) run
  unfold Scan.finish at finish
  split at finish
  · cases finish
    simpa using read
  · obtain ⟨value, word, rfl⟩ := Option.map_eq_some_iff.1 finish
    have last : (Token.scalar value).Clear := unambiguous_word? word
    simpa [or_imp, forall_and, last] using read
  · cases finish

end Token

/-! ## Reading -/

/-- What was read of an open container is unambiguous. -/
def Frame.Clear : Frame → Prop
  | .items before => ∀ item ∈ before, item.unambiguous = true
  | .member before _ => (object before).unambiguous = true

namespace Reader

/-- What was read so far is unambiguous. -/
def Clear : Reader → Prop
  | .atValue stack | .atFirstItem stack | .atFirstName stack => ∀ f ∈ stack, f.Clear
  | .atName stack before | .atColon stack before _ =>
    (∀ f ∈ stack, f.Clear) ∧ (object before).unambiguous = true
  | .afterValue stack value => (∀ f ∈ stack, f.Clear) ∧ value.unambiguous = true

/-- A value that begins keeps the reader clear. -/
theorem clear_open? {stack : List Frame} {t : Token} {r : Reader} (h : ∀ f ∈ stack, f.Clear)
    (ht : t.Clear) (hr : open? stack t = some r) : r.Clear := by
  cases t with
  | objectOpen | arrayOpen =>
    cases hr
    exact h
  | text text =>
    cases hr
    exact ⟨h, rfl⟩
  | scalar value =>
    cases hr
    exact ⟨h, ht⟩
  | _ => cases hr

/-- After a value, the list or the object around it is clear with it. -/
theorem clear_next? {value : Json} {stack : List Frame} {t : Token} {r : Reader}
    (hvalue : value.unambiguous = true) (h : ∀ f ∈ stack, f.Clear)
    (hr : next? value stack t = some r) : r.Clear := by
  unfold next? at hr
  split at hr
  · -- an item, with more to come
    cases hr
    obtain ⟨items, rest⟩ := List.forall_mem_cons.1 h
    exact List.forall_mem_cons.2 ⟨List.forall_mem_cons.2 ⟨hvalue, items⟩, rest⟩
  · -- the last item of a list
    cases hr
    obtain ⟨items, rest⟩ := List.forall_mem_cons.1 h
    refine ⟨rest, unambiguousItems_iff.2 fun item hi => ?_⟩
    rcases List.mem_cons.1 (List.mem_reverse.1 hi) with rfl | hi
    · exact hvalue
    · exact items item hi
  · -- a member, with more to come
    cases hr
    obtain ⟨before, rest⟩ := List.forall_mem_cons.1 h
    exact ⟨rest, unambiguous_put before hvalue _⟩
  · -- the last member of an object
    cases hr
    obtain ⟨before, rest⟩ := List.forall_mem_cons.1 h
    exact ⟨rest, unambiguous_put before hvalue _⟩
  · cases hr

/-- A step of the reader. -/
theorem Clear.step {r r' : Reader} (h : r.Clear) {t : Token} (ht : t.Clear)
    (hr : r.step t = some r') : r'.Clear := by
  unfold Reader.step at hr
  split at hr
  · -- where a value is expected
    exact clear_open? h ht hr
  · -- An empty list or object is closed; otherwise its first value begins.
    cases hr
    exact ⟨h, rfl⟩
  · refine clear_open? (List.forall_mem_cons.2 ⟨?_, h⟩) ht hr
    exact fun _ hi => absurd hi List.not_mem_nil
  · cases hr
    exact ⟨h, rfl⟩
  · cases hr
    exact ⟨h, rfl⟩
  · cases hr
  · cases hr
    exact h
  · cases hr
  · cases hr
    exact List.forall_mem_cons.2 ⟨h.2, h.1⟩
  · cases hr
  · -- after a value
    exact clear_next? h.2 h.1 hr

end Reader

/-- A value that was read from a text is unambiguous. -/
theorem unambiguous_of_parse? {text : String} (h : parse? text = some value) :
    value.unambiguous = true := by
  obtain ⟨tokens, scanned, h⟩ := Option.bind_eq_some_iff.1 h
  obtain ⟨r, run, finish⟩ := Option.bind_eq_some_iff.1 h
  have start : (Reader.atValue []).Clear := fun _ hf => absurd hf List.not_mem_nil
  have clear : r.Clear :=
    foldlM_preserves (fun _ _ _ hr ht hstep => Reader.Clear.step hr ht hstep) start
      (Token.clear_scan scanned) run
  unfold Reader.finish at finish
  split at finish
  · cases finish
    exact clear.2
  · cases finish

end DesignTokens.Json
