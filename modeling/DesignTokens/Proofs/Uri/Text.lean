import DesignTokens.Proofs.Json.Place
import DesignTokens.Uri.Reader
import Mathlib.Data.List.Basic

/-!
# DesignTokens.Proofs.Uri.Text — a URI is known by its text

1. **Marks** (`Uri.marked`): a text that is put together from parts with a mark in between falls
   into the same parts again.
2. **Well-formed URIs** (`Uri.WellFormed`): no part holds a mark that would end it.
3. **Parts** of a text: those of an authority and of a path.
4. **Texts** (`Uri.text_inj`): well-formed URIs with the same text are the same.
-/

namespace DesignTokens.Uri

/-! ## Marks -/

/-- A part of a text that a mark starts, if there is such a part. -/
def marked (mark : Char) : Option (List Char) → List Char
  | none => []
  | some part => mark :: part

/-- A text is cut at its first mark, which is the one before the part. -/
theorem cut_append_marked {mark : Char} {first : List Char} (free : mark ∉ first)
    (part : Option (List Char)) : cut mark (first ++ marked mark part) = (first, part) := by
  have other : ∀ c ∈ first, (c != mark) = true := by
    intro c hc
    rw [bne_iff_ne]
    rintro rfl
    exact free hc
  unfold cut
  rw [List.dropWhile_append_of_pos other]
  cases part with
  | none => rw [marked, List.append_nil, List.dropWhile_nil]
  | some part => simp [marked, List.takeWhile_append_of_pos other]

/-- Two texts in which a mark ends the first part have the same parts if they are the same. -/
theorem append_marked_inj {mark : Char} {first first' : List Char}
    {part part' : Option (List Char)} (free : mark ∉ first) (free' : mark ∉ first')
    (h : first ++ marked mark part = first' ++ marked mark part') :
    first = first' ∧ part = part' := by
  have parts := congrArg (cut mark) h
  rw [cut_append_marked free, cut_append_marked free'] at parts
  exact Prod.mk.inj parts

/-- Two texts with a mark each are cut alike. -/
theorem append_mark_inj {mark : Char} {first first' rest rest' : List Char}
    (free : mark ∉ first) (free' : mark ∉ first')
    (h : first ++ mark :: rest = first' ++ mark :: rest') : first = first' ∧ rest = rest' := by
  have marks : first ++ marked mark (some rest) = first' ++ marked mark (some rest') := h
  obtain ⟨firsts, rests⟩ := append_marked_inj free free' marks
  exact ⟨firsts, Option.some.inj rests⟩

theorem map_toList_inj {part part' : Option String}
    (h : part.map String.toList = part'.map String.toList) : part = part' :=
  Option.map_injective (fun _ _ => String.toList_inj.1) h

/-! ## Well-formed URIs -/

/-- A text holds none of some marks. -/
def Free (marks : String) (text : List Char) : Prop :=
  ∀ c ∈ text, c ∉ marks.toList

-- The characters of the text are checked, and not all the characters there are.
instance (marks : String) (text : List Char) : Decidable (Free marks text) :=
  List.decidableBAll (fun c => c ∉ marks.toList) text

namespace Free

variable {marks marks' : String} {text text' : List Char}

theorem not_mem (h : Free marks text) {mark : Char} (isMark : mark ∈ marks.toList) :
    mark ∉ text :=
  fun hc => h mark hc isMark

theorem fewer (h : Free marks text) (sub : marks'.toList ⊆ marks.toList) : Free marks' text :=
  fun c hc isMark => h c hc (sub isMark)

theorem sub (h : Free marks text) (sub : text' ⊆ text) : Free marks text' :=
  fun c hc => h c (sub hc)

theorem nil (marks : String) : Free marks [] :=
  fun _ hc => absurd hc List.not_mem_nil

/-- A check that all the marks pass and no character of the text. -/
theorem of_any {check : Char → Bool} (h : text.any check = false)
    (all : marks.toList.all check = true) : Free marks text :=
  fun c hc isMark => List.any_eq_false.1 h c hc (List.all_eq_true.1 all c isMark)

theorem cons {c : Char} (hc : c ∉ marks.toList) (h : Free marks text) : Free marks (c :: text) :=
  fun d hd => (List.mem_cons.1 hd).elim (fun same => same ▸ hc) (h d)

theorem append (h : Free marks text) (h' : Free marks text') : Free marks (text ++ text') :=
  fun c hc => (List.mem_append.1 hc).elim (h c) (h' c)

/-- Pieces with a text between them. -/
theorem flatten_intersperse {pieces : List (List Char)} (h : ∀ p ∈ pieces, Free marks p)
    (between : Free marks text) : Free marks (pieces.intersperse text).flatten := by
  induction pieces with
  | nil => exact .nil _
  | cons p rest ih =>
    have first := h p List.mem_cons_self
    have more := ih fun q hq => h q (List.mem_cons_of_mem _ hq)
    cases rest with
    | nil => exact first.append (.nil _)
    | cons q rest => exact first.append (between.append more)

end Free

/-- A host that nothing in it would end: in an address in brackets, a colon does not. -/
structure Host.WellFormed (host : String) : Prop where
  free : Free "/?#@" host.toList
  brackets : ':' ∈ host.toList → host.toList.getLast? = some ']'

/-- No part of an authority holds a mark that would end it. -/
structure Authority.WellFormed (a : Authority) : Prop where
  credentials : Free "/?#@" a.credentials.toList
  host : Host.WellFormed a.host

/-- A path that can stand after an authority or, if there is none, after the scheme. -/
def Path.WellFormed (hasAuthority : Prop) : Path → Prop
  | .rooted segments =>
    (∀ s ∈ segments, Free "/?#" s.toList) ∧
      (¬hasAuthority → segments ≠ [] ∧ "." ∉ segments)
  | .rootless text => ¬hasAuthority ∧ Free "?#" text.toList ∧ text.toList.head? ≠ some '/'

/-- No part of a URI holds a mark that would end it. -/
structure WellFormed (u : Uri) : Prop where
  scheme : ':' ∉ u.scheme.toList
  authority : ∀ a, u.authority = some a → a.WellFormed
  path : u.path.WellFormed (u.authority.isSome = true)
  query : ∀ q, u.query = some q → '#' ∉ q.toList
  /-- The schemes with hosts always have one. -/
  kind : u.authority = none → kindOf u.scheme = .other

/-! ## Parts -/

def slashed (segments : List String) : List Char :=
  segments.flatMap fun s => '/' :: s.toList

theorem slashed_cons (s : String) (segments : List String) :
    slashed (s :: segments) = '/' :: (s.toList ++ slashed segments) :=
  rfl

/-- Segments start with a slash, if there are any. -/
theorem slashed_marked (segments : List String) :
    ∃ part, slashed segments = marked '/' part := by
  cases segments with
  | nil => exact ⟨none, rfl⟩
  | cons s rest => exact ⟨some _, slashed_cons s rest⟩

/-- Segments are told apart by the slashes before them. -/
theorem slashed_inj {segments segments' : List String}
    (free : ∀ s ∈ segments, '/' ∉ s.toList) (free' : ∀ s ∈ segments', '/' ∉ s.toList)
    (h : slashed segments = slashed segments') : segments = segments' := by
  induction segments generalizing segments' with
  | nil =>
    cases segments' with
    | nil => rfl
    | cons s' rest' => cases h
  | cons s rest ih =>
    cases segments' with
    | nil => cases h
    | cons s' rest' =>
      rw [slashed_cons, slashed_cons] at h
      obtain ⟨part, more⟩ := slashed_marked rest
      obtain ⟨part', more'⟩ := slashed_marked rest'
      have same := (List.cons.inj h).2
      rw [more, more'] at same
      obtain ⟨first, parts⟩ := append_marked_inj (free s List.mem_cons_self)
        (free' s' List.mem_cons_self) same
      have tails : slashed rest = slashed rest' := by rw [more, more', parts]
      rw [String.toList_inj.1 first, ih (fun s hs => free s (List.mem_cons_of_mem _ hs))
        (fun s hs => free' s (List.mem_cons_of_mem _ hs)) tails]

theorem toList_text_rooted (segments : List String) :
    (Path.rooted segments).text.toList = slashed segments := by
  simp [Path.text, slashed, String.toList_join, List.flatMap_map]

namespace Authority

/-- The host with its `portNumber`. -/
def service (a : Authority) : List Char :=
  a.host.toList ++ marked ':' (a.portNumber.map fun n => (toString n).toList)

/-- The credentials stand before an `@`, if there are any. -/
theorem toList_text (a : Authority) :
    a.text.toList =
      if a.credentials = "" then a.service else a.credentials.toList ++ '@' :: a.service := by
  unfold Authority.text service
  cases a.portNumber <;> by_cases h : a.credentials = "" <;> simp [h, marked]

theorem isDigit_of_mem_toString {n : Nat} {c : Char} (hc : c ∈ (toString n).toList) :
    c.isDigit = true := by
  rw [Nat.toString_eq_repr, Nat.toList_repr] at hc
  exact Nat.isDigit_of_mem_toDigits (by decide) (by decide) hc

theorem free_toString (n : Nat) : Free "/?#@:]" (toString n).toList := by
  intro c hc isMark
  have marks : "/?#@:]".toList.any Char.isDigit = false := by decide
  exact List.any_eq_false.1 marks c isMark (isDigit_of_mem_toString hc)

variable {a b : Authority}

/-- Host and port hold no mark of a path. -/
theorem free_service (h : a.WellFormed) : Free "/?#@" a.service := by
  refine h.host.free.append ?_
  cases a.portNumber with
  | none => exact .nil _
  | some n => exact .cons (by decide) ((free_toString n).fewer (by decide))

theorem free_text (h : a.WellFormed) : Free "/?#" a.text.toList := by
  have service : Free "/?#" a.service := (free_service h).fewer (by decide)
  rw [toList_text]
  split
  · exact service
  · exact (h.credentials.fewer (by decide)).append (.cons (by decide) service)

/-- A host with a `portNumber` is no host without one. -/
theorem service_ne_host (h : b.WellFormed) (n : Nat) :
    a.host.toList ++ ':' :: (toString n).toList ≠ b.host.toList := by
  intro same
  have last := h.host.brackets (by simp [← same])
  rw [← same, List.getLast?_append_cons] at last
  have bracket : ']' ∈ ':' :: (toString n).toList := List.mem_of_mem_getLast? last
  rcases List.mem_cons.1 bracket with bracket | bracket
  · cases bracket
  · exact (free_toString n).not_mem (by decide) bracket

theorem colon_not_mem_reverse (n : Nat) : ':' ∉ (toString n).toList.reverse :=
  fun hc => (free_toString n).not_mem (by decide) (List.mem_reverse.1 hc)

/-- Host and port are told apart by the last colon. -/
theorem service_inj (ha : a.WellFormed) (hb : b.WellFormed) (h : a.service = b.service) :
    a.host = b.host ∧ a.portNumber = b.portNumber := by
  unfold service at h
  cases hn : a.portNumber with
  | none =>
    -- No port on either side, or one on one side only.
    cases hm : b.portNumber with
    | none =>
      rw [hn, hm] at h
      exact ⟨String.toList_inj.1 (by simpa [marked] using h), rfl⟩
    | some m =>
      rw [hn, hm] at h
      exact absurd (by simpa [marked] using h.symm) (@service_ne_host b a ha m)
  | some n =>
    -- A port on one side only, or on both.
    cases hm : b.portNumber with
    | none =>
      rw [hn, hm] at h
      exact absurd (by simpa [marked] using h) (@service_ne_host a b hb n)
    | some m =>
      rw [hn, hm] at h
      -- The last colon stands before the digits.
      have reversed := congrArg List.reverse h
      simp only [Option.map_some, marked, List.reverse_append, List.reverse_cons,
        List.append_assoc, List.singleton_append] at reversed
      obtain ⟨digits, hosts⟩ := append_mark_inj (colon_not_mem_reverse n)
        (colon_not_mem_reverse m) reversed
      have number : n = m :=
        Json.toString_injective (String.toList_inj.1 (List.reverse_injective digits))
      rw [number]
      exact ⟨String.toList_inj.1 (List.reverse_injective hosts), rfl⟩

/-- Authorities with the same text are the same. -/
theorem text_inj (ha : a.WellFormed) (hb : b.WellFormed) (h : a.text.toList = b.text.toList) :
    a = b := by
  have parts : a.credentials = b.credentials ∧ a.service = b.service := by
    have atSign : '@' ∉ a.service := (free_service ha).not_mem (by decide)
    have atSign' : '@' ∉ b.service := (free_service hb).not_mem (by decide)
    rw [toList_text, toList_text] at h
    split at h
    · -- Without credentials there is no `@`.
      next none =>
      split at h
      · next none' => exact ⟨none.trans none'.symm, h⟩
      · exact absurd (by simp [h]) atSign
    · -- With credentials there is one, which the rest does not hold.
      split at h
      · exact absurd (by simp [← h]) atSign'
      · obtain ⟨credentials, services⟩ := append_mark_inj (ha.credentials.not_mem (by decide))
          (hb.credentials.not_mem (by decide)) h
        exact ⟨String.toList_inj.1 credentials, services⟩
  obtain ⟨credentials, services⟩ := parts
  obtain ⟨hosts, numbers⟩ := service_inj ha hb services
  cases a
  cases b
  cases credentials
  cases hosts
  cases numbers
  rfl

end Authority

namespace Path

/-- The dot segment that goes in front of some segments if no authority does. -/
def dot : List String → List Char
  | "" :: _ :: _ => ['/', '.']
  | _ => []

/-- The text of a path that no authority stands before. -/
def alone : Path → List Char
  | .rooted segments => dot segments ++ slashed segments
  | .rootless text => text.toList

/-- The dot before a path is written if it is needed. -/
theorem dot_cases (segments : List String) :
    dot segments = [] ∨ dot segments = ['/', '.'] ∧ segments ≠ [] := by
  unfold dot
  split
  · exact .inr ⟨rfl, List.cons_ne_nil _ _⟩
  · exact .inl rfl

theorem slash_not_mem {segments : List String} (h : ∀ s ∈ segments, Free "/?#" s.toList) :
    ∀ s ∈ segments, '/' ∉ s.toList :=
  fun s hs => (h s hs).not_mem (by decide)

/-- Segments without a dot segment in front are not taken for others with one. -/
theorem dot_slashed_ne {segments segments' : List String} (nonempty : segments ≠ [])
    (free' : ∀ s ∈ segments', '/' ∉ s.toList) (plain' : "." ∉ segments') :
    ['/', '.'] ++ slashed segments ≠ slashed segments' := by
  intro h
  cases segments with
  | nil => exact nonempty rfl
  | cons s rest =>
    cases segments' with
    | nil => cases h
    | cons s' rest' =>
      rw [slashed_cons, slashed_cons] at h
      obtain ⟨part', more'⟩ := slashed_marked rest'
      have same : ['.'] ++ marked '/' (some (s.toList ++ slashed rest)) =
          s'.toList ++ marked '/' part' := by
        rw [← more']
        exact (List.cons.inj h).2
      have first : ['.'] = s'.toList :=
        (append_marked_inj (by decide) (free' s' List.mem_cons_self) same).1
      have dot : "." = s' := String.toList_inj.1 first
      exact plain' (dot ▸ List.mem_cons_self)

/-- Paths that stand alone are told apart by their text. -/
theorem alone_inj {p p' : Path} (hp : p.WellFormed False) (hp' : p'.WellFormed False)
    (h : p.alone = p'.alone) : p = p' := by
  -- A rooted path starts with a slash, a rootless one does not.
  have rooted_ne : ∀ segments text, (Path.rooted segments).WellFormed False →
      (Path.rootless text).WellFormed False →
        (Path.rooted segments).alone ≠ (Path.rootless text).alone := by
    intro segments text hr ht same
    refine ht.2.2 ?_
    change dot segments ++ slashed segments = text.toList at same
    rw [← same]
    rcases dot_cases segments with none | ⟨dot, _⟩
    · rw [none]
      cases segments with
      | nil => exact absurd rfl (hr.2 not_false).1
      | cons s rest => rfl
    · rw [dot]
      rfl
  cases p with
  | rootless text =>
    cases p' with
    | rootless text' => exact congrArg rootless (String.toList_inj.1 h)
    | rooted segments' => exact absurd h.symm (rooted_ne _ _ hp' hp)
  | rooted segments =>
    cases p' with
    | rootless text' => exact absurd h (rooted_ne _ _ hp hp')
    | rooted segments' =>
      have free := slash_not_mem hp.1
      have free' := slash_not_mem hp'.1
      change dot segments ++ slashed segments = dot segments' ++ slashed segments' at h
      rcases dot_cases segments with none | ⟨dot, nonempty⟩ <;>
        rcases dot_cases segments' with none' | ⟨dot', nonempty'⟩
      · -- No dot on either side.
        rw [none, none'] at h
        exact congrArg rooted (slashed_inj free free' h)
      · -- A dot on one side only.
        rw [none, dot'] at h
        exact absurd h.symm (dot_slashed_ne nonempty' free (hp.2 not_false).2)
      · rw [dot, none'] at h
        exact absurd h (dot_slashed_ne nonempty free' (hp'.2 not_false).2)
      · -- A dot on both sides.
        rw [dot, dot'] at h
        exact congrArg rooted (slashed_inj free free' (List.append_cancel_left h))

/-- The text of a path is not taken for one with an authority. -/
theorem alone_ne {p : Path} (h : p.WellFormed False) (rest : List Char) :
    p.alone ≠ '/' :: '/' :: rest := by
  intro same
  cases p with
  | rootless text => exact h.2.2 (by rw [show text.toList = _ from same]; rfl)
  | rooted segments =>
    cases segments with
    | nil => exact (h.2 not_false).1 rfl
    | cons s more =>
      change dot (s :: more) ++ slashed (s :: more) = _ at same
      cases chars : s.toList with
      | nil =>
        -- An empty first segment would be the second slash, which a dot keeps apart.
        obtain rfl : s = "" := String.toList_inj.1 chars
        cases more <;> cases same
      | cons c cs =>
        -- A first segment is no slash.
        have none : dot (s :: more) = [] := by
          unfold dot
          split
          · next eq =>
            cases eq
            cases chars
          · rfl
        rw [none, List.nil_append, slashed_cons, chars] at same
        have slash : c = '/' := (List.cons.inj (List.cons.inj same).2).1
        have free : '/' ∉ s.toList := (h.1 s List.mem_cons_self).not_mem (by decide)
        exact free (by rw [chars, slash]; exact List.mem_cons_self)

end Path

/-! ## Texts -/

/-- What stands between the scheme and the query. -/
def front (u : Uri) : List Char :=
  match u.authority with
  | some a => '/' :: '/' :: (a.text.toList ++ u.path.text.toList)
  | none => u.path.alone

/-- The text of a URI: its parts, each with the mark before it. -/
theorem toList_text (u : Uri) :
    u.text.toList = u.scheme.toList ++ ':' ::
      (u.front ++ marked '?' (u.query.map String.toList) ++
        marked '#' (u.fragment.map String.toList)) := by
  obtain ⟨scheme, authority, path, query, fragment⟩ := u
  cases authority with
  | some a => cases query <;> cases fragment <;> simp [text, front, marked]
  | none =>
    have rooted := fun segments => toList_text_rooted segments
    cases path with
    | rootless path =>
      cases query <;> cases fragment <;> simp [text, front, marked, Path.alone, Path.text]
    | rooted segments =>
      unfold text front Path.alone
      dsimp only
      split
      · next eq => cases eq
      · next eq =>
        cases eq
        cases query <;> cases fragment <;> simp [marked, rooted, Path.dot]
      · next other =>
        have plain : Path.dot segments = [] := by
          unfold Path.dot
          split
          · exact absurd rfl (other _ _)
          · rfl
        rw [plain]
        cases query <;> cases fragment <;> simp [marked, rooted]

/-- After an authority there is a rooted path. -/
theorem WellFormed.rooted {u : Uri} (h : u.WellFormed) {a : Authority}
    (some : u.authority = some a) :
    ∃ segments, u.path = .rooted segments ∧ ∀ s ∈ segments, Free "/?#" s.toList := by
  have path := h.path
  rw [some] at path
  cases hp : u.path with
  | rooted segments =>
    rw [hp] at path
    exact ⟨segments, rfl, path.1⟩
  | rootless text =>
    rw [hp] at path
    exact absurd rfl path.1

/-- Without an authority the path stands alone. -/
theorem WellFormed.alone {u : Uri} (h : u.WellFormed) (none : u.authority = none) :
    u.path.WellFormed False := by
  have path := h.path
  rw [none] at path
  simpa using path

/-- Segments with slashes hold no mark of a query. -/
theorem free_slashed {segments : List String} (h : ∀ s ∈ segments, Free "/?#" s.toList) :
    Free "?#" (slashed segments) := by
  induction segments with
  | nil => exact .nil _
  | cons s rest ih =>
    exact .cons (by decide) (((h s List.mem_cons_self).fewer (by decide)).append
      (ih fun t ht => h t (List.mem_cons_of_mem _ ht)))

/-- What stands before the query holds no mark of one. -/
theorem free_front {u : Uri} (h : u.WellFormed) : Free "?#" u.front := by
  unfold front
  cases ha : u.authority with
  | some a =>
    -- An authority, and segments.
    obtain ⟨segments, path, free⟩ := h.rooted ha
    rw [path, toList_text_rooted]
    exact .cons (by decide) (.cons (by decide)
      (((Authority.free_text (h.authority a ha)).fewer (by decide)).append (free_slashed free)))
  | none =>
    -- A path alone.
    have path := h.alone ha
    cases hp : u.path with
    | rootless text =>
      rw [hp] at path
      exact path.2.1
    | rooted segments =>
      rw [hp] at path
      refine Free.append ?_ (free_slashed path.1)
      rcases Path.dot_cases segments with dot | ⟨dot, _⟩ <;> rw [dot]
      · exact .nil _
      · exact .cons (by decide) (.cons (by decide) (.nil _))

/-- Authority and path are told apart by the two slashes of an authority. -/
theorem front_inj {u v : Uri} (hu : u.WellFormed) (hv : v.WellFormed) (h : u.front = v.front) :
    u.authority = v.authority ∧ u.path = v.path := by
  unfold front at h
  cases ha : u.authority with
  | none =>
    cases hb : v.authority with
    | none =>
      rw [ha, hb] at h
      exact ⟨rfl, Path.alone_inj (hu.alone ha) (hv.alone hb) h⟩
    | some b =>
      rw [ha, hb] at h
      exact absurd h (Path.alone_ne (hu.alone ha) _)
  | some a =>
    cases hb : v.authority with
    | none =>
      rw [ha, hb] at h
      exact absurd h.symm (Path.alone_ne (hv.alone hb) _)
    | some b =>
      rw [ha, hb] at h
      obtain ⟨segments, path, free⟩ := hu.rooted ha
      obtain ⟨segments', path', free'⟩ := hv.rooted hb
      obtain ⟨part, more⟩ := slashed_marked segments
      obtain ⟨part', more'⟩ := slashed_marked segments'
      have texts := (List.cons.inj (List.cons.inj h).2).2
      rw [path, path', toList_text_rooted, toList_text_rooted, more, more'] at texts
      have slash {w : Authority} (hw : w.WellFormed) : '/' ∉ w.text.toList :=
        (Authority.free_text hw).not_mem (by decide)
      obtain ⟨authorities, parts⟩ := append_marked_inj (slash (hu.authority a ha))
        (slash (hv.authority b hb)) texts
      rw [path, path', Authority.text_inj (hu.authority a ha) (hv.authority b hb) authorities,
        slashed_inj (Path.slash_not_mem free) (Path.slash_not_mem free')
          (by rw [more, more', parts])]
      exact ⟨rfl, rfl⟩

/-- Well-formed URIs with the same text are the same. -/
theorem text_inj {u v : Uri} (hu : u.WellFormed) (hv : v.WellFormed) (h : u.text = v.text) :
    u = v := by
  have texts := congrArg String.toList h
  rw [toList_text, toList_text] at texts
  obtain ⟨schemes, rest⟩ := append_mark_inj hu.scheme hv.scheme texts
  -- No mark of a fragment stands before it.
  have free {w : Uri} (hw : w.WellFormed) :
      '#' ∉ w.front ++ marked '?' (w.query.map String.toList) := by
    intro hc
    rcases List.mem_append.1 hc with hc | hc
    · exact (free_front hw).not_mem (by decide) hc
    · cases hq : w.query with
      | none => simp [hq, marked] at hc
      | some q =>
        rw [hq] at hc
        rcases List.mem_cons.1 hc with hc | hc
        · cases hc
        · exact hw.query q hq hc
  obtain ⟨before, fragments⟩ := append_marked_inj (free hu) (free hv) rest
  obtain ⟨fronts, queries⟩ := append_marked_inj ((free_front hu).not_mem (by decide))
    ((free_front hv).not_mem (by decide)) before
  obtain ⟨authorities, paths⟩ := front_inj hu hv fronts
  have schemes := String.toList_inj.1 schemes
  have queries := map_toList_inj queries
  have fragments := map_toList_inj fragments
  cases u
  cases v
  simp_all

end DesignTokens.Uri
