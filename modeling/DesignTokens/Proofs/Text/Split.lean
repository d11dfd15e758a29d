import DesignTokens.Text.Split
import Mathlib.Data.List.Basic

/-!
# DesignTokens.Proofs.Text.Split — cutting a text, and joining its pieces

1. **Pieces** (`splitOn_eq`): a text is cut at a separator as lists are.
2. **Joined texts** (`Joined`): pieces with a separator between them, one or more, and how they
   begin (`joined_succ`). Pieces without the separator are found again (`joined_iff_splitOn`).
-/

namespace DesignTokens.Text

/-! ## Pieces -/

theorem splitWhere_eq (isSeparator : Char → Bool) (text : List Char) :
    splitWhere isSeparator text = text.splitOnP isSeparator := by
  induction text with
  | nil => rfl
  | cons c rest ih =>
    rw [splitWhere, List.splitOnP_cons_eq_if_modifyHead, ← ih]
    cases pieces : splitWhere isSeparator rest with
    | nil => exact absurd (ih.symm.trans pieces) (List.splitOnP_ne_nil _ _)
    | cons piece pieces => rfl

theorem splitOn_eq (mark : Char) (text : List Char) : splitOn mark text = text.splitOn mark :=
  splitWhere_eq _ text

/-! ## Joined texts -/

/-- A text of so many pieces or more, with a separator between them. -/
def Joined (mark : Char) (least : Nat) (good : List Char → Prop) (text : List Char) : Prop :=
  ∃ pieces : List (List Char), least ≤ pieces.length ∧ (∀ piece ∈ pieces, good piece) ∧
    text = [mark].intercalate pieces

/-- A text of so many pieces or more, with a separator before each. -/
def Marked (mark : Char) (least : Nat) (good : List Char → Prop) (text : List Char) : Prop :=
  ∃ pieces : List (List Char), least ≤ pieces.length ∧ (∀ piece ∈ pieces, good piece) ∧
    text = pieces.flatMap (mark :: ·)

theorem intercalate_cons (mark : Char) (first : List Char) (rest : List (List Char)) :
    [mark].intercalate (first :: rest) = first ++ rest.flatMap (mark :: ·) := by
  induction rest generalizing first with
  | nil => simp
  | cons second rest ih => simp [ih]

/-- The first of some pieces has no separator before it. -/
theorem joined_succ {mark : Char} {least : Nat} {good : List Char → Prop} {text : List Char} :
    Joined mark (least + 1) good text ↔
      ∃ first, good first ∧ ∃ rest, Marked mark least good rest ∧ first ++ rest = text := by
  constructor
  · rintro ⟨pieces, many, all, rfl⟩
    -- At least one piece is asked for, so there is a first.
    obtain ⟨first, rest, rfl⟩ := List.exists_cons_of_length_pos (Nat.zero_lt_of_lt many)
    obtain ⟨hf, hrest⟩ := List.forall_mem_cons.1 all
    exact ⟨first, hf, _, ⟨rest, Nat.le_of_succ_le_succ many, hrest, rfl⟩,
      (intercalate_cons mark first rest).symm⟩
  · rintro ⟨first, hf, _, ⟨rest, many, hrest, rfl⟩, rfl⟩
    exact ⟨first :: rest, Nat.succ_le_succ many, List.forall_mem_cons.2 ⟨hf, hrest⟩,
      (intercalate_cons mark first rest).symm⟩

/-- A character of a text of pieces is the separator or belongs to a piece. -/
theorem Joined.eq_or_mem {mark : Char} {least : Nat} {good : List Char → Prop} {text : List Char}
    (joined : Joined mark least good text) {c : Char} (hc : c ∈ text) :
    c = mark ∨ ∃ piece, good piece ∧ c ∈ piece := by
  obtain ⟨pieces, _, all, rfl⟩ := joined
  cases pieces with
  | nil => exact absurd hc List.not_mem_nil
  | cons first rest =>
    obtain ⟨hf, hrest⟩ := List.forall_mem_cons.1 all
    rw [intercalate_cons, List.mem_append, List.mem_flatMap] at hc
    rcases hc with hc | ⟨piece, hp, hc⟩
    · -- The character is in the first piece.
      exact .inr ⟨first, hf, hc⟩
    · -- It is in a later one, or is the mark before it.
      exact (List.mem_cons.1 hc).imp_right fun hc => ⟨piece, hrest piece hp, hc⟩

/-- Pieces without the separator are found again by cutting at it. -/
theorem joined_iff_splitOn {mark : Char} {least : Nat} {good : List Char → Prop}
    {text : List Char} (some : 0 < least) (free : ∀ piece, good piece → mark ∉ piece) :
    Joined mark least good text ↔
      least ≤ (splitOn mark text).length ∧ ∀ piece ∈ splitOn mark text, good piece := by
  rw [splitOn_eq]
  constructor
  · -- No piece has the mark, so cutting the text gives the pieces back.
    rintro ⟨pieces, many, all, rfl⟩
    have found := List.splitOn_intercalate mark (fun piece hp => free piece (all piece hp))
      (List.ne_nil_of_length_pos (Nat.lt_of_lt_of_le some many))
    rw [found]
    exact ⟨many, all⟩
  · rintro ⟨many, all⟩
    exact ⟨_, many, all, (List.intercalate_splitOn mark).symm⟩

end DesignTokens.Text
