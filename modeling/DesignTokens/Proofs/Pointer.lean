import DesignTokens.Pointer
import DesignTokens.Proofs.Text.Split

/-!
# DesignTokens.Proofs.Pointer — a pointer is known by its text

1. **Names**: escaping is undone (`Pointer.unescape?_escape`), and an escaped name has no slash.
2. **Texts**: the slashes in the text of a pointer stand between its names, and it reads back as the
   pointer (`Pointer.parse_text`).
-/

namespace DesignTokens

namespace Pointer

/-! ## Names -/

/-- An escaped name is read back. -/
theorem unescape?_escape (segment : List Char) : unescape? (escape segment) = some segment := by
  induction segment with
  | nil => rfl
  | cons c rest ih =>
    rw [escape] at ih ⊢
    rw [List.flatMap_cons]
    by_cases tilde : c = '~'
    · -- `~` is written `~0`, `/` is written `~1`, and all else stands for itself.
      subst tilde
      simp [unescape?, ih]
    · by_cases slash : c = '/'
      · subst slash
        simp [unescape?, ih]
      · rw [if_neg tilde, if_neg slash, List.singleton_append, unescape?, if_neg tilde, ih]
        · rfl
        · exact fun _ same _ => tilde same
        · exact fun _ same _ => tilde same

/-- An escaped name has no slash. -/
theorem slash_not_mem_escape (segment : List Char) : '/' ∉ escape segment := by
  intro h
  obtain ⟨c, _, hc⟩ := List.mem_flatMap.1 h
  by_cases tilde : c = '~'
  · rw [if_pos tilde] at hc
    revert hc
    decide
  · rw [if_neg tilde] at hc
    by_cases slash : c = '/'
    · rw [if_pos slash] at hc
      revert hc
      decide
    · rw [if_neg slash] at hc
      exact slash (List.mem_singleton.1 hc).symm

/-! ## Texts -/

/-- The body of a pointer is cut at its slashes into the escaped names. -/
theorem splitOn_append_body (segments : List String) {front : List Char} (free : '/' ∉ front) :
    Text.splitOn '/' (front ++ body ⟨segments⟩) =
      front :: segments.map fun s => escape s.toList := by
  induction segments generalizing front with
  | nil =>
    show Text.splitOn '/' (front ++ []) = [front]
    rw [List.append_nil, Text.splitOn_eq, List.splitOn_eq_singleton free]
  | cons s rest ih =>
    show Text.splitOn '/' (front ++ '/' :: (escape s.toList ++ body ⟨rest⟩)) = _
    rw [Text.splitOn_eq, List.splitOn_append_cons_self_of_not_mem free, ← Text.splitOn_eq,
      ih (slash_not_mem_escape _), List.map_cons]

/-- Escaped names are read back one by one. -/
theorem mapM_unescape? (segments : List String) :
    (segments.map fun s => escape s.toList).mapM unescape? = some (segments.map String.toList) := by
  induction segments with
  | nil => rfl
  | cons s rest ih =>
    rw [List.map_cons, List.mapM_cons, unescape?_escape, ih]
    rfl

/-- The body of a pointer is read back. -/
theorem ofBody_body (p : Pointer) : ofBody p.body = .ok p := by
  obtain ⟨segments⟩ := p
  have pieces : Text.splitOn '/' (body ⟨segments⟩) = [] :: segments.map fun s => escape s.toList :=
    splitOn_append_body segments List.not_mem_nil
  unfold ofBody
  cases segments with
  | nil => rfl
  | cons s rest =>
    show (if '/' ≠ '/' then _ else _) = _
    rw [if_neg (fun ne => ne rfl), pieces, List.tail_cons, mapM_unescape?]
    simp

/-- A pointer is read back from its text. -/
theorem parse_text (p : Pointer) : parse p.text = .ok p := by
  have chars : p.text.toList = '#' :: p.body := String.toList_ofList
  unfold parse
  rw [chars]
  show (ofBody p.body).mapError _ = _
  rw [ofBody_body]
  rfl

/-- A pointer is known by its text. -/
theorem eq_of_text {p q : Pointer} (h : p.text = q.text) : p = q := by
  have parsed := parse_text p
  rw [h, parse_text] at parsed
  exact (Except.ok.inj parsed).symm

end Pointer

end DesignTokens
