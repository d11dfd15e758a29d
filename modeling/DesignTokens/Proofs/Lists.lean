import Mathlib.Data.List.Basic

/-!
# DesignTokens.Proofs.Lists — lists of any kind

1. **Duplicates** (`nodup_eraseDups`).
-/

namespace DesignTokens

variable {α : Type} [BEq α] [LawfulBEq α]

theorem nodup_eraseDups : ∀ xs : List α, xs.eraseDups.Nodup
  | [] => List.nodup_nil
  | x :: rest => by
    rw [List.eraseDups_cons, List.nodup_cons]
    exact ⟨by simp, nodup_eraseDups _⟩
termination_by xs => xs.length
decreasing_by exact Nat.lt_succ_of_le (List.length_filter_le _ _)

end DesignTokens
