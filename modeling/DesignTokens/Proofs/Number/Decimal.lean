import DesignTokens.Number.Decimal
import Mathlib.Algebra.Order.Field.Power
import Mathlib.Algebra.Order.Ring.Rat
import Mathlib.Tactic.Linarith
import Mathlib.Tactic.Positivity
import Mathlib.Tactic.Ring

/-!
# DesignTokens.Proofs.Number.Decimal — shortest decimals tell doubles apart

1. **Values** of decimals (`Decimal.value`), and the magnitudes of a rounding interval
   (`RoundingInterval.Holds`).
2. **Grid search** (`RoundingInterval.holds_firstGrid`): if one of the grids that are tried is fine
   enough, the search ends in the interval.
3. **Doubles** (`Double.holds_shortest`): the last grid is fine enough for every double.
4. **Neighbours** (`Double.eq_of_holds`): the intervals of two doubles have no magnitude in common.
-/

namespace DesignTokens

/-! ## Values and intervals -/

def Decimal.value (d : Decimal) : ℚ :=
  d.digits * 10 ^ d.exponent

namespace RoundingInterval

/-- Whether a magnitude lies in the interval. -/
def Holds (i : RoundingInterval) (q : ℚ) : Prop :=
  if i.closed then i.low ≤ q * i.denominator ∧ q * i.denominator ≤ i.high
  else i.low < q * i.denominator ∧ q * i.denominator < i.high

variable {i : RoundingInterval} {q : ℚ} {k : ℤ}

/-- What an interval holds is between its ends, which may be included. -/
theorem Holds.le (h : i.Holds q) : i.low ≤ q * i.denominator ∧ q * i.denominator ≤ i.high := by
  unfold Holds at h
  split at h
  · exact h
  · exact ⟨h.1.le, h.2.le⟩

/-- What an open interval holds is strictly between its ends. -/
theorem Holds.lt (h : i.Holds q) (isOpen : ¬i.closed = true) :
    i.low < q * i.denominator ∧ q * i.denominator < i.high := by
  rwa [Holds, if_neg isOpen] at h

/-- A whole number is in an interval exactly if the interval holds it. -/
theorem contains_iff {n : ℕ} : i.contains n = true ↔ i.Holds n := by
  unfold contains Holds
  split
  · simp only [Bool.and_eq_true, decide_eq_true_eq]
    norm_cast
  · simp only [Bool.and_eq_true, decide_eq_true_eq]
    norm_cast

/-- A number of steps lies in the interval measured in steps iff their length lies in it. -/
theorem holds_inSteps : (i.inSteps k).Holds q ↔ i.Holds (q * 10 ^ k) := by
  cases k with
  | ofNat e =>
    -- The step is a power of ten, or one over such a power.
    have length : q * 10 ^ Int.ofNat e * i.denominator = q * (i.denominator * 10 ^ e) := by
      rw [Int.ofNat_eq_natCast, zpow_natCast]
      ring
    simp only [Holds, inSteps, length, Nat.pow_eq, Nat.cast_mul, Nat.cast_pow, Nat.cast_ofNat]
  | negSucc e =>
    have fine : (0 : ℚ) < 10 ^ (e + 1) := by positivity
    have length : q * 10 ^ Int.negSucc e * i.denominator = q * i.denominator / 10 ^ (e + 1) := by
      rw [zpow_negSucc]
      ring
    simp only [Holds, inSteps, length, Nat.pow_eq, Nat.cast_mul, Nat.cast_pow, Nat.cast_ofNat,
      le_div_iff₀ fine, div_le_iff₀ fine, lt_div_iff₀ fine, div_lt_iff₀ fine]

/-! ## Grid search -/

/-- The nearest whole number is in the interval. -/
theorem contains_of_nearestWhole? {n : ℕ} (h : i.nearestWhole? = some n) :
    i.contains n = true := by
  unfold nearestWhole? at h
  dsimp only at h
  cases below : i.contains (i.value / i.denominator) <;>
    cases above : i.contains (i.value / i.denominator + 1) <;>
    rw [below, above] at h
  · -- neither of the two next to the value
    cases h
  · -- only the one above
    cases h
    exact above
  · -- only the one below
    cases h
    exact below
  · -- Both are: whichever is taken, it is in the interval.
    dsimp only at h
    split at h
    · cases h
      exact below
    · split at h
      · cases h
        exact above
      · cases h
        split
        · exact below
        · exact above

/-- If the interval reaches down a whole from its value, the whole number below it lies in it. -/
theorem nearestWhole?_ne_none (positive : 0 < i.denominator)
    (reaches : i.low + i.denominator ≤ i.value) (inside : i.value < i.high) :
    i.nearestWhole? ≠ none := by
  -- The whole number below the value is in the interval, so there is one.
  have split : i.denominator * (i.value / i.denominator) + i.value % i.denominator = i.value :=
    Nat.div_add_mod _ _
  have rest : i.value % i.denominator < i.denominator := Nat.mod_lt _ positive
  have below : i.contains (i.value / i.denominator) = true := by
    unfold contains
    rw [Nat.mul_comm] at split
    split
    · simp only [Bool.and_eq_true, decide_eq_true_eq]
      omega
    · simp only [Bool.and_eq_true, decide_eq_true_eq]
      omega
  unfold nearestWhole?
  simp only [below]
  cases i.contains (i.value / i.denominator + 1) with
  | false => exact Option.some_ne_none _
  | true =>
    dsimp only
    split
    · exact Option.some_ne_none _
    · split <;> exact Option.some_ne_none _

/-- If the interval reaches down a step from its value, a whole number of steps lies in it. -/
theorem nearestWhole?_inSteps_ne_none (positive : 0 < i.denominator)
    (reaches : i.low + 10 ^ k * i.denominator ≤ (i.value : ℚ)) (inside : i.value < i.high) :
    (i.inSteps k).nearestWhole? ≠ none := by
  cases k with
  | ofNat e =>
    -- Steps of ten and more: as it is.
    refine nearestWhole?_ne_none ?_ ?_ inside
    · exact Nat.mul_pos positive (Nat.pow_pos (by decide))
    · rw [Int.ofNat_eq_natCast, zpow_natCast, mul_comm] at reaches
      exact_mod_cast reaches
  | negSucc e =>
    -- Finer steps: the interval is stretched first.
    have fine : 0 < 10 ^ (e + 1) := Nat.pow_pos (by decide)
    refine nearestWhole?_ne_none positive ?_ (Nat.mul_lt_mul_of_pos_right inside fine)
    have scaled := mul_le_mul_of_nonneg_right reaches (Nat.cast_nonneg (10 ^ (e + 1)) : (0 : ℚ) ≤ _)
    rw [zpow_negSucc, add_mul, mul_right_comm, Nat.cast_pow, Nat.cast_ofNat,
      inv_mul_cancel₀ (by positivity), one_mul] at scaled
    exact_mod_cast scaled

/-- The search ends in the interval if one of the grids that are tried has a point in it. -/
theorem holds_firstGrid {steps j : ℕ} (tried : j < steps)
    (fine : (i.inSteps (k - j)).nearestWhole? ≠ none) : i.Holds (i.firstGrid steps k).value := by
  induction steps generalizing k j with
  | zero => exact absurd tried (Nat.not_lt_zero j)
  | succ steps ih =>
    unfold firstGrid
    cases found : (i.inSteps k).nearestWhole? with
    | some digits =>
      -- The first grid that has a point in the interval is taken.
      exact holds_inSteps.1 (contains_iff.1 (contains_of_nearestWhole? found))
    | none =>
      -- This one has none, so the grid that has one comes later.
      cases j with
      | zero =>
        rw [Int.ofNat_zero, Int.sub_zero] at fine
        exact absurd found fine
      | succ j =>
        have next : k - (j + 1 : ℕ) = k - 1 - j := by omega
        rw [next] at fine
        exact ih (Nat.lt_of_succ_lt_succ tried) fine

end RoundingInterval

/-! ## Doubles -/

/-- A power of ten is at most a power of two if its exponent is small enough: `2 ^ 196` is a little
more than `10 ^ 59`, and `2 ^ 93` a little less than `10 ^ 28`. -/
theorem ten_zpow_le_two_zpow {k n : ℤ}
    (h : (0 ≤ k ∧ 196 * k ≤ 59 * n) ∨ (k ≤ 0 ∧ 93 * k ≤ 28 * n)) : (10 : ℚ) ^ k ≤ 2 ^ n := by
  -- The bound is a ratio on either side of zero, since it must not be rounded the wrong way.
  rcases h with ⟨sign, le⟩ | ⟨sign, le⟩
  · refine le_of_pow_le_pow_left₀ (n := 59) (by decide) (by positivity) ?_
    calc ((10 : ℚ) ^ k) ^ 59 = (10 ^ 59) ^ k := by rw [← zpow_natCast, zpow_comm, zpow_natCast]
      _ ≤ (2 ^ 196) ^ k := zpow_le_zpow_left₀ sign (by positivity) (by norm_num)
      _ = 2 ^ (196 * k) := by rw [← zpow_natCast, ← zpow_mul]; rfl
      _ ≤ 2 ^ (59 * n) := zpow_le_zpow_right₀ (by norm_num) le
      _ = (2 ^ n) ^ 59 := by rw [← zpow_natCast, ← zpow_mul, mul_comm]; rfl
  · obtain ⟨j, rfl⟩ : ∃ j : ℤ, k = -j := ⟨-k, (neg_neg k).symm⟩
    refine le_of_pow_le_pow_left₀ (n := 28) (by decide) (by positivity) ?_
    calc ((10 : ℚ) ^ (-j)) ^ 28 = ((10 ^ 28) ^ j)⁻¹ := by
          rw [← zpow_natCast, zpow_comm, zpow_natCast, zpow_neg]
      _ ≤ ((2 ^ 93) ^ j)⁻¹ := by
          refine inv_anti₀ (by positivity) ?_
          exact zpow_le_zpow_left₀ (by omega) (by positivity) (by norm_num)
      _ = 2 ^ (93 * -j) := by rw [← zpow_natCast, ← zpow_mul, ← zpow_neg, ← mul_neg]; rfl
      _ ≤ 2 ^ (28 * n) := zpow_le_zpow_right₀ (by norm_num) le
      _ = (2 ^ n) ^ 28 := by rw [← zpow_natCast, ← zpow_mul, mul_comm]; rfl

namespace Double

/-- A quarter of the last place of a double. -/
def quarter (x : Double) : ℚ :=
  2 ^ (x.exponent - 2)

/-- The lower end of the interval of a double, in quarters of the last place. -/
def lowQuarters (x : Double) : ℕ :=
  if x.mantissa = Nat.pow 2 52 ∧ x.exponent ≠ -1074 then 4 * x.mantissa - 1
  else 4 * x.mantissa - 2

variable {x y : Double} {q : ℚ}

/-- The interval of a double, over a whole number of quarters of its last place. -/
theorem ofDouble_eq (x : Double) : ∃ num den : ℕ, 0 < den ∧ (num : ℚ) = x.quarter * den ∧
    RoundingInterval.ofDouble x =
      { low := x.lowQuarters * num
        value := 4 * x.mantissa * num
        high := (4 * x.mantissa + 2) * num
        denominator := den
        closed := x.mantissa % 2 = 0 } := by
  unfold RoundingInterval.ofDouble quarter lowQuarters
  cases x.exponent - 2 with
  | ofNat e =>
    refine ⟨Nat.pow 2 e, 1, Nat.one_pos, ?_, rfl⟩
    simp
  | negSucc e =>
    refine ⟨1, Nat.pow 2 (e + 1), Nat.pow_pos (by decide), ?_, rfl⟩
    simp

/-- A quarter of the last place is positive. -/
theorem quarter_pos (x : Double) : 0 < x.quarter := by
  unfold quarter
  positivity

/-- The ends of the interval of a double, in quarters of the last place; they belong to it only if
the mantissa is even. -/
theorem ends_of_holds (h : (RoundingInterval.ofDouble x).Holds q) :
    x.lowQuarters * x.quarter ≤ q ∧ q ≤ (4 * x.mantissa + 2) * x.quarter ∧
      (x.mantissa % 2 = 1 →
        x.lowQuarters * x.quarter < q ∧ q < (4 * x.mantissa + 2) * x.quarter) := by
  obtain ⟨num, den, positive, length, shape⟩ := ofDouble_eq x
  rw [shape] at h
  have positive : (0 : ℚ) < den := Nat.cast_pos.2 positive
  obtain ⟨low, high⟩ := h.le
  push_cast [length] at low high
  -- The ends are included for an even mantissa only.
  rw [← mul_assoc] at low high
  refine ⟨le_of_mul_le_mul_right low positive, le_of_mul_le_mul_right high positive, ?_⟩
  intro odd
  obtain ⟨low, high⟩ := h.lt (by simp [odd])
  push_cast [length] at low high
  rw [← mul_assoc] at low high
  exact ⟨lt_of_mul_lt_mul_right low positive.le, lt_of_mul_lt_mul_right high positive.le⟩

/-- The grid that is tried last is so fine that a step is at most a quarter of the last place. -/
theorem lastGrid_le (x : Double) :
    (10 : ℚ) ^ ((x.exponent + x.mantissa.log2 + 1) * 30103 / 100000 + 1 - (21 : ℕ)) ≤
      x.quarter := by
  obtain ⟨bits, least, most, _⟩ := x.canonical
  have log : x.mantissa.log2 < 53 := by
    rcases Nat.eq_zero_or_pos x.mantissa with zero | positive
    · rw [zero]
      decide
    · exact (Nat.log2_lt (Nat.ne_of_gt positive)).2 bits
  refine ten_zpow_le_two_zpow ?_
  omega

/-- The shortest text of a double is in its interval. -/
theorem holds_shortest (nonzero : x.isZero = false) :
    (RoundingInterval.ofDouble x).Holds x.shortest.value := by
  have positive : 0 < x.mantissa := by
    rw [isZero, beq_eq_false_iff_ne] at nonzero
    exact Nat.pos_of_ne_zero nonzero
  unfold shortest
  rw [nonzero]
  refine RoundingInterval.holds_firstGrid (j := 21) (by decide) ?_
  obtain ⟨num, den, denPos, length, shape⟩ := ofDouble_eq x
  rw [shape]
  have numPos : 0 < num := by
    have : (0 : ℚ) < num := by
      rw [length]
      exact mul_pos x.quarter_pos (Nat.cast_pos.2 denPos)
    exact_mod_cast this
  refine RoundingInterval.nearestWhole?_inSteps_ne_none denPos ?_ ?_
  · -- The last grid is fine enough, since it is finer than a quarter of the last place.
    have step := mul_le_mul_of_nonneg_right x.lastGrid_le (Nat.cast_nonneg den : (0 : ℚ) ≤ _)
    rw [← length] at step
    refine (add_le_add_right step _).trans ?_
    have quarters : x.lowQuarters + 1 ≤ 4 * x.mantissa := by
      unfold lowQuarters
      split <;> omega
    have ends := Nat.mul_le_mul_right num quarters
    rw [Nat.add_mul, Nat.one_mul] at ends
    exact_mod_cast ends
  · -- The interval reaches beyond the value.
    exact Nat.mul_lt_mul_of_pos_right (by omega) numPos

/-! ## Neighbours -/

/-- Between a double and a larger one, the upper end of the one interval does not lie above the
lower end of the other, and lies below it if both ends belong to their intervals. -/
theorem ends_apart (before : x.exponent < y.exponent ∨
      x.exponent = y.exponent ∧ x.mantissa < y.mantissa) :
    (4 * x.mantissa + 2) * x.quarter ≤ y.lowQuarters * y.quarter ∧
      (x.mantissa % 2 = 0 → y.mantissa % 2 = 0 →
        (4 * x.mantissa + 2) * x.quarter < y.lowQuarters * y.quarter) := by
  have bits : x.mantissa < 2 ^ 53 := x.canonical.1
  have least : -1074 ≤ x.exponent := x.canonical.2.1
  have normal : 2 ^ 52 ≤ y.mantissa ∨ y.exponent = -1074 := y.canonical.2.2.2
  -- A last place of the larger double is `s` of those of the smaller one.
  have scaled : ∃ s : ℕ, y.quarter = s * x.quarter ∧ 4 * x.mantissa + 2 ≤ y.lowQuarters * s ∧
      (x.mantissa % 2 = 0 → y.mantissa % 2 = 0 → 4 * x.mantissa + 2 < y.lowQuarters * s) := by
    rcases before with exponents | ⟨exponents, mantissas⟩
    · -- The larger double has a larger exponent, so its lower end is far above.
      obtain ⟨d, exponents⟩ : ∃ d : ℕ, y.exponent = x.exponent + (d + 1 : ℕ) :=
        ⟨(y.exponent - x.exponent).toNat - 1, by omega⟩
      have low : 2 ^ 54 - 1 ≤ y.lowQuarters := by
        have normal : 2 ^ 52 ≤ y.mantissa := normal.resolve_right (by omega)
        unfold lowQuarters
        rw [Nat.pow_eq]
        split <;> omega
      have twice : 2 ≤ 2 ^ (d + 1) := Nat.le_self_pow (Nat.succ_ne_zero d) 2
      have ends := Nat.mul_le_mul low twice
      refine ⟨2 ^ (d + 1), ?_, by omega, by omega⟩
      rw [quarter, quarter, exponents, Nat.cast_pow, Nat.cast_ofNat, ← zpow_natCast,
        ← zpow_add₀ (by norm_num)]
      congr 1
      omega
    · -- With the same exponent, the mantissas are at least one apart.
      have low : 4 * y.mantissa - 2 ≤ y.lowQuarters := by
        unfold lowQuarters
        split <;> omega
      refine ⟨1, ?_, by omega, by omega⟩
      rw [quarter, quarter, exponents, Nat.cast_one, one_mul]
  obtain ⟨s, length, le, lt⟩ := scaled
  rw [length, ← mul_assoc]
  constructor
  · refine mul_le_mul_of_nonneg_right ?_ x.quarter_pos.le
    exact_mod_cast le
  · intro even even'
    refine mul_lt_mul_of_pos_right ?_ x.quarter_pos
    exact_mod_cast lt even even'

/-- No magnitude lies in the intervals of a double and of a larger one. -/
theorem not_holds_of_before (before : x.exponent < y.exponent ∨
      x.exponent = y.exponent ∧ x.mantissa < y.mantissa)
    (hx : (RoundingInterval.ofDouble x).Holds q) : ¬(RoundingInterval.ofDouble y).Holds q := by
  intro hy
  obtain ⟨apart, strictlyApart⟩ := ends_apart before
  obtain ⟨_, high, belowHigh⟩ := ends_of_holds hx
  obtain ⟨low, _, aboveLow⟩ := ends_of_holds hy
  rcases Nat.mod_two_eq_zero_or_one x.mantissa with even | odd
  · -- Two even mantissas are two apart, so the ends do not even touch.
    rcases Nat.mod_two_eq_zero_or_one y.mantissa with even' | odd'
    · -- An odd mantissa leaves out its own ends.
      have := strictlyApart even even'
      linarith
    · have := (aboveLow odd').1
      linarith
  · have := (belowHigh odd).2
    linarith

/-- Doubles whose intervals have a magnitude in common have the same magnitude. -/
theorem eq_of_holds (hx : (RoundingInterval.ofDouble x).Holds q)
    (hy : (RoundingInterval.ofDouble y).Holds q) :
    x.mantissa = y.mantissa ∧ x.exponent = y.exponent := by
  rcases Int.lt_trichotomy x.exponent y.exponent with less | same | more
  · exact absurd hy (not_holds_of_before (.inl less) hx)
  · rcases Nat.lt_trichotomy x.mantissa y.mantissa with less | same' | more
    · exact absurd hy (not_holds_of_before (.inr ⟨same, less⟩) hx)
    · exact ⟨same', same⟩
    · exact absurd hx (not_holds_of_before (.inr ⟨same.symm, more⟩) hy)
  · exact absurd hx (not_holds_of_before (.inl more) hy)

/-- The shortest text of a double other than zero is positive. -/
theorem value_shortest_pos (nonzero : x.isZero = false) : 0 < x.shortest.value := by
  have low : 0 < x.lowQuarters := by
    rw [isZero, beq_eq_false_iff_ne] at nonzero
    unfold lowQuarters
    split <;> omega
  have end_ := (ends_of_holds (holds_shortest nonzero)).1
  exact (mul_pos (Nat.cast_pos.2 low) x.quarter_pos).trans_le end_

/-- Doubles with the same sign and the same shortest decimal are the same. -/
theorem eq_of_value_shortest (sign : x.negative = y.negative)
    (value : x.shortest.value = y.shortest.value) : x = y := by
  have parts : x.mantissa = y.mantissa ∧ x.exponent = y.exponent := by
    -- Zero has one mantissa and one exponent, and only its text is zero.
    have zero {z : Double} (h : z.isZero = true) :
        z.mantissa = 0 ∧ z.exponent = -1074 ∧ z.shortest.value = 0 := by
      have mantissa : z.mantissa = 0 := by rwa [isZero, beq_iff_eq] at h
      have normal := z.canonical.2.2.2
      rw [mantissa] at normal
      refine ⟨mantissa, normal.resolve_left (by decide), ?_⟩
      rw [shortest, if_pos h, Decimal.value, Nat.cast_zero, zero_mul]
    cases hx : x.isZero with
    | true =>
      cases hy : y.isZero with
      | true =>
        rw [(zero hx).1, (zero hx).2.1, (zero hy).1, (zero hy).2.1]
        exact ⟨rfl, rfl⟩
      | false =>
        have positive := value_shortest_pos hy
        rw [← value, (zero hx).2.2] at positive
        exact absurd positive (lt_irrefl 0)
    | false =>
      cases hy : y.isZero with
      | true =>
        have positive := value_shortest_pos hx
        rw [value, (zero hy).2.2] at positive
        exact absurd positive (lt_irrefl 0)
      -- Two that are not zero have one text in both intervals.
      | false => exact eq_of_holds (holds_shortest hx) (value ▸ holds_shortest hy)
  obtain ⟨mantissas, exponents⟩ := parts
  cases x
  cases y
  cases sign
  cases mantissas
  cases exponents
  rfl

end Double

end DesignTokens
