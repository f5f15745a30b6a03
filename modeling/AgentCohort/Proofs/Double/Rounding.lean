import AgentCohort.Double
import AgentCohort.Numeral
import Mathlib.Algebra.GroupWithZero.Nat

/-!
# Rounding large numbers

A quotient above a power of two is rounded to a double above the same power, and so a whole number
of more than 64 bits is moved to the largest word.  From a power of two to the next one doubles are
equally far apart: in the uppermost half of the words it is 2048, and a whole number there becomes
the nearest multiple of 2048.
-/

namespace AgentCohort
namespace Double

variable {numerator denominator j k n : Nat}

theorem scaleByPowerOfTwo_neg (numerator denominator k : Nat) :
    scaleByPowerOfTwo numerator denominator (-(k : Int)) = (numerator, denominator * 2 ^ k) := by
  cases k with
  | zero => simp [scaleByPowerOfTwo]
  | succ k => rfl

theorem scaleByPowerOfTwo_ofNat (numerator denominator k : Nat) :
    scaleByPowerOfTwo numerator denominator (k : Int) = (numerator * 2 ^ k, denominator) :=
  rfl

/-! ## Powers of two below a quotient -/

/-- The rounded logarithm of a quotient above a power of two is a power between them. -/
theorem exists_floorLog2_eq
    (positive : 0 < denominator)
    (large : 2 ^ j * denominator ≤ numerator) :
    ∃ k : Nat, floorLog2 numerator denominator = k ∧ j ≤ k ∧ denominator * 2 ^ k ≤ numerator := by
  have nonzero : numerator ≠ 0 := by
    have bound := Nat.mul_pos (Nat.two_pow_pos j) positive
    omega
  have below := Nat.log2_self_le (Nat.ne_of_gt positive)
  have above := @Nat.lt_log2_self denominator
  have order : j + denominator.log2 ≤ numerator.log2 := by
    rw [Nat.le_log2 nonzero, Nat.pow_add]
    exact Nat.le_trans (Nat.mul_le_mul_left _ below) large
  obtain ⟨g, difference⟩ := Nat.exists_eq_add_of_le (Nat.le_trans (Nat.le_add_left _ j) order)
  have guess : (numerator.log2 : Int) - denominator.log2 = (g : Nat) := by
    omega
  unfold floorLog2
  simp only [guess, scaleByPowerOfTwo_neg]
  by_cases fits : denominator * 2 ^ g ≤ numerator
  · exact ⟨g, if_pos fits, by omega, fits⟩
  · have differs : j ≠ g := by
      rintro rfl
      exact fits (Nat.mul_comm _ _ ▸ large)
    refine ⟨g - 1, by rw [if_neg fits]; omega, by omega, ?_⟩
    calc
      denominator * 2 ^ (g - 1) ≤ 2 ^ (denominator.log2 + 1) * 2 ^ (g - 1) :=
        Nat.mul_le_mul_right _ (Nat.le_of_lt above)
      _ = 2 ^ numerator.log2 := by
        rw [← Nat.pow_add]
        congr 1
        omega
      _ ≤ numerator := Nat.log2_self_le nonzero

theorem div_le_roundHalfEven (numerator denominator : Nat) :
    numerator / denominator ≤ roundHalfEven numerator denominator := by
  unfold roundHalfEven
  dsimp only
  split
  · exact Nat.le_refl _
  · split
    · exact Nat.le_succ _
    · split
      · exact Nat.le_refl _
      · exact Nat.le_succ _

/-! ## Lower bounds of doubles -/

/-- A double is at least a natural number. -/
def AtLeast (bound : Nat) : Double → Prop
  | .finite false significand exponent =>
    bound * (ratio significand exponent).2 ≤ (ratio significand exponent).1
  | .infinite false => True
  | _ => False

theorem AtLeast.mono {low high : Nat} {number : Double} (order : low ≤ high)
    (atLeast : AtLeast high number) :
    AtLeast low number := by
  unfold AtLeast at *
  split at atLeast
  · exact Nat.le_trans (Nat.mul_le_mul_right _ order) atLeast
  · trivial
  · exact atLeast.elim

/-- A full significand reaches the power of two of its first digit. -/
theorem atLeast_finite
    {significand : Nat}
    {exponent : Int}
    (full : 2 ^ 52 ≤ significand)
    (reaches : (j : Int) ≤ exponent + 52) :
    AtLeast (2 ^ j) (.finite false significand exponent) := by
  unfold AtLeast ratio
  cases exponent with
  | ofNat k =>
      have order : j ≤ 52 + k := by
        simp only [Int.ofNat_eq_natCast] at reaches
        omega
      change 2 ^ j * 1 ≤ significand * 2 ^ k
      calc
        2 ^ j * 1 ≤ 2 ^ (52 + k) := by
          rw [Nat.mul_one]
          exact Nat.pow_le_pow_right (by omega) order
        _ = 2 ^ 52 * 2 ^ k := Nat.pow_add _ _ _
        _ ≤ significand * 2 ^ k := Nat.mul_le_mul_right _ full
  | negSucc k =>
      have order : j + (k + 1) ≤ 52 := by
        omega
      change 2 ^ j * (1 * 2 ^ (k + 1)) ≤ significand
      calc
        2 ^ j * (1 * 2 ^ (k + 1)) = 2 ^ (j + (k + 1)) := by
          rw [Nat.one_mul, ← Nat.pow_add]
        _ ≤ 2 ^ 52 := Nat.pow_le_pow_right (by omega) order
        _ ≤ significand := full

/-- A quotient above a power of two is rounded to a double above it. -/
theorem atLeast_roundRatio
    (positive : 0 < denominator)
    (large : 2 ^ j * denominator ≤ numerator) :
    AtLeast (2 ^ j) (roundRatio false numerator denominator) := by
  obtain ⟨k, floor, order, below⟩ := exists_floorLog2_eq positive large
  have nonzero : numerator ≠ 0 := by
    have bound := Nat.mul_pos (Nat.two_pow_pos j) positive
    omega
  have exponent : max leastExponent (floorLog2 numerator denominator - 52) = (k : Int) - 52 := by
    rw [floor, leastExponent]
    omega
  have full : 2 ^ 52 ≤ roundHalfEven
      (scaleByPowerOfTwo numerator denominator (-((k : Int) - 52))).1
      (scaleByPowerOfTwo numerator denominator (-((k : Int) - 52))).2 := by
    refine Nat.le_trans ?_ (div_le_roundHalfEven _ _)
    by_cases whole : 52 ≤ k
    · obtain ⟨m, rfl⟩ := Nat.exists_eq_add_of_le whole
      have down : -(((52 + m : Nat) : Int) - 52) = -(m : Int) := by
        omega
      rw [down, scaleByPowerOfTwo_neg,
        Nat.le_div_iff_mul_le (Nat.mul_pos positive (Nat.two_pow_pos m))]
      calc
        2 ^ 52 * (denominator * 2 ^ m) = denominator * 2 ^ (52 + m) := by
          rw [Nat.pow_add, Nat.mul_left_comm]
        _ ≤ numerator := below
    · obtain ⟨m, sum⟩ := Nat.exists_eq_add_of_le (Nat.le_of_not_le whole)
      have up : -((k : Int) - 52) = (m : Int) := by
        omega
      rw [up, scaleByPowerOfTwo_ofNat, Nat.le_div_iff_mul_le positive]
      calc
        2 ^ 52 * denominator = denominator * 2 ^ k * 2 ^ m := by
          rw [sum, Nat.pow_add, Nat.mul_comm, Nat.mul_assoc]
        _ ≤ numerator * 2 ^ m := Nat.mul_le_mul_right _ below
  unfold roundRatio
  rw [if_neg nonzero]
  simp only [exponent]
  split
  · split
    · exact atLeast_finite (Nat.le_refl _) (by omega)
    · trivial
  · split
    · exact atLeast_finite full (by omega)
    · trivial

theorem ratio_pos (significand : Nat) (exponent : Int) : 0 < (ratio significand exponent).2 := by
  cases exponent with
  | ofNat k => exact Nat.one_pos
  | negSucc k => exact Nat.mul_pos Nat.one_pos (Nat.two_pow_pos (k + 1))

/-- The product of two finite doubles is above a power of two if the product of their bounds is. -/
theorem atLeast_mulMagnitude
    {bound bound' significand significand' : Nat}
    {exponent exponent' : Int}
    (first : AtLeast bound (.finite false significand exponent))
    (second : AtLeast bound' (.finite false significand' exponent'))
    (large : 2 ^ j ≤ bound * bound') :
    AtLeast (2 ^ j)
      ((Double.finite false significand exponent).mulMagnitude
        (.finite false significand' exponent')) := by
  refine atLeast_roundRatio (Nat.mul_pos (ratio_pos _ _) (ratio_pos _ _)) ?_
  calc
    2 ^ j * ((ratio significand exponent).2 * (ratio significand' exponent').2) ≤
        bound * bound' * ((ratio significand exponent).2 * (ratio significand' exponent').2) :=
      Nat.mul_le_mul_right _ large
    _ = bound * (ratio significand exponent).2 * (bound' * (ratio significand' exponent').2) :=
      Nat.mul_mul_mul_comm _ _ _ _
    _ ≤ (ratio significand exponent).1 * (ratio significand' exponent').1 :=
      Nat.mul_le_mul first second

/-- A double above a bound is moved to it. -/
theorem AtLeast.toNatSaturating_eq
    {bound limit : Nat}
    {number : Double}
    (atLeast : AtLeast bound number)
    (order : limit ≤ bound) :
    number.toNatSaturating limit = limit := by
  unfold AtLeast at atLeast
  split at atLeast
  · rename_i significand exponent
    refine Nat.min_eq_left (Nat.le_trans order ?_)
    have positive := ratio_pos significand exponent
    unfold roundMagnitude
    dsimp only
    rw [Nat.le_div_iff_mul_le (by omega), Nat.mul_left_comm]
    omega
  · rfl
  · exact atLeast.elim

/-! ## Whole numbers -/

theorem roundMagnitude_of_ratio
    {significand : Nat}
    {exponent : Int}
    (whole : ratio significand exponent = (n, 1)) :
    roundMagnitude significand exponent = n := by
  unfold roundMagnitude
  rw [whole]
  change (2 * n + 1) / (2 * 1) = n
  omega

/-- From a power of two to the next one doubles are equally far apart, and a whole number becomes
the nearest of them. -/
theorem exists_ofNat_eq_finite
    (lower : 2 ^ (52 + k) ≤ n)
    (upper : n < 2 ^ (53 + k))
    (small : k < 971) :
    ∃ significand exponent, Double.ofNat n = .finite false significand exponent ∧
      ratio significand exponent = (roundHalfEven n (2 ^ k) * 2 ^ k, 1) := by
  have nonzero : n ≠ 0 := by
    have positive := Nat.two_pow_pos (52 + k)
    omega
  have log : n.log2 = 52 + k :=
    (Nat.log2_eq_iff nonzero).mpr ⟨lower, by rw [Nat.add_right_comm]; exact upper⟩
  have floor : floorLog2 n 1 = ((52 + k : Nat) : Int) := by
    have guess : ((n.log2 : Nat) : Int) - ((1 : Nat).log2 : Nat) = ((52 + k : Nat) : Int) := by
      rw [log]
      exact Int.sub_zero _
    unfold floorLog2
    simp only [guess, scaleByPowerOfTwo_neg]
    exact if_pos (by rw [Nat.one_mul]; exact lower)
  have exponent : max leastExponent (floorLog2 n 1 - 52) = (k : Int) := by
    rw [floor, leastExponent]
    omega
  have scale : scaleByPowerOfTwo n 1 (-(k : Int)) = (n, 2 ^ k) := by
    rw [scaleByPowerOfTwo_neg, Nat.one_mul]
  unfold Double.ofNat roundRatio
  rw [if_neg nonzero]
  simp only [exponent, scale]
  split
  · rename_i carried
    refine ⟨_, _, if_pos (by rw [greatestExponent]; omega), ?_⟩
    rw [carried]
    change (2 ^ 52 * 2 ^ (k + 1), 1) = (2 ^ 53 * 2 ^ k, 1)
    rw [← Nat.pow_add, ← Nat.pow_add]
    congr 2
    omega
  · exact ⟨_, _, if_pos (by rw [greatestExponent]; omega), rfl⟩

/-- A whole number in the uppermost half of the words or above them becomes the nearest multiple of
2048, at most the largest word. -/
theorem toNatSaturating_ofNat (large : 2 ^ 63 ≤ n) :
    (Double.ofNat n).toNatSaturating Numeral.maxUInt64 =
      min Numeral.maxUInt64 (2048 * roundHalfEven n 2048) := by
  by_cases word : n < 2 ^ 64
  · obtain ⟨significand, exponent, rounded, multiple⟩ :=
      @exists_ofNat_eq_finite 11 n large word (by decide)
    have whole : roundMagnitude significand exponent = 2048 * roundHalfEven n 2048 :=
      (roundMagnitude_of_ratio multiple).trans (Nat.mul_comm _ _)
    rw [rounded]
    exact congrArg (min Numeral.maxUInt64) whole
  · have beyond : 2 ^ 64 ≤ n := Nat.le_of_not_lt word
    have atLeast : AtLeast (2 ^ 64) (Double.ofNat n) :=
      atLeast_roundRatio Nat.one_pos (by omega)
    have multiple := div_le_roundHalfEven n 2048
    have limit : Numeral.maxUInt64 = 2 ^ 64 - 1 := rfl
    rw [atLeast.toNatSaturating_eq (by rw [limit]; omega)]
    omega

/-- So does the double that its digits write. -/
theorem toNatSaturating_ofDecimal (large : 2 ^ 63 ≤ n) :
    (ofDecimal false n 0).toNatSaturating Numeral.maxUInt64 =
      min Numeral.maxUInt64 (2048 * roundHalfEven n 2048) := by
  unfold ofDecimal
  rw [if_neg (by omega), Int.add_zero]
  dsimp only
  split
  · rename_i long
    have many : 10 ^ 20 ≤ n := by
      have iff := @Nat.length_toDigits_le_iff 10 n 20 (by omega) (by omega)
      exact Nat.le_of_not_lt fun short => absurd (iff.mpr short) (by omega)
    have beyond : 2 ^ 64 ≤ n := Nat.le_trans (by decide) many
    have multiple := div_le_roundHalfEven n 2048
    have limit : Numeral.maxUInt64 = 2 ^ 64 - 1 := rfl
    change Numeral.maxUInt64 = _
    omega
  · rw [if_neg (by omega)]
    change (roundRatio false (n * 1) 1).toNatSaturating _ = _
    rw [Nat.mul_one]
    exact toNatSaturating_ofNat large

end Double
end AgentCohort
