import AgentCohort.Proofs.Double.Rounding
import AgentCohort.Proofs.Json.NumberReading

/-!
# Whole numbers of more than 64 bits

The digits of a whole number are absorbed while they fit a word.  From a number beyond the words at
least 19 digits are absorbed and at least one is left over, so the number becomes a double of more
than 64 bits, or none at all if it is beyond all doubles.
-/

namespace AgentCohort

namespace Double

variable {n k : Nat}

theorem AtLeast.exists_finite
    {bound : Nat}
    {number : Double}
    (atLeast : AtLeast bound number)
    (bounded : number ≠ .infinite false) :
    ∃ significand exponent, number = .finite false significand exponent := by
  unfold AtLeast at atLeast
  split at atLeast
  · exact ⟨_, _, rfl⟩
  · exact absurd rfl bounded
  · exact atLeast.elim

theorem AtLeast.isZero_eq_false
    {bound : Nat}
    {number : Double}
    (atLeast : AtLeast bound number)
    (positive : 0 < bound) :
    number.isZero = false := by
  unfold AtLeast at atLeast
  split at atLeast
  · rename_i significand exponent
    refine decide_eq_false fun zero => ?_
    have none : (ratio significand exponent).1 = 0 := by
      rw [zero]
      cases exponent with
      | ofNat k => exact Nat.zero_mul _
      | negSucc k => rfl
    have some := Nat.mul_pos positive (ratio_pos significand exponent)
    omega
  · rfl
  · exact atLeast.elim

/-- A word of more than 60 bits becomes a finite double. -/
theorem ofNat_ne_infinite
    (lower : 2 ^ 60 ≤ n)
    (upper : n < 2 ^ 64) :
    Double.ofNat n ≠ .infinite false := by
  have nonzero : n ≠ 0 := by omega
  have least : 60 ≤ n.log2 := (Nat.le_log2 nonzero).mpr lower
  have greatest : n.log2 < 64 := (Nat.log2_lt nonzero).mpr upper
  obtain ⟨k, sum⟩ := Nat.exists_eq_add_of_le (Nat.le_trans (by decide : 52 ≤ 60) least)
  obtain ⟨significand, exponent, finite, -⟩ := @exists_ofNat_eq_finite k n
    (sum ▸ Nat.log2_self_le nonzero)
    (by
      have above := @Nat.lt_log2_self n
      rw [sum, Nat.add_right_comm] at above
      exact above)
    (by omega)
  rw [finite]
  exact Double.noConfusion

/-- The first digits of a number beyond the words become a double that is beyond them with one more
digit. -/
theorem atLeast_ofNat (large : Numeral.maxUInt64 ≤ n * 10 + 8) :
    AtLeast 1844674407370955264 (Double.ofNat n) := by
  have limit : Numeral.maxUInt64 = 18446744073709551615 := rfl
  by_cases small : n < 2 ^ 61
  · obtain ⟨significand, exponent, finite, multiple⟩ :=
      @exists_ofNat_eq_finite 8 n (by omega) small (by decide)
    rw [finite]
    change _ * (ratio significand exponent).2 ≤ (ratio significand exponent).1
    rw [multiple]
    dsimp only
    have rounded : 7205759403792794 ≤ roundHalfEven n (2 ^ 8) := by
      unfold roundHalfEven
      dsimp only
      split
      · omega
      · split
        · omega
        · split <;> omega
    omega
  · have powers : AtLeast (2 ^ 61) (Double.ofNat n) :=
      atLeast_roundRatio Nat.one_pos (by omega)
    exact powers.mono (by decide)

end Double

namespace Json

open Double (AtLeast)
open Numeral (isDigit maxUInt64)

theorem powerOfTen_ne_infinite : ∀ k < 309, powerOfTen k ≠ .infinite false := by
  decide +kernel

theorem atLeast_powerOfTen {k : Nat} (positive : 0 < k) : AtLeast 10 (powerOfTen k) := by
  by_cases one : k = 1
  · have ten : powerOfTen k = .finite false (10 * 2 ^ 49) (-49) := by
      rw [one]
      decide +kernel
    rw [ten]
    exact Nat.le_refl _
  · have large : 2 ^ 6 * 1 ≤ Nat.pow 10 k :=
      Nat.le_trans (by decide) (Nat.pow_le_pow_right (by decide) (by omega : 2 ≤ k))
    exact AtLeast.mono (by decide) (Double.atLeast_roundRatio Nat.one_pos large)

/-- A number of which digits are left over is none, or a double of more than 64 bits. -/
theorem scaled_of_dropped
    {number dropped : Nat}
    (fits : number ≤ maxUInt64)
    (large : maxUInt64 ≤ number * 10 + 8)
    (positive : 0 < dropped) :
    scaled number dropped = none ∨
      ∃ product, scaled number dropped = some product ∧ AtLeast (2 ^ 64) product := by
  have limit : maxUInt64 = 18446744073709551615 := rfl
  have first := Double.atLeast_ofNat large
  obtain ⟨significand, exponent, finite⟩ := first.exists_finite
    (Double.ofNat_ne_infinite (by omega) (by omega))
  change (if dropped ≤ 308 then _ else _) = _ ∨ ∃ product, (if dropped ≤ 308 then _ else _) = _ ∧ _
  by_cases bounded : dropped ≤ 308
  · have second := atLeast_powerOfTen positive
    obtain ⟨significand', exponent', finite'⟩ := second.exists_finite
      (powerOfTen_ne_infinite dropped (by omega))
    rw [finite] at first
    rw [finite'] at second
    -- Both factors have been rounded, but above bounds of which the product is beyond the words.
    have product := Double.atLeast_mulMagnitude first second (by decide : 2 ^ 64 ≤ _)
    simp only [if_pos bounded, finite, finite']
    split
    · exact .inl rfl
    · exact .inr ⟨_, rfl, product⟩
  · refine .inl ?_
    simp only [if_neg bounded, first.isZero_eq_false (by decide)]
    rfl

/-- From a number beyond the words a word is absorbed that is beyond them with one more digit, and
digits are left over. -/
theorem absorb_of_lt
    {digits : List Char}
    {number : Nat}
    (fits : number ≤ maxUInt64)
    (beyond : maxUInt64 < Numeral.valueAfter number digits) :
    (absorb number digits).1 ≤ maxUInt64 ∧ maxUInt64 ≤ (absorb number digits).1 * 10 + 8 ∧
      0 < (absorb number digits).2 := by
  induction digits generalizing number with
  | nil => exact absurd fits (Nat.not_le.mpr beyond)
  | cons c digits inductionHypothesis =>
      rw [Numeral.valueAfter_cons] at beyond
      rw [absorb]
      by_cases next : number * 10 + (Numeral.digit? c).getD 0 ≤ maxUInt64
      · rw [if_pos next]
        exact inductionHypothesis next beyond
      · have digit := Numeral.digit?_getD_le c
        rw [if_neg next]
        exact ⟨fits, by dsimp only; omega, Nat.succ_pos _⟩

/-- The digits of a number beyond the words stand for a double of more than 64 bits, or for no
number at all. -/
theorem numeral_toDigits_of_lt {n : Nat} (beyond : maxUInt64 < n) :
    numeral (Nat.toDigits 10 n) = .unreadable .closed ∨
      ∃ number, numeral (Nat.toDigits 10 n) = .real number ∧ AtLeast (2 ^ 64) number := by
  obtain ⟨fits, large, positive⟩ := @absorb_of_lt (Nat.toDigits 10 n) 0 (Nat.zero_le _)
    (by rw [Numeral.valueAfter_toDigits]; exact beyond)
  have read : numeral (Nat.toDigits 10 n) =
      realDocument false
        (scaled (absorb 0 (Nat.toDigits 10 n)).1 (absorb 0 (Nat.toDigits 10 n)).2) := by
    obtain ⟨c, rest, digits, digit⟩ := (isWhole_toDigits n).toIsDigits.exists_cons
    have magnitude := readMagnitude_end false (isWhole_toDigits n) endsValue_nil
    rw [List.append_nil, if_neg (Nat.ne_of_gt positive)] at magnitude
    unfold numeral
    rw [digits, readScalar_of_isDigit digit, ← digits, magnitude]
    rfl
  rw [read]
  obtain none | ⟨product, some, atLeast⟩ := scaled_of_dropped fits large positive
  · exact .inl (by rw [none]; rfl)
  · exact .inr ⟨product, by rw [some]; rfl, atLeast⟩

end Json
end AgentCohort
