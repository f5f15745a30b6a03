import AgentCohort.Proofs.Double.Rounding
import AgentCohort.Proofs.Settings.Variables
import AgentCohort.Settings.JsonFile

/-!
# What becomes of whole numbers

A signed word of 64 bits stays what it is.  A greater number is kept as a double, and where a word
is wanted it comes back as a multiple of 2048 or as the largest word.
-/

namespace AgentCohort
namespace Settings

open Double (roundHalfEven)
open Numeral (isDigit maxInt64 maxUInt64)

variable {n : Nat}

/-- The word that comes back for a whole number: the number itself if it is a signed word, and
otherwise the nearest multiple of 2048, at most the largest word. -/
def wordOf (n : Nat) : Nat :=
  if n ≤ maxInt64 then n else min maxUInt64 (2048 * roundHalfEven n 2048)

theorem wordOf_le (n : Nat) : wordOf n ≤ maxUInt64 := by
  unfold wordOf
  split
  · rename_i fits
    exact Nat.le_trans fits (by decide)
  · exact Nat.min_le_left _ _

/-- A number that is no signed word comes back as none. -/
theorem maxInt64_lt_wordOf (beyond : maxInt64 < n) : maxInt64 < wordOf n := by
  have limit : maxInt64 = 2 ^ 63 - 1 := rfl
  have limit' : maxUInt64 = 2 ^ 64 - 1 := rfl
  have multiple := Double.div_le_roundHalfEven n 2048
  rw [wordOf, if_neg (Nat.not_le.mpr beyond)]
  omega

/-- A value carries a whole number as far as it can: as it is if it is a signed word, and otherwise
as a double that comes back as the same word. -/
def Carries (n : Nat) (value : Scalar) : Prop :=
  if n ≤ maxInt64 then value = .integer n
  else ∃ number, value = .real number ∧ number.toNatSaturating maxUInt64 = wordOf n

theorem carries_integer (fits : n ≤ maxInt64) : Carries n (.integer n) := by
  rw [Carries, if_pos fits]

theorem carries_real
    {number : Double}
    (beyond : maxInt64 < n)
    (rounded : number.toNatSaturating maxUInt64 =
      min maxUInt64 (2048 * roundHalfEven n 2048)) :
    Carries n (.real number) := by
  rw [Carries, if_neg (Nat.not_le.mpr beyond), wordOf, if_neg (Nat.not_le.mpr beyond)]
  exact ⟨number, rfl, rounded⟩

/-- The digits in a variable stand for a value that carries their number. -/
theorem carries_scalarOf_digits
    {digits : List Char}
    (nonempty : digits ≠ [])
    (all : ∀ c ∈ digits, isDigit c = true) :
    Carries (Numeral.valueOf digits) (Environment.scalarOf (String.ofList digits)) := by
  rw [Environment.scalarOf_digits nonempty all]
  split
  · rename_i fits
    exact carries_integer fits
  · rename_i beyond
    have limit : maxInt64 = 2 ^ 63 - 1 := rfl
    exact carries_real (Nat.lt_of_not_le beyond) (Double.toNatSaturating_ofDecimal (by omega))

/-- A word in JSON becomes a value that carries it. -/
theorem carries_wholeNumber (n : Nat) : Carries n (JsonFile.wholeNumber n) := by
  unfold JsonFile.wholeNumber
  split
  · rename_i fits
    exact carries_integer (Int.ofNat_le.mp fits)
  · rename_i beyond
    have limit : maxInt64 = 2 ^ 63 - 1 := rfl
    rw [Int.toNat_natCast]
    exact carries_real (by omega) (Double.toNatSaturating_ofNat (by omega))

/-- A double of more than 64 bits carries every number of more than 64 bits. -/
theorem carries_atLeast
    {number : Double}
    (beyond : maxUInt64 < n)
    (atLeast : number.AtLeast (2 ^ 64)) :
    Carries n (.real number) := by
  have limit : maxUInt64 = 2 ^ 64 - 1 := rfl
  have limit' : maxInt64 = 2 ^ 63 - 1 := rfl
  have multiple := Double.div_le_roundHalfEven n 2048
  refine carries_real (by omega) ?_
  rw [atLeast.toNatSaturating_eq (by rw [limit]; omega)]
  omega

end Settings
end AgentCohort
