import AgentCohort.Proofs.Text.Trimming
import AgentCohort.Text.Digits

/-!
# Digits that are read back

In every base up to sixteen the digits that a number is written with are digits of that base and
stand for that number.  None of them is a blank or a mark between numbers.
-/

namespace AgentCohort
namespace Text

variable {base n : Nat}

/-- What holds of the sixteen digits holds of the digits of a number. -/
theorem forall_mem_toDigits
    (holds : Char → Prop)
    (twoDigits : 1 < base)
    (known : ∀ digit < base, holds (Nat.digitChar digit)) :
    ∀ c ∈ Nat.toDigits base n, holds c := by
  induction n using Nat.strongRecOn with
  | ind n inductionHypothesis =>
      intro c present
      by_cases small : n < base
      · rw [Nat.toDigits_of_lt_base small, List.mem_singleton] at present
        rw [present]
        exact known n small
      · have large : base ≤ n := Nat.not_lt.mp small
        rw [Nat.toDigits_of_base_le twoDigits large, List.mem_append, List.mem_singleton] at present
        rcases present with front | rfl
        · exact inductionHypothesis (n / base) (Nat.div_lt_self (by omega) twoDigits) c front
        · exact known (n % base) (Nat.mod_lt n (by omega))

theorem digitIn?_digitChar {digit : Nat} (small : digit < base) (fits : base ≤ 16) :
    digitIn? base (Nat.digitChar digit) = some digit := by
  have known : ∀ digit < 16, hexDigit? (Nat.digitChar digit) = some digit := by decide
  unfold digitIn?
  rw [known digit (by omega), Option.filter_some, if_pos (decide_eq_true small)]

theorem isDigitIn_of_mem_toDigits
    {c : Char}
    (twoDigits : 1 < base)
    (fits : base ≤ 16)
    (present : c ∈ Nat.toDigits base n) :
    isDigitIn base c = true := by
  refine forall_mem_toDigits (isDigitIn base · = true) twoDigits (fun digit small => ?_) c present
  unfold isDigitIn
  rw [digitIn?_digitChar small fits]
  rfl

/-- The digits of a number are neither blank nor a mark between numbers. -/
theorem plain_of_mem_toDigits
    {c : Char}
    (twoDigits : 1 < base)
    (fits : base ≤ 16)
    (present : c ∈ Nat.toDigits base n) :
    isBlank c = false ∧ c ≠ ':' ∧ c ≠ '.' ∧ c ≠ '[' := by
  have known : ∀ digit < 16, isBlank (Nat.digitChar digit) = false ∧
      Nat.digitChar digit ≠ ':' ∧ Nat.digitChar digit ≠ '.' ∧ Nat.digitChar digit ≠ '[' := by
    decide
  exact forall_mem_toDigits (fun c => isBlank c = false ∧ c ≠ ':' ∧ c ≠ '.' ∧ c ≠ '[') twoDigits
    (fun digit small => known digit (by omega)) c present

theorem valueIn_concat (base : Nat) (digits : List Char) (c : Char) :
    valueIn base (digits ++ [c]) = valueIn base digits * base + (digitIn? base c).getD 0 := by
  unfold valueIn
  rw [List.foldl_append]
  rfl

/-- The digits of a number stand for it. -/
theorem valueIn_toDigits (twoDigits : 1 < base) (fits : base ≤ 16) (n : Nat) :
    valueIn base (Nat.toDigits base n) = n := by
  induction n using Nat.strongRecOn with
  | ind n inductionHypothesis =>
      by_cases small : n < base
      · have digit := valueIn_concat base [] (Nat.digitChar n)
        rw [digitIn?_digitChar small fits] at digit
        rw [Nat.toDigits_of_lt_base small]
        exact digit.trans (by simp [valueIn])
      · have large : base ≤ n := Nat.not_lt.mp small
        rw [Nat.toDigits_of_base_le twoDigits large, valueIn_concat,
          inductionHypothesis (n / base) (Nat.div_lt_self (by omega) twoDigits),
          digitIn?_digitChar (Nat.mod_lt n (by omega)) fits]
        exact Nat.div_add_mod' n base

end Text
end AgentCohort
