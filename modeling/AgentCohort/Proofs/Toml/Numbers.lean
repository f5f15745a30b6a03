import AgentCohort.Proofs.Numeral
import AgentCohort.Toml.Document

/-!
# Plain whole numbers in TOML

A whole number in its usual digits is neither a date nor a time and has no base of its own.  It is
read as what it is if it fits a signed word of 64 bits, and refused otherwise.
-/

namespace AgentCohort
namespace Toml

open Numeral (EndsDigits isDigit)
open Settings (Tree)

/-- The characters that can follow a value: blanks, the end of a line, a comment, a comma and the
closing brackets. -/
def endMarks : List Char :=
  [' ', '\t', '\n', '\r', '#', ',', ']', '\x7d']

/-- Nothing, or a character that can follow a value. -/
def EndsValue (rest : List Char) : Prop :=
  ∀ c ∈ rest.head?, c ∈ endMarks

namespace EndsValue

variable {c : Char} {rest : List Char}

/-- What all such characters have in common. -/
theorem of_all {p : Char → Bool} (all : endMarks.all p = true) (ends : EndsValue (c :: rest)) :
    p c = true :=
  List.all_eq_true.mp all c (ends c rfl)

theorem isDigitIn (ends : EndsValue (c :: rest)) : Text.isDigitIn 10 c = false := by
  have others : endMarks.all (fun mark => Text.isDigitIn 10 mark = false) = true := by
    decide
  exact of_decide_eq_true (of_all others ends)

theorem endsDigits (ends : EndsValue rest) : EndsDigits rest := by
  cases rest with
  | nil =>
      intro c first
      cases first
  | cons c rest =>
      have others : endMarks.all (fun mark => isDigit mark = false) = true := by
        decide
      exact Numeral.endsDigits_cons (of_decide_eq_true (of_all others ends))

/-- Such a character goes on with no number, date or time. -/
theorem ne (ends : EndsValue (c :: rest)) :
    c ≠ '-' ∧ c ≠ ':' ∧ c ≠ '_' ∧ c ≠ '.' ∧ c ≠ 'e' ∧ c ≠ 'E' ∧ c ≠ 'x' ∧ c ≠ 'o' ∧ c ≠ 'b' := by
  have others : endMarks.all (fun mark => decide (mark ≠ '-' ∧ mark ≠ ':' ∧ mark ≠ '_' ∧
      mark ≠ '.' ∧ mark ≠ 'e' ∧ mark ≠ 'E' ∧ mark ≠ 'x' ∧ mark ≠ 'o' ∧ mark ≠ 'b')) = true := by
    decide
  exact of_decide_eq_true (of_all others ends)

end EndsValue

variable {n : Nat} {digits tail : List Char}

theorem isDigitIn_of_isDigit {c : Char} (digit : isDigit c = true) :
    Text.isDigitIn 10 c = true := by
  have read := Numeral.digit?_of_isDigit digit
  unfold Numeral.digit? at read
  split at read
  · rename_i inside
    have upper : c.toNat ≤ '9'.toNat := inside.2
    have small : c.toNat - '0'.toNat < 10 := by
      simp only [Char.reduceToNat] at upper ⊢
      omega
    unfold Text.isDigitIn Text.digitIn? Text.hexDigit?
    rw [if_pos inside, Option.filter_some, if_pos (decide_eq_true small)]
    rfl
  · cases read

/-! ## Neither dates nor times -/

/-- A date goes on with a hyphen after its digits. -/
theorem beginsDate_append
    (all : ∀ c ∈ digits, isDigit c = true)
    (ends : EndsValue tail) :
    beginsDate (digits ++ tail) = false := by
  obtain ⟨-, dropped⟩ := Numeral.takeWhile_isDigit_append all ends.endsDigits
  unfold beginsDate
  split
  · rename_i a b c d rest same
    apply Bool.eq_false_iff.mpr
    intro year
    simp only [List.all_cons, List.all_nil, Bool.and_true, Bool.and_eq_true] at year
    have hyphen : isDigit '-' = false := by
      decide
    rw [same] at dropped
    simp only [List.dropWhile_cons, year.1, year.2.1, year.2.2.1, year.2.2.2, hyphen] at dropped
    cases dropped
    exact absurd rfl ends.ne.1
  · rfl

theorem exists_of_readTwoDigits
    {cs rest : List Char}
    {number : Nat}
    (read : readTwoDigits cs = some (number, rest)) :
    ∃ a b, cs = a :: b :: rest ∧ isDigit a = true ∧ isDigit b = true := by
  unfold readTwoDigits at read
  split at read
  · rename_i a b after
    split at read
    · rename_i tens ones first second
      cases read
      exact ⟨a, b, rfl, by rw [isDigit, first]; rfl, by rw [isDigit, second]; rfl⟩
    · cases read
  · cases read

/-- A time goes on with a colon after its hour. -/
theorem beginsTime_append
    (all : ∀ c ∈ digits, isDigit c = true)
    (ends : EndsValue tail) :
    beginsTime (digits ++ tail) = false := by
  obtain ⟨-, dropped⟩ := Numeral.takeWhile_isDigit_append all ends.endsDigits
  unfold beginsTime
  split
  · rename_i hour rest read
    obtain ⟨a, b, same, first, second⟩ :=
      exists_of_readTwoDigits (Option.filter_eq_some_iff.mp read).1
    have colon : isDigit ':' = false := by
      decide
    rw [same] at dropped
    simp only [List.dropWhile_cons, first, second, colon] at dropped
    cases dropped
    exact absurd rfl ends.ne.2.1
  · rfl

/-! ## Digits -/

theorem readMoreDigits_append
    (all : ∀ c ∈ digits, isDigit c = true)
    (ends : EndsValue tail) :
    readMoreDigits 10 (digits ++ tail) = some (digits, tail) := by
  induction digits with
  | nil =>
      cases tail with
      | nil => rfl
      | cons c tail =>
          have other := ends.isDigitIn
          obtain ⟨-, -, underscore, -⟩ := ends.ne
          rw [List.nil_append]
          unfold readMoreDigits
          split
          · rename_i same
            cases same
            exact absurd rfl underscore
          · rename_i same
            cases same
            exact absurd rfl underscore
          · rename_i same
            cases same
            rw [other]
            rfl
          · rename_i same
            cases same
  | cons c digits inductionHypothesis =>
      rw [List.forall_mem_cons] at all
      have digit := isDigitIn_of_isDigit all.1
      rw [List.cons_append]
      unfold readMoreDigits
      split
      · rename_i same
        rw [(List.cons.inj same).1] at all
        cases all.1
      · rename_i same
        rw [(List.cons.inj same).1] at all
        cases all.1
      · rename_i same
        obtain ⟨rfl, rfl⟩ := List.cons.inj same
        rw [digit, if_pos rfl, inductionHypothesis all.2]
        rfl
      · rename_i same
        exact absurd same (List.cons_ne_nil _ _)

/-- The digits of a whole number are taken off before whatever can follow a value. -/
theorem readWhole_append (ends : EndsValue tail) :
    readWhole (Nat.toDigits 10 n ++ tail) = some (Nat.toDigits 10 n, tail) := by
  obtain ⟨c, rest, digits, digit⟩ := Numeral.exists_toDigits_cons n
  have all : ∀ c ∈ Nat.toDigits 10 n, isDigit c = true := fun _ => Numeral.isDigit_of_mem_toDigits
  unfold readWhole
  split
  · rename_i after same
    rw [digits] at same
    cases same
    have alone := Numeral.toDigits_eq_of_head?_eq_zero (by rw [digits]; rfl)
    rw [alone] at digits
    cases digits
    rw [alone]
    rfl
  · rw [digits] at all ⊢
    rw [List.forall_mem_cons] at all
    rw [List.cons_append, readDigits, isDigitIn_of_isDigit digit,
      readMoreDigits_append all.2 ends]
    rfl

/-- A plain whole number is read as such if it fits, and refused otherwise. -/
theorem readDecimal_append (ends : EndsValue tail) :
    readDecimal false (Nat.toDigits 10 n ++ tail) =
      if n ≤ Numeral.maxInt64 then some (.integer n, tail) else none := by
  have exponent : readExponent tail = some ([], tail) := by
    cases tail with
    | nil => rfl
    | cons c tail =>
        obtain ⟨-, -, -, -, small, capital, -⟩ := ends.ne
        exact if_neg (not_or.mpr ⟨small, capital⟩)
  unfold readDecimal
  rw [readWhole_append ends]
  dsimp only [Option.bind_eq_bind, Option.bind_some]
  split
  · exact absurd rfl ends.ne.2.2.2.1
  · rw [exponent, Option.bind_some, if_pos rfl, Numeral.valueOf_toDigits]
    rfl

/-- The digit that a number begins with is no sign, no base and no word. -/
theorem readNumber_append (ends : EndsValue tail) :
    readNumber (Nat.toDigits 10 n ++ tail) = readDecimal false (Nat.toDigits 10 n ++ tail) := by
  obtain ⟨c, rest, digits, digit⟩ := Numeral.exists_toDigits_cons n
  have based : ∀ mark after, Nat.toDigits 10 n ++ tail = '0' :: mark :: after →
      mark ≠ 'x' ∧ mark ≠ 'o' ∧ mark ≠ 'b' := by
    intro mark after same
    have alone := Numeral.toDigits_eq_of_head?_eq_zero (n := n) (by
      rw [digits] at same ⊢
      exact congrArg some (List.cons.inj same).1)
    rw [alone] at same
    cases same
    exact ends.ne.2.2.2.2.2.2
  unfold readNumber
  split
  · rename_i same
    exact absurd rfl (based _ _ same).1
  · rename_i same
    exact absurd rfl (based _ _ same).2.1
  · rename_i same
    exact absurd rfl (based _ _ same).2.2
  · rename_i same
    rw [digits] at same
    cases same
    cases digit
  · rename_i same
    rw [digits] at same
    cases same
    cases digit
  · unfold readMagnitude
    split
    · rename_i same
      rw [digits] at same
      rw [(List.cons.inj same).1] at digit
      cases digit
    · rename_i same
      rw [digits] at same
      rw [(List.cons.inj same).1] at digit
      cases digit
    · rfl

/-- So it is as a value. -/
theorem readScalar_append (ends : EndsValue tail) :
    readScalar (Nat.toDigits 10 n ++ tail) =
      if n ≤ Numeral.maxInt64 then some (.scalar none (.integer n), tail) else none := by
  obtain ⟨c, rest, digits, digit⟩ := Numeral.exists_toDigits_cons n
  have all : ∀ c ∈ Nat.toDigits 10 n, isDigit c = true := fun _ => Numeral.isDigit_of_mem_toDigits
  have number := readNumber_append (n := n) ends
  have date := beginsDate_append all ends
  have time := beginsTime_append all ends
  rw [readDecimal_append ends] at number
  rw [digits, List.cons_append] at number date time ⊢
  have other : ¬ (c = '"' ∨ c = '\'') ∧ c ≠ 't' ∧ c ≠ 'f' := by
    refine ⟨?_, ?_, ?_⟩
    · rintro (rfl | rfl) <;> cases digit
    · rintro rfl
      cases digit
    · rintro rfl
      cases digit
  rw [readScalar, if_neg other.1, if_neg other.2.1, if_neg other.2.2, date, time, number]
  by_cases fits : n ≤ Numeral.maxInt64
  · rw [if_pos fits, if_pos fits]
    rfl
  · rw [if_neg fits, if_neg fits]
    rfl

end Toml
end AgentCohort
