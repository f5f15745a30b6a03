import AgentCohort.Proofs.Json.Grammar
import AgentCohort.Proofs.Numeral

/-!
# Numbers are read as they are spelled

The reader takes a numeral off as a whole: what it makes of the digits does not depend on what
comes after them, as long as that can come after a value.  It always makes a number of them or
finds that they have no value.
-/

namespace AgentCohort
namespace Json

open Numeral (isDigit EndsDigits)

/-- Nothing, or something that may come after a value. -/
def EndsValue (rest : List Char) : Prop :=
  ∀ c ∈ rest.head?, isSpace c = true ∨ c ∈ [',', ']', '\x7d']

/-- What a numeral stands for: a number, or nothing if it is beyond all bounds. -/
inductive IsNumeric : Document → Prop
  | integer (value : Int) : IsNumeric (.integer value)
  | real (value : Double) : IsNumeric (.real value)
  | unreadable : IsNumeric (.unreadable .closed)

/-- A reader makes the same number of some characters whatever comes after them. -/
def ReadsNumber (read : List Char → Document × List Char) (cs : List Char) : Prop :=
  ∃ document, IsNumeric document ∧ ∀ rest, EndsValue rest → read (cs ++ rest) = (document, rest)

theorem endsValue_nil : EndsValue [] := by
  intro c present
  cases present

theorem endsValue_cons_of_isSpace {c : Char} {rest : List Char} (blank : isSpace c = true) :
    EndsValue (c :: rest) := by
  intro first present
  cases present
  exact .inl blank

theorem endsValue_cons_of_mem {c : Char} {rest : List Char} (mark : c ∈ [',', ']', '\x7d']) :
    EndsValue (c :: rest) := by
  intro first present
  cases present
  exact .inr mark

namespace EndsValue

variable {c : Char}
variable {rest : List Char}

/-- Neither a digit nor another part of a number comes after a value. -/
theorem notInNumber (ends : EndsValue (c :: rest)) :
    isDigit c = false ∧ c ≠ '.' ∧ c ≠ 'e' ∧ c ≠ 'E' := by
  rcases ends c rfl with blank | mark
  · unfold isSpace at blank
    simp only [Bool.or_eq_true, decide_eq_true_iff] at blank
    rcases blank with ((rfl | rfl) | rfl) | rfl <;> decide
  · simp only [List.mem_cons, List.not_mem_nil, or_false] at mark
    rcases mark with rfl | rfl | rfl <;> decide

theorem endsDigits (ends : EndsValue rest) : EndsDigits rest := by
  cases rest with
  | nil =>
      intro c present
      cases present
  | cons c rest => exact Numeral.endsDigits_cons ends.notInNumber.1

end EndsValue

/-! ## The parts of a number -/

theorem isNumeric_realDocument (negative : Bool) (value? : Option Double) :
    IsNumeric (realDocument negative value?) := by
  cases value? with
  | none => exact .unreadable
  | some value => exact .real _

theorem isNumeric_integerDocument (negative : Bool) (number : Nat) :
    IsNumeric (integerDocument negative number) := by
  unfold integerDocument
  split
  · split
    · exact .real _
    · exact .integer _
  · exact .integer _

theorem IsDigits.exists_cons {digits : List Char} (written : IsDigits digits) :
    ∃ c rest, digits = c :: rest ∧ isDigit c = true := by
  cases digits with
  | nil => exact absurd rfl written.nonempty
  | cons c rest => exact ⟨c, rest, rfl, written.digits c List.mem_cons_self⟩

theorem ne_sign_of_isDigit {c : Char} (digit : isDigit c = true) : c ≠ '+' ∧ c ≠ '-' := by
  constructor <;> (rintro rfl; cases digit)

/-- A number with the digits of its exponent, of which the sign is known. -/
def withExponent
    (negative : Bool)
    (significand : Nat)
    (exponent : Int)
    (downward : Bool)
    (digits : List Char) : Document :=
  if greatestWrittenExponent < Numeral.valueOf digits then
    if significand ≠ 0 ∧ ¬ downward then .unreadable .closed else .real (.zero negative)
  else
    realDocument negative (scaled significand
      (if downward then exponent - Numeral.valueOf digits
        else exponent + Numeral.valueOf digits))

theorem isNumeric_withExponent
    (negative : Bool)
    (significand : Nat)
    (exponent : Int)
    (downward : Bool)
    (digits : List Char) :
    IsNumeric (withExponent negative significand exponent downward digits) := by
  unfold withExponent
  split
  · split
    · exact .unreadable
    · exact .real _
  · exact isNumeric_realDocument _ _

/-- What is read after the sign of an exponent. -/
def readUnsigned
    (negative : Bool)
    (significand : Nat)
    (exponent : Int)
    (downward : Bool)
    (cs : List Char) : Document × List Char :=
  let digits := cs.takeWhile isDigit
  let rest := cs.dropWhile isDigit
  if digits = [] then
    (.brokenWord (if rest = [] then .endOfText else .malformed), [])
  else
    let written := Numeral.valueOf digits
    if greatestWrittenExponent < written then
      if significand ≠ 0 ∧ ¬ downward then
        (.unreadable .closed, rest)
      else
        (.real (.zero negative), rest)
    else
      let total := if downward then exponent - written else exponent + written
      (realDocument negative (scaled significand total), rest)

theorem readExponent_of_isDigit
    (negative : Bool)
    (significand : Nat)
    (exponent : Int)
    {c : Char}
    (digit : isDigit c = true)
    (cs : List Char) :
    readExponent negative significand exponent (c :: cs) =
      readUnsigned negative significand exponent false (c :: cs) := by
  obtain ⟨noPlus, noMinus⟩ := ne_sign_of_isDigit digit
  unfold readExponent readUnsigned
  simp [noPlus, noMinus]

theorem readUnsigned_append
    (negative : Bool)
    (significand : Nat)
    (exponent : Int)
    (downward : Bool)
    {digits rest : List Char}
    (written : IsDigits digits)
    (ends : EndsValue rest) :
    readUnsigned negative significand exponent downward (digits ++ rest) =
      (withExponent negative significand exponent downward digits, rest) := by
  obtain ⟨taken, dropped⟩ := Numeral.takeWhile_isDigit_append written.digits ends.endsDigits
  unfold readUnsigned withExponent
  dsimp only
  rw [taken, dropped, if_neg written.nonempty]
  split
  · split <;> rfl
  · rfl

/-- The digits of an exponent decide what is read. -/
theorem readsNumber_readExponent
    (negative : Bool)
    (significand : Nat)
    (exponent : Int)
    {sign digits : List Char}
    (signed : sign ∈ [[], ['+'], ['-']])
    (written : IsDigits digits) :
    ReadsNumber (readExponent negative significand exponent) (sign ++ digits) := by
  simp only [List.mem_cons, List.not_mem_nil, or_false] at signed
  rcases signed with rfl | rfl | rfl
  · refine ⟨_, isNumeric_withExponent negative significand exponent false digits, ?_⟩
    intro rest ends
    obtain ⟨c, tail, rfl, digit⟩ := written.exists_cons
    rw [← readUnsigned_append negative significand exponent false written ends]
    exact readExponent_of_isDigit negative significand exponent digit (tail ++ rest)
  · refine ⟨_, isNumeric_withExponent negative significand exponent false digits, ?_⟩
    intro rest ends
    rw [← readUnsigned_append negative significand exponent false written ends]
    rfl
  · refine ⟨_, isNumeric_withExponent negative significand exponent true digits, ?_⟩
    intro rest ends
    rw [← readUnsigned_append negative significand exponent true written ends]
    rfl

/-- So does an exponent, or none. -/
theorem readsNumber_readScale
    (negative : Bool)
    (significand : Nat)
    (exponent : Int)
    {written : List Char}
    (isExponent : IsExponent written) :
    ReadsNumber (readScale negative significand exponent) written := by
  cases isExponent with
  | none =>
      refine ⟨_, isNumeric_realDocument negative (scaled significand exponent), ?_⟩
      intro rest ends
      cases rest with
      | nil => rfl
      | cons c rest =>
          obtain ⟨_, _, small, capital⟩ := ends.notInNumber
          simp [readScale, small, capital]
  | power marked signed digits =>
      obtain ⟨document, numeric, read⟩ :=
        readsNumber_readExponent negative significand exponent signed digits
      refine ⟨document, numeric, fun rest ends => ?_⟩
      rcases marked with rfl | rfl
      · exact read rest ends
      · exact read rest ends

/-- What comes after the digits of a number begins with no digit. -/
theorem IsExponent.endsDigits
    {written rest : List Char}
    (isExponent : IsExponent written)
    (ends : EndsValue rest) :
    EndsDigits (written ++ rest) := by
  cases isExponent with
  | none => exact ends.endsDigits
  | power marked signed digits =>
      apply Numeral.endsDigits_cons
      rcases marked with rfl | rfl <;> rfl

theorem readsNumber_readDecimals
    (negative : Bool)
    (significand : Nat)
    (exponent : Int)
    {digits written : List Char}
    (isDigits : IsDigits digits)
    (isExponent : IsExponent written) :
    ReadsNumber (readDecimals negative significand exponent) (digits ++ written) := by
  obtain ⟨document, numeric, read⟩ := readsNumber_readScale negative
    (absorb significand digits).1
    (exponent - (digits.length - (absorb significand digits).2 : Nat)) isExponent
  refine ⟨document, numeric, fun rest ends => ?_⟩
  obtain ⟨taken, dropped⟩ :=
    Numeral.takeWhile_isDigit_append isDigits.digits (isExponent.endsDigits ends)
  unfold readDecimals
  rw [List.append_assoc]
  dsimp only
  rw [taken, dropped, if_neg isDigits.nonempty]
  exact read rest ends

section Magnitude

variable {whole : List Char}

/-- The digits before a point or an exponent are taken off as a whole. -/
theorem IsWhole.taken (isWhole : IsWhole whole) {rest : List Char} (ends : EndsDigits rest) :
    (whole ++ rest).takeWhile isDigit = whole ∧ (whole ++ rest).dropWhile isDigit = rest ∧
      ¬ (whole.head? = some '0' ∧ 1 < whole.length) := by
  obtain ⟨taken, dropped⟩ := Numeral.takeWhile_isDigit_append isWhole.digits ends
  refine ⟨taken, dropped, ?_⟩
  rintro ⟨zero, long⟩
  rw [isWhole.zero zero] at long
  exact absurd long (Nat.lt_irrefl 1)

theorem readMagnitude_point (negative : Bool) (isWhole : IsWhole whole) (rest : List Char) :
    readMagnitude negative (whole ++ '.' :: rest) =
      readDecimals negative (absorb 0 whole).1 (absorb 0 whole).2 rest := by
  obtain ⟨taken, dropped, single⟩ :=
    isWhole.taken (Numeral.endsDigits_cons (by rfl : isDigit '.' = false))
  unfold readMagnitude
  rewrite [taken, dropped, if_neg isWhole.nonempty, if_neg single]
  rfl

theorem readMagnitude_exponent
    (negative : Bool)
    (isWhole : IsWhole whole)
    {mark : Char}
    (marked : mark = 'e' ∨ mark = 'E')
    (rest : List Char) :
    readMagnitude negative (whole ++ mark :: rest) =
      readScale negative (absorb 0 whole).1 (absorb 0 whole).2 (mark :: rest) := by
  have other : isDigit mark = false := by rcases marked with rfl | rfl <;> rfl
  obtain ⟨taken, dropped, single⟩ := isWhole.taken (Numeral.endsDigits_cons other)
  unfold readMagnitude
  rewrite [taken, dropped, if_neg isWhole.nonempty, if_neg single]
  rcases marked with rfl | rfl
  · rfl
  · rfl

/-- Without decimals and exponent a number is whole if it fits a word. -/
theorem readMagnitude_end
    (negative : Bool)
    (isWhole : IsWhole whole)
    {rest : List Char}
    (ends : EndsValue rest) :
    readMagnitude negative (whole ++ rest) =
      if (absorb 0 whole).2 = 0 then (integerDocument negative (absorb 0 whole).1, rest)
      else readScale negative (absorb 0 whole).1 (absorb 0 whole).2 rest := by
  obtain ⟨taken, dropped, single⟩ := isWhole.taken ends.endsDigits
  unfold readMagnitude
  rewrite [taken, dropped, if_neg isWhole.nonempty, if_neg single]
  cases rest with
  | nil => rfl
  | cons c rest =>
      obtain ⟨_, point, small, capital⟩ := ends.notInNumber
      simp [point, small, capital]

theorem readsNumber_readMagnitude
    (negative : Bool)
    {fraction written : List Char}
    (isWhole : IsWhole whole)
    (isFraction : IsFraction fraction)
    (isExponent : IsExponent written) :
    ReadsNumber (readMagnitude negative) (whole ++ (fraction ++ written)) := by
  cases isFraction with
  | decimals isDigits =>
      obtain ⟨document, numeric, read⟩ := readsNumber_readDecimals negative
        (absorb 0 whole).1 (absorb 0 whole).2 isDigits isExponent
      refine ⟨document, numeric, fun rest ends => ?_⟩
      rw [List.append_assoc, List.cons_append, List.cons_append,
        readMagnitude_point negative isWhole]
      exact read rest ends
  | none =>
      obtain ⟨document, numeric, read⟩ := readsNumber_readScale negative
        (absorb 0 whole).1 (absorb 0 whole).2 isExponent
      cases isExponent with
      | power marked signed digits =>
          refine ⟨document, numeric, fun rest ends => ?_⟩
          rw [List.nil_append, List.append_assoc, List.cons_append,
            readMagnitude_exponent negative isWhole marked]
          exact read rest ends
      | none =>
          rw [List.nil_append, List.append_nil]
          by_cases fits : (absorb 0 whole).2 = 0
          · refine ⟨_, isNumeric_integerDocument negative (absorb 0 whole).1, ?_⟩
            intro rest ends
            rw [readMagnitude_end negative isWhole ends, if_pos fits]
          · refine ⟨document, numeric, fun rest ends => ?_⟩
            rw [readMagnitude_end negative isWhole ends, if_neg fits]
            exact read rest ends

end Magnitude

/-! ## Whole numbers -/

theorem readScalar_of_isDigit {c : Char} (digit : isDigit c = true) (cs : List Char) :
    readScalar (c :: cs) = readMagnitude false (c :: cs) := by
  unfold readScalar
  split
  case h_7 same => cases same; rw [if_pos digit]
  all_goals
    rename_i same
    cases same
  all_goals cases digit

/-- A numeral is taken off as a whole. -/
theorem readsNumber_readScalar {cs : List Char} (written : IsNumber cs) :
    ReadsNumber readScalar cs := by
  obtain ⟨signed, isWhole, isFraction, isExponent⟩ := written
  simp only [List.mem_cons, List.not_mem_nil, or_false] at signed
  rcases signed with rfl | rfl
  · obtain ⟨document, numeric, read⟩ :=
      readsNumber_readMagnitude false isWhole isFraction isExponent
    refine ⟨document, numeric, fun rest ends => ?_⟩
    obtain ⟨c, tail, rfl, digit⟩ := isWhole.toIsDigits.exists_cons
    rw [← read rest ends]
    exact readScalar_of_isDigit digit _
  · obtain ⟨document, numeric, read⟩ :=
      readsNumber_readMagnitude true isWhole isFraction isExponent
    refine ⟨document, numeric, fun rest ends => ?_⟩
    exact read rest ends

/-- A numeral stands for a number or has no value. -/
theorem IsNumber.isNumeric {cs : List Char} (written : IsNumber cs) : IsNumeric (numeral cs) := by
  obtain ⟨document, numeric, read⟩ := readsNumber_readScalar written
  have alone := read [] endsValue_nil
  rw [List.append_nil] at alone
  unfold numeral
  rw [alone]
  exact numeric

/-- A numeral is read for the number that it stands for. -/
theorem IsNumber.read
    {cs rest : List Char}
    (written : IsNumber cs)
    (ends : EndsValue rest) :
    readScalar (cs ++ rest) = (numeral cs, rest) := by
  obtain ⟨document, _, read⟩ := readsNumber_readScalar written
  have alone := read [] endsValue_nil
  rw [List.append_nil] at alone
  unfold numeral
  rw [read rest ends, alone]

theorem IsNumber.exists_cons {cs : List Char} (written : IsNumber cs) :
    ∃ c rest, cs = c :: rest ∧ (isDigit c = true ∨ c = '-') := by
  obtain ⟨signed, isWhole, _, _⟩ := written
  simp only [List.mem_cons, List.not_mem_nil, or_false] at signed
  obtain ⟨c, tail, rfl, digit⟩ := isWhole.toIsDigits.exists_cons
  rcases signed with rfl | rfl
  · exact ⟨c, _, rfl, .inl digit⟩
  · exact ⟨'-', _, rfl, .inr rfl⟩

/-! ## Integers -/

theorem isWhole_toDigits (n : Nat) : IsWhole (Nat.toDigits 10 n) where
  nonempty := Nat.toDigits_ne_nil
  digits _ := Numeral.isDigit_of_mem_toDigits
  zero := Numeral.toDigits_eq_of_head?_eq_zero

theorem isNumber_toDigits (n : Nat) : IsNumber (Nat.toDigits 10 n) := by
  have written : IsNumber ([] ++ (Nat.toDigits 10 n ++ ([] ++ []))) :=
    .mk (by simp) (isWhole_toDigits n) .none .none
  simpa using written

theorem isNumber_negative (n : Nat) : IsNumber ('-' :: Nat.toDigits 10 n) := by
  have written : IsNumber (['-'] ++ (Nat.toDigits 10 n ++ ([] ++ []))) :=
    .mk (by simp) (isWhole_toDigits n) .none .none
  simpa using written

/-- All digits of a number that fits a word are absorbed. -/
theorem absorb_of_fits
    {digits : List Char}
    {number : Nat}
    (fits : Numeral.valueAfter number digits ≤ Numeral.maxUInt64) :
    absorb number digits = (Numeral.valueAfter number digits, 0) := by
  induction digits generalizing number with
  | nil => rfl
  | cons c digits inductionHypothesis =>
      rw [Numeral.valueAfter_cons] at fits ⊢
      have bound := Numeral.le_valueAfter (number * 10 + (Numeral.digit? c).getD 0) digits
      rw [absorb, if_pos (by omega)]
      exact inductionHypothesis fits

theorem absorb_toDigits {n : Nat} (fits : n ≤ Numeral.maxUInt64) :
    absorb 0 (Nat.toDigits 10 n) = (n, 0) := by
  have value : Numeral.valueAfter 0 (Nat.toDigits 10 n) = n := by
    rw [Numeral.valueAfter_zero, Numeral.valueOf_toDigits]
  rw [absorb_of_fits (by omega), value]

theorem readMagnitude_toDigits {n : Nat} (fits : n ≤ Numeral.maxUInt64) (negative : Bool) :
    readMagnitude negative (Nat.toDigits 10 n) = (integerDocument negative n, []) := by
  have read := readMagnitude_end negative (isWhole_toDigits n) endsValue_nil
  rw [List.append_nil, absorb_toDigits fits, if_pos rfl] at read
  exact read

/-- A whole number that fits a word is read back from its digits. -/
theorem numeral_toDigits {n : Nat} (fits : n ≤ Numeral.maxUInt64) :
    numeral (Nat.toDigits 10 n) = .integer n := by
  obtain ⟨c, rest, digits, digit⟩ := (isWhole_toDigits n).toIsDigits.exists_cons
  unfold numeral
  rw [digits, readScalar_of_isDigit digit, ← digits, readMagnitude_toDigits fits]
  rfl

/-- So is one below zero. -/
theorem numeral_negative {n : Nat} (fits : n ≤ Nat.pow 2 63) (nonzero : n ≠ 0) :
    numeral ('-' :: Nat.toDigits 10 n) = .integer (-n) := by
  have word : n ≤ Numeral.maxUInt64 := by
    have bound : Nat.pow 2 63 ≤ Numeral.maxUInt64 := by decide
    omega
  change (readMagnitude true (Nat.toDigits 10 n)).1 = _
  rw [readMagnitude_toDigits word]
  unfold integerDocument
  rw [if_pos rfl, if_neg (by omega)]

end Json
end AgentCohort
