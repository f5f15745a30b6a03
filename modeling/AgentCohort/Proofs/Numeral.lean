import AgentCohort.Numeral
import AgentCohort.Proofs.Results
import Mathlib.Algebra.GroupWithZero.Nat

/-!
# Digits and the numbers that they write

The digits that a number is written with are read as that number again, whether zeros lead or
not, and a run of digits ends where something else begins.
-/

namespace AgentCohort
namespace Numeral

theorem isDigit_eq (c : Char) : isDigit c = c.isDigit := by
  have bounds : ('0' ≤ c ∧ c ≤ '9') ↔ c.isDigit = true := by
    rw [Char.isDigit, Bool.and_eq_true, decide_eq_true_iff, decide_eq_true_iff]
    exact Iff.rfl
  apply Bool.eq_iff_iff.mpr
  rw [← bounds]
  unfold isDigit digit?
  split <;> simp_all

theorem digit?_of_isDigit {c : Char} (digit : isDigit c = true) :
    digit? c = some (c.toNat - '0'.toNat) := by
  unfold isDigit digit? at digit
  unfold digit?
  split
  · rfl
  · rename_i outside
    rw [if_neg outside] at digit
    cases digit

/-! ## Runs of digits -/

/-- Nothing, or something that no digit begins. -/
def EndsDigits (rest : List Char) : Prop :=
  ∀ c ∈ rest.head?, isDigit c = false

theorem endsDigits_cons {c : Char} {rest : List Char} (other : isDigit c = false) :
    EndsDigits (c :: rest) := by
  intro first present
  cases present
  exact other

theorem EndsDigits.take {rest : List Char} (ends : EndsDigits rest) (n : Nat) :
    EndsDigits (rest.take n) := by
  intro c present
  cases n with
  | zero => cases present
  | succ n =>
      cases rest with
      | nil => cases present
      | cons first rest => exact ends c present

theorem endsDigits_of_take {rest : List Char} {most : Nat} (positive : 0 < most)
    (ends : EndsDigits (rest.take most)) : EndsDigits rest := by
  cases rest with
  | nil => rwa [List.take_nil] at ends
  | cons c rest =>
      rw [← Nat.sub_add_cancel positive, List.take_succ_cons] at ends
      exact endsDigits_cons (ends c rfl)

/-- After as many digits as may be read it does not matter what follows. -/
theorem endsDigits_take_of_length_eq
    {most : Nat}
    {digits : List Char}
    (length : digits.length = most)
    (rest : List Char) :
    EndsDigits (rest.take (most - digits.length)) := by
  rw [length, Nat.sub_self]
  intro c present
  cases present

theorem endsDigits_dropWhile (cs : List Char) : EndsDigits (cs.dropWhile isDigit) := by
  intro c present
  have first := List.head?_dropWhile_not isDigit cs
  rw [Option.mem_def.mp present] at first
  exact first

theorem takeWhile_isDigit_of_endsDigits {rest : List Char} (ends : EndsDigits rest) :
    rest.takeWhile isDigit = [] ∧ rest.dropWhile isDigit = rest := by
  cases rest with
  | nil => exact ⟨rfl, rfl⟩
  | cons c rest =>
      have other : isDigit c = false := ends c rfl
      simp [other]

/-- A run of digits is taken off as a whole. -/
theorem takeWhile_isDigit_append
    {digits rest : List Char}
    (all : ∀ c ∈ digits, isDigit c = true)
    (ends : EndsDigits rest) :
    (digits ++ rest).takeWhile isDigit = digits ∧ (digits ++ rest).dropWhile isDigit = rest := by
  obtain ⟨taken, dropped⟩ := takeWhile_isDigit_of_endsDigits ends
  rw [List.takeWhile_append_of_pos all, List.dropWhile_append_of_pos all, taken, dropped,
    List.append_nil]
  exact ⟨rfl, rfl⟩

/-! ## Values -/

/-- The number that digits write after the digits of a number. -/
def valueAfter (number : Nat) (digits : List Char) : Nat :=
  digits.foldl (fun number c => number * 10 + (digit? c).getD 0) number

theorem valueAfter_cons (number : Nat) (c : Char) (digits : List Char) :
    valueAfter number (c :: digits) = valueAfter (number * 10 + (digit? c).getD 0) digits :=
  rfl

theorem valueAfter_zero (digits : List Char) : valueAfter 0 digits = valueOf digits :=
  rfl

theorem le_valueAfter (number : Nat) (digits : List Char) : number ≤ valueAfter number digits := by
  induction digits generalizing number with
  | nil => exact Nat.le_refl number
  | cons c digits inductionHypothesis =>
      have bound := inductionHypothesis (number * 10 + (digit? c).getD 0)
      rw [valueAfter_cons]
      omega

theorem valueAfter_eq_ofDigitChars
    {digits : List Char}
    (all : ∀ c ∈ digits, isDigit c = true)
    (number : Nat) :
    valueAfter number digits = Nat.ofDigitChars 10 digits number := by
  induction digits generalizing number with
  | nil => rfl
  | cons c digits inductionHypothesis =>
      rw [List.forall_mem_cons] at all
      rw [valueAfter_cons, Nat.ofDigitChars_cons, digit?_of_isDigit all.1, Option.getD_some,
        Nat.mul_comm number 10]
      exact inductionHypothesis all.2 _

theorem valueOf_eq_ofDigitChars
    {digits : List Char}
    (all : ∀ c ∈ digits, isDigit c = true) :
    valueOf digits = Nat.ofDigitChars 10 digits 0 :=
  valueAfter_eq_ofDigitChars all 0

theorem digit?_getD_le (c : Char) : (digit? c).getD 0 ≤ 9 := by
  unfold digit?
  split
  · rename_i inside
    have upper : c.toNat ≤ '9'.toNat := inside.2
    simp only [Char.reduceToNat, Option.getD_some] at upper ⊢
    omega
  · exact Nat.zero_le 9

theorem valueAfter_lt (number : Nat) (digits : List Char) :
    valueAfter number digits < (number + 1) * 10 ^ digits.length := by
  induction digits generalizing number with
  | nil => simp [valueAfter]
  | cons c digits inductionHypothesis =>
      have digit := digit?_getD_le c
      rw [valueAfter_cons, List.length_cons, Nat.pow_succ']
      calc
        valueAfter (number * 10 + (digit? c).getD 0) digits <
            (number * 10 + (digit? c).getD 0 + 1) * 10 ^ digits.length :=
          inductionHypothesis _
        _ ≤ (number + 1) * 10 * 10 ^ digits.length :=
          Nat.mul_le_mul_right _ (by omega)
        _ = (number + 1) * (10 * 10 ^ digits.length) := Nat.mul_assoc _ _ _

theorem valueOf_lt (digits : List Char) : valueOf digits < 10 ^ digits.length := by
  have bound := valueAfter_lt 0 digits
  rw [Nat.zero_add, Nat.one_mul] at bound
  exact bound

theorem mul_le_valueAfter (number : Nat) (digits : List Char) :
    number * 10 ^ digits.length ≤ valueAfter number digits := by
  induction digits generalizing number with
  | nil => exact Nat.le_of_eq (Nat.mul_one number)
  | cons c digits inductionHypothesis =>
      rw [valueAfter_cons, List.length_cons, Nat.pow_succ']
      calc
        number * (10 * 10 ^ digits.length) = number * 10 * 10 ^ digits.length :=
          (Nat.mul_assoc _ _ _).symm
        _ ≤ (number * 10 + (digit? c).getD 0) * 10 ^ digits.length :=
          Nat.mul_le_mul_right _ (Nat.le_add_right _ _)
        _ ≤ valueAfter (number * 10 + (digit? c).getD 0) digits := inductionHypothesis _

/-- Without its last digits a number is a quotient. -/
theorem valueOf_append_div (front back : List Char) :
    valueOf (front ++ back) / 10 ^ back.length = valueOf front := by
  have value : valueOf (front ++ back) = valueAfter (valueOf front) back := List.foldl_append
  rw [value]
  exact Nat.div_eq_of_lt_le (mul_le_valueAfter _ back) (valueAfter_lt _ back)

theorem isDigit_of_mem_toDigits {n : Nat} {c : Char} (present : c ∈ Nat.toDigits 10 n) :
    isDigit c = true := by
  rw [isDigit_eq]
  exact Nat.isDigit_of_mem_toDigits (by omega) (by omega) present

theorem isDigit_of_mem_padded {width n : Nat} {c : Char} (present : c ∈ (padded width n).toList) :
    isDigit c = true := by
  unfold padded at present
  rw [String.toList_ofList, List.mem_append] at present
  rcases present with zero | digit
  · rw [List.eq_of_mem_replicate zero]
    rfl
  · exact isDigit_of_mem_toDigits digit

theorem valueOf_toDigits (n : Nat) : valueOf (Nat.toDigits 10 n) = n := by
  rw [valueOf_eq_ofDigitChars fun c => isDigit_of_mem_toDigits]
  exact Nat.ofDigitChars_ten_toDigits

/-- Leading zeros do not change what a number is read as. -/
theorem valueOf_padded (width n : Nat) : valueOf (padded width n).toList = n := by
  rw [valueOf_eq_ofDigitChars fun c => isDigit_of_mem_padded]
  unfold padded
  rw [String.toList_ofList, Nat.ofDigitChars_append, Nat.ofDigitChars_replicate_zero,
    Nat.mul_zero]
  exact Nat.ofDigitChars_ten_toDigits

theorem length_padded {width n : Nat} (positive : 0 < width) (fits : n < 10 ^ width) :
    (padded width n).toList.length = width := by
  have short := (Nat.length_toDigits_le_iff (by omega) positive).mpr fits
  unfold padded
  rw [String.toList_ofList, List.length_append, List.length_replicate]
  omega

theorem width_le_length_padded (width n : Nat) : width ≤ (padded width n).toList.length := by
  unfold padded
  rw [String.toList_ofList, List.length_append, List.length_replicate]
  omega

/-- Only zero is written with a leading zero. -/
theorem toDigits_eq_of_head?_eq_zero {n : Nat} (zero : (Nat.toDigits 10 n).head? = some '0') :
    Nat.toDigits 10 n = ['0'] := by
  induction n using Nat.strongRecOn with
  | ind n inductionHypothesis =>
      by_cases small : n < 10
      · rw [Nat.toDigits_of_lt_base small] at zero ⊢
        exact congrArg (fun c => [c]) (Option.some.inj zero)
      · have large : 10 ≤ n := Nat.not_lt.mp small
        rw [Nat.toDigits_of_base_le (by omega) large, List.head?_append] at zero
        have front : Nat.toDigits 10 (n / 10) = ['0'] := by
          apply inductionHypothesis (n / 10) (by omega)
          cases digits : Nat.toDigits 10 (n / 10) with
          | nil => exact absurd digits Nat.toDigits_ne_nil
          | cons c rest =>
              rw [digits] at zero
              exact zero
        have value := valueOf_toDigits (n / 10)
        rw [front] at value
        have none : n / 10 = 0 := value.symm
        omega

theorem toList_toString_ofNat (n : Nat) :
    (toString (Int.ofNat n)).toList = Nat.toDigits 10 n := by
  change (String.ofList (Nat.toDigits 10 n)).toList = _
  rw [String.toList_ofList]

theorem toList_toString_negSucc (n : Nat) :
    (toString (Int.negSucc n)).toList = '-' :: Nat.toDigits 10 (n + 1) := by
  change ("-" ++ String.ofList (Nat.toDigits 10 (n + 1))).toList = _
  rw [String.toList_append, String.toList_ofList, String.toList_ofList, List.singleton_append]

/-! ## Reading inside bounds -/

theorem readDigits_cons_of_isDigit
    {c : Char}
    (digit : isDigit c = true)
    (bound : Nat)
    (overflow : Fault)
    (number : Nat)
    (cs : List Char) :
    readDigits bound overflow number (c :: cs) =
      if number * 10 + (c.toNat - '0'.toNat) ≤ bound then
        readDigits bound overflow (number * 10 + (c.toNat - '0'.toNat)) cs
      else .error overflow := by
  rw [readDigits, digit?_of_isDigit digit]

/-- Digits of a number inside the bound are read. -/
theorem readDigits_of_le
    {bound number : Nat}
    {overflow : Fault}
    {digits : List Char}
    (all : ∀ c ∈ digits, isDigit c = true)
    (fits : valueAfter number digits ≤ bound) :
    readDigits bound overflow number digits = .ok (valueAfter number digits) := by
  induction digits generalizing number with
  | nil => rfl
  | cons c digits inductionHypothesis =>
      rw [List.forall_mem_cons] at all
      have digit := digit?_of_isDigit all.1
      rw [valueAfter_cons, digit, Option.getD_some] at fits
      have first := Nat.le_trans (le_valueAfter _ digits) fits
      rw [readDigits_cons_of_isDigit all.1, if_pos first, valueAfter_cons, digit,
        Option.getD_some, inductionHypothesis all.2 fits]

/-- Digits of a number beyond the bound are refused. -/
theorem readDigits_of_lt
    {bound number : Nat}
    {overflow : Fault}
    {digits : List Char}
    (all : ∀ c ∈ digits, isDigit c = true)
    (inside : number ≤ bound)
    (beyond : bound < valueAfter number digits) :
    readDigits bound overflow number digits = .error overflow := by
  induction digits generalizing number with
  | nil => exact absurd inside (Nat.not_le.mpr beyond)
  | cons c digits inductionHypothesis =>
      rw [List.forall_mem_cons] at all
      have digit := digit?_of_isDigit all.1
      rw [valueAfter_cons, digit, Option.getD_some] at beyond
      rw [readDigits_cons_of_isDigit all.1]
      by_cases first : number * 10 + (c.toNat - '0'.toNat) ≤ bound
      · rw [if_pos first]
        exact inductionHypothesis all.2 first beyond
      · exact if_neg first

/-- What is read lies inside the bound. -/
theorem le_of_readDigits
    {bound number result : Nat}
    {overflow : Fault}
    {digits : List Char}
    (inside : number ≤ bound)
    (read : readDigits bound overflow number digits = .ok result) :
    result ≤ bound := by
  induction digits generalizing number with
  | nil =>
      cases read
      exact inside
  | cons c digits inductionHypothesis =>
      rw [readDigits] at read
      split at read
      · cases read
      · split at read
        · rename_i first
          exact inductionHypothesis first read
        · cases read

/-- A run of digits without a sign is read as such. -/
theorem readNat_of_isDigit {c : Char} (digit : isDigit c = true) (bound : Nat) (cs : List Char) :
    readNat bound (c :: cs) = readDigits bound .tooLarge 0 (c :: cs) := by
  unfold readNat
  split
  · rename_i none
    cases none
  · rename_i plus
    cases plus
    cases digit
  · rfl

theorem readInt64_of_isDigit {c : Char} (digit : isDigit c = true) (cs : List Char) :
    readInt64 (c :: cs) = (readDigits maxInt64 .tooLarge 0 (c :: cs)).map Int.ofNat := by
  unfold readInt64 readInt
  split
  · rename_i minus
    cases minus
    cases digit
  · rw [readNat_of_isDigit digit]

theorem exists_toDigits_cons (n : Nat) :
    ∃ c rest, Nat.toDigits 10 n = c :: rest ∧ isDigit c = true := by
  cases digits : Nat.toDigits 10 n with
  | nil => exact absurd digits Nat.toDigits_ne_nil
  | cons c rest =>
      exact ⟨c, rest, rfl, isDigit_of_mem_toDigits (digits ▸ List.mem_cons_self)⟩

theorem valueAfter_toDigits (n : Nat) : valueAfter 0 (Nat.toDigits 10 n) = n :=
  valueOf_toDigits n

/-- Digits without a sign are read exactly if their number is a signed word of 64 bits. -/
theorem readInt64_of_digits
    {digits : List Char}
    (nonempty : digits ≠ [])
    (all : ∀ c ∈ digits, isDigit c = true) :
    readInt64 digits =
      if valueOf digits ≤ maxInt64 then .ok (valueOf digits) else .error .tooLarge := by
  have read : readInt64 digits = (readDigits maxInt64 .tooLarge 0 digits).map Int.ofNat := by
    cases digits with
    | nil => exact absurd rfl nonempty
    | cons c rest => exact readInt64_of_isDigit (all c (.head _)) rest
  rw [read, ← valueAfter_zero]
  split
  · rename_i fits
    rw [readDigits_of_le all fits]
    rfl
  · rename_i beyond
    rw [readDigits_of_lt all (Nat.zero_le _) (Nat.lt_of_not_le beyond)]
    rfl

theorem readInt64_toDigits {n : Nat} (fits : n ≤ maxInt64) :
    readInt64 (Nat.toDigits 10 n) = .ok n := by
  rw [readInt64_of_digits Nat.toDigits_ne_nil fun _ => isDigit_of_mem_toDigits,
    valueOf_toDigits, if_pos fits]

/-- A signed word of 64 bits is read back as it is written. -/
theorem readInt64_toString
    {number : Int}
    (lower : -(Nat.pow 2 63 : Nat) ≤ number)
    (upper : number ≤ maxInt64) :
    readInt64 (toString number).toList = .ok number := by
  cases number with
  | ofNat n =>
      rw [toList_toString_ofNat]
      exact readInt64_toDigits (Int.ofNat_le.mp upper)
  | negSucc n =>
      have fits : n + 1 ≤ Nat.pow 2 63 := by omega
      obtain ⟨c, rest, digits, -⟩ := exists_toDigits_cons (n + 1)
      rw [toList_toString_negSucc, digits, readInt64, readInt, ← digits,
        readDigits_of_le (fun _ => isDigit_of_mem_toDigits)
          (by rw [valueAfter_toDigits]; exact fits),
        valueAfter_toDigits]
      rfl

/-- What is read is a signed word of 64 bits. -/
theorem bounds_of_readInt64
    {cs : List Char}
    {number : Int}
    (read : readInt64 cs = .ok number) :
    -(Nat.pow 2 63 : Nat) ≤ number ∧ number ≤ maxInt64 := by
  unfold readInt64 readInt at read
  split at read
  · obtain ⟨_, magnitude, rfl⟩ := map_eq_ok read
    obtain ⟨n, digits, same⟩ := bind_eq_ok magnitude
    cases same
    have fits := le_of_readDigits (Nat.zero_le _) digits
    omega
  · obtain ⟨n, digits, rfl⟩ := map_eq_ok read
    have fits : n ≤ maxInt64 := by
      unfold readNat at digits
      split at digits
      · cases digits
      · exact le_of_readDigits (Nat.zero_le _) digits
      · exact le_of_readDigits (Nat.zero_le _) digits
    change -_ ≤ (n : Int) ∧ (n : Int) ≤ _
    omega

/-! ## Numbers with a plus sign -/

/-- A text that writes a number within a bound: digits, zeros leading or not, after a plus sign
or without one. -/
def Writes (bound : Nat) (cs : List Char) (number : Nat) : Prop :=
  ∃ digits, (cs = digits ∨ cs = '+' :: digits) ∧ digits ≠ [] ∧
    (∀ c ∈ digits, isDigit c = true) ∧ valueOf digits = number ∧ number ≤ bound

theorem isDigit_of_readDigits
    {bound number result : Nat}
    {overflow : Fault}
    {digits : List Char}
    (read : readDigits bound overflow number digits = .ok result) :
    ∀ c ∈ digits, isDigit c = true := by
  induction digits generalizing number with
  | nil => simp
  | cons c digits inductionHypothesis =>
      unfold readDigits at read
      split at read
      · cases read
      · rename_i digit found
        split at read
        · rw [List.forall_mem_cons]
          refine ⟨?_, inductionHypothesis read⟩
          unfold isDigit
          rw [found]
          rfl
        · cases read

/-- Nothing but digits is read, and only up to the bound. -/
theorem readDigits_eq_ok_iff
    {bound result : Nat}
    {overflow : Fault}
    {digits : List Char} :
    readDigits bound overflow 0 digits = .ok result ↔
      (∀ c ∈ digits, isDigit c = true) ∧ valueOf digits = result ∧ result ≤ bound := by
  constructor
  · intro read
    have all := isDigit_of_readDigits read
    have fits := le_of_readDigits (Nat.zero_le bound) read
    refine ⟨all, ?_, fits⟩
    rw [← valueAfter_zero]
    by_cases inside : valueAfter 0 digits ≤ bound
    · rw [readDigits_of_le all inside] at read
      exact Except.ok.inj read
    · rw [readDigits_of_lt all (Nat.zero_le bound) (Nat.lt_of_not_le inside)] at read
      cases read
  · rintro ⟨all, rfl, fits⟩
    exact readDigits_of_le all fits

/-- A number is read from exactly the texts that write it. -/
theorem readNat_eq_ok_iff {bound number : Nat} {cs : List Char} :
    readNat bound cs = .ok number ↔ Writes bound cs number := by
  constructor
  · intro read
    unfold readNat at read
    split at read
    · cases read
    · obtain ⟨all, value, fits⟩ := readDigits_eq_ok_iff.mp read
      exact ⟨_, .inr rfl, List.cons_ne_nil _ _, all, value, fits⟩
    · rename_i nonempty _
      obtain ⟨all, value, fits⟩ := readDigits_eq_ok_iff.mp read
      exact ⟨cs, .inl rfl, nonempty, all, value, fits⟩
  · rintro ⟨digits, written, nonempty, all, value, fits⟩
    have read : readDigits bound .tooLarge 0 digits = .ok number :=
      readDigits_eq_ok_iff.mpr ⟨all, value, fits⟩
    cases digits with
    | nil => exact absurd rfl nonempty
    | cons c digits =>
        rcases written with rfl | rfl
        · rw [readNat_of_isDigit (all c List.mem_cons_self)]
          exact read
        · exact read

/-- The usual digits of a number write it. -/
theorem writes_toDigits {bound number : Nat} (fits : number ≤ bound) :
    Writes bound (Nat.toDigits 10 number) number :=
  ⟨_, .inl rfl, Nat.toDigits_ne_nil, fun _ => isDigit_of_mem_toDigits, valueOf_toDigits number,
    fits⟩

theorem Writes.mono {bound larger number : Nat} {cs : List Char} (fits : bound ≤ larger)
    (writes : Writes bound cs number) : Writes larger cs number := by
  obtain ⟨digits, written, nonempty, all, value, inside⟩ := writes
  exact ⟨digits, written, nonempty, all, value, Nat.le_trans inside fits⟩

/-- No minus sign leads. -/
theorem Writes.head?_ne {bound number : Nat} {cs : List Char} (writes : Writes bound cs number) :
    cs.head? ≠ some '-' := by
  obtain ⟨digits, rfl | rfl, _, all, _⟩ := writes
  · intro minus
    have digit := all '-' (List.mem_of_mem_head? minus)
    cases digit
  · exact fun plus => absurd (Option.some.inj plus) (by decide)

theorem readInt64_of_writes {number : Nat} {cs : List Char} (writes : Writes maxInt64 cs number) :
    readInt64 cs = .ok number := by
  unfold readInt64 readInt
  split
  · exact absurd rfl writes.head?_ne
  · rw [readNat_eq_ok_iff.mpr writes]
    rfl

theorem readUInt16_eq_ok_iff {cs : List Char} {port : UInt16} :
    readUInt16 cs = .ok port ↔ Writes 65535 cs port.toNat := by
  unfold readUInt16
  rw [← readNat_eq_ok_iff]
  constructor
  · intro read
    obtain ⟨number, written, rfl⟩ := map_eq_ok read
    have fits : number ≤ 65535 := (readNat_eq_ok_iff.mp written).choose_spec.2.2.2.2
    rw [written, UInt16.toNat_ofNat_of_lt' (Nat.lt_succ_of_le fits)]
  · intro written
    rw [written]
    exact congrArg Except.ok (UInt16.ofNat_toNat)

end Numeral
end AgentCohort
