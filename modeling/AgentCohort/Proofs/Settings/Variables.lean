import AgentCohort.Proofs.Numeral
import AgentCohort.Settings.Environment
import AgentCohort.Settings.Reading

/-!
# What the texts of variables stand for

A text is tried as a boolean, as a whole number and as any other number before it is kept as a
text, and a text setting writes what it stands for again.  This gives the text back only if the text
is written in the way in which the value is.
-/

namespace AgentCohort

namespace Text

theorem toLower_of_isDigit {c : Char} (digit : c.isDigit = true) :
    c.toNat < 0x80 ∧ c.toLower = c := by
  rw [Char.isDigit, Bool.and_eq_true, decide_eq_true_iff, decide_eq_true_iff] at digit
  have upper : c.val.toNat ≤ 57 := UInt32.le_iff_toNat_le.mp digit.2
  refine ⟨Nat.lt_of_le_of_lt upper (by decide), ?_⟩
  unfold Char.toLower
  refine dif_neg fun capital => ?_
  have lower : 65 ≤ c.val.toNat := UInt32.le_iff_toNat_le.mp capital.1
  omega

/-- The lower-case form of a text that begins with an ASCII character begins with its small
letter. -/
theorem head?_lowercase
    {s : String}
    {c : Char}
    {rest : List Char}
    (begins : s.toList = c :: rest)
    (ascii : c.toNat < 0x80) :
    (lowercase s).toList.head? = some c.toLower := by
  have sigma : c ≠ 'Σ' := by
    rintro rfl
    exact absurd ascii (by decide)
  rw [lowercase, String.toList_ofList, begins, lowerAfter]
  simp only [if_neg sigma, lowerChar, if_pos ascii]
  rfl

end Text

namespace Settings
namespace Environment

open Numeral (isDigit maxInt64 readInt64)

/-! ## Whole numbers -/

/-- Neither word for a boolean begins like a number. -/
theorem lowercase_ne_of_begins
    {s word : String}
    {c : Char}
    {rest : List Char}
    (begins : s.toList = c :: rest)
    (numeric : isDigit c = true ∨ c = '-')
    (isWord : word = "true" ∨ word = "false") :
    Text.lowercase s ≠ word := by
  have small : c.toNat < 0x80 ∧ c.toLower = c := by
    obtain digit | rfl := numeric
    · exact Text.toLower_of_isDigit (Numeral.isDigit_eq c ▸ digit)
    · decide
  intro same
  have head := Text.head?_lowercase begins small.1
  rw [same, small.2] at head
  obtain rfl | rfl := isWord
  all_goals
    cases head
    revert numeric
    decide

/-- A text that begins like a number and is read as a whole one stands for it. -/
theorem scalarOf_of_readInt64
    {value : String}
    {c : Char}
    {rest : List Char}
    {number : Int}
    (begins : value.toList = c :: rest)
    (numeric : isDigit c = true ∨ c = '-')
    (read : readInt64 value.toList = .ok number) :
    scalarOf value = .integer number := by
  unfold scalarOf
  dsimp only
  rw [if_neg (lowercase_ne_of_begins begins numeric (.inl rfl)),
    if_neg (lowercase_ne_of_begins begins numeric (.inr rfl)), read]

/-- What a whole number is written as stands for it. -/
theorem scalarOf_toString
    {number : Int}
    (lower : -(Nat.pow 2 63 : Nat) ≤ number)
    (upper : number ≤ maxInt64) :
    scalarOf (toString number) = .integer number := by
  have read := Numeral.readInt64_toString lower upper
  cases number with
  | ofNat n =>
      obtain ⟨c, rest, digits, digit⟩ := Numeral.exists_toDigits_cons n
      exact scalarOf_of_readInt64 ((Numeral.toList_toString_ofNat n).trans digits)
        (.inl digit) read
  | negSucc n =>
      exact scalarOf_of_readInt64 (Numeral.toList_toString_negSucc n) (.inr rfl) read

/-! ## Plain digits -/

/-- Plain digits write the double that is nearest to their number. -/
theorem ofText?_digits
    {digits : List Char}
    (nonempty : digits ≠ [])
    (all : ∀ c ∈ digits, isDigit c = true) :
    Double.ofText? digits = some (Double.ofDecimal false (Numeral.valueOf digits) 0) := by
  have magnitude : Double.ofText? digits = Double.ofMagnitude? false digits := by
    unfold Double.ofText?
    split
    · exact absurd (all _ (.head _)) (by decide)
    · exact absurd (all _ (.head _)) (by decide)
    · rfl
  have noWord : ∀ word ∈ ["inf".toList, "infinity".toList, "nan".toList],
      digits.map Char.toLower ≠ word := by
    have letters : ["inf".toList, "infinity".toList, "nan".toList].all
        (fun word => word.head?.all fun c => isDigit c = false) = true := by
      decide
    rintro _ member rfl
    cases digits with
    | nil => exact absurd rfl nonempty
    | cons c rest =>
        have digit := all c (.head _)
        have letter := of_decide_eq_true (List.all_eq_true.mp letters _ member)
        rw [(Text.toLower_of_isDigit (Numeral.isDigit_eq c ▸ digit)).2, digit] at letter
        cases letter
  have ends : Numeral.EndsDigits [] := by
    intro c first
    cases first
  obtain ⟨taken, dropped⟩ := Numeral.takeWhile_isDigit_append all ends
  rw [List.append_nil] at taken dropped
  rw [magnitude]
  unfold Double.ofMagnitude? Double.ofDigits?
  dsimp only
  rw [if_neg (not_or.mpr ⟨noWord _ (.head _), noWord _ (.tail _ (.head _))⟩),
    if_neg (noWord _ (.tail _ (.tail _ (.head _)))), taken, dropped]
  dsimp only
  rw [if_neg fun none => nonempty none.1, List.append_nil]
  rfl

/-- Plain digits stand for their number if it is a signed word of 64 bits, and for the nearest
double otherwise. -/
theorem scalarOf_digits
    {digits : List Char}
    (nonempty : digits ≠ [])
    (all : ∀ c ∈ digits, isDigit c = true) :
    scalarOf (String.ofList digits) =
      if Numeral.valueOf digits ≤ maxInt64 then .integer (Numeral.valueOf digits)
      else .real (Double.ofDecimal false (Numeral.valueOf digits) 0) := by
  have noWord : ∀ word, word = "true" ∨ word = "false" →
      Text.lowercase (String.ofList digits) ≠ word := by
    intro word isWord
    cases digits with
    | nil => exact absurd rfl nonempty
    | cons c rest =>
        exact lowercase_ne_of_begins String.toList_ofList (.inl (all c (.head _))) isWord
  unfold scalarOf
  dsimp only
  rw [if_neg (noWord _ (.inl rfl)), if_neg (noWord _ (.inr rfl)), String.toList_ofList,
    Numeral.readInt64_of_digits nonempty all, ofText?_digits nonempty all]
  by_cases fits : Numeral.valueOf digits ≤ maxInt64
  · rw [if_pos fits, if_pos fits]
  · rw [if_neg fits, if_neg fits]

/-! ## Texts -/

/-- The text that a value is written as. -/
def written : Scalar → String
  | .nothing => ""
  | .boolean value => if value then "true" else "false"
  | .integer value => toString value
  | .real value => value.plainText
  | .text value => value

/-- A text comes back from a text setting: it is one of the two words for a boolean, a signed word
of 64 bits without needless signs and zeros, another number as it is written, or stands for no
boolean and no number. -/
def Survives (value : String) : Prop :=
  value = "true" ∨ value = "false" ∨
    (∃ number : Int, -(Nat.pow 2 63 : Nat) ≤ number ∧ number ≤ maxInt64 ∧
      value = toString number) ∨
    (∃ number : Double, scalarOf value = .real number ∧ value = number.plainText) ∨
    scalarOf value = .text value

theorem scalarOf_cases (value : String) :
    (∃ truth, scalarOf value = .boolean truth) ∨
      (∃ number, readInt64 value.toList = .ok number ∧ scalarOf value = .integer number) ∨
      (∃ number, scalarOf value = .real number) ∨
      scalarOf value = .text value := by
  unfold scalarOf
  dsimp only
  split
  · exact .inl ⟨true, rfl⟩
  · split
    · exact .inl ⟨false, rfl⟩
    · split
      · rename_i number read
        exact .inr (.inl ⟨number, read, rfl⟩)
      · split
        · exact .inr (.inr (.inl ⟨_, rfl⟩))
        · exact .inr (.inr (.inr rfl))

/-- What a text stands for is written as the text exactly if the text survives. -/
theorem written_scalarOf_eq_iff (value : String) :
    written (scalarOf value) = value ↔ Survives value := by
  constructor
  · intro same
    obtain ⟨truth, stands⟩ | ⟨number, read, stands⟩ | ⟨number, stands⟩ | stands :=
      scalarOf_cases value
    · rw [stands] at same
      cases truth with
      | true => exact .inl same.symm
      | false => exact .inr (.inl same.symm)
    · rw [stands] at same
      obtain ⟨lower, upper⟩ := Numeral.bounds_of_readInt64 read
      exact .inr (.inr (.inl ⟨number, lower, upper, same.symm⟩))
    · rw [stands] at same
      exact .inr (.inr (.inr (.inl ⟨number, stands, same.symm⟩)))
    · exact .inr (.inr (.inr (.inr stands)))
  · rintro (rfl | rfl | ⟨number, lower, upper, rfl⟩ | ⟨number, stands, same⟩ | stands)
    · decide
    · decide
    · rw [scalarOf_toString lower upper, written]
    · rw [stands, written, ← same]
    · rw [stands, written]

/-- A text setting reads what a variable stands for as a text. -/
theorem text_scalarOf (origin? : Option String) (value : String) :
    Reader.text (.scalar origin? (scalarOf value)) = .ok (written (scalarOf value)) := by
  obtain ⟨truth, stands⟩ | ⟨number, -, stands⟩ | ⟨number, stands⟩ | stands := scalarOf_cases value
  all_goals
    rw [stands]
    rfl

/-- So does one that may be absent; no variable stands for nothing. -/
theorem optional_text_scalarOf (origin? : Option String) (value : String) :
    Reader.text.optional (.scalar origin? (scalarOf value)) =
      .ok (some (written (scalarOf value))) := by
  obtain ⟨truth, stands⟩ | ⟨number, -, stands⟩ | ⟨number, stands⟩ | stands := scalarOf_cases value
  all_goals
    rw [stands]
    rfl

end Environment
end Settings
end AgentCohort
