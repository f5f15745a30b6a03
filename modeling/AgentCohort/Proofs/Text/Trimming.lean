import AgentCohort.Text.Blank
import Mathlib.Data.List.DropRight

/-!
# Trimmed texts

A text has exactly one part that neither begins nor ends with a blank and that has nothing but
blanks around it, and trimming finds it.  A text also has at most one split at a separator that
the second part does not hold, and that is the split at the last separator.
-/

namespace AgentCohort
namespace Text

/-- Nothing but blanks. -/
def AllBlank (cs : List Char) : Prop :=
  ∀ c ∈ cs, isBlank c = true

/-- A text that neither begins nor ends with a blank. -/
structure Tight (cs : List Char) : Prop where
  /-- It does not begin with a blank. -/
  first : ∀ c ∈ cs.head?, isBlank c = false
  /-- It does not end with a blank. -/
  last : ∀ c ∈ cs.getLast?, isBlank c = false

/-- What a text holds between the blanks at its ends. -/
structure Surrounds (cs inner : List Char) : Prop where
  /-- There is nothing but blanks around it. -/
  around : ∃ left right, AllBlank left ∧ AllBlank right ∧ cs = left ++ inner ++ right
  /-- It has none itself at its ends. -/
  tight : Tight inner

variable {cs inner : List Char}

theorem Tight.of_forall (printed : ∀ c ∈ cs, isBlank c = false) : Tight cs where
  first c present := printed c (List.mem_of_mem_head? present)
  last c present := printed c (List.mem_of_getLast? present)

theorem Tight.reverse (tight : Tight cs) : Tight cs.reverse where
  first c present := tight.last c (by rwa [List.head?_reverse] at present)
  last c present := tight.first c (by rwa [List.getLast?_reverse] at present)

/-! ## Blanks at the front -/

theorem trimLeft_cons {c : Char} (printed : isBlank c = false) (rest : List Char) :
    trimLeft (c :: rest) = c :: rest := by
  simp [trimLeft, printed]

theorem trimLeft_of_tight (tight : Tight cs) : trimLeft cs = cs := by
  cases cs with
  | nil => rfl
  | cons c rest => exact trimLeft_cons (tight.first c rfl) rest

theorem trimLeft_append {left : List Char} (blank : AllBlank left) (cs : List Char) :
    trimLeft (left ++ cs) = trimLeft cs :=
  List.dropWhile_append_of_pos blank

theorem exists_trimLeft (cs : List Char) :
    ∃ left, AllBlank left ∧ cs = left ++ trimLeft cs :=
  ⟨cs.takeWhile isBlank, fun _ => List.mem_takeWhile_imp, List.takeWhile_append_dropWhile.symm⟩

theorem trimLeft_eq_nil_iff : trimLeft cs = [] ↔ AllBlank cs :=
  List.dropWhile_eq_nil_iff

theorem head?_trimLeft (cs : List Char) : ∀ c ∈ (trimLeft cs).head?, isBlank c = false := by
  intro c present
  have first := List.head?_dropWhile_not isBlank cs
  rw [show (cs.dropWhile isBlank).head? = some c from present] at first
  exact first

/-! ## Blanks at both ends -/

/-- Trimming at the end is trimming at the front of the reversed text. -/
theorem trimRight_eq (cs : List Char) : trimRight cs = (trimLeft cs.reverse).reverse :=
  rfl

theorem exists_trimRight (cs : List Char) :
    ∃ right, AllBlank right ∧ cs = trimRight cs ++ right := by
  obtain ⟨left, blank, split⟩ := exists_trimLeft cs.reverse
  refine ⟨left.reverse, fun c present => blank c (List.mem_reverse.mp present), ?_⟩
  rw [trimRight_eq, ← List.reverse_append, ← split, List.reverse_reverse]

theorem trimRight_of_tight (tight : Tight cs) : trimRight cs = cs := by
  rw [trimRight_eq, trimLeft_of_tight tight.reverse, List.reverse_reverse]

theorem trimRight_append {right : List Char} (blank : AllBlank right) (cs : List Char) :
    trimRight (cs ++ right) = trimRight cs := by
  rw [trimRight_eq, trimRight_eq, List.reverse_append,
    trimLeft_append fun c present => blank c (List.mem_reverse.mp present)]

/-- What is left keeps its first character. -/
theorem head?_trimRight {c : Char} (present : c ∈ (trimRight cs).head?) : c ∈ cs.head? := by
  obtain ⟨right, _, split⟩ := exists_trimRight cs
  rw [split, List.head?_append, show (trimRight cs).head? = some c from present]
  rfl

theorem surrounds_trim (cs : List Char) : Surrounds cs (trim cs) := by
  obtain ⟨left, blankLeft, splitLeft⟩ := exists_trimLeft cs
  obtain ⟨right, blankRight, splitRight⟩ := exists_trimRight (trimLeft cs)
  refine ⟨⟨left, right, blankLeft, blankRight, ?_⟩, ?_, ?_⟩
  · rw [List.append_assoc]
    exact splitLeft.trans (congrArg (left ++ ·) splitRight)
  · exact fun c present => head?_trimLeft cs c (head?_trimRight present)
  · intro c present
    apply head?_trimLeft (trimLeft cs).reverse
    rw [← List.getLast?_reverse]
    exact present

/-- Blanks around a text make no difference. -/
theorem trim_append
    {left right : List Char}
    (blankLeft : AllBlank left)
    (tight : Tight inner)
    (blankRight : AllBlank right) :
    trim (left ++ inner ++ right) = inner := by
  unfold trim
  rw [List.append_assoc, trimLeft_append blankLeft]
  by_cases nothing : inner = []
  · subst nothing
    rw [List.nil_append, trimLeft_eq_nil_iff.mpr blankRight]
    rfl
  · have front : trimLeft (inner ++ right) = inner ++ right := by
      cases inner with
      | nil => exact absurd rfl nothing
      | cons c rest => exact trimLeft_cons (tight.first c rfl) (rest ++ right)
    rw [front, trimRight_append blankRight, trimRight_of_tight tight]

/-- Trimming finds the one part of a text with nothing but blanks around it. -/
theorem trim_eq_iff : trim cs = inner ↔ Surrounds cs inner := by
  constructor
  · rintro rfl
    exact surrounds_trim cs
  · rintro ⟨⟨left, right, blankLeft, blankRight, rfl⟩, tight⟩
    exact trim_append blankLeft tight blankRight

theorem trim_of_tight (tight : Tight cs) : trim cs = cs := by
  have none : AllBlank [] := by simp [AllBlank]
  have trimmed := trim_append none tight none
  rwa [List.nil_append, List.append_nil] at trimmed

/-! ## The last separator -/

theorem splitLast?_append
    {separator : Char}
    {after : List Char}
    (absent : separator ∉ after)
    (before : List Char) :
    splitLast? separator (before ++ separator :: after) = some (before, after) := by
  induction before with
  | nil => simp [splitLast?, splitLast?_eq_none_iff.mpr absent]
  | cons c before inductionHypothesis =>
      rw [List.cons_append, splitLast?, inductionHypothesis]

/-- The split at the last separator is the one after which there is no separator. -/
theorem splitLast?_eq_some_iff {separator : Char} {before after : List Char} :
    splitLast? separator cs = some (before, after) ↔
      cs = before ++ separator :: after ∧ separator ∉ after := by
  constructor
  · intro split
    refine ⟨splitLast?_eq_append split, ?_⟩
    induction cs generalizing before with
    | nil => simp [splitLast?] at split
    | cons c rest inductionHypothesis =>
        unfold splitLast? at split
        cases found : splitLast? separator rest with
        | some parts =>
            simp only [found, Option.some.injEq, Prod.mk.injEq] at split
            exact inductionHypothesis (found.trans (by rw [← split.2]))
        | none =>
            have absent := splitLast?_eq_none_iff.mp found
            simp only [found, Option.ite_none_right_eq_some, Option.some.injEq,
              Prod.mk.injEq] at split
            rw [← split.2.2]
            exact absent
  · rintro ⟨rfl, absent⟩
    exact splitLast?_append absent before

end Text
end AgentCohort
