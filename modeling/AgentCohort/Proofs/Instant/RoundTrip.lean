import AgentCohort.Proofs.Instant.Reading

/-!
# Instants are read as they are printed

The printed form of an instant writes a time of universal time that stands for the instant, so it
is read as the instant itself: its fields have fixed widths, its decimals lose nothing, and a leap
second is printed as second 60.
-/

namespace AgentCohort
namespace Instant

open CalendarDate (firstDay lastDay)
open Numeral (isDigit padded valueOf)

/-- An instant on a day that has a date, at a time that the day has.  Only the last second of a
minute may last longer. -/
structure IsProper (instant : Instant) : Prop where
  /-- The day is not too early. -/
  firstDay_le : firstDay ≤ instant.day
  /-- The day is not too late. -/
  le_lastDay : instant.day ≤ lastDay
  /-- The second lies in the day. -/
  second : instant.second < 86400
  /-- The nanosecond lies in the second. -/
  nanosecond : instant.nanosecond < nanosecondsPerSecond ∨
    instant.second % 60 = 59 ∧ instant.nanosecond < 2 * nanosecondsPerSecond

/-! ## Numbers of fixed width -/

theorem padded_ne_nil {width : Nat} (positive : 0 < width) (n : Nat) :
    (padded width n).toList ≠ [] := by
  intro empty
  have wide := Numeral.width_le_length_padded width n
  rw [empty, List.length_nil] at wide
  omega

theorem shows_padded {width : Nat} (positive : 0 < width) (n : Nat) :
    Shows (padded width n).toList n where
  nonempty := padded_ne_nil positive n
  all _ := Numeral.isDigit_of_mem_padded
  value := Numeral.valueOf_padded width n

theorem writesPart_padded {low high n : Nat} (lower : low ≤ n) (upper : n ≤ high)
    (small : high < 100) : WritesPart low high (padded 2 n).toList n where
  shows := shows_padded Nat.two_pos n
  short := Nat.le_of_eq (Numeral.length_padded Nat.two_pos (by omega))
  lower := lower
  upper := upper

/-- No blanks need to stand between the parts. -/
theorem spaced_flatten (parts : List (List Char)) : Spaced parts parts.flatten := by
  induction parts with
  | nil => rfl
  | cons part parts inductionHypothesis =>
      exact ⟨[], parts.flatten, nofun, rfl, inductionHypothesis⟩

/-- A year is printed without a sign where four digits show it. -/
theorem writesYear_yearText (year : Int) :
    WritesYear (CalendarDate.yearText year).toList year := by
  have magnitude := shows_padded (by decide : 0 < 4) year.natAbs
  unfold CalendarDate.yearText
  split
  · rename_i short
    have length : (padded 4 year.natAbs).toList.length = 4 :=
      Numeral.length_padded (by decide) (by omega)
    have writes := WritesYear.digits magnitude (Nat.le_of_eq length)
    rw [Int.natAbs_of_nonneg short.1] at writes
    rw [show year.toNat = year.natAbs by omega]
    exact writes
  · rw [String.toList_append]
    split
    · rename_i negative
      have writes := WritesYear.minus magnitude
      rw [Int.ofNat_natAbs_of_nonpos (by omega), Int.neg_neg] at writes
      exact writes
    · rename_i positive
      have writes := WritesYear.plus magnitude
      rw [Int.natAbs_of_nonneg (by omega)] at writes
      exact writes

/-! ## Decimals -/

/-- A point before digits, if there are any. -/
def pointed (digits : List Char) : List Char :=
  if digits = [] then [] else '.' :: digits

/-- Digits write a fraction of a second in nanoseconds. -/
structure WritesFraction (nanosecond : Nat) (digits : List Char) : Prop where
  /-- They are digits. -/
  all : ∀ c ∈ digits, isDigit c = true
  /-- There are none, three, six or nine. -/
  length : digits.length ∈ [0, 3, 6, 9]
  /-- They lose nothing. -/
  value : valueOf digits * 10 ^ (9 - digits.length) = nanosecond

theorem length_of_writesFraction
    {nanosecond : Nat}
    {digits : List Char}
    (writes : WritesFraction nanosecond digits) :
    digits.length = 0 ∧ nanosecond = 0 ∨
      digits.length = 3 ∧ nanosecond % 1000000 = 0 ∨
      digits.length = 6 ∧ nanosecond % 1000 = 0 ∨
      digits.length = 9 := by
  have length := writes.length
  have value := writes.value
  simp only [List.mem_cons, List.not_mem_nil, or_false] at length
  rcases length with none | three | six | nine
  · rw [List.eq_nil_of_length_eq_zero none] at value
    exact .inl ⟨none, value.symm⟩
  · rw [three] at value
    exact .inr (.inl ⟨three, by omega⟩)
  · rw [six] at value
    exact .inr (.inr (.inl ⟨six, by omega⟩))
  · exact .inr (.inr (.inr nine))

theorem writesFraction_padded
    {nanosecond : Nat}
    (width number : Nat)
    (known : width ∈ [3, 6, 9])
    (fits : number < 10 ^ width)
    (value : number * 10 ^ (9 - width) = nanosecond) :
    ("." ++ padded width number).toList = pointed (padded width number).toList ∧
      (padded width number).toList.length = width ∧
      WritesFraction nanosecond (padded width number).toList := by
  have positive : 0 < width := by
    simp only [List.mem_cons, List.not_mem_nil, or_false] at known
    omega
  have length : (padded width number).toList.length = width := Numeral.length_padded positive fits
  refine ⟨?_, length, ?_⟩
  · rw [pointed, if_neg (padded_ne_nil positive number), String.toList_append]
    rfl
  · refine ⟨fun c => Numeral.isDigit_of_mem_padded, ?_, ?_⟩
    · rw [length]
      exact List.mem_cons_of_mem 0 known
    · rw [Numeral.valueOf_padded, length]
      exact value

/-- The decimals lose nothing, and fewer would lose something. -/
theorem exists_writesFraction {nanosecond : Nat} (bounded : nanosecond < nanosecondsPerSecond) :
    ∃ digits, (decimals nanosecond).toList = pointed digits ∧ WritesFraction nanosecond digits ∧
      ∀ other, WritesFraction nanosecond other → digits.length ≤ other.length := by
  unfold nanosecondsPerSecond at bounded
  unfold decimals
  split
  · rename_i none
    subst none
    refine ⟨[], rfl, ⟨?_, by decide, rfl⟩, fun other _ => Nat.zero_le _⟩
    intro c present
    cases present
  · rename_i some
    split
    · rename_i three
      have value : nanosecond / 1000000 * 10 ^ (9 - 3) = nanosecond := by omega
      obtain ⟨written, length, writes⟩ :=
        writesFraction_padded 3 (nanosecond / 1000000) (by decide) (by omega) value
      refine ⟨_, written, writes, fun other writes' => ?_⟩
      have shorter := length_of_writesFraction writes'
      omega
    · rename_i notThree
      split
      · rename_i six
        have value : nanosecond / 1000 * 10 ^ (9 - 6) = nanosecond := by omega
        obtain ⟨written, length, writes⟩ :=
          writesFraction_padded 6 (nanosecond / 1000) (by decide) (by omega) value
        refine ⟨_, written, writes, fun other writes' => ?_⟩
        have shorter := length_of_writesFraction writes'
        omega
      · rename_i notSix
        have value : nanosecond * 10 ^ (9 - 9) = nanosecond := by omega
        obtain ⟨written, length, writes⟩ :=
          writesFraction_padded 9 nanosecond (by decide) (by omega) value
        refine ⟨_, written, writes, fun other writes' => ?_⟩
        have shorter := length_of_writesFraction writes'
        omega

theorem WritesFraction.writesDecimals {nanosecond : Nat} {digits : List Char}
    (writes : WritesFraction nanosecond digits) : WritesDecimals (pointed digits) nanosecond := by
  have length := length_of_writesFraction writes
  have value := valueOf_take_nine digits
  rw [List.take_of_length_le (by omega), writes.value] at value
  unfold pointed
  split
  · rename_i empty
    rw [← writes.value, empty]
    exact .none
  · rename_i nonempty
    rw [value]
    exact .point ⟨nonempty, writes.all, rfl⟩

/-! ## Times -/

/-- The second that is printed; a leap second comes after the last one of its minute. -/
def shownSecond (instant : Instant) : Nat :=
  instant.second % 60 + (if nanosecondsPerSecond ≤ instant.nanosecond then 1 else 0)

/-- The nanosecond that is printed. -/
def shownNanosecond (instant : Instant) : Nat :=
  if nanosecondsPerSecond ≤ instant.nanosecond then instant.nanosecond - nanosecondsPerSecond
  else instant.nanosecond

/-- The time that is printed, by a clock of universal time. -/
def shownTime (instant : Instant) : LocalTime where
  date := CalendarDate.ofDays instant.day
  clock := ⟨instant.second / 3600, instant.second / 60 % 60, instant.shownSecond,
    instant.shownNanosecond⟩
  offset := 0

/-- The printed form without its decimals. -/
def dateAndTime (instant : Instant) : List Char :=
  let date := CalendarDate.ofDays instant.day
  (CalendarDate.yearText date.year).toList ++ '-' :: ((padded 2 date.month).toList ++
    '-' :: ((padded 2 date.day).toList ++ 'T' :: ((padded 2 (instant.second / 3600)).toList ++
      ':' :: ((padded 2 (instant.second / 60 % 60)).toList ++
        ':' :: (padded 2 instant.shownSecond).toList))))

theorem toList_text (instant : Instant) :
    instant.text.toList =
      instant.dateAndTime ++ (decimals instant.shownNanosecond).toList ++ ['Z'] := by
  have marks : "-".toList = ['-'] ∧ "T".toList = ['T'] ∧ ":".toList = [':'] ∧
      "Z".toList = ['Z'] := by
    decide
  obtain ⟨hyphen, joint, colon, zone⟩ := marks
  unfold text CalendarDate.text dateAndTime shownSecond shownNanosecond
  simp only [String.toList_append, List.append_assoc, List.cons_append, List.nil_append, hyphen,
    joint, colon, zone]

theorem point_not_mem_padded (width n : Nat) : '.' ∉ (padded width n).toList := by
  intro present
  have digit := Numeral.isDigit_of_mem_padded present
  cases digit

theorem point_not_mem_dateAndTime (instant : Instant) : '.' ∉ instant.dateAndTime := by
  have year (year : Int) : '.' ∉ (CalendarDate.yearText year).toList := by
    unfold CalendarDate.yearText
    split
    · exact point_not_mem_padded 4 _
    · split <;> simp [point_not_mem_padded]
  unfold dateAndTime
  simp [year, point_not_mem_padded]

/-- Characters end with a fraction of a second and the letter for universal time.  There are as
few decimals as possible. -/
def EndsInDecimals (cs : List Char) (nanosecond : Nat) : Prop :=
  ∃ front digits, cs = front ++ (pointed digits ++ ['Z']) ∧ '.' ∉ front ∧
    WritesFraction nanosecond digits ∧
    ∀ other, WritesFraction nanosecond other → digits.length ≤ other.length

namespace IsProper

variable {instant : Instant}

theorem shownNanosecond_lt (proper : instant.IsProper) :
    instant.shownNanosecond < nanosecondsPerSecond := by
  have bounded := proper.nanosecond
  unfold shownNanosecond
  split <;> omega

/-- Only a leap second is printed as second 60. -/
theorem shown (proper : instant.IsProper) :
    instant.shownSecond ≤ 60 ∧
      (instant.second / 3600) * 3600 + (instant.second / 60 % 60) * 60 +
        (if instant.shownSecond = 60 then 59 else instant.shownSecond) = instant.second ∧
      instant.shownNanosecond + (if instant.shownSecond = 60 then nanosecondsPerSecond else 0) =
        instant.nanosecond := by
  have bounded := proper.nanosecond
  unfold shownSecond shownNanosecond
  split
  · rename_i leap
    rw [if_pos (by omega), if_pos (by omega)]
    omega
  · rename_i usual
    rw [if_neg (by omega), if_neg (by omega)]
    omega

theorem shownNanosecond_eq (proper : instant.IsProper) :
    instant.shownNanosecond = instant.nanosecond % nanosecondsPerSecond := by
  have bounded := proper.nanosecond
  unfold shownNanosecond
  unfold nanosecondsPerSecond at *
  split <;> omega

/-- An instant ends with the decimals of its second. -/
theorem endsInDecimals (proper : instant.IsProper) :
    EndsInDecimals instant.text.toList (instant.nanosecond % nanosecondsPerSecond) := by
  obtain ⟨digits, written, writes, fewest⟩ := exists_writesFraction proper.shownNanosecond_lt
  rw [← proper.shownNanosecond_eq]
  refine ⟨instant.dateAndTime, digits, ?_, point_not_mem_dateAndTime instant, writes, fewest⟩
  rw [toList_text, written, List.append_assoc]

theorem shownTime_standsFor (proper : instant.IsProper) :
    instant.shownTime.StandsFor instant where
  valid := CalendarDate.isValid_ofDays proper.firstDay_le proper.le_lastDay
  offset := by
    change (-86400 : Int) < 0 ∧ (0 : Int) < 86400
    decide
  inRange := ⟨proper.firstDay_le, proper.le_lastDay⟩
  second := proper.second
  elapsed := by
    have second := proper.shown.2.1
    unfold shownTime LocalTime.elapsed Clock.elapsed
    rw [CalendarDate.toDays_ofDays]
    dsimp only
    split at second <;> omega
  nanosecond := proper.shown.2.2.symm

/-- The parts of the printed form are those of a time of universal time, without blanks. -/
theorem shownTime_writtenAs (proper : instant.IsProper) :
    instant.shownTime.WrittenAs instant.text.toList := by
  obtain ⟨digits, written, writes, _⟩ := exists_writesFraction proper.shownNanosecond_lt
  have inDay := proper.second
  obtain ⟨_, months, days⟩ := CalendarDate.bounds_of_isValid proper.shownTime_standsFor.valid
  have hour : instant.second / 3600 ≤ 23 := by omega
  have minute : instant.second / 60 % 60 ≤ 59 := by omega
  have date : WritesDate _ instant.shownTime.date :=
    ⟨_, _, _, spaced_flatten _, writesYear_yearText _,
      writesPart_padded months.1 months.2 (by decide), writesPart_padded days.1 days.2 (by decide)⟩
  have clock : WritesClock _ instant.shownTime.clock :=
    ⟨_, _, _, _, spaced_flatten _, writesPart_padded (Nat.zero_le _) hour (by decide),
      writesPart_padded (Nat.zero_le _) minute (by decide),
      writesPart_padded (Nat.zero_le _) proper.shown.1 (by decide), writes.writesDecimals⟩
  refine ⟨_, 'T', _, [], ['Z'], [], ?_, nofun, nofun, by simp, date, clock, .letter (.inl rfl)⟩
  rw [toList_text, written]
  unfold dateAndTime shownTime
  simp only [List.flatten_cons, List.flatten_nil, List.append_assoc, List.cons_append,
    List.nil_append, List.append_nil]

/-- The printed form names the instant. -/
theorem names_text (proper : instant.IsProper) : Names instant.text.toList instant :=
  ⟨instant.shownTime, proper.shownTime_writtenAs, proper.shownTime_standsFor⟩

/-- Each instant is read as it is printed. -/
theorem ofChars_text (proper : instant.IsProper) :
    ofChars instant.text.toList = .ok instant :=
  ofChars_of_names proper.names_text

end IsProper

/-! ## What can be read -/

/-- Hours and minutes are whole minutes. -/
theorem WritesOffset.minutes {cs : List Char} {offset : Int} (writes : WritesOffset cs offset) :
    offset % 60 = 0 := by
  cases writes with
  | letter universal => rfl
  | letters universal => rfl
  | ahead span =>
      cases span
      omega
  | behind sign span =>
      cases span
      omega

theorem WritesDecimals.lt {cs : List Char} {nanosecond : Nat}
    (writes : WritesDecimals cs nanosecond) : nanosecond < nanosecondsPerSecond := by
  cases writes with
  | none => decide
  | point shows =>
      apply (Nat.div_lt_iff_lt_mul (Nat.pow_pos (by decide))).mpr
      rw [Nat.mul_comm]
      exact Nat.mul_lt_mul_of_pos_left shows.lt (by decide)

/-- Only proper instants are named. -/
theorem Names.isProper {cs : List Char} {instant : Instant} (names : Names cs instant) :
    instant.IsProper := by
  obtain ⟨time, ⟨_, _, _, _, _, _, _, _, _, _, _, ⟨_, _, _, _, _, _, _, second, decimals⟩, offset⟩,
    stands⟩ := names
  have minutes := offset.minutes
  have fraction := decimals.lt
  have upper := second.upper
  have elapsed := stands.elapsed
  have nanosecond := stands.nanosecond
  refine ⟨stands.inRange.1, stands.inRange.2, stands.second, ?_⟩
  unfold LocalTime.elapsed Clock.elapsed at elapsed
  -- A leap second is the last of its minute by any clock that is whole minutes ahead.
  split at nanosecond <;> omega

end Instant
end AgentCohort
