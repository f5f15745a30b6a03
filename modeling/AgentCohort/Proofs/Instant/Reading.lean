import AgentCohort.Proofs.Instant.LocalTimes
import AgentCohort.Proofs.Results

/-!
# Reading local times

Each reader takes off a text what writes its part, and reads all such parts if what follows ends
them.  So an instant is read from exactly the texts that write a local time which stands for it.
-/

namespace AgentCohort
namespace Instant

open CalendarDate (firstDay lastDay)
open Numeral (EndsDigits isDigit valueOf)
open Text (AllBlank trimLeft)

/-! ## Blanks and digits -/

theorem not_isBlank_of_isDigit {c : Char} (digit : isDigit c = true) :
    Text.isBlank c = false := by
  have inside : '0' ≤ c ∧ c ≤ '9' := by
    unfold isDigit Numeral.digit? at digit
    split at digit
    · assumption
    · cases digit
  have lower : '0'.toNat ≤ c.toNat := inside.1
  have upper : c.toNat ≤ '9'.toNat := inside.2
  simp only [Char.reduceToNat] at lower upper
  simp [Text.isBlank, Text.blankRanges]
  omega

theorem isDigit_eq_false_of_isBlank {c : Char} (blank : Text.isBlank c = true) :
    isDigit c = false := by
  apply Bool.eq_false_iff.mpr
  intro digit
  rw [not_isBlank_of_isDigit digit] at blank
  cases blank

theorem trimLeft_led {blanks : List Char} {c : Char} (blank : AllBlank blanks)
    (printed : Text.isBlank c = false) (cs : List Char) :
    trimLeft (blanks ++ c :: cs) = c :: cs := by
  rw [Text.trimLeft_append blank, Text.trimLeft_cons printed]

/-- Blanks end a run of digits as well as what follows them. -/
theorem endsDigits_led {blanks cs : List Char} (blank : AllBlank blanks) (ends : EndsDigits cs) :
    EndsDigits (blanks ++ cs) := by
  cases blanks with
  | nil => exact ends
  | cons c blanks =>
      exact Numeral.endsDigits_cons (isDigit_eq_false_of_isBlank (blank c List.mem_cons_self))

namespace Shows

variable {digits rest : List Char}
variable {number most : Nat}

theorem exists_cons (shows : Shows digits number) :
    ∃ c others, digits = c :: others ∧ isDigit c = true := by
  cases digits with
  | nil => exact absurd rfl shows.nonempty
  | cons c others => exact ⟨c, others, rfl, shows.all c List.mem_cons_self⟩

theorem trimLeft_led (shows : Shows digits number) {blanks : List Char} (blank : AllBlank blanks)
    (rest : List Char) : trimLeft (blanks ++ (digits ++ rest)) = digits ++ rest := by
  obtain ⟨c, others, rfl, digit⟩ := shows.exists_cons
  exact Instant.trimLeft_led blank (not_isBlank_of_isDigit digit) _

theorem lt (shows : Shows digits number) : number < 10 ^ digits.length := by
  rw [← shows.value]
  exact Numeral.valueOf_lt digits

/-- Nine digits write a word. -/
theorem le_maxInt64 (shows : Shows digits number) (short : digits.length ≤ 9) :
    number ≤ Numeral.maxInt64 := by
  have bound := Nat.pow_le_pow_right (by decide : 0 < 10) short
  exact Nat.le_trans (Nat.le_of_lt (Nat.lt_of_lt_of_le shows.lt bound)) (by decide)

/-- A number of at most so many digits is read with all of them if none follows. -/
theorem readNumber (shows : Shows digits number) (fits : number ≤ Numeral.maxInt64)
    (short : digits.length ≤ most) (ends : EndsDigits (rest.take (most - digits.length))) :
    readNumber most (digits ++ rest) = .ok (number, rest) := by
  have taken : ((digits ++ rest).take most).takeWhile isDigit = digits := by
    rw [List.take_append, List.take_of_length_le short]
    exact (Numeral.takeWhile_isDigit_append shows.all ends).1
  unfold Instant.readNumber
  rw [if_neg (by simp [shows.nonempty])]
  dsimp only
  rw [taken, List.drop_left]
  unfold numberOf
  rw [if_neg shows.nonempty, shows.value, if_neg (by omega)]

theorem readLongNumber (shows : Shows digits number) (fits : number ≤ Numeral.maxInt64)
    (ends : EndsDigits rest) : readLongNumber (digits ++ rest) = .ok (number, rest) := by
  obtain ⟨taken, dropped⟩ := Numeral.takeWhile_isDigit_append shows.all ends
  unfold Instant.readLongNumber
  rw [if_neg (by simp [shows.nonempty]), taken, dropped]
  unfold numberOf
  rw [if_neg shows.nonempty, shows.value, if_neg (by omega)]

end Shows

section Read

variable {cs rest : List Char}
variable {number : Nat}

theorem shows_of_numberOf {digits after : List Char} (all : ∀ c ∈ digits, isDigit c = true)
    (read : numberOf digits after = .ok (number, rest)) : Shows digits number ∧ after = rest := by
  unfold numberOf at read
  split at read
  · cases read
  · rename_i nonempty
    split at read
    · cases read
    · cases read
      exact ⟨⟨nonempty, all, rfl⟩, rfl⟩

/-- The digits of a number are taken off the text. -/
theorem exists_of_readNumber {most : Nat} (read : readNumber most cs = .ok (number, rest)) :
    ∃ digits, cs = digits ++ rest ∧ digits.length ≤ most ∧ Shows digits number ∧
      EndsDigits (rest.take (most - digits.length)) := by
  have split := List.takeWhile_append_dropWhile (p := isDigit) (l := cs.take most)
  generalize taken : (cs.take most).takeWhile isDigit = digits at split
  unfold readNumber at read
  rw [taken] at read
  split at read
  · cases read
  · obtain ⟨shows, rfl⟩ :=
      shows_of_numberOf (taken ▸ fun _ => List.mem_takeWhile_imp) read
    have front : digits <+: cs.take most := ⟨_, split⟩
    refine ⟨digits, ?_, ?_, shows, ?_⟩
    · exact (List.prefix_iff_eq_append.mp (front.trans (List.take_prefix most cs))).symm
    · exact Nat.le_trans front.length_le (List.length_take_le _ _)
    · rw [← List.drop_take, ← split, List.drop_left]
      exact Numeral.endsDigits_dropWhile _

theorem exists_of_readLongNumber (read : readLongNumber cs = .ok (number, rest)) :
    ∃ digits, cs = digits ++ rest ∧ Shows digits number := by
  unfold readLongNumber at read
  split at read
  · cases read
  · obtain ⟨shows, rfl⟩ := shows_of_numberOf (fun _ => List.mem_takeWhile_imp) read
    exact ⟨_, List.takeWhile_append_dropWhile.symm, shows⟩

/-! ## Parts and marks -/

theorem exists_of_readPart {low high : Nat} (read : readPart low high cs = .ok (number, rest)) :
    ∃ blanks digits, AllBlank blanks ∧ cs = blanks ++ (digits ++ rest) ∧
      WritesPart low high digits number := by
  obtain ⟨blanks, blank, led⟩ := Text.exists_trimLeft cs
  obtain ⟨⟨found, after⟩, number, inside⟩ := bind_eq_ok read
  dsimp only at inside
  split at inside
  · rename_i bounds
    cases inside
    obtain ⟨digits, split, short, shows, _⟩ := exists_of_readNumber number
    exact ⟨blanks, digits, blank, split ▸ led, shows, short, bounds.1, bounds.2⟩
  · cases inside

theorem exists_of_readYear {year : Int} (read : readYear cs = .ok (year, rest)) :
    ∃ blanks written, AllBlank blanks ∧ cs = blanks ++ (written ++ rest) ∧
      WritesYear written year := by
  obtain ⟨blanks, blank, led⟩ := Text.exists_trimLeft cs
  have same {found : Int} {after : List Char}
      (bounded : (if -2147483648 ≤ found ∧ found ≤ 2147483647 then
        Except.ok (found, after) else Except.error Fault.outOfRange) = Except.ok (year, rest)) :
      found = year ∧ after = rest := by
    split at bounded
    · cases bounded
      exact ⟨rfl, rfl⟩
    · cases bounded
  unfold readYear at read
  dsimp only at read
  split at read
  · rename_i minus
    obtain ⟨⟨magnitude, after⟩, long, bounded⟩ := bind_eq_ok read
    obtain ⟨digits, rfl, shows⟩ := exists_of_readLongNumber long
    obtain ⟨rfl, rfl⟩ := same bounded
    rw [minus] at led
    exact ⟨blanks, _, blank, led, .minus shows⟩
  · rename_i plus
    obtain ⟨⟨magnitude, after⟩, long, bounded⟩ := bind_eq_ok read
    obtain ⟨digits, rfl, shows⟩ := exists_of_readLongNumber long
    obtain ⟨rfl, rfl⟩ := same bounded
    rw [plus] at led
    exact ⟨blanks, _, blank, led, .plus shows⟩
  · obtain ⟨⟨magnitude, after⟩, unsigned, bounded⟩ := bind_eq_ok read
    obtain ⟨digits, split, short, shows, _⟩ := exists_of_readNumber unsigned
    obtain ⟨rfl, rfl⟩ := same bounded
    rw [split] at led
    exact ⟨blanks, digits, blank, led, .digits shows short⟩

theorem exists_of_readMark {mark : Char} (read : readMark mark cs = .ok ((), rest)) :
    ∃ blanks, AllBlank blanks ∧ cs = blanks ++ ([mark] ++ rest) := by
  obtain ⟨blanks, blank, led⟩ := Text.exists_trimLeft cs
  unfold readMark at read
  split at read
  · cases read
  · rename_i found
    split at read
    · rename_i same
      cases read
      rw [found, same] at led
      exact ⟨blanks, blank, led⟩
    · cases read

theorem exists_of_readJoint (read : readJoint cs = .ok ((), rest)) :
    ∃ joint ∈ ['t', 'T', ' '], cs = joint :: rest := by
  unfold readJoint at read
  split at read
  · cases read
  · split at read
    · rename_i joint
      cases read
      exact ⟨_, by simpa using joint, rfl⟩
    · cases read

end Read

section Written

variable {blanks written rest : List Char}

theorem WritesPart.read {low high number : Nat} (writes : WritesPart low high written number)
    (blank : AllBlank blanks) (ends : EndsDigits rest) :
    readPart low high (blanks ++ (written ++ rest)) = .ok (number, rest) := by
  have fits := writes.shows.le_maxInt64 (Nat.le_trans writes.short (by decide))
  unfold readPart
  rw [writes.shows.trimLeft_led blank, writes.shows.readNumber fits writes.short (ends.take _)]
  change (if low ≤ number ∧ number ≤ high then _ else _) = _
  rw [if_pos ⟨writes.lower, writes.upper⟩]
  rfl

theorem WritesYear.read {year : Int} (writes : WritesYear written year)
    (lower : CalendarDate.firstYear ≤ year) (upper : year ≤ CalendarDate.lastYear)
    (blank : AllBlank blanks) (ends : EndsDigits rest) :
    readYear (blanks ++ (written ++ rest)) = .ok (year, rest) := by
  unfold CalendarDate.firstYear at lower
  unfold CalendarDate.lastYear at upper
  have fits (magnitude : Nat) (bounded : magnitude ≤ 262143) : magnitude ≤ Numeral.maxInt64 :=
    Nat.le_trans bounded (by decide)
  unfold readYear
  cases writes with
  | digits shows short =>
      obtain ⟨c, others, rfl, digit⟩ := shows.exists_cons
      rw [shows.trimLeft_led blank]
      split
      · rename_i same
        cases same
        cases digit
      · rename_i same
        cases same
        cases digit
      · simp only [shows.readNumber (fits _ (by omega)) short (ends.take _), bind, Except.bind,
          pure, Except.pure]
        rw [if_pos (by omega)]
  | plus shows =>
      rw [List.cons_append, trimLeft_led blank (by decide)]
      simp only [shows.readLongNumber (fits _ (by omega)) ends, bind, Except.bind, pure,
        Except.pure]
      rw [if_pos (by omega)]
  | minus shows =>
      rw [List.cons_append, trimLeft_led blank (by decide)]
      simp only [shows.readLongNumber (fits _ (by omega)) ends, bind, Except.bind, pure,
        Except.pure]
      rw [if_pos (by omega)]

theorem readMark_led {mark : Char} (blank : AllBlank blanks) (printed : Text.isBlank mark = false)
    (rest : List Char) : readMark mark (blanks ++ mark :: rest) = .ok ((), rest) := by
  unfold readMark
  rw [trimLeft_led blank printed]
  exact if_pos rfl

theorem readJoint_cons {joint : Char} (known : joint ∈ ['t', 'T', ' ']) (rest : List Char) :
    readJoint (joint :: rest) = .ok ((), rest) :=
  if_pos (by simpa using known)

end Written

/-! ## Decimals -/

/-- Nine digits of a fraction write its whole nanoseconds. -/
theorem valueOf_take_nine (digits : List Char) :
    valueOf (digits.take 9) * 10 ^ (9 - (digits.take 9).length) =
      valueOf digits * 10 ^ 9 / 10 ^ digits.length := by
  rcases Nat.le_total digits.length 9 with short | long
  · have scale : 10 ^ 9 = 10 ^ (9 - digits.length) * 10 ^ digits.length := by
      rw [← Nat.pow_add, Nat.sub_add_cancel short]
    rw [List.take_of_length_le short, scale, ← Nat.mul_assoc,
      Nat.mul_div_cancel _ (Nat.pow_pos (by decide))]
  · have nine : (digits.take 9).length = 9 := List.length_take_of_le long
    have length : digits.length = (digits.drop 9).length + 9 := by
      rw [List.length_drop, Nat.sub_add_cancel long]
    have front := Numeral.valueOf_append_div (digits.take 9) (digits.drop 9)
    rw [List.take_append_drop] at front
    rw [nine, Nat.sub_self, Nat.pow_zero, Nat.mul_one, length, Nat.pow_add,
      Nat.mul_div_mul_right _ _ (Nat.pow_pos (by decide)), front]

theorem exists_of_readDecimals {cs rest : List Char} {nanosecond : Nat}
    (read : readDecimals cs = .ok (nanosecond, rest)) :
    ∃ written, cs = written ++ rest ∧ WritesDecimals written nanosecond := by
  unfold readDecimals at read
  split at read
  · obtain ⟨⟨number, after⟩, found, same⟩ := bind_eq_ok read
    obtain ⟨front, rfl, short, shows, ends⟩ := exists_of_readNumber found
    cases same
    have nine : (front ++ after.takeWhile isDigit).take 9 = front := by
      by_cases full : front.length = 9
      · rw [← full, List.take_left]
      · have none : after.takeWhile isDigit = [] :=
          (Numeral.takeWhile_isDigit_of_endsDigits (Numeral.endsDigits_of_take (by omega) ends)).1
        rw [none, List.append_nil, List.take_of_length_le short]
    have places : (front ++ after).length - after.length = front.length := by
      rw [List.length_append, Nat.add_sub_cancel]
    have whole : Shows (front ++ after.takeWhile isDigit)
        (valueOf (front ++ after.takeWhile isDigit)) :=
      ⟨List.append_ne_nil_of_left_ne_nil shows.nonempty _,
        List.forall_mem_append.mpr ⟨shows.all, fun _ => List.mem_takeWhile_imp⟩, rfl⟩
    have value := valueOf_take_nine (front ++ after.takeWhile isDigit)
    rw [nine, shows.value] at value
    refine ⟨'.' :: (front ++ after.takeWhile isDigit), ?_, ?_⟩
    · rw [List.cons_append, List.append_assoc, List.takeWhile_append_dropWhile]
    · rw [places]
      exact value ▸ .point whole
  · cases read
    exact ⟨[], rfl, .none⟩

/-- Neither a digit nor a point. -/
def EndsDecimals (rest : List Char) : Prop :=
  ∀ c ∈ rest.head?, isDigit c = false ∧ c ≠ '.'

theorem WritesDecimals.read {written rest : List Char} {nanosecond : Nat}
    (writes : WritesDecimals written nanosecond) (ends : EndsDecimals rest) :
    readDecimals (written ++ rest) = .ok (nanosecond, rest) := by
  have endsDigits : EndsDigits rest := fun c present => (ends c present).1
  cases writes with
  | none =>
      unfold readDecimals
      split
      · rename_i same
        rw [List.nil_append] at same
        exact absurd rfl (ends '.' (same ▸ rfl)).2
      · rfl
  | @point digits number shows =>
      have front : Shows (digits.take 9) (valueOf (digits.take 9)) :=
        ⟨by simp [shows.nonempty], fun c present => shows.all c (List.mem_of_mem_take present), rfl⟩
      have short : (digits.take 9).length ≤ 9 := List.length_take_le 9 digits
      have follows :
          EndsDigits ((digits.drop 9 ++ rest).take (9 - (digits.take 9).length)) := by
        rcases Nat.le_total 9 digits.length with long | few
        · exact Numeral.endsDigits_take_of_length_eq (List.length_take_of_le long) _
        · rw [List.drop_eq_nil_of_le few]
          exact endsDigits.take _
      have found := front.readNumber (front.le_maxInt64 short) short follows
      rw [← List.append_assoc, List.take_append_drop] at found
      have places : (digits ++ rest).length - (digits.drop 9 ++ rest).length =
          (digits.take 9).length := by
        rw [List.length_append, List.length_append, List.length_drop, List.length_take]
        omega
      have dropped : (digits.drop 9 ++ rest).dropWhile isDigit = rest :=
        (Numeral.takeWhile_isDigit_append
          (fun c present => shows.all c (List.mem_of_mem_drop present)) endsDigits).2
      rw [List.cons_append, readDecimals]
      simp only [found, bind, Except.bind, pure, Except.pure]
      rw [places, dropped, ← shows.value]
      exact congrArg (fun value => Except.ok (value, rest)) (valueOf_take_nine digits)

/-! ## Offsets -/

theorem exists_of_readTwoDigits {cs rest : List Char} {tens ones : Nat}
    (read : readTwoDigits cs = .ok ((tens, ones), rest)) :
    ∃ digits, cs = digits ++ rest ∧ digits.length = 2 ∧ Shows digits (tens * 10 + ones) ∧
      ones ≤ 9 := by
  unfold readTwoDigits at read
  split at read
  · rename_i a b rest
    split at read
    · rename_i first second
      cases read
      refine ⟨[a, b], rfl, rfl, ⟨List.cons_ne_nil _ _, ?_, ?_⟩, ?_⟩
      · simp [isDigit, first, second]
      · simp [valueOf, first, second]
      · have small := Numeral.digit?_getD_le b
        rwa [second] at small
    · cases read
  · cases read
  · cases read

theorem Shows.readTwoDigits {digits : List Char} {number : Nat} (shows : Shows digits number)
    (two : digits.length = 2) (rest : List Char) :
    readTwoDigits (digits ++ rest) = .ok ((number / 10, number % 10), rest) := by
  obtain ⟨a, b, rfl⟩ := List.length_eq_two.mp two
  have first := Numeral.digit?_of_isDigit (shows.all a (by simp))
  have second := Numeral.digit?_of_isDigit (shows.all b (by simp))
  have small := Numeral.digit?_getD_le b
  have value := shows.value
  simp only [valueOf, List.foldl_cons, List.foldl_nil, first, second, Option.getD_some]
    at value small
  rw [List.cons_append, List.cons_append, List.nil_append, Instant.readTwoDigits, first, second]
  dsimp only
  rw [show number / 10 = a.toNat - '0'.toNat by omega,
    show number % 10 = b.toNat - '0'.toNat by omega]

theorem isOffsetGap_eq_false_of_isDigit {c : Char} (digit : isDigit c = true) :
    isOffsetGap c = false := by
  unfold isOffsetGap
  rw [not_isBlank_of_isDigit digit, Bool.or_false]
  apply decide_eq_false
  rintro rfl
  cases digit

theorem exists_of_readOffsetSpan {cs rest : List Char} {seconds : Nat}
    (read : readOffsetSpan cs = .ok (seconds, rest)) :
    ∃ written, cs = written ++ rest ∧ WritesSpan written seconds := by
  obtain ⟨⟨⟨tens, ones⟩, after⟩, first, others⟩ := bind_eq_ok read
  obtain ⟨⟨⟨tens', ones'⟩, after'⟩, second, inside⟩ := bind_eq_ok others
  obtain ⟨hours, rfl, twoHours, showHour, _⟩ := exists_of_readTwoDigits first
  obtain ⟨minutes, after_eq, twoMinutes, showMinute, small⟩ := exists_of_readTwoDigits second
  dsimp only at inside
  split at inside
  · cases inside
    refine ⟨hours ++ (after.takeWhile isOffsetGap ++ minutes), ?_,
      .parts showHour twoHours (fun _ => List.mem_takeWhile_imp) showMinute twoMinutes (by omega)⟩
    rw [List.append_assoc, List.append_assoc, ← after_eq, List.takeWhile_append_dropWhile]
  · cases inside

theorem WritesSpan.read {written : List Char} {seconds : Nat} (writes : WritesSpan written seconds)
    (rest : List Char) : readOffsetSpan (written ++ rest) = .ok (seconds, rest) := by
  cases writes with
  | @parts hours gap minutes hour minute showHour twoHours between showMinute twoMinutes upper =>
      have dropped : (gap ++ (minutes ++ rest)).dropWhile isOffsetGap = minutes ++ rest := by
        obtain ⟨c, others, rfl, digit⟩ := showMinute.exists_cons
        rw [List.dropWhile_append_of_pos between, List.cons_append, List.dropWhile_cons,
          isOffsetGap_eq_false_of_isDigit digit]
        rfl
      unfold readOffsetSpan
      simp only [List.append_assoc, showHour.readTwoDigits twoHours, dropped,
        showMinute.readTwoDigits twoMinutes, bind, Except.bind]
      rw [if_pos (by omega), Nat.mul_comm (hour / 10), Nat.div_add_mod, Nat.mul_comm (minute / 10),
        Nat.div_add_mod]
      rfl

theorem exists_of_readOffset {cs rest : List Char} {offset : Int}
    (read : readOffset cs = .ok (offset, rest)) :
    ∃ written, cs = written ++ rest ∧ WritesOffset written offset := by
  unfold readOffset at read
  split at read
  · rename_i universal
    cases read
    unfold afterUniversal? at universal
    split at universal
    · rename_i u t c after
      split at universal
      · rename_i letters
        cases universal
        exact ⟨[u, t, c], rfl, .letters (by simp [letters])⟩
      · cases universal
    · cases universal
  · split at read
    · cases read
    · rename_i sign after _
      split at read
      · rename_i letter
        cases read
        exact ⟨[sign], rfl, .letter letter⟩
      · split at read
        · rename_i plus
          obtain ⟨⟨seconds, _⟩, span, same⟩ := map_eq_ok read
          obtain ⟨written, rfl, writes⟩ := exists_of_readOffsetSpan span
          cases same
          exact ⟨'+' :: written, congrArg (· :: _) plus, .ahead writes⟩
        · split at read
          · rename_i minus
            obtain ⟨⟨seconds, _⟩, span, same⟩ := map_eq_ok read
            obtain ⟨written, rfl, writes⟩ := exists_of_readOffsetSpan span
            cases same
            exact ⟨sign :: written, rfl, .behind minus writes⟩
          · cases read

/-- Neither `Z` nor a sign begins the letters of universal time. -/
theorem afterUniversal?_cons_eq_none {c : Char} (other : c.toLower ≠ 'u') (rest : List Char) :
    afterUniversal? (c :: rest) = none := by
  unfold afterUniversal?
  split
  · rename_i same
    cases same
    exact if_neg fun letters => other letters.1
  · rfl

theorem eq_of_toLower_eq_u {c : Char} (small : c.toLower = 'u') : c = 'u' ∨ c = 'U' := by
  unfold Char.toLower at small
  split at small
  · have shifted : c.val + 32 = 'U'.val + 32 := congrArg Char.val small
    exact .inr (Char.ext ((UInt32.add_left_inj 32).mp shifted))
  · exact .inl small

namespace WritesOffset

variable {written : List Char}
variable {offset : Int}

/-- An offset begins with a letter or a sign. -/
theorem exists_cons (writes : WritesOffset written offset) :
    ∃ c rest, written = c :: rest ∧ Text.isBlank c = false ∧ isDigit c = false ∧ c ≠ '.' := by
  cases writes with
  | letter universal => rcases universal with rfl | rfl <;> exact ⟨_, _, rfl, by decide⟩
  | letters universal =>
      have small := (List.cons.inj universal).1
      rcases eq_of_toLower_eq_u small with rfl | rfl <;> exact ⟨_, _, rfl, by decide⟩
  | ahead span => exact ⟨_, _, rfl, by decide⟩
  | behind sign span => rcases sign with rfl | rfl <;> exact ⟨_, _, rfl, by decide⟩

theorem read (writes : WritesOffset written offset) (rest : List Char) :
    readOffset (written ++ rest) = .ok (offset, rest) := by
  cases writes with
  | letter universal =>
      rcases universal with rfl | rfl <;>
        · rw [List.cons_append, readOffset, afterUniversal?_cons_eq_none (by decide)]
          rfl
  | @letters u t c universal =>
      rw [List.map_cons, List.map_cons, List.map_cons, List.map_nil, List.cons.injEq,
        List.cons.injEq, List.cons.injEq] at universal
      obtain ⟨first, second, third, _⟩ := universal
      have known : afterUniversal? (u :: t :: c :: rest) = some rest :=
        if_pos ⟨first, second, third⟩
      rw [List.cons_append, List.cons_append, List.cons_append, List.nil_append, readOffset, known]
  | ahead span =>
      rw [List.cons_append, readOffset, afterUniversal?_cons_eq_none (by decide)]
      dsimp only
      rw [if_neg (by decide), if_pos rfl, span.read rest]
      rfl
  | behind sign span =>
      rcases sign with rfl | rfl <;>
        · rw [List.cons_append, readOffset, afterUniversal?_cons_eq_none (by decide)]
          dsimp only
          rw [if_neg (by decide), if_neg (by decide), if_pos (by decide), span.read rest]
          rfl

end WritesOffset

theorem endsDecimals_led {blanks cs : List Char} (blank : AllBlank blanks)
    (ends : EndsDecimals cs) : EndsDecimals (blanks ++ cs) := by
  cases blanks with
  | nil => exact ends
  | cons c blanks =>
      have white := blank c List.mem_cons_self
      intro first present
      cases present
      refine ⟨isDigit_eq_false_of_isBlank white, ?_⟩
      rintro rfl
      cases white

theorem WritesOffset.endsDecimals {written : List Char} {offset : Int}
    (writes : WritesOffset written offset) (rest : List Char) : EndsDecimals (written ++ rest) := by
  obtain ⟨c, others, rfl, _, other, point⟩ := writes.exists_cons
  intro first present
  cases present
  exact ⟨other, point⟩

theorem WritesDecimals.endsDigits {written rest : List Char} {nanosecond : Nat}
    (writes : WritesDecimals written nanosecond) (ends : EndsDecimals rest) :
    EndsDigits (written ++ rest) := by
  cases writes with
  | none => exact fun c present => (ends c present).1
  | point shows => exact Numeral.endsDigits_cons (by decide)

/-! ## Dates and times of day -/

theorem exists_of_readDate {cs rest : List Char} {date : CalendarDate}
    (read : readDate cs = .ok (date, rest)) :
    ∃ written, cs = written ++ rest ∧ WritesDate written date := by
  obtain ⟨⟨year, _⟩, readsYear, read⟩ := bind_eq_ok read
  obtain ⟨⟨_, _⟩, readsYearEnd, read⟩ := bind_eq_ok read
  obtain ⟨⟨month, _⟩, readsMonth, read⟩ := bind_eq_ok read
  obtain ⟨⟨_, _⟩, readsMonthEnd, read⟩ := bind_eq_ok read
  obtain ⟨⟨day, _⟩, readsDay, read⟩ := bind_eq_ok read
  cases read
  obtain ⟨blanks₁, yearText, blank₁, rfl, writesYear⟩ := exists_of_readYear readsYear
  obtain ⟨blanks₂, blank₂, rfl⟩ := exists_of_readMark readsYearEnd
  obtain ⟨blanks₃, monthText, blank₃, rfl, writesMonth⟩ := exists_of_readPart readsMonth
  obtain ⟨blanks₄, blank₄, rfl⟩ := exists_of_readMark readsMonthEnd
  obtain ⟨blanks₅, dayText, blank₅, rfl, writesDay⟩ := exists_of_readPart readsDay
  refine ⟨_, ?_, yearText, monthText, dayText, ⟨blanks₁, _, blank₁, rfl, blanks₂, _, blank₂, rfl,
    blanks₃, _, blank₃, rfl, blanks₄, _, blank₄, rfl, blanks₅, _, blank₅, rfl, rfl⟩, writesYear,
    writesMonth, writesDay⟩
  simp only [List.append_assoc, List.cons_append, List.nil_append]

theorem exists_of_readClock {cs rest : List Char} {clock : Clock}
    (read : readClock cs = .ok (clock, rest)) :
    ∃ written, cs = written ++ rest ∧ WritesClock written clock := by
  obtain ⟨⟨hour, _⟩, readsHour, read⟩ := bind_eq_ok read
  obtain ⟨⟨_, _⟩, readsHourEnd, read⟩ := bind_eq_ok read
  obtain ⟨⟨minute, _⟩, readsMinute, read⟩ := bind_eq_ok read
  obtain ⟨⟨_, _⟩, readsMinuteEnd, read⟩ := bind_eq_ok read
  obtain ⟨⟨second, _⟩, readsSecond, read⟩ := bind_eq_ok read
  obtain ⟨⟨nanosecond, _⟩, readsDecimals, read⟩ := bind_eq_ok read
  cases read
  obtain ⟨blanks₁, hourText, blank₁, rfl, writesHour⟩ := exists_of_readPart readsHour
  obtain ⟨blanks₂, blank₂, rfl⟩ := exists_of_readMark readsHourEnd
  obtain ⟨blanks₃, minuteText, blank₃, rfl, writesMinute⟩ := exists_of_readPart readsMinute
  obtain ⟨blanks₄, blank₄, rfl⟩ := exists_of_readMark readsMinuteEnd
  obtain ⟨blanks₅, secondText, blank₅, rfl, writesSecond⟩ := exists_of_readPart readsSecond
  obtain ⟨decimals, rfl, writesDecimals⟩ := exists_of_readDecimals readsDecimals
  refine ⟨_, ?_, hourText, minuteText, secondText, decimals, ⟨blanks₁, _, blank₁, rfl, blanks₂, _,
    blank₂, rfl, blanks₃, _, blank₃, rfl, blanks₄, _, blank₄, rfl, blanks₅, _, blank₅, rfl, rfl⟩,
    writesHour, writesMinute, writesSecond, writesDecimals⟩
  simp only [List.append_assoc, List.cons_append, List.nil_append]

theorem WritesDate.read {written rest : List Char} {date : CalendarDate}
    (writes : WritesDate written date)
    (years : CalendarDate.firstYear ≤ date.year ∧ date.year ≤ CalendarDate.lastYear)
    (ends : EndsDigits rest) :
    readDate (written ++ rest) = .ok (date, rest) := by
  obtain ⟨yearText, monthText, dayText, ⟨blanks₁, _, blank₁, rfl, blanks₂, _, blank₂, rfl,
    blanks₃, _, blank₃, rfl, blanks₄, _, blank₄, rfl, blanks₅, _, blank₅, rfl, rfl⟩, year, month,
    day⟩ := writes
  have hyphen {blanks : List Char} (blank : AllBlank blanks) (rest : List Char) :
      EndsDigits (blanks ++ '-' :: rest) :=
    endsDigits_led blank (Numeral.endsDigits_cons (by decide))
  unfold readDate
  simp only [List.append_assoc, List.cons_append, List.nil_append,
    year.read years.1 years.2 blank₁ (hyphen blank₂ _),
    readMark_led blank₂ (by decide : Text.isBlank '-' = false),
    month.read blank₃ (hyphen blank₄ _),
    readMark_led blank₄ (by decide : Text.isBlank '-' = false), day.read blank₅ ends,
    bind, Except.bind, pure, Except.pure]

theorem WritesClock.read {written rest : List Char} {clock : Clock}
    (writes : WritesClock written clock) (ends : EndsDecimals rest) :
    readClock (written ++ rest) = .ok (clock, rest) := by
  obtain ⟨hourText, minuteText, secondText, decimalsText, ⟨blanks₁, _, blank₁, rfl, blanks₂, _,
    blank₂, rfl, blanks₃, _, blank₃, rfl, blanks₄, _, blank₄, rfl, blanks₅, _, blank₅, rfl, rfl⟩,
    hour, minute, second, decimals⟩ := writes
  have colon {blanks : List Char} (blank : AllBlank blanks) (rest : List Char) :
      EndsDigits (blanks ++ ':' :: rest) :=
    endsDigits_led blank (Numeral.endsDigits_cons (by decide))
  unfold readClock
  simp only [List.append_assoc, List.cons_append, List.nil_append,
    hour.read blank₁ (colon blank₂ _), readMark_led blank₂ (by decide : Text.isBlank ':' = false),
    minute.read blank₃ (colon blank₄ _),
    readMark_led blank₄ (by decide : Text.isBlank ':' = false),
    second.read blank₅ (decimals.endsDigits ends), decimals.read ends,
    bind, Except.bind, pure, Except.pure]

theorem WritesClock.second_le {written : List Char} {clock : Clock}
    (writes : WritesClock written clock) : clock.second ≤ 60 := by
  obtain ⟨_, _, _, _, _, _, _, second, _⟩ := writes
  exact second.upper

/-! ## Instants -/

theorem atOffset_eq_ok_iff {date : CalendarDate} {second nanosecond : Nat} {offset : Int}
    {instant : Instant} :
    atOffset date second nanosecond offset = .ok instant ↔
      date.isValid = true ∧ (-86400 < offset ∧ offset < 86400) ∧
      (firstDay ≤ instant.day ∧ instant.day ≤ lastDay) ∧ instant.second < 86400 ∧
      instant.day * 86400 + instant.second = date.toDays * 86400 + second - offset ∧
      instant.nanosecond = nanosecond := by
  obtain ⟨day, inDay, fraction⟩ := instant
  unfold atOffset secondsPerDay
  dsimp only
  constructor
  · intro moved
    split at moved
    · cases moved
    · rename_i valid
      split at moved
      · cases moved
      · split at moved
        · cases moved
        · rename_i inRange
          cases moved
          refine ⟨not_not.mp valid, by omega, ?_, by omega, by omega, rfl⟩
          exact ⟨Int.not_lt.mp fun early => inRange (.inl early),
            Int.not_lt.mp fun late => inRange (.inr late)⟩
  · rintro ⟨valid, apart, ⟨lower, upper⟩, bounded, same, rfl⟩
    have sameDay : date.toDays + ((second : Int) - offset) / 86400 = day := by omega
    have sameSecond : (((second : Int) - offset) % 86400).toNat = inDay := by omega
    rw [if_neg (not_not.mpr valid), if_neg (by omega), sameDay, sameSecond, if_neg]
    rintro (early | late)
    · exact Int.not_lt.mpr lower early
    · exact Int.not_lt.mpr upper late

/-- A local time is moved to the instant that it stands for. -/
theorem LocalTime.standsFor_iff {time : LocalTime} {instant : Instant}
    (second : time.clock.second ≤ 60) :
    time.StandsFor instant ↔
      atOffset time.date
        (time.clock.hour * 3600 + time.clock.minute * 60 +
          if time.clock.second = 60 then 59 else time.clock.second)
        (time.clock.nanosecond + if time.clock.second = 60 then nanosecondsPerSecond else 0)
        time.offset = .ok instant := by
  have last : (if time.clock.second = 60 then 59 else time.clock.second) =
      min time.clock.second 59 := by
    split <;> omega
  rw [atOffset_eq_ok_iff, last]
  constructor
  · rintro ⟨valid, offset, inRange, bounded, elapsed, nanosecond⟩
    exact ⟨valid, offset, inRange, bounded, elapsed, nanosecond⟩
  · rintro ⟨valid, offset, inRange, bounded, elapsed, nanosecond⟩
    exact ⟨valid, offset, inRange, bounded, elapsed, nanosecond⟩

theorem names_of_ofChars {cs : List Char} {instant : Instant}
    (read : ofChars cs = .ok instant) : Names cs instant := by
  obtain ⟨⟨date, _⟩, readsDate, afterDate⟩ := bind_eq_ok read
  obtain ⟨⟨_, _⟩, readsJoint, afterJoint⟩ := bind_eq_ok afterDate
  obtain ⟨⟨clock, later⟩, readsClock, afterClock⟩ := bind_eq_ok afterJoint
  obtain ⟨⟨offset, rest⟩, readsOffset, moved⟩ := bind_eq_ok afterClock
  obtain ⟨dateText, rfl, writesDate⟩ := exists_of_readDate readsDate
  obtain ⟨joint, known, rfl⟩ := exists_of_readJoint readsJoint
  obtain ⟨clockText, rfl, writesClock⟩ := exists_of_readClock readsClock
  obtain ⟨offsetText, trimmed, writesOffset⟩ := exists_of_readOffset readsOffset
  obtain ⟨blanks, blank, led⟩ := Text.exists_trimLeft later
  dsimp only at moved
  split at moved
  · rename_i nothing
    refine ⟨⟨date, clock, offset⟩, ?_, ?_⟩
    · refine ⟨dateText, joint, clockText, blanks, offsetText, rest, ?_, blank, ?_, known,
        writesDate, writesClock, writesOffset⟩
      · rw [← trimmed, ← led]
      · exact Text.trimLeft_eq_nil_iff.mp (List.isEmpty_iff.mp nothing)
    · exact (LocalTime.standsFor_iff writesClock.second_le).mpr moved
  · cases moved

theorem ofChars_of_names {cs : List Char} {instant : Instant} (names : Names cs instant) :
    ofChars cs = .ok instant := by
  obtain ⟨time, ⟨date, joint, clock, blanks, offset, rest, rfl, blank, blankRest, known,
    writesDate, writesClock, writesOffset⟩, stands⟩ := names
  obtain ⟨years, _⟩ := CalendarDate.bounds_of_isValid stands.valid
  have ends : EndsDigits (joint :: (clock ++ (blanks ++ (offset ++ rest)))) := by
    simp only [List.mem_cons, List.not_mem_nil, or_false] at known
    rcases known with rfl | rfl | rfl <;> exact Numeral.endsDigits_cons (by decide)
  have trimmed : trimLeft (blanks ++ (offset ++ rest)) = offset ++ rest := by
    obtain ⟨c, others, rfl, printed, _⟩ := writesOffset.exists_cons
    exact trimLeft_led blank printed _
  have nothing : (trimLeft rest).isEmpty = true :=
    List.isEmpty_iff.mpr (Text.trimLeft_eq_nil_iff.mpr blankRest)
  unfold ofChars
  simp only [writesDate.read years ends, readJoint_cons known,
    writesClock.read (endsDecimals_led blank (writesOffset.endsDecimals rest)), trimmed,
    writesOffset.read, bind, Except.bind]
  rw [if_pos nothing]
  exact (LocalTime.standsFor_iff writesClock.second_le).mp stands

/-- An instant is read from exactly the texts that name it. -/
theorem ofChars_eq_ok_iff {cs : List Char} {instant : Instant} :
    ofChars cs = .ok instant ↔ Names cs instant :=
  ⟨names_of_ofChars, ofChars_of_names⟩

end Instant
end AgentCohort
