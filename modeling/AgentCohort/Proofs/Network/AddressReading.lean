import AgentCohort.Network.IpAddress.Reader
import AgentCohort.Proofs.Numeral
import AgentCohort.Proofs.Text.Digits

/-!
# Addresses are read as they are printed

The printed form of every address is read as that address, and nothing is left over.  Four bytes
are told from groups by the point after the first number.  A run of groups is read up to a colon
that no group follows, so what stands before and after the `::` comes back as it is, and the
groups that are missing are the zeros for which it stands.
-/

namespace AgentCohort
namespace Network
namespace IpAddress

open Text (isDigitIn valueIn)

/-! ## Numbers -/

/-- The digits of a number are read as that number if no further digit follows. -/
theorem readNumber_toDigits
    {base most n : Nat}
    {leadingZeros : Bool}
    {rest : List Char}
    (twoDigits : 1 < base)
    (fits : base ≤ 16)
    (short : (Nat.toDigits base n).length ≤ most)
    (zeros : leadingZeros = true ∨ base = 10)
    (ends : ∀ c ∈ rest.head?, isDigitIn base c = false) :
    readNumber base most leadingZeros (Nat.toDigits base n ++ rest) = some (n, rest) := by
  have all : ∀ c ∈ Nat.toDigits base n, isDigitIn base c = true :=
    fun _ => Text.isDigitIn_of_mem_toDigits twoDigits fits
  have stop : rest.takeWhile (isDigitIn base) = [] ∧ rest.dropWhile (isDigitIn base) = rest := by
    cases rest with
    | nil => exact ⟨rfl, rfl⟩
    | cons c rest =>
        have other : isDigitIn base c = false := ends c rfl
        simp [other]
  have plain : ¬ (¬ leadingZeros = true ∧ (Nat.toDigits base n).head? = some '0' ∧
      1 < (Nat.toDigits base n).length) := by
    rintro ⟨strict, zero, long⟩
    obtain rfl := zeros.resolve_left strict
    rw [Numeral.toDigits_eq_of_head?_eq_zero zero] at long
    exact absurd long (by decide)
  unfold readNumber
  rw [List.takeWhile_append_of_pos all, List.dropWhile_append_of_pos all, stop.1, stop.2,
    List.append_nil]
  dsimp only
  rw [if_neg (not_or.mpr ⟨Nat.toDigits_ne_nil, Nat.not_lt.mpr short⟩), if_neg plain,
    Text.valueIn_toDigits twoDigits fits]

/-! ## Four bytes -/

/-- Nothing, or something that goes on with no decimal number. -/
def EndsByte (rest : List Char) : Prop :=
  ∀ c ∈ rest.head?, isDigitIn 10 c = false

theorem endsByte_point (rest : List Char) : EndsByte ('.' :: rest) := by
  intro c present
  obtain rfl := Option.some.inj present
  decide

theorem readByte_append {rest : List Char} (ends : EndsByte rest) (byte : UInt8) :
    readByte (decimal byte.toNat ++ rest) = some (byte, rest) := by
  have small : byte.toNat < 256 := byte.toNat_lt
  have short : (Nat.toDigits 10 byte.toNat).length ≤ 3 :=
    (Nat.length_toDigits_le_iff (by decide) (by decide)).mpr (by omega)
  unfold readByte decimal
  rw [readNumber_toDigits (by decide) (by decide) short (.inr rfl) ends]
  dsimp only
  rw [if_pos small, UInt8.ofNat_toNat]

/-- Four bytes are read as they are printed. -/
theorem readBytes_bytesText (a b c d : UInt8) :
    readBytes (bytesText a b c d) = some ((a, b, c, d), []) := by
  have joined : bytesText a b c d =
      decimal a.toNat ++ '.' :: (decimal b.toNat ++ '.' :: (decimal c.toNat ++ '.' ::
        decimal d.toNat)) := by
    simp [bytesText]
  have ends : EndsByte [] := fun _ present => nomatch present
  have last := readByte_append ends d
  rw [List.append_nil] at last
  unfold readBytes
  simp [joined, readPointByte, readByte_append, endsByte_point, last]

theorem rest_of_readByte
    {cs rest : List Char}
    {byte : UInt8}
    (read : readByte cs = some (byte, rest)) :
    rest = cs.dropWhile (isDigitIn 10) := by
  unfold readByte readNumber at read
  dsimp only at read
  split at read
  · rename_i found
    split at found
    · cases found
    · split at found
      · cases found
      · obtain ⟨rfl, rfl⟩ := Prod.mk.inj (Option.some.inj found)
        split at read
        · exact (Prod.mk.inj (Option.some.inj read)).2.symm
        · cases read
  · cases read

/-- A text without a point after its first number does not begin with four bytes. -/
theorem readBytes_eq_none
    {cs : List Char}
    (pointless : (cs.dropWhile (isDigitIn 10)).head? ≠ some '.') :
    readBytes cs = none := by
  unfold readBytes
  cases first : readByte cs with
  | none => rfl
  | some found =>
      obtain ⟨byte, rest⟩ := found
      have none : readPointByte rest = none := by
        rw [rest_of_readByte first]
        unfold readPointByte
        split
        · rename_i point
          rw [point] at pointless
          exact absurd rfl pointless
        · rfl
      simp [none]

/-! ## Groups -/

/-- The digits of a group. -/
abbrev hexadecimal (group : UInt16) : List Char :=
  Nat.toDigits 16 group.toNat

/-- Nothing, or something that a colon begins. -/
def EndsGroup (rest : List Char) : Prop :=
  ∀ c ∈ rest.head?, c = ':'

theorem endsGroup_colon (rest : List Char) : EndsGroup (':' :: rest) := by
  intro c present
  exact (Option.some.inj present).symm

/-- Before the next colon there are no four bytes. -/
theorem readBytes_of_endsGroup {rest : List Char} (ends : EndsGroup rest) :
    readBytes rest = none := by
  apply readBytes_eq_none
  cases rest with
  | nil => simp
  | cons c rest =>
      obtain rfl : c = ':' := ends c rfl
      rw [List.dropWhile_cons_of_neg (by decide)]
      simp

theorem readBytes_group {rest : List Char} (ends : EndsGroup rest) (group : UInt16) :
    readBytes (hexadecimal group ++ rest) = none := by
  have pointless : ∀ digits : List Char, '.' ∉ digits →
      ((digits ++ rest).dropWhile (isDigitIn 10)).head? ≠ some '.' := by
    intro digits absent
    induction digits with
    | nil =>
        cases rest with
        | nil => simp
        | cons c rest =>
            obtain rfl : c = ':' := ends c rfl
            rw [List.nil_append, List.dropWhile_cons_of_neg (by decide)]
            simp
    | cons c digits inductionHypothesis =>
        rw [List.mem_cons, not_or] at absent
        rw [List.cons_append, List.dropWhile_cons]
        split
        · exact inductionHypothesis absent.2
        · simp [Ne.symm absent.1]
  exact readBytes_eq_none (pointless _ fun present =>
    (Text.plain_of_mem_toDigits (by decide) (by decide) present).2.2.1 rfl)

theorem readNumber_group {rest : List Char} (ends : EndsGroup rest) (group : UInt16) :
    readNumber 16 4 true (hexadecimal group ++ rest) = some (group.toNat, rest) := by
  have small : group.toNat < 65536 := group.toNat_lt
  refine readNumber_toDigits (by decide) (by decide) ?_ (.inl rfl) ?_
  · exact (Nat.length_toDigits_le_iff (by decide) (by decide)).mpr (by omega)
  · intro c present
    rw [ends c present]
    decide

/-- A group is read, and then the groups after it. -/
theorem readGroups_cons
    {first : Bool}
    {cs rest : List Char}
    {group : UInt16}
    (separated : afterSeparator? first cs = some (hexadecimal group ++ rest))
    (ends : EndsGroup rest)
    (limit : Nat) :
    readGroups first (limit + 1) cs =
      ⟨group :: (readGroups false limit rest).groups, (readGroups false limit rest).endsInBytes,
        (readGroups false limit rest).rest⟩ := by
  have bytes : (if 0 < limit then (afterSeparator? first cs).bind readBytes else none) = none := by
    split
    · rw [separated, Option.bind_some, readBytes_group ends]
    · rfl
  rw [readGroups]
  dsimp only
  rw [bytes]
  simp only [separated, Option.bind_some, readNumber_group ends, UInt16.ofNat_toNat]

/-- No group is read where a colon stands in the place of its digits. -/
theorem readGroups_of_stop
    {first : Bool}
    {cs : List Char}
    (stop : ∀ inner, afterSeparator? first cs = some inner → EndsGroup inner)
    (limit : Nat) :
    readGroups first limit cs = ⟨[], false, cs⟩ := by
  cases limit with
  | zero => rfl
  | succ limit =>
      cases separated : afterSeparator? first cs with
      | none => simp [readGroups, separated]
      | some inner =>
          have ends := stop inner separated
          have digitless : readNumber 16 4 true inner = none := by
            cases inner with
            | nil => rfl
            | cons c inner =>
                obtain rfl : c = ':' := ends c rfl
                have other : isDigitIn 16 ':' = false := by decide
                simp [readNumber, other]
          simp [readGroups, separated, digitless, readBytes_of_endsGroup ends]

/-- Groups, each after a colon. -/
def furtherText (groups : List UInt16) : List Char :=
  groups.flatMap fun group => ':' :: hexadecimal group

theorem groupsText_cons (group : UInt16) (groups : List UInt16) :
    groupsText (group :: groups) = hexadecimal group ++ furtherText groups := by
  induction groups generalizing group with
  | nil => simp [groupsText, furtherText]
  | cons next groups inductionHypothesis =>
      rw [groupsText, inductionHypothesis next]
      · simp [furtherText]
      · exact List.cons_ne_nil next groups

/-- Nothing, or two colons. -/
def EndsGroups (rest : List Char) : Prop :=
  rest = [] ∨ ∃ more, rest = ':' :: ':' :: more

theorem EndsGroups.endsGroup {rest : List Char} (ends : EndsGroups rest) : EndsGroup rest := by
  rcases ends with rfl | ⟨more, rfl⟩
  · exact fun c present => nomatch present
  · exact endsGroup_colon _

theorem endsGroup_further {rest : List Char} (ends : EndsGroups rest) (groups : List UInt16) :
    EndsGroup (furtherText groups ++ rest) := by
  cases groups with
  | nil => exact ends.endsGroup
  | cons group groups => exact endsGroup_colon _

theorem readGroups_further
    {groups : List UInt16}
    {rest : List Char}
    {limit : Nat}
    (ends : EndsGroups rest)
    (fits : groups.length ≤ limit) :
    readGroups false limit (furtherText groups ++ rest) = ⟨groups, false, rest⟩ := by
  induction groups generalizing limit with
  | nil =>
      apply readGroups_of_stop
      intro inner separated
      rcases ends with rfl | ⟨more, rfl⟩
      · cases separated
      · obtain rfl := Option.some.inj separated
        exact endsGroup_colon more
  | cons group groups inductionHypothesis =>
      obtain ⟨limit, rfl⟩ := Nat.exists_eq_add_of_lt (Nat.lt_of_lt_of_le (Nat.succ_pos _) fits)
      rw [Nat.zero_add]
      have separated : afterSeparator? false (furtherText (group :: groups) ++ rest) =
          some (hexadecimal group ++ (furtherText groups ++ rest)) := by
        simp [furtherText, afterSeparator?]
      rw [readGroups_cons separated (endsGroup_further ends groups),
        inductionHypothesis (by simp at fits; omega)]

/-- Groups are read up to the end or two colons. -/
theorem readGroups_groupsText
    {groups : List UInt16}
    {rest : List Char}
    {limit : Nat}
    (ends : EndsGroups rest)
    (fits : groups.length ≤ limit) :
    readGroups true limit (groupsText groups ++ rest) = ⟨groups, false, rest⟩ := by
  cases groups with
  | nil =>
      apply readGroups_of_stop
      intro inner separated
      obtain rfl := Option.some.inj separated
      exact ends.endsGroup
  | cons group groups =>
      obtain ⟨limit, rfl⟩ := Nat.exists_eq_add_of_lt (Nat.lt_of_lt_of_le (Nat.succ_pos _) fits)
      rw [Nat.zero_add]
      have separated : afterSeparator? true (groupsText (group :: groups) ++ rest) =
          some (hexadecimal group ++ (furtherText groups ++ rest)) := by
        rw [groupsText_cons, List.append_assoc]
        rfl
      rw [readGroups_cons separated (endsGroup_further ends groups),
        readGroups_further ends (by simp at fits; omega)]

theorem readGroups_whole
    {groups : List UInt16}
    {limit : Nat}
    (fits : groups.length ≤ limit) :
    readGroups true limit (groupsText groups) = ⟨groups, false, []⟩ := by
  rw [← List.append_nil (groupsText groups)]
  exact readGroups_groupsText (.inl rfl) fits

/-- Groups do not begin with four bytes. -/
theorem readBytes_groupsText
    {rest : List Char}
    (ends : EndsGroups rest)
    (groups : List UInt16) :
    readBytes (groupsText groups ++ rest) = none := by
  cases groups with
  | nil => exact readBytes_of_endsGroup ends.endsGroup
  | cons group groups =>
      rw [groupsText_cons, List.append_assoc]
      exact readBytes_group (endsGroup_further ends groups) group

/-! ## Runs of zeros -/

/-- A run of zeros in groups. -/
def ZeroRun.LiesIn (run : ZeroRun) (groups : List UInt16) : Prop :=
  ∃ front back, groups = front ++ List.replicate run.length 0 ++ back ∧ front.length = run.start

/-- A run of zeros at the end of groups, or none. -/
def ZeroRun.Ends (run : ZeroRun) (groups : List UInt16) : Prop :=
  run.length = 0 ∨
    ∃ front, groups = front ++ List.replicate run.length 0 ∧ front.length = run.start

/-- The run that is found lies in the groups: this is kept while they are passed, together with
the run that ends where one is. -/
theorem liesIn_longestZeroRun
    {passed rest : List UInt16}
    {current best : ZeroRun}
    (ends : current.Ends passed)
    (known : best.LiesIn (passed ++ rest)) :
    (longestZeroRun passed.length current best rest).LiesIn (passed ++ rest) := by
  induction rest generalizing passed current best with
  | nil => exact known
  | cons group rest inductionHypothesis =>
      have joined : passed ++ group :: rest = passed ++ [group] ++ rest := by simp
      have length : passed.length + 1 = (passed ++ [group]).length := by simp
      rw [joined] at known ⊢
      rw [longestZeroRun, length]
      by_cases zero : group = 0
      · subst zero
        let longer : ZeroRun :=
          if current.length = 0 then ⟨passed.length, 1⟩ else ⟨current.start, current.length + 1⟩
        have goesOn : longer.Ends (passed ++ [0]) := by
          by_cases none : current.length = 0
          · exact .inr ⟨passed, by simp [longer, none], by simp [longer, none]⟩
          · obtain ⟨front, rfl, start⟩ := ends.resolve_left none
            refine .inr ⟨front, ?_, by simp [longer, none, start]⟩
            simp [longer, none, List.replicate_succ']
        have lies : longer.LiesIn (passed ++ [0] ++ rest) := by
          rcases goesOn with none | ⟨front, same, start⟩
          · exact absurd none (by simp only [longer]; split <;> simp)
          · exact ⟨front, rest, by rw [same], start⟩
        have better : (if best.length < longer.length then longer else best).LiesIn
            (passed ++ [0] ++ rest) := by
          by_cases less : best.length < longer.length
          · rwa [if_pos less]
          · rwa [if_neg less]
        rw [if_pos rfl]
        exact inductionHypothesis goesOn better
      · rw [if_neg zero]
        exact inductionHypothesis (.inl rfl) known

/-! ## Version 6 -/

theorem ofGroups?_toList (groups : Vector UInt16 8) :
    ofGroups? groups.toList = some (.v6 groups) := by
  unfold ofGroups?
  rw [dif_pos (by simp)]
  rfl

theorem readV6_groupsText {groups : List UInt16} (whole : groups.length = 8) :
    readV6 (groupsText groups) = (ofGroups? groups).map fun address => (address, []) := by
  unfold readV6
  simp [readGroups_whole (Nat.le_of_eq whole), whole]

/-- After two colons come the last groups; the groups in between are zeros. -/
theorem readV6_of_zeros
    {front : List UInt16}
    {rest : List Char}
    {back : Groups}
    (short : front.length < 8)
    (read : readGroups true (7 - front.length) rest = back) :
    readV6 (groupsText front ++ ':' :: ':' :: rest) =
      (ofGroups? (front ++ List.replicate (8 - front.length - back.groups.length) 0 ++
        back.groups)).map fun address => (address, back.rest) := by
  have start : readGroups true 8 (groupsText front ++ ':' :: ':' :: rest) =
      ⟨front, false, ':' :: ':' :: rest⟩ :=
    readGroups_groupsText (.inr ⟨rest, rfl⟩) (Nat.le_of_lt short)
  unfold readV6
  simp [start, Nat.ne_of_lt short, read]

theorem pairBytes_eq (group : UInt16) :
    pairBytes (group >>> 8).toUInt8 group.toUInt8 = group := by
  apply UInt16.toNat_inj.mp
  have small : group.toNat < 65536 := group.toNat_lt
  simp [pairBytes, Nat.shiftRight_eq_div_pow]
  omega

/-- An address that stands for one of version 4 is read from its bytes. -/
theorem readV6_mapped (high low : UInt16) :
    readV6 ("::ffff:".toList ++
        bytesText (high >>> 8).toUInt8 high.toUInt8 (low >>> 8).toUInt8 low.toUInt8) =
      (ofGroups? [0, 0, 0, 0, 0, 0xFFFF, high, low]).map fun address => (address, []) := by
  let bytes := bytesText (high >>> 8).toUInt8 high.toUInt8 (low >>> 8).toUInt8 low.toUInt8
  have last : readGroups false 6 (':' :: bytes) = ⟨[high, low], true, []⟩ := by
    simp [readGroups, afterSeparator?, bytes, readBytes_bytesText, pairBytes_eq]
  have mark : hexadecimal 0xFFFF = "ffff".toList := by decide
  have back : readGroups true 7 (hexadecimal 0xFFFF ++ ':' :: bytes) =
      ⟨[0xFFFF, high, low], true, []⟩ := by
    rw [readGroups_cons rfl (endsGroup_colon bytes), last]
  rw [mark] at back
  have short : ([] : List UInt16).length < 8 := by decide
  exact readV6_of_zeros short back

theorem mappedBytes?_eq_some
    {groups : List UInt16}
    {bytes : UInt8 × UInt8 × UInt8 × UInt8}
    (mapped : mappedBytes? groups = some bytes) :
    ∃ high low, groups = [0, 0, 0, 0, 0, 0xFFFF, high, low] ∧
      bytes = ((high >>> 8).toUInt8, high.toUInt8, (low >>> 8).toUInt8, low.toUInt8) := by
  unfold mappedBytes? at mapped
  split at mapped
  · exact ⟨_, _, rfl, (Option.some.inj mapped).symm⟩
  · cases mapped

/-- Eight groups are read as they are printed. -/
theorem readV6_v6Text {groups : List UInt16} (whole : groups.length = 8) :
    readV6 (v6Text groups) = (ofGroups? groups).map fun address => (address, []) := by
  unfold v6Text
  split
  · rename_i mapped
    obtain ⟨high, low, rfl, same⟩ := mappedBytes?_eq_some mapped
    cases same
    exact readV6_mapped high low
  · dsimp only
    split
    · rename_i long
      have none : ZeroRun.Ends ⟨0, 0⟩ [] := .inl rfl
      have lies : (longestZeroRun 0 ⟨0, 0⟩ ⟨0, 0⟩ groups).LiesIn groups :=
        liesIn_longestZeroRun none ⟨[], groups, rfl, rfl⟩
      generalize longestZeroRun 0 ⟨0, 0⟩ ⟨0, 0⟩ groups = run at long lies
      obtain ⟨front, back, rfl, start⟩ := lies
      have sum : front.length + (run.length + back.length) = 8 := by simpa using whole
      have taken : (front ++ List.replicate run.length 0 ++ back).take run.start = front := by
        rw [List.append_assoc, ← start, List.take_left]
      have dropped : (front ++ List.replicate run.length 0 ++ back).drop
          (run.start + run.length) = back := by
        rw [← start]
        exact List.drop_left' (by simp)
      have read : readGroups true (7 - front.length) (groupsText back) = ⟨back, false, []⟩ :=
        readGroups_whole (by omega)
      have zeros : 8 - front.length - back.length = run.length := by omega
      rw [taken, dropped, readV6_of_zeros (by omega) read, zeros]
    · exact readV6_groupsText whole

theorem readBytes_v6Text (groups : List UInt16) : readBytes (v6Text groups) = none := by
  unfold v6Text
  split
  · exact readBytes_of_endsGroup (endsGroup_colon _)
  · dsimp only
    split
    · exact readBytes_groupsText (.inr ⟨_, rfl⟩) _
    · rw [← List.append_nil (groupsText groups)]
      exact readBytes_groupsText (.inl rfl) groups

/-! ## Both versions -/

/-- Every address is read as it is printed. -/
theorem ofText?_toText (address : IpAddress) : ofText? address.toText = some address := by
  unfold ofText?
  cases address with
  | v4 a b c d =>
      rw [toText, readBytes_bytesText]
  | v6 groups =>
      rw [toText, readBytes_v6Text]
      unfold ofV6Text?
      rw [readV6_v6Text (by simp), ofGroups?_toList]
      rfl

end IpAddress
end Network
end AgentCohort
