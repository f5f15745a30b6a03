import AgentCohort.Json.Decoder
import AgentCohort.Proofs.Json.NumberReading
import AgentCohort.Proofs.Json.TextReading

/-!
# Documents are read as they are spelled

Whatever the grammar says that some characters spell, the reader makes of them, blanks and all.
A decoder is therefore asked about the document that a text spells and about nothing else.
-/

namespace AgentCohort
namespace Json

open Numeral (isDigit)

/-! ## Blanks -/

theorem isBlank_nil : IsBlank [] := by
  intro c present
  cases present

theorem skipSpaces_append_of_isBlank {blanks : List Char} (isBlank : IsBlank blanks)
    (cs : List Char) :
    skipSpaces (blanks ++ cs) = skipSpaces cs :=
  List.dropWhile_append_of_pos isBlank

theorem skipSpaces_of_isBlank {blanks : List Char} (isBlank : IsBlank blanks) :
    skipSpaces blanks = [] := by
  rw [← List.append_nil blanks, skipSpaces_append_of_isBlank isBlank]
  rfl

theorem skipSpaces_cons_of_not_isSpace {c : Char} (other : isSpace c = false) (cs : List Char) :
    skipSpaces (c :: cs) = c :: cs := by
  simp [skipSpaces, other]

theorem skipSpaces_skipSpaces (cs : List Char) : skipSpaces (skipSpaces cs) = skipSpaces cs := by
  induction cs with
  | nil => rfl
  | cons c cs inductionHypothesis =>
      cases blank : isSpace c with
      | true =>
          have skipped : skipSpaces (c :: cs) = skipSpaces cs := by simp [skipSpaces, blank]
          rw [skipped, inductionHypothesis]
      | false =>
          rw [skipSpaces_cons_of_not_isSpace blank, skipSpaces_cons_of_not_isSpace blank]

/-- Blanks before a value do not matter. -/
theorem readValue_skipSpaces (fuel : Nat) (cs : List Char) :
    readValue fuel (skipSpaces cs) = readValue fuel cs := by
  cases fuel with
  | zero => simp [readValue]
  | succ fuel => rw [readValue, readValue, skipSpaces_skipSpaces]

theorem readItems_skipSpaces (fuel : Nat) (seen : List Document) (cs : List Char) :
    readItems fuel seen (skipSpaces cs) = readItems fuel seen cs := by
  cases fuel with
  | zero => simp [readItems]
  | succ fuel => rw [readItems, readItems, readValue_skipSpaces]

theorem readMembers_skipSpaces (fuel : Nat) (seen : List (Key × Document)) (cs : List Char) :
    readMembers fuel seen (skipSpaces cs) = readMembers fuel seen cs := by
  cases fuel with
  | zero => simp [readMembers]
  | succ fuel => rw [readMembers, readMembers, skipSpaces_skipSpaces]

/-- After blanks something begins that closes neither a list nor a record. -/
def BeginsPart (cs : List Char) : Prop :=
  ∃ blanks c rest, cs = blanks ++ c :: rest ∧ IsBlank blanks ∧ isSpace c = false ∧
    c ≠ ']' ∧ c ≠ '\x7d'

namespace BeginsPart

variable {cs : List Char}

theorem of_cons {c : Char} (other : isSpace c = false) (item : c ≠ ']') (member : c ≠ '\x7d')
    (rest : List Char) :
    BeginsPart (c :: rest) := by
  exact ⟨[], c, rest, rfl, isBlank_nil, other, item, member⟩

theorem append (begins : BeginsPart cs) (rest : List Char) : BeginsPart (cs ++ rest) := by
  obtain ⟨blanks, c, tail, rfl, isBlank, other, item, member⟩ := begins
  exact ⟨blanks, c, tail ++ rest, by simp, isBlank, other, item, member⟩

theorem before {blanks : List Char} (isBlank : IsBlank blanks) (begins : BeginsPart cs) :
    BeginsPart (blanks ++ cs) := by
  obtain ⟨blanks', c, tail, rfl, isBlank', other, item, member⟩ := begins
  refine ⟨blanks ++ blanks', c, tail, by simp, ?_, other, item, member⟩
  intro c present
  rcases List.mem_append.mp present with first | second
  · exact isBlank c first
  · exact isBlank' c second

theorem skipSpaces_eq (begins : BeginsPart cs) :
    ∃ c rest, skipSpaces cs = c :: rest ∧ c ≠ ']' ∧ c ≠ '\x7d' := by
  obtain ⟨blanks, c, tail, rfl, isBlank, other, item, member⟩ := begins
  refine ⟨c, tail, ?_, item, member⟩
  rw [skipSpaces_append_of_isBlank isBlank, skipSpaces_cons_of_not_isSpace other]

end BeginsPart

/-- A numeral begins with neither a blank nor a bracket. -/
theorem IsNumber.exists_first {cs : List Char} (written : IsNumber cs) :
    ∃ c rest, cs = c :: rest ∧ isSpace c = false ∧ (c ≠ '[' ∧ c ≠ '\x7b') ∧
      c ≠ ']' ∧ c ≠ '\x7d' := by
  obtain ⟨c, rest, rfl, digit | rfl⟩ := written.exists_cons
  · refine ⟨c, rest, rfl, ?_, ⟨?_, ?_⟩, ?_, ?_⟩
    · apply Bool.eq_false_iff.mpr
      intro blank
      have ends : isDigit c = false :=
        (endsValue_cons_of_isSpace blank : EndsValue (c :: rest)).notInNumber.1
      rw [digit] at ends
      cases ends
    all_goals
      rintro rfl
      cases digit
  · exact ⟨'-', rest, rfl, by decide, by decide, by decide, by decide⟩

theorem SpellsKey.beginsPart {cs : List Char} {key : Key} (spelled : SpellsKey cs key) :
    BeginsPart cs := by
  obtain ⟨isBlank, _, _⟩ := spelled
  exact .before isBlank (.of_cons (by decide) (by decide) (by decide) _)

theorem Spells.beginsPart {cs : List Char} {document : Document} (spelled : Spells cs document) :
    BeginsPart cs := by
  induction spelled with
  | null => exact .of_cons (by decide) (by decide) (by decide) _
  | yes => exact .of_cons (by decide) (by decide) (by decide) _
  | no => exact .of_cons (by decide) (by decide) (by decide) _
  | number written =>
      obtain ⟨c, rest, rfl, other, _, item, member⟩ := written.exists_first
      exact .of_cons other item member rest
  | text spelled => exact .of_cons (by decide) (by decide) (by decide) _
  | sequence isBlank spelled inductionHypothesis =>
      exact .of_cons (by decide) (by decide) (by decide) _
  | table isBlank keys values inductionHypothesis =>
      exact .of_cons (by decide) (by decide) (by decide) _
  | @before c cs document blank spelled inductionHypothesis =>
      have isBlank : IsBlank [c] := by simpa [IsBlank] using blank
      exact .before isBlank inductionHypothesis
  | after spelled blank inductionHypothesis => exact inductionHypothesis.append _

/-! ## Breaks -/

theorem SpellsKey.skipBreak? {cs : List Char} {key : Key} (spelled : SpellsKey cs key) :
    key.skipBreak? = none := by
  cases spelled with
  | @mk before cs after value? isBlank spelled isBlank' => cases value? <;> rfl

theorem skipItemsBreak?_eq_none
    {items : List Document}
    (whole : ∀ item ∈ items, item.skipBreak? = none) :
    Document.skipItemsBreak? items = none := by
  induction items with
  | nil => rfl
  | cons item items inductionHypothesis =>
      rw [List.forall_mem_cons] at whole
      rw [Document.skipItemsBreak?, whole.1, inductionHypothesis whole.2]
      rfl

theorem skipMembersBreak?_eq_none_iff {members : List (Key × Document)} :
    Document.skipMembersBreak? members = none ↔
      ∀ member ∈ members, member.1.skipBreak? = none ∧ member.2.skipBreak? = none := by
  induction members with
  | nil => simp [Document.skipMembersBreak?]
  | cons member members inductionHypothesis =>
      rw [Document.skipMembersBreak?, Option.or_eq_none_iff, Option.or_eq_none_iff,
        inductionHypothesis, List.forall_mem_cons]

theorem IsNumeric.skipBreak? {document : Document} (numeric : IsNumeric document) :
    document.skipBreak? = none := by
  cases numeric <;> rfl

/-- What is spelled does not break off. -/
theorem Spells.skipBreak? {cs : List Char} {document : Document} (spelled : Spells cs document) :
    document.skipBreak? = none := by
  induction spelled with
  | null | yes | no => rfl
  | number written => exact written.isNumeric.skipBreak?
  | @text cs value? spelled => cases value? <;> rfl
  | sequence isBlank spelled inductionHypothesis =>
      rw [Document.skipBreak?, skipItemsBreak?_eq_none]
      · rfl
      · intro item present
        obtain ⟨written, known, rfl⟩ := List.mem_map.mp present
        exact inductionHypothesis written known
  | table isBlank keys values inductionHypothesis =>
      rw [Document.skipBreak?, skipMembersBreak?_eq_none_iff.mpr]
      · rfl
      · intro member present
        obtain ⟨written, known, rfl⟩ := List.mem_map.mp present
        exact ⟨(keys written known).skipBreak?, inductionHypothesis written known⟩
  | before blank spelled inductionHypothesis => exact inductionHypothesis
  | after spelled blank inductionHypothesis => exact inductionHypothesis

/-- No member of a record that does not break off does. -/
theorem skipBreak?_of_mem
    {members : List (Key × Document)}
    {ending : Ending}
    (whole : Document.skipBreak? (.table members ending) = none) :
    ∀ member ∈ members, member.2.skipBreak? = none := by
  rw [Document.skipBreak?, Option.or_eq_none_iff] at whole
  intro member present
  exact (skipMembersBreak?_eq_none_iff.mp whole.1 member present).2

/-- No member of a record that is spelled breaks off. -/
theorem Spells.skipBreak?_of_mem
    {cs : List Char}
    {members : List (Key × Document)}
    (spelled : Spells cs (.table members .closed)) :
    ∀ member ∈ members, member.2.skipBreak? = none :=
  Json.skipBreak?_of_mem spelled.skipBreak?

/-! ## Lists and records -/

/-- Some characters are read as a document with any characters after them that may follow a
value; the reader may leave blanks. -/
def ReadsValue (cs : List Char) (document : Document) : Prop :=
  ∀ fuel rest, 2 * cs.length ≤ fuel → EndsValue rest →
    ∃ blanks, IsBlank blanks ∧ readValue fuel (cs ++ rest) = (document, blanks ++ rest)

/-- The marks after a part are no blanks. -/
theorem isSpace_eq_false_of_mem {mark : Char} (known : mark ∈ [',', ']', '\x7d']) :
    isSpace mark = false := by
  simp only [List.mem_cons, List.not_mem_nil, or_false] at known
  rcases known with rfl | rfl | rfl <;> rfl

theorem commaSeparated_cons_cons (first second : List Char) (parts : List (List Char)) :
    commaSeparated (first :: second :: parts) =
      first ++ ',' :: commaSeparated (second :: parts) := by
  rw [commaSeparated]
  simp

theorem beginsPart_commaSeparated
    {part : List Char}
    (begins : BeginsPart part)
    (parts : List (List Char)) :
    BeginsPart (commaSeparated (part :: parts)) := by
  cases parts with
  | nil => exact begins
  | cons next parts =>
      rw [commaSeparated_cons_cons]
      exact begins.append _

/-- One item is read, and then the reader looks at the mark after it. -/
theorem readItems_item
    {cs rest : List Char}
    {document : Document}
    {mark : Char}
    (reads : ReadsValue cs document)
    (whole : document.skipBreak? = none)
    {fuel : Nat}
    (enough : 2 * cs.length ≤ fuel)
    (isMark : mark ∈ [',', ']'])
    (seen : List Document) :
    readItems (fuel + 1) seen (cs ++ mark :: rest) =
      if mark = ']' then (.sequence (document :: seen).reverse .closed, rest)
      else readItems fuel (document :: seen) rest := by
  simp only [List.mem_cons, List.not_mem_nil, or_false] at isMark
  have known : mark ∈ [',', ']', '\x7d'] := by
    rcases isMark with rfl | rfl <;> decide
  have printed := isSpace_eq_false_of_mem known
  obtain ⟨blanks, isBlank, read⟩ := reads fuel (mark :: rest) enough (endsValue_cons_of_mem known)
  rw [readItems, read]
  dsimp only
  rw [whole, skipSpaces_append_of_isBlank isBlank, skipSpaces_cons_of_not_isSpace printed]
  rcases isMark with rfl | rfl
  · rfl
  · rfl

/-- The items of a list are read one after another up to the closing mark. -/
theorem readItems_of_readsValue
    {item : List Char × Document}
    {items : List (List Char × Document)}
    (reads : ∀ part ∈ item :: items, ReadsValue part.1 part.2)
    (whole : ∀ part ∈ item :: items, part.2.skipBreak? = none)
    {fuel : Nat}
    (enough : 2 * (commaSeparated ((item :: items).map Prod.fst)).length + 2 ≤ fuel)
    (seen : List Document)
    (rest : List Char) :
    readItems fuel seen (commaSeparated ((item :: items).map Prod.fst) ++ ']' :: rest) =
      (.sequence (seen.reverse ++ (item :: items).map Prod.snd) .closed, rest) := by
  induction items generalizing item fuel seen with
  | nil =>
      obtain ⟨fuel, rfl⟩ := Nat.exists_eq_succ_of_ne_zero (Nat.ne_zero_of_lt enough)
      simp only [List.map_cons, List.map_nil, commaSeparated] at enough ⊢
      rw [readItems_item (reads item List.mem_cons_self) (whole item List.mem_cons_self)
        (by omega) (by decide), if_pos rfl, List.reverse_cons]
  | cons next items inductionHypothesis =>
      obtain ⟨fuel, rfl⟩ := Nat.exists_eq_succ_of_ne_zero (Nat.ne_zero_of_lt enough)
      rw [List.map_cons, List.map_cons, commaSeparated_cons_cons] at enough ⊢
      rw [List.length_append, List.length_cons] at enough
      rw [List.append_assoc, List.cons_append,
        readItems_item (reads item List.mem_cons_self) (whole item List.mem_cons_self)
          (by omega) (by decide), if_neg (by decide)]
      rw [← List.map_cons] at enough ⊢
      rw [inductionHypothesis (fun part present => reads part (List.mem_cons_of_mem item present))
        (fun part present => whole part (List.mem_cons_of_mem item present)) (by omega)]
      simp

theorem readKey_quote (rest : List Char) :
    readKey ('"' :: rest) =
      match readText (rest.length + 1) [] true rest with
      | (.text name, rest) => (.name name, rest)
      | (.unreadable ending, rest) => (.unreadable ending, rest)
      | (.broken cause, _) => (.broken cause, [])
      | (_, _) => (.broken .malformed, []) :=
  rfl

/-- The name of a member is read with the blanks before it. -/
theorem SpellsKey.read {cs : List Char} {key : Key} (spelled : SpellsKey cs key)
    (rest : List Char) :
    ∃ blanks, IsBlank blanks ∧
      readKey (skipSpaces (cs ++ ':' :: rest)) = (key, blanks ++ ':' :: rest) := by
  cases spelled with
  | @mk before cs after value? isBlank spelled isBlank' =>
      refine ⟨after, isBlank', ?_⟩
      have text := spelled.read (Nat.lt_succ_of_le (Nat.le_add_right cs.length
        ('"' :: (after ++ ':' :: rest)).length)) [] true (after ++ ':' :: rest)
      rw [← List.length_append] at text
      rw [List.append_assoc, skipSpaces_append_of_isBlank isBlank, List.cons_append,
        skipSpaces_cons_of_not_isSpace (by decide), List.append_assoc, List.cons_append]
      rw [readKey_quote, text]
      cases value? <;> simp [textDocument, textKey]

theorem SpellsKey.endsDocument {cs : List Char} {key : Key} (spelled : SpellsKey cs key) :
    key.endsDocument = false := by
  cases spelled with
  | @mk before cs after value? isBlank spelled isBlank' => cases value? <;> rfl

/-- One member is read, and then the reader looks at the mark after it. -/
theorem readMembers_member
    {member : WrittenMember}
    {rest : List Char}
    {mark : Char}
    (spelled : SpellsKey member.keyChars member.key)
    (reads : ReadsValue member.valueChars member.value)
    (whole : member.value.skipBreak? = none)
    {fuel : Nat}
    (enough : 2 * member.chars.length ≤ fuel)
    (isMark : mark ∈ [',', '\x7d'])
    (seen : List (Key × Document)) :
    readMembers (fuel + 1) seen (member.chars ++ mark :: rest) =
      if mark = '\x7d' then (.table (member.entry :: seen).reverse .closed, rest)
      else readMembers fuel (member.entry :: seen) rest := by
  simp only [List.mem_cons, List.not_mem_nil, or_false] at isMark
  have known : mark ∈ [',', ']', '\x7d'] := by
    rcases isMark with rfl | rfl <;> decide
  have printed := isSpace_eq_false_of_mem known
  have enough' : 2 * member.valueChars.length ≤ fuel := by
    simp only [WrittenMember.chars, List.length_append, List.length_cons] at enough
    omega
  obtain ⟨blanks, isBlank, key⟩ := spelled.read (member.valueChars ++ mark :: rest)
  obtain ⟨blanks', isBlank', value⟩ := reads fuel (mark :: rest) enough'
    (endsValue_cons_of_mem known)
  rw [WrittenMember.chars, List.append_assoc, List.cons_append, readMembers, key]
  dsimp only
  rw [spelled.endsDocument, skipSpaces_append_of_isBlank isBlank,
    skipSpaces_cons_of_not_isSpace (by decide)]
  simp only [value]
  rw [whole, skipSpaces_append_of_isBlank isBlank', skipSpaces_cons_of_not_isSpace printed]
  rcases isMark with rfl | rfl
  · rfl
  · rfl

/-- The members of a record are read one after another up to the closing mark. -/
theorem readMembers_of_readsValue
    {member : WrittenMember}
    {members : List WrittenMember}
    (keys : ∀ part ∈ member :: members, SpellsKey part.keyChars part.key)
    (reads : ∀ part ∈ member :: members, ReadsValue part.valueChars part.value)
    (whole : ∀ part ∈ member :: members, part.value.skipBreak? = none)
    {fuel : Nat}
    (enough : 2 * (commaSeparated ((member :: members).map WrittenMember.chars)).length + 2 ≤ fuel)
    (seen : List (Key × Document))
    (rest : List Char) :
    readMembers fuel seen
        (commaSeparated ((member :: members).map WrittenMember.chars) ++ '\x7d' :: rest) =
      (.table (seen.reverse ++ (member :: members).map WrittenMember.entry) .closed, rest) := by
  induction members generalizing member fuel seen with
  | nil =>
      obtain ⟨fuel, rfl⟩ := Nat.exists_eq_succ_of_ne_zero (Nat.ne_zero_of_lt enough)
      simp only [List.map_cons, List.map_nil, commaSeparated] at enough ⊢
      rw [readMembers_member (keys member List.mem_cons_self) (reads member List.mem_cons_self)
        (whole member List.mem_cons_self) (by omega) (by decide), if_pos rfl, List.reverse_cons]
  | cons next members inductionHypothesis =>
      obtain ⟨fuel, rfl⟩ := Nat.exists_eq_succ_of_ne_zero (Nat.ne_zero_of_lt enough)
      rw [List.map_cons, List.map_cons, commaSeparated_cons_cons] at enough ⊢
      rw [List.length_append, List.length_cons] at enough
      rw [List.append_assoc, List.cons_append,
        readMembers_member (keys member List.mem_cons_self) (reads member List.mem_cons_self)
          (whole member List.mem_cons_self) (by omega) (by decide), if_neg (by decide)]
      rw [← List.map_cons] at enough ⊢
      rw [inductionHypothesis
        (fun part present => keys part (List.mem_cons_of_mem member present))
        (fun part present => reads part (List.mem_cons_of_mem member present))
        (fun part present => whole part (List.mem_cons_of_mem member present)) (by omega)]
      simp

/-! ## Documents -/

/-- A value of one lexeme is read at once. -/
theorem readsValue_of_readScalar
    {c : Char}
    {cs : List Char}
    {document : Document}
    (other : isSpace c = false ∧ c ≠ '[' ∧ c ≠ '\x7b')
    (read : ∀ rest, EndsValue rest → readScalar (c :: cs ++ rest) = (document, rest)) :
    ReadsValue (c :: cs) document := by
  intro fuel rest enough ends
  obtain ⟨fuel, rfl⟩ := Nat.exists_eq_succ_of_ne_zero (Nat.ne_zero_of_lt enough)
  refine ⟨[], isBlank_nil, ?_⟩
  rw [List.cons_append, readValue, skipSpaces_cons_of_not_isSpace other.1]
  rw [List.nil_append, ← read rest ends]
  split
  · rename_i same
    cases same
    exact absurd rfl other.2.1
  · rename_i same
    cases same
    exact absurd rfl other.2.2
  · rfl

theorem readValue_bracket (fuel : Nat) (rest : List Char) :
    readValue (fuel + 1) ('[' :: rest) =
      match skipSpaces rest with
      | [] => (.sequence [] (.broken .endOfText), [])
      | ']' :: rest => (.sequence [] .closed, rest)
      | rest => readItems fuel [] rest := by
  rw [readValue]
  rfl

theorem readValue_brace (fuel : Nat) (rest : List Char) :
    readValue (fuel + 1) ('\x7b' :: rest) =
      match skipSpaces rest with
      | [] => (.table [] (.broken .endOfText), [])
      | '\x7d' :: rest => (.table [] .closed, rest)
      | rest => readMembers fuel [] rest := by
  rw [readValue]
  rfl

theorem readsValue_sequence
    {blanks : List Char}
    {items : List (List Char × Document)}
    (isBlank : IsBlank blanks)
    (spelled : ∀ item ∈ items, Spells item.1 item.2)
    (reads : ∀ item ∈ items, ReadsValue item.1 item.2) :
    ReadsValue ('[' :: (blanks ++ (commaSeparated (items.map Prod.fst) ++ [']'])))
      (.sequence (items.map Prod.snd) .closed) := by
  intro fuel rest enough ends
  obtain ⟨fuel, rfl⟩ := Nat.exists_eq_succ_of_ne_zero (Nat.ne_zero_of_lt enough)
  refine ⟨[], isBlank_nil, ?_⟩
  simp only [List.length_cons, List.length_append, List.length_nil] at enough
  have shape : '[' :: (blanks ++ (commaSeparated (items.map Prod.fst) ++ [']'])) ++ rest =
      '[' :: (blanks ++ (commaSeparated (items.map Prod.fst) ++ ']' :: rest)) := by simp
  rw [shape, readValue_bracket, skipSpaces_append_of_isBlank isBlank]
  cases items with
  | nil =>
      simp only [List.map_nil, commaSeparated, List.nil_append]
      rw [skipSpaces_cons_of_not_isSpace (by decide)]
      rfl
  | cons item items =>
      -- The reader has passed over the blanks before the first item already.
      have first := (spelled item List.mem_cons_self).beginsPart
      have begins := (beginsPart_commaSeparated first (items.map Prod.fst)).append (']' :: rest)
      obtain ⟨c, tail, skipped, notItem, _⟩ := begins.skipSpaces_eq
      have read := readItems_of_readsValue reads
        (fun part present => (spelled part present).skipBreak?)
        (by omega : _ ≤ fuel) [] rest
      rw [← readItems_skipSpaces, List.map_cons, skipped] at read
      rw [List.map_cons, skipped]
      split
      · rename_i same; cases same
      · rename_i same; cases same; exact absurd rfl notItem
      · exact read

theorem readsValue_table
    {blanks : List Char}
    {members : List WrittenMember}
    (isBlank : IsBlank blanks)
    (keys : ∀ member ∈ members, SpellsKey member.keyChars member.key)
    (spelled : ∀ member ∈ members, Spells member.valueChars member.value)
    (reads : ∀ member ∈ members, ReadsValue member.valueChars member.value) :
    ReadsValue
      ('\x7b' :: (blanks ++ (commaSeparated (members.map WrittenMember.chars) ++ ['\x7d'])))
      (.table (members.map WrittenMember.entry) .closed) := by
  intro fuel rest enough ends
  obtain ⟨fuel, rfl⟩ := Nat.exists_eq_succ_of_ne_zero (Nat.ne_zero_of_lt enough)
  refine ⟨[], isBlank_nil, ?_⟩
  simp only [List.length_cons, List.length_append, List.length_nil] at enough
  have shape :
      '\x7b' :: (blanks ++ (commaSeparated (members.map WrittenMember.chars) ++ ['\x7d'])) ++ rest =
        '\x7b' :: (blanks ++ (commaSeparated (members.map WrittenMember.chars) ++ '\x7d' :: rest)) := by
    simp
  rw [shape, readValue_brace, skipSpaces_append_of_isBlank isBlank]
  cases members with
  | nil =>
      simp only [List.map_nil, commaSeparated, List.nil_append]
      rw [skipSpaces_cons_of_not_isSpace (by decide)]
      rfl
  | cons member members =>
      have first : BeginsPart member.chars := (keys member List.mem_cons_self).beginsPart.append _
      have begins := (beginsPart_commaSeparated first
        (members.map WrittenMember.chars)).append ('\x7d' :: rest)
      obtain ⟨c, tail, skipped, _, notMember⟩ := begins.skipSpaces_eq
      have read := readMembers_of_readsValue keys reads
        (fun part present => (spelled part present).skipBreak?)
        (by omega : _ ≤ fuel) [] rest
      rw [← readMembers_skipSpaces, List.map_cons, skipped] at read
      rw [List.map_cons, skipped]
      split
      · rename_i same; cases same
      · rename_i same; cases same; exact absurd rfl notMember
      · exact read

theorem ReadsValue.before
    {c : Char}
    {cs : List Char}
    {document : Document}
    (blank : isSpace c = true)
    (reads : ReadsValue cs document) :
    ReadsValue (c :: cs) document := by
  intro fuel rest enough ends
  rw [List.length_cons] at enough
  obtain ⟨blanks, isBlank, read⟩ := reads fuel rest (by omega) ends
  refine ⟨blanks, isBlank, ?_⟩
  have skipped : skipSpaces (c :: cs ++ rest) = skipSpaces (cs ++ rest) := by
    simp [skipSpaces, blank]
  rw [← readValue_skipSpaces, skipped, readValue_skipSpaces, read]

theorem ReadsValue.after
    {c : Char}
    {cs : List Char}
    {document : Document}
    (reads : ReadsValue cs document)
    (blank : isSpace c = true) :
    ReadsValue (cs ++ [c]) document := by
  intro fuel rest enough ends
  rw [List.length_append] at enough
  obtain ⟨blanks, isBlank, read⟩ := reads fuel (c :: rest) (by omega)
    (endsValue_cons_of_isSpace blank)
  refine ⟨blanks ++ [c], ?_, ?_⟩
  · intro other present
    rcases List.mem_append.mp present with before | last
    · exact isBlank other before
    · rw [List.mem_singleton.mp last]
      exact blank
  · rw [List.append_assoc, List.singleton_append, read]
    simp

/-- Every document is read as it is spelled, whatever comes after it. -/
theorem Spells.read {cs : List Char} {document : Document} (spelled : Spells cs document) :
    ReadsValue cs document := by
  induction spelled with
  | null =>
      apply readsValue_of_readScalar (by decide)
      intro rest ends
      rfl
  | yes =>
      apply readsValue_of_readScalar (by decide)
      intro rest ends
      rfl
  | no =>
      apply readsValue_of_readScalar (by decide)
      intro rest ends
      rfl
  | @number cs written =>
      obtain ⟨c, tail, rfl, other, opening, _⟩ := written.exists_first
      apply readsValue_of_readScalar ⟨other, opening⟩
      intro rest ends
      exact written.read ends
  | @text cs value? spelled =>
      apply readsValue_of_readScalar (by decide)
      intro rest ends
      have text := spelled.read (Nat.lt_succ_of_le (Nat.le_add_right cs.length
        ('"' :: rest).length)) [] true rest
      rw [← List.length_append] at text
      have shape : '"' :: (cs ++ ['"']) ++ rest = '"' :: (cs ++ '"' :: rest) := by simp
      rw [shape]
      change readText ((cs ++ '"' :: rest).length + 1) [] true (cs ++ '"' :: rest) = _
      rw [text]
      cases value? <;> simp [textDocument]
  | sequence isBlank spelled inductionHypothesis =>
      exact readsValue_sequence isBlank spelled inductionHypothesis
  | table isBlank keys values inductionHypothesis =>
      exact readsValue_table isBlank keys values inductionHypothesis
  | before blank spelled inductionHypothesis => exact inductionHypothesis.before blank
  | after spelled blank inductionHypothesis => exact inductionHypothesis.after blank

/-- A text is read as the document that it spells, and nothing but blanks may be left. -/
theorem exists_ofChars_eq
    {cs : List Char}
    {document : Document}
    (spelled : Spells cs document) :
    ∃ blanks, IsBlank blanks ∧ Document.ofChars cs = (document, blanks) := by
  obtain ⟨blanks, isBlank, read⟩ :=
    spelled.read (2 * cs.length + 2) [] (by omega) endsValue_nil
  rw [List.append_nil, List.append_nil] at read
  exact ⟨blanks, isBlank, read⟩

/-- A decoder is asked about the document that a text spells. -/
theorem decodeChars_of_spells
    {cs : List Char}
    {document : Document}
    (spelled : Spells cs document)
    (decoder : Decoder α) :
    decodeChars decoder cs = decoder .text document := by
  obtain ⟨blanks, isBlank, read⟩ := exists_ofChars_eq spelled
  unfold decodeChars
  rw [read]
  dsimp only
  rw [skipSpaces_of_isBlank isBlank]
  cases decoder .text document <;> rfl

/-! ## Limits -/

theorem keepItemsBreak?_eq_none
    {depth : Nat}
    {items : List Document}
    (whole : ∀ item ∈ items, item.keepBreak? depth = none) :
    Document.keepItemsBreak? depth items = none := by
  induction items with
  | nil => rfl
  | cons item items inductionHypothesis =>
      rw [List.forall_mem_cons] at whole
      rw [Document.keepItemsBreak?, whole.1, inductionHypothesis whole.2]
      rfl

theorem keepMembersBreak?_eq_none
    {depth : Nat}
    {members : List (Key × Document)}
    (named : ∀ member ∈ members, ∃ name, member.1 = .name name)
    (whole : ∀ member ∈ members, member.2.keepBreak? depth = none) :
    Document.keepMembersBreak? depth members = none := by
  induction members with
  | nil => rfl
  | cons member members inductionHypothesis =>
      rw [List.forall_mem_cons] at named whole
      obtain ⟨⟨name, key⟩, named⟩ := named
      rw [Document.keepMembersBreak?, key, whole.1, inductionHypothesis named whole.2]
      rfl

/-- A document within the limits is taken in as a whole. -/
theorem Within.keepBreak? {depth : Nat} {document : Document} (within : Within depth document) :
    document.keepBreak? depth = none := by
  induction within with
  | null | boolean | integer | real | text => rfl
  | sequence within inductionHypothesis =>
      rw [Document.keepBreak?, if_neg (Nat.succ_ne_zero _), Nat.add_sub_cancel,
        keepItemsBreak?_eq_none inductionHypothesis]
      rfl
  | table named within inductionHypothesis =>
      rw [Document.keepBreak?, if_neg (Nat.succ_ne_zero _), Nat.add_sub_cancel,
        keepMembersBreak?_eq_none named inductionHypothesis]
      rfl

mutual

/-- What is taken in as a whole lies within the limits. -/
theorem within_of_keepBreak? {depth : Nat} (document : Document)
    (whole : document.keepBreak? depth = none) :
    Within depth document := by
  cases document with
  | null => exact .null
  | boolean value => exact .boolean value
  | integer value => exact .integer value
  | real value => exact .real value
  | text value => exact .text value
  | unreadable | brokenWord | broken => cases whole
  | sequence items ending =>
      rw [Document.keepBreak?] at whole
      cases depth with
      | zero => cases whole
      | succ depth =>
          rw [if_neg (Nat.succ_ne_zero _), Option.or_eq_none_iff] at whole
          cases ending with
          | closed => exact .sequence (within_of_keepItemsBreak? items whole.1)
          | broken cause => cases whole.2
  | table members ending =>
      rw [Document.keepBreak?] at whole
      cases depth with
      | zero => cases whole
      | succ depth =>
          rw [if_neg (Nat.succ_ne_zero _), Option.or_eq_none_iff] at whole
          have inside := within_of_keepMembersBreak? members whole.1
          cases ending with
          | closed =>
              exact .table (fun member present => (inside member present).1)
                fun member present => (inside member present).2
          | broken cause => cases whole.2

theorem within_of_keepItemsBreak? {depth : Nat} (items : List Document)
    (whole : Document.keepItemsBreak? depth items = none) :
    ∀ item ∈ items, Within depth item := by
  cases items with
  | nil => exact nofun
  | cons item items =>
      rw [Document.keepItemsBreak?, Option.or_eq_none_iff] at whole
      rw [List.forall_mem_cons]
      exact ⟨within_of_keepBreak? item whole.1, within_of_keepItemsBreak? items whole.2⟩

theorem within_of_keepMembersBreak? {depth : Nat} (members : List (Key × Document))
    (whole : Document.keepMembersBreak? depth members = none) :
    ∀ member ∈ members, (∃ name, member.1 = .name name) ∧ Within depth member.2 := by
  cases members with
  | nil => exact nofun
  | cons member members =>
      obtain ⟨key, value⟩ := member
      rw [Document.keepMembersBreak?, Option.or_eq_none_iff, Option.or_eq_none_iff] at whole
      rw [List.forall_mem_cons]
      refine ⟨⟨?_, within_of_keepBreak? value whole.1.2⟩,
        within_of_keepMembersBreak? members whole.2⟩
      cases key with
      | name name => exact ⟨name, rfl⟩
      | _ => cases whole.1.1

end

theorem keepBreak?_eq_none_iff {depth : Nat} {document : Document} :
    document.keepBreak? depth = none ↔ Within depth document :=
  ⟨within_of_keepBreak? document, Within.keepBreak?⟩

end Json
end AgentCohort
