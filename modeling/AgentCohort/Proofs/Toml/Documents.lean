import AgentCohort.Proofs.Toml.Numbers
import AgentCohort.Proofs.Toml.Tables

/-!
# Whole numbers in TOML documents

Where a document writes a whole number: the reader comes, line by line, to a line that gives a key
the number, or gives it a table on one line in which the reader comes, pair by pair, to the number.
If the document is well formed then the number fits a signed word of 64 bits and stands in the
finished tree as it is; no other number ever does.
-/

namespace AgentCohort
namespace Toml

open Numeral (isDigit)
open Settings (Tree)

variable {cs rest : List Char} {parts : List String} {n : Nat}

/-! ## What a key begins with -/

theorem skipSpaces_skipSpaces (cs : List Char) : skipSpaces (skipSpaces cs) = skipSpaces cs := by
  induction cs with
  | nil => rfl
  | cons c cs inductionHypothesis =>
      by_cases blank : isSpace c = true
      · rw [show skipSpaces (c :: cs) = skipSpaces cs from List.dropWhile_cons_of_pos blank]
        exact inductionHypothesis
      · rw [show skipSpaces (c :: cs) = c :: cs from List.dropWhile_cons_of_neg blank]
        exact List.dropWhile_cons_of_neg blank

/-- A key begins with a quote or with a character of its name. -/
theorem begins_of_readKey
    {limit : Nat}
    (read : readKey limit cs = some (parts, rest)) :
    ∃ c tail, skipSpaces cs = c :: tail ∧ (c = '"' ∨ c = '\'' ∨ isKeyChar c = true) := by
  cases limit with
  | zero => cases read
  | succ limit =>
      obtain ⟨part, first, -⟩ := Option.bind_eq_some_iff.mp read
      unfold readKeyPart at first
      split at first
      · rename_i tail same
        exact ⟨_, tail, same, .inl rfl⟩
      · rename_i tail same
        exact ⟨_, tail, same, .inr (.inl rfl)⟩
      · dsimp only at first
        split at first
        · cases first
        · rename_i name
          cases begins : skipSpaces cs with
          | nil =>
              rw [begins] at name
              exact absurd rfl name
          | cons c tail =>
              refine ⟨c, tail, rfl, .inr (.inr ?_)⟩
              by_cases letter : isKeyChar c = true
              · exact letter
              · rw [begins, List.takeWhile_cons_of_neg letter] at name
                exact absurd rfl name

theorem ne_nil_of_readKey
    {limit : Nat}
    (read : readKey limit cs = some (parts, rest)) :
    parts ≠ [] := by
  cases limit with
  | zero => cases read
  | succ limit =>
      obtain ⟨part, -, read⟩ := Option.bind_eq_some_iff.mp read
      dsimp only at read
      split at read
      · obtain ⟨more, -, same⟩ := Option.map_eq_some_iff.mp read
        cases same
        exact List.cons_ne_nil _ _
      · cases read
        exact List.cons_ne_nil _ _

theorem splitKey_append (nonempty : parts ≠ []) :
    (splitKey parts).1 ++ [(splitKey parts).2] = parts := by
  rw [splitKey, List.getLast?_eq_some_getLast nonempty, Option.getD_some]
  exact List.dropLast_concat_getLast nonempty

/-- Nothing else begins like a key: no line without a pair, no bracket and no brace. -/
theorem ne_of_begins {c : Char} (begins : c = '"' ∨ c = '\'' ∨ isKeyChar c = true) :
    c ≠ '#' ∧ c ≠ '[' ∧ c ≠ '\n' ∧ c ≠ '\r' ∧ c ≠ '\x7d' := by
  obtain rfl | rfl | letter := begins
  · decide
  · decide
  · refine ⟨?_, ?_, ?_, ?_, ?_⟩
    all_goals
      rintro rfl
      revert letter
      decide

/-! ## Pairs on one line -/

/-- The reader of a table on one line comes from some pairs to those after them. -/
inductive ComesInside (depth : Nat) (fuel : Nat) (done : Entries) (cs : List Char) :
    Nat → Entries → List Char → Prop
  | start : ComesInside depth fuel done cs fuel done cs
  | pair
      {fuel' : Nat}
      {done' done'' : Entries}
      {cs' after tail rest : List Char}
      {parts : List String}
      {value : Tree}
      (before : ComesInside depth fuel done cs (fuel' + 1) done' cs')
      (key : readKey depthLimit cs' = some (parts, '=' :: after))
      (read : readValue fuel' depth (skipSpaces after) = some (value, tail))
      (added : addValue (splitKey parts).1 (splitKey parts).2 value done' = some done'')
      (comma : skipSpaces tail = ',' :: rest) :
      ComesInside depth fuel done cs fuel' done'' rest

/-- The characters of a value write a whole number at a place inside the value. -/
inductive WritesInside : Nat → Nat → List Char → List String → Nat → Prop
  | plain
      {fuel depth n : Nat}
      {tail : List Char}
      (ends : EndsValue tail) :
      WritesInside (fuel + 1) depth (Nat.toDigits 10 n ++ tail) [] n
  | inside
      {fuel fuel' depth n : Nat}
      {done : Entries}
      {cs rest after : List Char}
      {parts place : List String}
      (comes : ComesInside (depth + 1) fuel [] (skipSpaces rest) (fuel' + 1) done cs)
      (key : readKey depthLimit cs = some (parts, '=' :: after))
      (through : Through (splitKey parts).1 done)
      (writes : WritesInside fuel' (depth + 1) (skipSpaces after) place n) :
      WritesInside (fuel + 1) depth ('\x7b' :: rest) (parts ++ place) n

theorem readPairs_of_comma
    {fuel depth : Nat}
    {done done' : Entries}
    {after tail : List Char}
    {value : Tree}
    (key : readKey depthLimit cs = some (parts, '=' :: after))
    (read : readValue fuel depth (skipSpaces after) = some (value, tail))
    (added : addValue (splitKey parts).1 (splitKey parts).2 value done = some done')
    (comma : skipSpaces tail = ',' :: rest) :
    readPairs (fuel + 1) depth done cs = readPairs fuel depth done' rest := by
  rw [readPairs, key, Option.bind_some]
  change (readValue fuel depth (skipSpaces after)).bind _ = _
  rw [read, Option.bind_some]
  change (addValue (splitKey parts).1 (splitKey parts).2 value done).bind _ = _
  rw [added, Option.bind_some, comma]
  rfl

/-- The pairs of a table that is read: the value of the next one is added, and either pairs follow
after a comma or the table is finished. -/
theorem exists_of_readPairs
    {fuel depth : Nat}
    {done : Entries}
    {value : Tree}
    (read : readPairs (fuel + 1) depth done cs = some (value, rest)) :
    ∃ parts after inner tail done', readKey depthLimit cs = some (parts, '=' :: after) ∧
      readValue fuel depth (skipSpaces after) = some (inner, tail) ∧
      addValue (splitKey parts).1 (splitKey parts).2 inner done = some done' ∧
      ((∃ further, readPairs fuel depth done' further = some (value, rest)) ∨
        value = .table none (entryTrees done')) := by
  rw [readPairs] at read
  obtain ⟨⟨parts, after⟩, key, read⟩ := Option.bind_eq_some_iff.mp read
  dsimp only at read
  split at read
  · obtain ⟨⟨inner, tail⟩, valueRead, read⟩ := Option.bind_eq_some_iff.mp read
    obtain ⟨done', addedValue, read⟩ := Option.bind_eq_some_iff.mp read
    refine ⟨parts, _, inner, tail, done', key, valueRead, addedValue, ?_⟩
    dsimp only at read
    split at read
    · exact .inl ⟨_, read⟩
    · cases read
      exact .inr rfl
    · cases read
  · cases read

/-- A table on one line keeps the values that its pairs have given. -/
theorem exists_finished_of_readPairs
    {fuel depth : Nat}
    {done : Entries}
    {value : Tree}
    (read : readPairs fuel depth done cs = some (value, rest)) :
    ∃ finished, value = .table none (entryTrees finished) ∧ Keeps done finished := by
  induction fuel generalizing done cs with
  | zero => cases read
  | succ fuel inductionHypothesis =>
      obtain ⟨parts, after, inner, tail, done', -, -, added, ⟨further, read⟩ | last⟩ :=
        exists_of_readPairs read
      · obtain ⟨finished, same, kept⟩ := inductionHypothesis read
        exact ⟨finished, same, (keeps_addValue added).trans kept⟩
      · exact ⟨done', last, keeps_addValue added⟩

/-- What the reader has come from began with a key. -/
theorem ComesInside.exists_readKey
    {depth fuel fuel' : Nat}
    {done done' : Entries}
    {cs' rest : List Char}
    {parts : List String}
    (comes : ComesInside depth fuel done cs fuel' done' cs')
    (key : readKey depthLimit cs' = some (parts, rest)) :
    ∃ first after, readKey depthLimit cs = some (first, after) := by
  induction comes generalizing parts rest with
  | start => exact ⟨parts, rest, key⟩
  | pair before earlier read added comma inductionHypothesis => exact inductionHypothesis earlier

/-- What the reader comes to inside a table is read on. -/
theorem ComesInside.readPairs_eq
    {depth fuel fuel' : Nat}
    {done done' : Entries}
    {cs' : List Char}
    (comes : ComesInside depth fuel done cs fuel' done' cs') :
    readPairs fuel depth done cs = readPairs fuel' depth done' cs' := by
  induction comes with
  | start => rfl
  | pair before key read added comma inductionHypothesis =>
      exact inductionHypothesis.trans (readPairs_of_comma key read added comma)

theorem readValue_of_isDigit
    {c : Char}
    (digit : isDigit c = true)
    (fuel depth : Nat)
    (cs : List Char) :
    readValue (fuel + 1) depth (c :: cs) = readScalar (c :: cs) := by
  unfold readValue
  split
  · rename_i same
    rw [(List.cons.inj same).1] at digit
    cases digit
  · rename_i same
    rw [(List.cons.inj same).1] at digit
    cases digit
  · rfl

/-- A table on one line that begins with a key is read pair by pair. -/
theorem readPairs_of_readValue
    {fuel depth : Nat}
    {value : Tree}
    {tail : List Char}
    (key : readKey depthLimit (skipSpaces cs) = some (parts, rest))
    (read : readValue (fuel + 1) depth ('\x7b' :: cs) = some (value, tail)) :
    readPairs fuel (depth + 1) [] (skipSpaces cs) = some (value, tail) := by
  obtain ⟨c, more, same, begins⟩ := begins_of_readKey key
  rw [skipSpaces_skipSpaces] at same
  rw [readValue] at read
  split at read
  · split at read
    · rename_i brace
      exact absurd (List.cons.inj (same.symm.trans brace)).1 (ne_of_begins begins).2.2.2.2
    · exact read
  · cases read

/-- Where a number is written inside a value, the value is well formed only if the number fits, and
then holds it at the place. -/
theorem WritesInside.at?_readValue
    {fuel depth : Nat}
    {place : List String}
    {value : Tree}
    (writes : WritesInside fuel depth cs place n)
    (read : readValue fuel depth cs = some (value, rest)) :
    n ≤ Numeral.maxInt64 ∧ Tree.at? place value = some (.scalar none (.integer n)) := by
  induction writes generalizing value rest with
  | @plain fuel depth n tail ends =>
      obtain ⟨c, more, digits, digit⟩ := Numeral.exists_toDigits_cons n
      rw [digits, List.cons_append, readValue_of_isDigit digit, ← List.cons_append, ← digits,
        readScalar_append ends] at read
      split at read
      · rename_i fits
        cases read
        exact ⟨fits, rfl⟩
      · cases read
  | @inside fuel fuel' depth n done cs rest' after parts place comes key through writes
      inductionHypothesis =>
      obtain ⟨first, more, keyRead⟩ := comes.exists_readKey key
      have pairs := readPairs_of_readValue keyRead read
      rw [comes.readPairs_eq] at pairs
      obtain ⟨parts', after', inner, tail, done', key', innerRead, added, next⟩ :=
        exists_of_readPairs pairs
      cases key.symm.trans key'
      obtain ⟨fits, there⟩ := inductionHypothesis innerRead
      have holds : Holds parts inner done' := by
        rw [← splitKey_append (ne_nil_of_readKey key)]
        exact holds_of_addValue through added
      have finished : ∃ finished, value = .table none (entryTrees finished) ∧
          Keeps done' finished := by
        obtain ⟨further, later⟩ | last := next
        · exact exists_finished_of_readPairs later
        · exact ⟨done', last, Keeps.refl _⟩
      obtain ⟨finished, rfl, kept⟩ := finished
      refine ⟨fits, ?_⟩
      rw [Tree.at?_append, (kept _ _ holds).at?_entryTrees]
      exact there

/-! ## Lines -/

/-- One line, and the draft and the lines after it; a comment that nothing ends is none. -/
def line? (done : Draft) (cs : List Char) : Option (Draft × List Char) :=
  match skipSpaces cs with
  | [] => none
  | c :: rest =>
    if c = '#' then (afterNewline? (rest.dropWhile isPlain)).map fun rest => (done, rest)
    else
      ((afterNewline? (c :: rest)).map fun rest => (done, rest)).or (readEntry done (c :: rest))

/-- The reader of a document comes to the lines from some line on. -/
inductive Comes (text : List Char) : Draft → List Char → Prop
  | start : Comes text ⟨[], []⟩ text
  | line
      {done done' : Draft}
      {cs rest : List Char}
      (before : Comes text done cs)
      (read : line? done cs = some (done', rest)) :
      Comes text done' rest

variable {done done' final : Draft}

/-- A document is read on from the line after one that is neither blank to its end nor a comment. -/
theorem readDocument_of_ne
    {c : Char}
    {words : List Char}
    (begins : skipSpaces cs = c :: words)
    (comment : c ≠ '#')
    (fuel : Nat)
    (done : Draft) :
    readDocument (fuel + 1) done cs =
      (line? done cs).bind fun next => readDocument fuel next.1 next.2 := by
  rw [readDocument, begins]
  split
  · rename_i ended
    cases ended
  · rename_i here
    exact absurd (List.cons.inj here).1 comment
  · rw [line?, begins]
    dsimp only
    rw [if_neg comment]
    cases afterNewline? (c :: words) <;> rfl

/-- A document is over, or it is read on from the line after the next one. -/
theorem readDocument_succ (fuel : Nat) (done : Draft) (cs : List Char) :
    line? done cs = none ∧ readDocument (fuel + 1) done cs = some done ∨
      readDocument (fuel + 1) done cs =
        (line? done cs).bind fun next => readDocument fuel next.1 next.2 := by
  cases same : skipSpaces cs with
  | nil => exact .inl ⟨by rw [line?, same], by rw [readDocument, same]⟩
  | cons c words =>
      by_cases comment : c = '#'
      · subst comment
        have read : readDocument (fuel + 1) done cs =
            if words.dropWhile isPlain = [] then some done
            else (afterNewline? (words.dropWhile isPlain)).bind (readDocument fuel done) := by
          rw [readDocument, same]
          split
          · rename_i ended
            cases ended
          · rename_i here
            rw [(List.cons.inj here).2]
            split
            · rename_i plain
              rw [if_pos plain]
            · rename_i more
              rw [if_neg more]
          · rename_i noComment
            exact absurd rfl (noComment words)
        rw [read, line?, same]
        dsimp only
        rw [if_pos rfl]
        cases words.dropWhile isPlain with
        | nil => exact .inl ⟨rfl, rfl⟩
        | cons other rest =>
            refine .inr ?_
            rw [if_neg (List.cons_ne_nil _ _)]
            cases afterNewline? (other :: rest) <;> rfl
      · exact .inr (readDocument_of_ne same comment fuel done)

theorem readDocument_of_line?
    (read : line? done cs = some (done', rest))
    (fuel : Nat) :
    readDocument (fuel + 1) done cs = readDocument fuel done' rest := by
  obtain ⟨ended, -⟩ | next := readDocument_succ fuel done cs
  · cases ended.symm.trans read
  · rw [next, read]
    rfl

/-- A document that is read on from a line has nothing more than that line, or is read on from the
next one. -/
theorem readDocument_cases
    {fuel : Nat}
    (read : readDocument (fuel + 1) done cs = some final) :
    final = done ∨ ∃ done' rest, line? done cs = some (done', rest) ∧
      readDocument fuel done' rest = some final := by
  obtain ⟨-, ended⟩ | next := readDocument_succ fuel done cs
  · exact .inl (Option.some.inj (read.symm.trans ended))
  · obtain ⟨⟨done', rest⟩, first, later⟩ := Option.bind_eq_some_iff.mp (next.symm.trans read)
    exact .inr ⟨done', rest, first, later⟩

/-- A line that begins with a key gives the key a value. -/
theorem exists_pair_of_readKey
    {fuel limit : Nat}
    (key : readKey limit (skipSpaces cs) = some (parts, rest))
    (read : readDocument (fuel + 1) done cs = some final) :
    ∃ done' rest, readPair done (skipSpaces cs) = some (done', rest) ∧
      readDocument fuel done' rest = some final := by
  obtain ⟨c, tail, same, begins⟩ := begins_of_readKey key
  obtain ⟨comment, bracket, newline, return', -⟩ := ne_of_begins begins
  rw [skipSpaces_skipSpaces] at same
  have noNewline : afterNewline? (c :: tail) = none := by
    unfold afterNewline?
    split
    · rename_i here
      exact absurd (List.cons.inj here).1 newline
    · rename_i here
      exact absurd (List.cons.inj here).1 return'
    · rfl
  have noHeader : readEntry done (c :: tail) = readPair done (c :: tail) := by
    unfold readEntry
    split
    · rename_i here
      exact absurd (List.cons.inj here).1 bracket
    · rename_i here
      exact absurd (List.cons.inj here).1 bracket
    · rfl
  have pair : line? done cs = readPair done (c :: tail) := by
    rw [line?, same]
    dsimp only
    rw [if_neg comment, noNewline, noHeader]
    rfl
  rw [readDocument_of_ne same comment, pair] at read
  obtain ⟨⟨done', rest⟩, first, later⟩ := Option.bind_eq_some_iff.mp read
  rw [same]
  exact ⟨done', rest, first, later⟩

theorem keeps_add {value : Tree} (added : done.add parts value = some done') :
    Keeps done.root done'.root := by
  obtain ⟨root, changed, rfl⟩ := Option.map_eq_some_iff.mp added
  exact keeps_change (fun _ _ _ applied => keeps_addValue applied) changed

/-- An added value is at its place under the last header. -/
theorem holds_of_add
    {value : Tree}
    (nonempty : parts ≠ [])
    (through : Through (done.current ++ (splitKey parts).1) done.root)
    (added : done.add parts value = some done') :
    Holds (done.current ++ parts) value done'.root := by
  obtain ⟨root, changed, rfl⟩ := Option.map_eq_some_iff.mp added
  rw [← splitKey_append nonempty]
  exact holds_of_change through (fun _ _ _ further applied => holds_of_addValue further applied)
    changed

theorem keeps_header {isItem : Bool} (opened : done.header isItem parts = some done') :
    Keeps done.root done'.root := by
  obtain ⟨root, changed, rfl⟩ := Option.map_eq_some_iff.mp opened
  cases isItem with
  | true => exact keeps_openItem changed
  | false => exact keeps_openTable changed

theorem keeps_readHeader
    {isItem : Bool}
    (read : readHeader done isItem cs = some (done', rest)) :
    Keeps done.root done'.root := by
  obtain ⟨⟨parts, after⟩, -, read⟩ := Option.bind_eq_some_iff.mp read
  dsimp only at read
  split at read
  all_goals
    obtain ⟨closed, -, read⟩ := Option.bind_eq_some_iff.mp read
    obtain ⟨ended, -, read⟩ := Option.bind_eq_some_iff.mp read
    obtain ⟨opened, header, same⟩ := Option.bind_eq_some_iff.mp read
    cases same
    exact keeps_header header

/-- The value that a pair gives a key is added to the draft. -/
theorem exists_of_readPair (read : readPair done cs = some (done', rest)) :
    ∃ parts after value tail, readKey (depthLimit - 1) cs = some (parts, '=' :: after) ∧
      readValue (2 * after.length + 2) 0 (skipSpaces after) = some (value, tail) ∧
      done.add parts value = some done' := by
  obtain ⟨⟨parts, after⟩, key, read⟩ := Option.bind_eq_some_iff.mp read
  dsimp only at read
  split at read
  · obtain ⟨⟨value, tail⟩, valueRead, read⟩ := Option.bind_eq_some_iff.mp read
    obtain ⟨ended, -, read⟩ := Option.bind_eq_some_iff.mp read
    obtain ⟨added, adds, same⟩ := Option.bind_eq_some_iff.mp read
    cases same
    exact ⟨parts, _, value, tail, key, valueRead, adds⟩
  · cases read

theorem keeps_readEntry (read : readEntry done cs = some (done', rest)) :
    Keeps done.root done'.root := by
  unfold readEntry at read
  split at read
  · exact keeps_readHeader read
  · exact keeps_readHeader read
  · obtain ⟨parts, after, value, tail, -, -, added⟩ := exists_of_readPair read
    exact keeps_add added

theorem keeps_line? (read : line? done cs = some (done', rest)) :
    Keeps done.root done'.root := by
  unfold line? at read
  split at read
  · cases read
  · split at read
    · obtain ⟨after, -, same⟩ := Option.map_eq_some_iff.mp read
      cases same
      exact Keeps.refl _
    · obtain blank | ⟨-, entry⟩ := Option.or_eq_some_iff.mp read
      · obtain ⟨after, -, same⟩ := Option.map_eq_some_iff.mp blank
        cases same
        exact Keeps.refl _
      · exact keeps_readEntry entry

/-- The lines from some line on keep every value. -/
theorem keeps_readDocument
    {fuel : Nat}
    (read : readDocument fuel done cs = some final) :
    Keeps done.root final.root := by
  induction fuel generalizing done cs with
  | zero => cases read
  | succ fuel inductionHypothesis =>
      obtain rfl | ⟨done', rest, first, later⟩ := readDocument_cases read
      · exact Keeps.refl _
      · exact (keeps_line? first).trans (inductionHypothesis later)

/-- A document that is read is read on from every line that the reader comes to. -/
theorem Comes.exists_readDocument
    {text : List Char}
    {fuel : Nat}
    (comes : Comes text done cs)
    (read : readDocument fuel ⟨[], []⟩ text = some final) :
    ∃ fuel, readDocument fuel done cs = some final := by
  induction comes with
  | start => exact ⟨fuel, read⟩
  | line before first inductionHypothesis =>
      obtain ⟨fuel, read⟩ := inductionHypothesis
      cases fuel with
      | zero => cases read
      | succ fuel => exact ⟨fuel, (readDocument_of_line? first fuel).symm.trans read⟩

/-- The characters of a document without its byte order mark. -/
def charsOf (text : String) : List Char :=
  match text.toList with
  | '\ufeff' :: rest => rest
  | cs => cs

/-- A document writes a whole number at a place: the reader comes to a line that gives a key a value
in which the number is written.  The way to the place leads through no list of tables. -/
inductive Writes (text : String) : List String → Nat → Prop
  | line
      {done : Draft}
      {cs after : List Char}
      {parts place : List String}
      {n : Nat}
      (comes : Comes (charsOf text) done cs)
      (key : readKey (depthLimit - 1) (skipSpaces cs) = some (parts, '=' :: after))
      (through : Through (done.current ++ (splitKey parts).1) done.root)
      (writes : WritesInside (2 * after.length + 2) 0 (skipSpaces after) place n) :
      Writes text (done.current ++ (parts ++ place)) n

/-- A well-formed document holds the number at the place where it writes it, and the number fits a
signed word of 64 bits. -/
theorem Writes.at?_read
    {text : String}
    {place : List String}
    {entries : List (String × Tree)}
    (writes : Writes text place n)
    (read : read? text = some entries) :
    n ≤ Numeral.maxInt64 ∧
      Tree.at? place (.table none entries) = some (.scalar none (.integer n)) := by
  obtain ⟨comes, key, through, inside⟩ := writes
  obtain ⟨final, document, same⟩ := Option.map_eq_some_iff.mp read
  obtain ⟨fuel, document⟩ := comes.exists_readDocument document
  cases fuel with
  | zero => cases document
  | succ fuel =>
      obtain ⟨done', rest, pair, later⟩ := exists_pair_of_readKey key document
      obtain ⟨parts', after', value, tail, key', valueRead, added⟩ := exists_of_readPair pair
      cases key.symm.trans key'
      obtain ⟨fits, there⟩ := inside.at?_readValue valueRead
      have holds := keeps_readDocument later _ _
        (holds_of_add (ne_nil_of_readKey key) through added)
      refine ⟨fits, ?_⟩
      rw [← same, ← List.append_assoc, Tree.at?_append, holds.at?_entryTrees]
      exact there

end Toml
end AgentCohort
