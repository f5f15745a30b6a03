import AgentCohort.Proofs.Json.Grammar

/-!
# Texts are read as they are spelled

The reader follows the grammar of texts: it stops at the closing quote and has taken every
escape for the character that it stands for.  A half of a character that stands alone makes
the text unreadable, and the reader still finds its end.
-/

namespace AgentCohort
namespace Json

/-! ## Codes -/

theorem hexDigit?_lt {c : Char} {digit : Nat} (found : Text.hexDigit? c = some digit) :
    digit < 16 ∧ c.toNat < 128 := by
  unfold Text.hexDigit? at found
  split at found
  · rename_i inside
    obtain rfl := Option.some.inj found
    have lower : '0'.toNat ≤ c.toNat := inside.1
    have upper : c.toNat ≤ '9'.toNat := inside.2
    simp only [Char.reduceToNat] at lower upper ⊢
    omega
  · split at found
    · rename_i inside
      obtain rfl := Option.some.inj found
      have lower : 'a'.toNat ≤ c.toNat := inside.1
      have upper : c.toNat ≤ 'f'.toNat := inside.2
      simp only [Char.reduceToNat] at lower upper ⊢
      omega
    · split at found
      · rename_i inside
        obtain rfl := Option.some.inj found
        have lower : 'A'.toNat ≤ c.toNat := inside.1
        have upper : c.toNat ≤ 'F'.toNat := inside.2
        simp only [Char.reduceToNat] at lower upper ⊢
        omega
      · cases found

theorem exists_hexDigit?_of_isDigitIn {c : Char} (digit : Text.isDigitIn 16 c = true) :
    ∃ value, Text.hexDigit? c = some value ∧ Text.digitIn? 16 c = some value ∧
      c.utf8Size = 1 := by
  unfold Text.isDigitIn at digit
  obtain ⟨value, found⟩ := Option.isSome_iff_exists.mp digit
  obtain ⟨hex, _⟩ := Option.filter_eq_some_iff.mp found
  refine ⟨value, hex, found, ?_⟩
  have small := (hexDigit?_lt hex).2
  rw [Char.utf8Size_eq_one_iff]
  change c.toNat ≤ 0x7f
  omega

theorem readFourHex_of_isCode
    {digits : List Char}
    {code : Nat}
    (written : IsCode digits code)
    (rest : List Char) :
    readFourHex (digits ++ rest) = .ok (code, rest) := by
  obtain ⟨length, hexadecimal, rfl⟩ := written
  match digits, length with
  | [a, b, c, d], _ =>
      obtain ⟨_, hexA, inA, sizeA⟩ := exists_hexDigit?_of_isDigitIn (hexadecimal a (by simp))
      obtain ⟨_, hexB, inB, sizeB⟩ := exists_hexDigit?_of_isDigitIn (hexadecimal b (by simp))
      obtain ⟨_, hexC, inC, sizeC⟩ := exists_hexDigit?_of_isDigitIn (hexadecimal c (by simp))
      obtain ⟨_, hexD, inD, sizeD⟩ := exists_hexDigit?_of_isDigitIn (hexadecimal d (by simp))
      simp [readFourHex, byteSize, Text.valueIn, hexA, hexB, hexC, hexD, inA, inB, inC, inD,
        sizeA, sizeB, sizeC, sizeD]

/-! ## Escapes -/

/-- The table holds every short escape. -/
theorem mem_of_shortEscape? {mark c : Char} (escape : shortEscape? mark = some c) :
    (mark, c) ∈ shortEscapes := by
  obtain ⟨before, after, table, _⟩ := List.lookup_eq_some_iff.mp escape
  rw [table]
  exact List.mem_append_right before List.mem_cons_self

theorem readEscape_of_shortEscape?
    {mark c : Char}
    (escape : shortEscape? mark = some c)
    (rest : List Char) :
    readEscape (mark :: rest) = .char c rest := by
  have known := mem_of_shortEscape? escape
  simp only [shortEscapes, List.mem_cons, Prod.mk.injEq, List.not_mem_nil, or_false] at known
  rcases known with ⟨rfl, rfl⟩ | ⟨rfl, rfl⟩ | ⟨rfl, rfl⟩ | ⟨rfl, rfl⟩ | ⟨rfl, rfl⟩ | ⟨rfl, rfl⟩ |
    ⟨rfl, rfl⟩ | ⟨rfl, rfl⟩
  all_goals rfl

/-- A code that is no half stands for its character. -/
theorem readCodeEscape_of_whole
    {digits : List Char}
    {code : Nat}
    (written : IsCode digits code)
    (notFirst : ¬ IsFirstHalf code)
    (notSecond : ¬ IsSecondHalf code)
    (rest : List Char) :
    readCodeEscape (digits ++ rest) = .char (Char.ofNat code) rest := by
  have outside : code < 0xD800 ∨ 0xDFFF < code := by
    unfold IsFirstHalf at notFirst
    unfold IsSecondHalf at notSecond
    omega
  unfold readCodeEscape
  rw [readFourHex_of_isCode written]
  dsimp only
  rw [if_pos outside]

/-- Two halves stand for one character. -/
theorem readCodeEscape_of_halves
    {digits digits' : List Char}
    {first second : Nat}
    (written : IsCode digits first)
    (isFirst : IsFirstHalf first)
    (written' : IsCode digits' second)
    (isSecond : IsSecondHalf second)
    (rest : List Char) :
    readCodeEscape (digits ++ (codeEscape digits' ++ rest)) =
      .char (joinHalves first second) rest := by
  obtain ⟨lower, upper⟩ := isFirst
  obtain ⟨lower', upper'⟩ := isSecond
  unfold readCodeEscape
  rw [readFourHex_of_isCode written]
  dsimp only
  rw [if_neg (by omega), if_neg (by omega)]
  have marked : secondHalf? (codeEscape digits' ++ rest) = .ok (some (digits' ++ rest)) := rfl
  rw [marked]
  dsimp only
  rw [readFourHex_of_isCode written']
  dsimp only
  rw [if_pos (by omega)]
  rfl

theorem readCodeEscape_of_second
    {digits : List Char}
    {code : Nat}
    (written : IsCode digits code)
    (isSecond : IsSecondHalf code)
    (rest : List Char) :
    readCodeEscape (digits ++ rest) = .half rest := by
  obtain ⟨lower, upper⟩ := isSecond
  unfold readCodeEscape
  rw [readFourHex_of_isCode written]
  dsimp only
  rw [if_neg (by omega), if_pos lower]

/-- After the letter of an escape by code there is one. -/
theorem SpellsText.exists_code
    {after : List Char}
    {value? : Option (List Char)}
    (spelled : SpellsText ('\\' :: 'u' :: after) value?) :
    ∃ digits code rest, after = digits ++ rest ∧ IsCode digits code := by
  generalize same : '\\' :: 'u' :: after = cs at spelled
  cases spelled with
  | nil => cases same
  | plain quote backslash control rest => cases same; exact absurd rfl backslash
  | short escape rest => cases same; cases escape
  | code written notFirst notSecond rest => cases same; exact ⟨_, _, _, rfl, written⟩
  | halves written isFirst written' isSecond rest => cases same; exact ⟨_, _, _, rfl, written⟩
  | half written alone rest => cases same; exact ⟨_, _, _, rfl, written⟩

/-- A first half without a second one has no value. -/
theorem readCodeEscape_of_first
    {digits cs : List Char}
    {code : Nat}
    {value? : Option (List Char)}
    (written : IsCode digits code)
    (isFirst : IsFirstHalf code)
    (alone : ¬ BeginsWithSecondHalf cs)
    (spelled : SpellsText cs value?)
    (rest : List Char) :
    readCodeEscape (digits ++ (cs ++ '"' :: rest)) = .half (cs ++ '"' :: rest) := by
  obtain ⟨lower, upper⟩ := isFirst
  unfold readCodeEscape
  rw [readFourHex_of_isCode written]
  dsimp only
  rw [if_neg (by omega), if_neg (by omega)]
  match cs, spelled with
  | [], _ => rfl
  | [c], spelled =>
      have plain : c ≠ '\\' := by
        rintro rfl
        cases spelled
        contradiction
      simp [secondHalf?, plain]
  | c :: d :: after, spelled =>
      by_cases escape : c = '\\' ∧ d = 'u'
      · obtain ⟨rfl, rfl⟩ := escape
        obtain ⟨digits', code', rest', rfl, written'⟩ := spelled.exists_code
        have marked : secondHalf? ('\\' :: 'u' :: (digits' ++ rest') ++ '"' :: rest) =
            .ok (some (digits' ++ (rest' ++ '"' :: rest))) := by
          simp [secondHalf?]
        rw [marked]
        dsimp only
        rw [readFourHex_of_isCode written']
        dsimp only
        rw [if_neg]
        rintro ⟨lower', upper'⟩
        exact alone ⟨digits', code', rest', rfl, written', lower', by omega⟩
      · have other : secondHalf? (c :: d :: after ++ '"' :: rest) = .ok none := by
          unfold secondHalf?
          grind
        rw [other]

/-! ## Whole texts -/

theorem readText_escape
    {cs rest : List Char}
    {c : Char}
    (escape : readEscape cs = .char c rest)
    (fuel : Nat)
    (seen : List Char)
    (readable : Bool) :
    readText (fuel + 1) seen readable ('\\' :: cs) = readText fuel (c :: seen) readable rest := by
  rw [readText, if_neg (by decide), if_pos rfl, escape]

theorem readText_codeEscape
    {digits rest after : List Char}
    {c : Char}
    (escape : readCodeEscape (digits ++ rest) = .char c after)
    (fuel : Nat)
    (seen : List Char)
    (readable : Bool) :
    readText (fuel + 1) seen readable (codeEscape digits ++ rest) =
      readText fuel (c :: seen) readable after := by
  have marked : readEscape ('u' :: (digits ++ rest)) = .char c after := escape
  exact readText_escape marked fuel seen readable

theorem readText_halfEscape
    {digits rest after : List Char}
    (escape : readCodeEscape (digits ++ rest) = .half after)
    (fuel : Nat)
    (seen : List Char)
    (readable : Bool) :
    readText (fuel + 1) seen readable (codeEscape digits ++ rest) =
      readText fuel seen false after := by
  have marked : readEscape ('u' :: (digits ++ rest)) = .half after := escape
  change readText (fuel + 1) seen readable ('\\' :: 'u' :: (digits ++ rest)) = _
  rw [readText, if_neg (by decide), if_pos rfl, marked]

/-- The characters that have been seen come first. -/
theorem map_reverse_cons_append (seen : List Char) (c : Char) (value? : Option (List Char)) :
    value?.map ((c :: seen).reverse ++ ·) = (value?.map (c :: ·)).map (seen.reverse ++ ·) := by
  cases value? <;> simp

/-- A text is read up to its closing quote. -/
theorem SpellsText.read
    {cs : List Char}
    {value? : Option (List Char)}
    (spelled : SpellsText cs value?)
    {fuel : Nat}
    (enough : cs.length < fuel)
    (seen : List Char)
    (readable : Bool)
    (rest : List Char) :
    readText fuel seen readable (cs ++ '"' :: rest) =
      (textDocument (if readable then value?.map (seen.reverse ++ ·) else none), rest) := by
  induction spelled generalizing fuel seen readable with
  | nil =>
      obtain ⟨fuel, rfl⟩ := Nat.exists_eq_succ_of_ne_zero (Nat.ne_of_gt enough)
      cases readable <;> simp [readText, textDocument]
  | plain quote backslash control _ inductionHypothesis =>
      obtain ⟨fuel, rfl⟩ := Nat.exists_eq_succ_of_ne_zero (Nat.ne_zero_of_lt enough)
      rw [List.cons_append, readText, if_neg quote, if_neg backslash, if_neg control,
        inductionHypothesis (by simpa using enough), map_reverse_cons_append]
  | short escape _ inductionHypothesis =>
      obtain ⟨fuel, rfl⟩ := Nat.exists_eq_succ_of_ne_zero (Nat.ne_zero_of_lt enough)
      simp only [List.length_cons] at enough
      rw [List.cons_append, List.cons_append,
        readText_escape (readEscape_of_shortEscape? escape _),
        inductionHypothesis (by omega), map_reverse_cons_append]
  | code written notFirst notSecond _ inductionHypothesis =>
      obtain ⟨fuel, rfl⟩ := Nat.exists_eq_succ_of_ne_zero (Nat.ne_zero_of_lt enough)
      simp only [codeEscape, List.length_append, List.length_cons] at enough
      rw [List.append_assoc,
        readText_codeEscape (readCodeEscape_of_whole written notFirst notSecond _),
        inductionHypothesis (by omega), map_reverse_cons_append]
  | halves written isFirst written' isSecond _ inductionHypothesis =>
      obtain ⟨fuel, rfl⟩ := Nat.exists_eq_succ_of_ne_zero (Nat.ne_zero_of_lt enough)
      simp only [codeEscape, List.length_append, List.length_cons] at enough
      rw [List.append_assoc, List.append_assoc,
        readText_codeEscape (readCodeEscape_of_halves written isFirst written' isSecond _),
        inductionHypothesis (by omega), map_reverse_cons_append]
  | half written alone spelled inductionHypothesis =>
      obtain ⟨fuel, rfl⟩ := Nat.exists_eq_succ_of_ne_zero (Nat.ne_zero_of_lt enough)
      simp only [codeEscape, List.length_append, List.length_cons] at enough
      rw [List.append_assoc]
      rcases alone with isSecond | ⟨isFirst, alone⟩
      · rw [readText_halfEscape (readCodeEscape_of_second written isSecond _),
          inductionHypothesis (by omega)]
        cases readable <;> rfl
      · rw [readText_halfEscape (readCodeEscape_of_first written isFirst alone spelled rest),
          inductionHypothesis (by omega)]
        cases readable <;> rfl

end Json
end AgentCohort
