import AgentCohort.Proofs.Json.Reading

/-!
# What is written is read back

The compact text of a value spells a document, and the document says what the value says.  All
characters of a text come through the escapes; whole numbers have to fit a word of 64 bits.
-/

namespace AgentCohort
namespace Json

mutual

/-- The document that a value is read back as. -/
def document : Json → Document
  | .null => .null
  | .boolean value => .boolean value
  | .integer n => .integer n
  | .text s => .text s
  | .list items => .sequence (itemDocuments items) .closed
  | .record members => .table (memberDocuments members) .closed

/-- The documents of some values. -/
def itemDocuments : List Json → List Document
  | [] => []
  | item :: rest => document item :: itemDocuments rest

/-- The documents of some members. -/
def memberDocuments : List (String × Json) → List (Key × Document)
  | [] => []
  | (name, value) :: rest => (.name name, document value) :: memberDocuments rest

end

/-- All whole numbers of a value fit a word of 64 bits. -/
inductive Fits : Json → Prop
  | null : Fits .null
  | boolean (value : Bool) : Fits (.boolean value)
  | integer
      {n : Int}
      (lower : -(Nat.pow 2 63 : Nat) ≤ n)
      (upper : n ≤ Numeral.maxUInt64) :
      Fits (.integer n)
  | text (s : String) : Fits (.text s)
  | list {items : List Json} (fits : ∀ item ∈ items, Fits item) : Fits (.list items)
  | record
      {members : List (String × Json)}
      (fits : ∀ member ∈ members, Fits member.2) :
      Fits (.record members)

theorem itemChars_eq_map (items : List Json) : itemChars items = items.map chars := by
  induction items with
  | nil => rfl
  | cons item items inductionHypothesis => rw [itemChars, inductionHypothesis, List.map_cons]

theorem itemDocuments_eq_map (items : List Json) :
    itemDocuments items = items.map document := by
  induction items with
  | nil => rfl
  | cons item items inductionHypothesis => rw [itemDocuments, inductionHypothesis, List.map_cons]

theorem memberChars_eq_map (members : List (String × Json)) :
    memberChars members = members.map fun member => quotedText member.1 ++ ':' :: chars member.2 := by
  induction members with
  | nil => rfl
  | cons member members inductionHypothesis => rw [memberChars, inductionHypothesis, List.map_cons]

theorem memberDocuments_eq_map (members : List (String × Json)) :
    memberDocuments members = members.map fun member => (.name member.1, document member.2) := by
  induction members with
  | nil => rfl
  | cons member members inductionHypothesis =>
      rw [memberDocuments, inductionHypothesis, List.map_cons]

/-! ## Texts -/

/-- The code of a control character has two digits at most, and zeros lead. -/
theorem isCode_fourHexDigits {code : Nat} (control : code < 32) :
    IsCode (fourHexDigits code) code := by
  have checked : ∀ code < 32, (fourHexDigits code).length = 4 ∧
      (fourHexDigits code).all (Text.isDigitIn 16) = true ∧
      Text.valueIn 16 (fourHexDigits code) = code := by
    decide +kernel
  obtain ⟨length, all, value⟩ := checked code control
  exact isCode_of_all length all value

/-- Each character is escaped to a spelling of itself. -/
theorem SpellsText.escapedChar
    {cs value : List Char}
    (spelled : SpellsText cs (some value))
    (c : Char) :
    SpellsText (Json.escapedChar c ++ cs) (some (c :: value)) := by
  unfold Json.escapedChar
  split
  case h_8 quote backslash _ _ _ _ _ =>
    split
    · rename_i control
      have small : c.toNat < 32 := control
      have first : ¬ IsFirstHalf c.toNat := by
        unfold IsFirstHalf
        omega
      have second : ¬ IsSecondHalf c.toNat := by
        unfold IsSecondHalf
        omega
      have written := SpellsText.code (isCode_fourHexDigits small) first second spelled
      rw [Char.ofNat_toNat] at written
      exact written
    · rename_i printable
      exact .plain quote backslash printable spelled
  all_goals exact .short (by rfl) spelled

theorem spellsText_flatMap_escapedChar (cs : List Char) :
    SpellsText (cs.flatMap escapedChar) (some cs) := by
  induction cs with
  | nil => exact .nil
  | cons c cs inductionHypothesis =>
      rw [List.flatMap_cons]
      exact inductionHypothesis.escapedChar c

/-- A text is spelled by its characters between quotes. -/
theorem spells_quotedText (s : String) : Spells (quotedText s) (.text s) := by
  have spelled := Spells.text (spellsText_flatMap_escapedChar s.toList)
  rw [textDocument, String.ofList_toList] at spelled
  exact spelled

theorem spellsKey_quotedText (s : String) : SpellsKey (quotedText s) (.name s) := by
  have spelled := SpellsKey.mk isBlank_nil (spellsText_flatMap_escapedChar s.toList) isBlank_nil
  rw [textKey, String.ofList_toList] at spelled
  exact spelled

/-! ## Numbers -/

theorem spells_integer
    {n : Int}
    (lower : -(Nat.pow 2 63 : Nat) ≤ n)
    (upper : n ≤ Numeral.maxUInt64) :
    Spells (toString n).toList (.integer n) := by
  cases n with
  | ofNat n =>
      have fits : n ≤ Numeral.maxUInt64 := Int.ofNat_le.mp upper
      have spelled := Spells.number (isNumber_toDigits n)
      rw [numeral_toDigits fits] at spelled
      rw [Numeral.toList_toString_ofNat]
      exact spelled
  | negSucc n =>
      have fits : n + 1 ≤ Nat.pow 2 63 := by omega
      have spelled := Spells.number (isNumber_negative (n + 1))
      rw [numeral_negative fits (Nat.succ_ne_zero n)] at spelled
      rw [Numeral.toList_toString_negSucc]
      exact spelled

/-! ## Values -/

/-- The member of a record as it is written. -/
def WrittenMember.ofMember (member : String × Json) : WrittenMember :=
  ⟨quotedText member.1, .name member.1, member.2.chars, member.2.document⟩

/-- The text of a value spells the document of the value. -/
theorem Fits.spells {json : Json} (fits : Fits json) : Spells json.chars json.document := by
  induction fits with
  | null => exact .null
  | boolean value =>
      cases value with
      | true => exact .yes
      | false => exact .no
  | integer lower upper => exact spells_integer lower upper
  | text s => exact spells_quotedText s
  | @list items fits inductionHypothesis =>
      have values : ∀ written ∈ items.map fun item => (item.chars, item.document),
          Spells written.1 written.2 := by
        intro written present
        obtain ⟨item, known, rfl⟩ := List.mem_map.mp present
        exact inductionHypothesis item known
      have spelled := Spells.sequence isBlank_nil values
      rw [List.map_map, List.map_map] at spelled
      rw [document, itemDocuments_eq_map, chars, itemChars_eq_map]
      exact spelled
  | @record members fits inductionHypothesis =>
      have keys : ∀ written ∈ members.map WrittenMember.ofMember,
          SpellsKey written.keyChars written.key := by
        intro written present
        obtain ⟨member, _, rfl⟩ := List.mem_map.mp present
        exact spellsKey_quotedText member.1
      have values : ∀ written ∈ members.map WrittenMember.ofMember,
          Spells written.valueChars written.value := by
        intro written present
        obtain ⟨member, known, rfl⟩ := List.mem_map.mp present
        exact inductionHypothesis member known
      have spelled := Spells.table isBlank_nil keys values
      rw [List.map_map, List.map_map] at spelled
      rw [document, memberDocuments_eq_map, chars, memberChars_eq_map]
      exact spelled

/-- A decoder is asked about the document of the value that has been written. -/
theorem Fits.decode {json : Json} (fits : Fits json) (decoder : Decoder α) :
    decode decoder json.compact = decoder .text json.document := by
  unfold Json.decode compact
  rw [String.toList_ofList]
  exact decodeChars_of_spells fits.spells decoder

end Json
end AgentCohort
