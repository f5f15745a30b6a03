import AgentCohort.Proofs.Json.Members

/-!
# Records as they are exchanged

A value that is exchanged as a record survives: any record that lists its fields is read as the
value, in whatever order they stand and whatever else is there, and so is the record that is
written for it.
-/

namespace AgentCohort
namespace Json

/-! ## Values that are read back -/

theorem document_ne_null {json : Json} (present : json ≠ .null) : json.document ≠ .null := by
  cases json with
  | null => exact absurd rfl present
  | _ => intro absent; cases absent

/-- A decoder undoes the writing of a value, which is not nothing. -/
structure Undoes (decoder : Decoder α) (write : α → Json) (value : α) : Prop where
  /-- The value is read from its document. -/
  read : ∀ source, decoder source (write value).document = .ok value
  /-- Its numbers fit. -/
  fits : (write value).Fits
  /-- It is not nothing. -/
  present : write value ≠ .null

namespace Undoes

theorem text (value : String) : Undoes .text .text value where
  read _ := rfl
  fits := .text value
  present absent := by cases absent

theorem boolean (value : Bool) : Undoes .boolean .boolean value where
  read _ := rfl
  fits := .boolean value
  present absent := by cases absent

theorem natural (expected : String) {bound n : Nat} (word : bound ≤ Numeral.maxUInt64)
    (bounded : n ≤ bound) :
    Undoes (.natural expected bound) Json.natural n where
  read _ := by
    have inside : 0 ≤ (n : Int) ∧ (n : Int) ≤ bound := by omega
    change (if 0 ≤ (n : Int) ∧ (n : Int) ≤ bound then Except.ok (Int.toNat n) else _) = _
    rw [if_pos inside, Int.toNat_natCast]
  fits := .integer (by omega) (by omega)
  present absent := by cases absent

theorem word16 (value : UInt16) :
    Undoes .word16 (fun value : UInt16 => Json.natural value.toNat) value where
  read source := by
    have bounded : value.toNat ≤ 65535 := Nat.le_of_lt_succ value.toNat_lt
    have number := (natural "u16" (by decide) bounded).read source
    unfold Decoder.word16
    rw [number, Except.map, UInt16.ofNat_toNat]
  fits := (natural "u16" (by decide) (Nat.le_of_lt_succ value.toNat_lt)).fits
  present absent := by cases absent

theorem word64 (value : UInt64) :
    Undoes .word64 (fun value : UInt64 => Json.natural value.toNat) value where
  read source := by
    have bounded : value.toNat ≤ Numeral.maxUInt64 := Nat.le_of_lt_succ value.toNat_lt
    have number := (natural "u64" (Nat.le_refl _) bounded).read source
    unfold Decoder.word64
    rw [number, Except.map, UInt64.ofNat_toNat]
  fits := (natural "u64" (Nat.le_refl _) (Nat.le_of_lt_succ value.toNat_lt)).fits
  present absent := by cases absent

variable {decoder : Decoder α}
variable {write : α → Json}
variable {value? : Option α}

theorem optional_read (undoes : ∀ value ∈ value?, Undoes decoder write value) (source : Source) :
    decoder.optional source (Json.optional write value?).document = .ok value? := by
  cases value? with
  | none => rfl
  | some value =>
      have undoes := undoes value rfl
      have present := document_ne_null undoes.present
      have read := undoes.read source
      change decoder.optional source (write value).document = _
      unfold Decoder.optional
      split
      · rename_i absent
        exact absurd absent present
      · rw [read]
        rfl

theorem optional_fits (undoes : ∀ value ∈ value?, Undoes decoder write value) :
    (Json.optional write value?).Fits := by
  cases value? with
  | none => exact .null
  | some value => exact (undoes value rfl).fits

end Undoes

/-! ## Single fields -/

namespace Fields.Holds

variable {found : Fields}
variable {name : String}
variable {decoder : Decoder α}
variable {write : α → Json}

theorem required
    {value : α}
    (holds : found.Holds (name, write value))
    (undoes : Undoes decoder write value) :
    found.required name decoder = .ok value := by
  unfold Fields.required
  rcases holds with lookup | ⟨absent, _⟩
  · rw [lookup]
    exact undoes.read found.source
  · exact absurd absent undoes.present

theorem optional
    {value? : Option α}
    (holds : found.Holds (name, .optional write value?))
    (undoes : ∀ value ∈ value?, Undoes decoder write value) :
    found.optional name decoder = .ok value? := by
  unfold Fields.optional
  rcases holds with lookup | ⟨absent, lookup⟩
  · rw [lookup]
    exact Undoes.optional_read undoes found.source
  · rw [lookup]
    cases value? with
    | none => rfl
    | some value => exact absurd absent (undoes value rfl).present

end Fields.Holds

section Takes

variable {name : String}
variable {decoder : Decoder α}
variable {write : α → Json}

theorem Field.takes_of_read
    {json : Json}
    {value : α}
    (read : ∀ source, decoder source json.document = .ok value)
    (fits : json.Fits) :
    (Field.placed name decoder).Takes (name, json) where
  name := rfl
  check source := by
    change (decoder source json.document).map _ = _
    rw [read source]
    rfl
  fits := fits

theorem Field.takes_placed {value : α} (undoes : Undoes decoder write value) :
    (Field.placed name decoder).Takes (name, write value) :=
  takes_of_read undoes.read undoes.fits

theorem Field.takes_optional
    {value? : Option α}
    (undoes : ∀ value ∈ value?, Undoes decoder write value) :
    (Field.placed name decoder.optional).Takes (name, .optional write value?) :=
  takes_of_read (Undoes.optional_read undoes) (Undoes.optional_fits undoes)

end Takes

/-! ## Whole records -/

theorem valuesNamed_memberDocuments_eq_nil
    {name : String}
    {entries : List (String × Json)}
    (other : ∀ entry ∈ entries, entry.1 ≠ name) :
    valuesNamed name (memberDocuments entries) = [] := by
  induction entries with
  | nil => rfl
  | cons entry entries inductionHypothesis =>
      rw [List.forall_mem_cons] at other
      rw [memberDocuments, valuesNamed_cons_of_ne other.1]
      exact inductionHypothesis other.2

/-- A record lists all its fields if only those that are nothing are left out. -/
theorem lists_filter
    {listing : List (String × Json)}
    (distinct : (listing.map Prod.fst).Nodup)
    {kept : String × Json → Bool}
    (omitted : ∀ entry ∈ listing, kept entry = false → entry.2 = .null) :
    Lists (memberDocuments (listing.filter kept)) listing where
  named member present := by
    rw [memberDocuments_eq_map] at present
    obtain ⟨entry, _, rfl⟩ := List.mem_map.mp present
    exact ⟨entry.1, rfl⟩
  listed := by
    induction listing with
    | nil =>
        intro entry present
        cases present
    | cons first listing inductionHypothesis =>
        rw [List.map_cons, List.nodup_cons] at distinct
        rw [List.forall_mem_cons] at omitted ⊢
        have rest := inductionHypothesis distinct.2 omitted.2
        have alone : valuesNamed first.1 (memberDocuments (listing.filter kept)) = [] := by
          apply valuesNamed_memberDocuments_eq_nil
          intro entry present same
          apply distinct.1
          rw [← same]
          exact List.mem_map_of_mem (List.mem_of_mem_filter present)
        cases keep : kept first with
        | false =>
            rw [List.filter_cons_of_neg (by simp [keep])]
            exact ⟨.inr ⟨omitted.1 keep, alone⟩, rest⟩
        | true =>
            rw [List.filter_cons_of_pos keep, memberDocuments]
            refine ⟨.inl ?_, fun entry present => ?_⟩
            · rw [valuesNamed_cons_self, alone]
            · have other : first.1 ≠ entry.1 := by
                intro same
                apply distinct.1
                rw [same]
                exact List.mem_map_of_mem present
              rw [valuesNamed_cons_of_ne other]
              exact rest entry present

/-- The characters of a record with the characters of its members. -/
def recordChars (members : List (String × List Char)) : List Char :=
  '\x7b' :: commaSeparated (members.map fun member =>
    '"' :: (member.1.toList ++ '"' :: ':' :: member.2)) ++ ['\x7d']

/-- The characters of a value, or the word for none. -/
def nullOr (chars : α → List Char) : Option α → List Char
  | some value => chars value
  | none => ['n', 'u', 'l', 'l']

/-- The members of a record are written in their order. -/
theorem chars_record
    {members : List (String × Json)}
    (plain : ∀ name ∈ members.map Prod.fst, quotedText name = '"' :: (name.toList ++ ['"'])) :
    (Json.record members).chars =
      recordChars (members.map fun member => (member.1, member.2.chars)) := by
  have written : memberChars members = (members.map fun member => (member.1, member.2.chars)).map
      fun member => '"' :: (member.1.toList ++ '"' :: ':' :: member.2) := by
    rw [memberChars_eq_map, List.map_map]
    apply List.map_congr_left
    intro member present
    rw [plain member.1 (List.mem_map_of_mem present)]
    simp
  rw [chars, written]
  rfl

theorem chars_optional (write : α → Json) (value? : Option α) :
    (Json.optional write value?).chars = nullOr (fun value => (write value).chars) value? := by
  cases value? <;> rfl

theorem chars_natural (n : Nat) : (Json.natural n).chars = Nat.toDigits 10 n :=
  Numeral.toList_toString_ofNat n

/-- How a value is exchanged as a record. -/
structure Exchanged
    (decoder : Decoder α)
    (json : Json)
    (listing : List (String × Json))
    (value : α) : Prop where
  /-- Every text of a record that lists the fields of the value is read as the value. -/
  read : ∀ text members, Spells text.toList (.table members .closed) → Lists members listing →
    decode decoder text = .ok value
  /-- The text that is written is read as the value. -/
  written : decode decoder json.compact = .ok value

/-- Whether a value is more than nothing. -/
def isPresent : Json → Bool
  | .null => false
  | _ => true

theorem eq_null_of_isPresent_eq_false {json : Json} (absent : json.isPresent = false) :
    json = .null := by
  cases json with
  | null => rfl
  | _ => cases absent

/-- What fields take fits. -/
theorem fits_of_takes
    {fields : List Field}
    {listing : List (String × Json)}
    (takes : List.Forall₂ Field.Takes fields listing)
    (kept : String × Json → Bool) :
    Fits (.record (listing.filter kept)) := by
  refine .record fun entry present => ?_
  obtain ⟨field, _, taken⟩ :=
    exists_related (List.Forall₂.flip takes) (List.mem_of_mem_filter present)
  exact taken.fits

namespace Exchanged

variable {decoder : Decoder α}
variable {fields : List Field}
variable {listing : List (String × Json)}
variable {value : α}

/-- A value that is made of its fields is exchanged, with or without those that are nothing. -/
theorem of_filter
    (name : String)
    (takes : List.Forall₂ Field.Takes fields listing)
    (decoded : ∀ document found, collect name fields .text document = .ok found →
      (∀ entry ∈ listing, found.Holds entry) → decoder .text document = .ok value)
    (distinct : (listing.map Prod.fst).Nodup)
    {kept : String × Json → Bool}
    (omitted : ∀ entry ∈ listing, kept entry = false → entry.2 = .null) :
    Exchanged decoder (.record (listing.filter kept)) listing value := by
  have read (members : List (Key × Document)) (lists : Lists members listing)
      (whole : ∀ member ∈ members, member.2.skipBreak? = none) :
      decoder .text (.table members .closed) = .ok value := by
    obtain ⟨found, collected, holds⟩ := lists.collect whole takes name
    exact decoded _ found collected holds
  have record := fits_of_takes takes kept
  constructor
  · intro text members spelled lists
    unfold decode
    rw [decodeChars_of_spells spelled]
    exact read members lists spelled.skipBreak?_of_mem
  · rw [record.decode]
    exact read _ (lists_filter distinct omitted) record.spells.skipBreak?_of_mem

/-- All fields may be written. -/
theorem of_record
    (name : String)
    (takes : List.Forall₂ Field.Takes fields listing)
    (decoded : ∀ document found, collect name fields .text document = .ok found →
      (∀ entry ∈ listing, found.Holds entry) → decoder .text document = .ok value)
    (distinct : (listing.map Prod.fst).Nodup) :
    Exchanged decoder (.record listing) listing value := by
  have all : listing.filter (fun _ => true) = listing := List.filter_eq_self.mpr fun _ _ => rfl
  have exchanged : Exchanged decoder (.record (listing.filter fun _ => true)) listing value := by
    apply of_filter name takes decoded distinct
    intro entry present absent
    cases absent
  rw [all] at exchanged
  exact exchanged

/-- Fields that are nothing may be left out. -/
theorem of_present
    (name : String)
    (takes : List.Forall₂ Field.Takes fields listing)
    (decoded : ∀ document found, collect name fields .text document = .ok found →
      (∀ entry ∈ listing, found.Holds entry) → decoder .text document = .ok value)
    (distinct : (listing.map Prod.fst).Nodup) :
    Exchanged decoder (.record (listing.filter fun entry => entry.2.isPresent)) listing value :=
  of_filter name takes decoded distinct fun _ _ => eq_null_of_isPresent_eq_false

end Exchanged

end Json
end AgentCohort
