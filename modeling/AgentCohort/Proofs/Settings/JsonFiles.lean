import AgentCohort.Proofs.Json.LargeNumbers
import AgentCohort.Proofs.Json.Members
import AgentCohort.Proofs.Settings.Places
import AgentCohort.Proofs.Settings.WholeNumbers

/-!
# Whole numbers in JSON files

Where a text writes a whole number: in its digits, or in the value of a member of a record of which
no later member has the same name.  If the text is well formed then the file carries the number at
that place.
-/

namespace AgentCohort
namespace Settings
namespace JsonFile

open AgentCohort.Json (Document IsBlank Key Spells SpellsKey Within WrittenMember commaSeparated
  isSpace numeral valuesNamed)

/-- Some characters spell a document with the digits of a whole number at a place. -/
inductive WritesInside (n : Nat) : List Char → Document → List String → Prop
  | plain : WritesInside n (Nat.toDigits 10 n) (numeral (Nat.toDigits 10 n)) []
  | member
      {blanks : List Char}
      {earlier later : List WrittenMember}
      {member : WrittenMember}
      {name : String}
      {place : List String}
      (isBlank : IsBlank blanks)
      (keys : ∀ other ∈ earlier ++ member :: later, SpellsKey other.keyChars other.key)
      (values : ∀ other ∈ earlier ++ member :: later, Spells other.valueChars other.value)
      (named : member.key = .name name)
      (last : ∀ other ∈ later, other.key ≠ .name name)
      (writes : WritesInside n member.valueChars member.value place) :
      WritesInside n
        ('\x7b' :: (blanks ++
          (commaSeparated ((earlier ++ member :: later).map WrittenMember.chars) ++ ['\x7d'])))
        (.table ((earlier ++ member :: later).map WrittenMember.entry) .closed) (name :: place)
  | before
      {c : Char}
      {cs : List Char}
      {document : Document}
      {place : List String}
      (blank : isSpace c = true)
      (writes : WritesInside n cs document place) :
      WritesInside n (c :: cs) document place
  | after
      {c : Char}
      {cs : List Char}
      {document : Document}
      {place : List String}
      (writes : WritesInside n cs document place)
      (blank : isSpace c = true) :
      WritesInside n (cs ++ [c]) document place

/-- A text writes a whole number at a place. -/
def Writes (text : String) (place : List String) (n : Nat) : Prop :=
  ∃ document, WritesInside n text.toList document place

variable {n : Nat} {cs : List Char} {document : Document} {place : List String}

theorem WritesInside.spells (writes : WritesInside n cs document place) : Spells cs document := by
  induction writes with
  | plain => exact .number (Json.isNumber_toDigits n)
  | member isBlank keys values => exact .table isBlank keys values
  | before blank _ inductionHypothesis => exact .before blank inductionHypothesis
  | after _ blank inductionHypothesis => exact .after inductionHypothesis blank

/-- A record with one member writes what the value of the member does. -/
theorem WritesInside.single
    (writes : WritesInside n cs document place)
    (name : String) :
    WritesInside n ('\x7b' :: (Json.quotedText name ++ ':' :: cs ++ ['\x7d']))
      (.table [(.name name, document)] .closed) (name :: place) := by
  let member : WrittenMember := ⟨Json.quotedText name, .name name, cs, document⟩
  refine @WritesInside.member n [] [] [] member name place Json.isBlank_nil ?_ ?_ rfl nofun writes
  · intro other present
    cases List.mem_singleton.mp present
    exact Json.spellsKey_quotedText name
  · intro other present
    cases List.mem_singleton.mp present
    exact writes.spells

/-! ## Entries -/

/-- The last member of a name is kept under it. -/
theorem lookup_entries
    (done : List (String × Tree))
    (members : List (Key × Document))
    (name : String) :
    (entries done members).lookup name =
      ((valuesNamed name members).getLast?.map tree).or (done.lookup name) := by
  induction members generalizing done with
  | nil => rfl
  | cons member members inductionHypothesis =>
      obtain ⟨key, value⟩ := member
      cases key with
      | name other =>
          rw [entries, inductionHypothesis, Tree.lookup_putEntry]
          by_cases same : name = other
          · subst same
            rw [if_pos rfl, Json.valuesNamed_cons_self, List.getLast?_cons]
            cases (valuesNamed name members).getLast? <;> rfl
          · rw [if_neg same, Json.valuesNamed_cons_of_ne (Ne.symm same)]
      | _ => exact inductionHypothesis done

/-- Every entry comes from a member of its name. -/
theorem exists_of_mem_entries
    {done : List (String × Tree)}
    {members : List (Key × Document)}
    {entry : String × Tree}
    (present : entry ∈ entries done members) :
    entry ∈ done ∨ ∃ document, (.name entry.1, document) ∈ members ∧ entry.2 = tree document := by
  induction members generalizing done with
  | nil => exact .inl present
  | cons first members inductionHypothesis =>
      obtain ⟨key, value⟩ := first
      cases key with
      | name name =>
          obtain put | ⟨document, known, same⟩ := inductionHypothesis present
          · obtain rfl | earlier := Tree.eq_or_mem_of_mem_putEntry put
            · exact .inr ⟨value, .head _, rfl⟩
            · exact .inl earlier
          · exact .inr ⟨document, .tail _ known, same⟩
      | _ =>
          obtain earlier | ⟨document, known, same⟩ := inductionHypothesis present
          · exact .inl earlier
          · exact .inr ⟨document, .tail _ known, same⟩

/-- A member that no later one of its name follows is the last of the name. -/
theorem getLast?_valuesNamed
    {earlier later : List WrittenMember}
    {member : WrittenMember}
    {name : String}
    (named : member.key = .name name)
    (last : ∀ other ∈ later, other.key ≠ .name name) :
    (valuesNamed name ((earlier ++ member :: later).map WrittenMember.entry)).getLast? =
      some member.value := by
  have none : valuesNamed name (later.map WrittenMember.entry) = [] := by
    refine List.filterMap_eq_nil_iff.mpr fun entry present => ?_
    obtain ⟨other, inside, rfl⟩ := List.mem_map.mp present
    have differs := last other inside
    unfold Json.valueNamed?
    split
    · rename_i found same
      change other.key = .name found at same
      refine if_neg fun here => differs ?_
      rw [same, here]
    · rfl
  have here : Json.valueNamed? name member.entry = some member.value := by
    unfold Json.valueNamed? WrittenMember.entry
    rw [named]
    exact if_pos rfl
  unfold valuesNamed at none ⊢
  rw [List.map_append, List.map_cons, List.filterMap_append, List.filterMap_cons_some here, none]
  exact List.getLast?_concat

/-- Each member of a record that is taken in is taken in. -/
theorem keepBreak?_of_mem
    {depth : Nat}
    {members : List (Key × Document)}
    {member : Key × Document}
    (whole : Document.keepMembersBreak? depth members = none)
    (present : member ∈ members) :
    member.2.keepBreak? depth = none := by
  induction members with
  | nil => cases present
  | cons first members inductionHypothesis =>
      rw [Document.keepMembersBreak?, Option.or_eq_none_iff, Option.or_eq_none_iff] at whole
      cases present with
      | head => exact whole.1.2
      | tail _ later => exact inductionHypothesis whole.2 later

/-- The digits of a whole number become a value that carries it, if they have a value at all. -/
theorem exists_carries_of_numeral
    {depth : Nat}
    (whole : (numeral (Nat.toDigits 10 n)).keepBreak? depth = none) :
    ∃ value, tree (numeral (Nat.toDigits 10 n)) = .scalar none value ∧ Carries n value := by
  by_cases fits : n ≤ Numeral.maxUInt64
  · rw [Json.numeral_toDigits fits]
    exact ⟨_, rfl, carries_wholeNumber n⟩
  · have beyond := Nat.lt_of_not_le fits
    obtain none | ⟨number, real, atLeast⟩ := Json.numeral_toDigits_of_lt beyond
    · rw [none] at whole
      cases whole
    · rw [real]
      exact ⟨_, rfl, carries_atLeast beyond atLeast⟩

/-- A record that is taken in carries the number at its place. -/
theorem WritesInside.exists_at?_tree
    {depth : Nat}
    (writes : WritesInside n cs document place)
    (whole : document.keepBreak? depth = none) :
    ∃ value, Tree.at? place (tree document) = some (.scalar none value) ∧ Carries n value := by
  induction writes generalizing depth with
  | plain =>
      obtain ⟨value, same, carries⟩ := exists_carries_of_numeral whole
      exact ⟨value, congrArg some same, carries⟩
  | @member blanks earlier later member name place isBlank keys values named last writes
      inductionHypothesis =>
      rw [Document.keepBreak?] at whole
      split at whole
      · cases whole
      · obtain ⟨within, -⟩ := Option.or_eq_none_iff.mp whole
        have present : member.entry ∈ (earlier ++ member :: later).map WrittenMember.entry :=
          List.mem_map_of_mem (List.mem_append_right earlier (.head _))
        obtain ⟨value, there, carries⟩ := inductionHypothesis (keepBreak?_of_mem within present)
        have final :
            (entries [] ((earlier ++ member :: later).map WrittenMember.entry)).lookup name =
              some (tree member.value) := by
          rw [lookup_entries, getLast?_valuesNamed named last]
          rfl
        refine ⟨value, ?_, carries⟩
        change ((entries [] _).lookup name).bind (Tree.at? place) = _
        rw [final]
        exact there
  | before _ _ inductionHypothesis => exact inductionHypothesis whole
  | after _ _ inductionHypothesis => exact inductionHypothesis whole

/-- A well-formed file carries the number at the place where its text writes it. -/
theorem Writes.exists_at?_read
    {text : String}
    {found : List (String × Tree)}
    (writes : Writes text place n)
    (read : read? text = some found) :
    ∃ value, Tree.at? place (.table none found) = some (.scalar none value) ∧ Carries n value := by
  obtain ⟨document, inside⟩ := writes
  obtain ⟨blanks, isBlank, same⟩ := Json.exists_ofChars_eq inside.spells
  unfold read? at read
  rw [same] at read
  dsimp only at read
  split at read
  · cases read
  · rename_i whole
    rw [not_or] at whole
    have kept := Option.not_isSome_iff_eq_none.mp whole.1
    split at read
    · cases read
      exact inside.exists_at?_tree kept
    · cases read

/-- A file is well formed exactly if the record in it lies within the limits. -/
theorem read?_of_spells
    {text : String}
    {members : List (Key × Document)}
    (spelled : Spells text.toList (.table members .closed)) :
    (Within Document.depthLimit (.table members .closed) → read? text = some (entries [] members)) ∧
      (¬ Within Document.depthLimit (.table members .closed) → read? text = none) := by
  obtain ⟨blanks, isBlank, same⟩ := Json.exists_ofChars_eq spelled
  unfold read?
  rw [same]
  dsimp only
  rw [Json.skipSpaces_of_isBlank isBlank, ← Json.keepBreak?_eq_none_iff]
  constructor
  · intro whole
    rw [whole]
    rfl
  · intro broken
    rw [if_pos (.inl (Option.isSome_iff_ne_none.mpr broken))]

end JsonFile
end Settings
end AgentCohort
