import AgentCohort.Proofs.Json.Members

/-!
# Members in the order of their names

A record that has been read before has its members sorted by name.  A name that stood there once
keeps its value, no other names come in, and where nothing broke off nothing does afterwards.
-/

namespace AgentCohort
namespace Json

/-! ## One more member -/

theorem eq_or_mem_of_mem_insertMember
    {name : String}
    {value : Document}
    {member : Key × Document}
    {members : List (Key × Document)}
    (present : member ∈ insertMember name value members) :
    member = (.name name, value) ∨ member ∈ members := by
  fun_induction insertMember name value members with
  | case1 => exact .inl (List.mem_singleton.mp present)
  | case2 before rest =>
      obtain here | later := List.mem_cons.mp present
      · exact .inl here
      · exact .inr (.tail _ later)
  | case3 other before rest differ smaller => exact List.mem_cons.mp present
  | case4 other before rest differ greater inductionHypothesis
  | case5 first rest unnamed inductionHypothesis =>
      obtain rfl | later := List.mem_cons.mp present
      · exact .inr (.head _)
      · exact (inductionHypothesis later).imp_right (.tail _)

/-- The values of other names stay as they are. -/
theorem valuesNamed_insertMember_of_ne
    {name other : String}
    (differ : other ≠ name)
    (value : Document)
    (members : List (Key × Document)) :
    valuesNamed name (insertMember other value members) = valuesNamed name members := by
  fun_induction insertMember other value members with
  | case1 => rw [valuesNamed_cons_of_ne differ]
  | case2 before rest => rw [valuesNamed_cons_of_ne differ, valuesNamed_cons_of_ne differ]
  | case3 first before rest => rw [valuesNamed_cons_of_ne differ]
  | case4 first before rest _ _ inductionHypothesis
  | case5 first rest _ inductionHypothesis =>
      unfold valuesNamed at *
      rw [List.filterMap_cons, List.filterMap_cons, inductionHypothesis]

theorem valuesNamed_insertMember_self
    {name : String}
    {members : List (Key × Document)}
    (absent : valuesNamed name members = [])
    (value : Document) :
    valuesNamed name (insertMember name value members) = [value] := by
  fun_induction insertMember name value members with
  | case1 => rw [valuesNamed_cons_self, valuesNamed_nil]
  | case2 before rest =>
      rw [valuesNamed_cons_self] at absent
      cases absent
  | case3 other before rest => rw [valuesNamed_cons_self, absent]
  | case4 other before rest _ _ inductionHypothesis
  | case5 first rest _ inductionHypothesis =>
      unfold valuesNamed at *
      obtain ⟨unnamed, none⟩ := List.forall_mem_cons.mp (List.filterMap_eq_nil_iff.mp absent)
      rw [List.filterMap_cons_none unnamed]
      exact inductionHypothesis (List.filterMap_eq_nil_iff.mpr none)

/-! ## All members -/

/-- A sorted member was there before, its value not yet sorted. -/
theorem exists_of_mem_sortedMembers
    {done members : List (Key × Document)}
    {member : Key × Document}
    (present : member ∈ sortedMembers done members) :
    member ∈ done ∨
      ∃ name value, (Key.name name, value) ∈ members ∧ member = (.name name, value.sorted) := by
  induction members generalizing done with
  | nil => exact .inl present
  | cons first members inductionHypothesis =>
      obtain ⟨key, value⟩ := first
      cases key with
      | name name =>
          obtain inserted | ⟨other, before, known, same⟩ := inductionHypothesis present
          · obtain same | earlier := eq_or_mem_of_mem_insertMember inserted
            · exact .inr ⟨name, value, .head _, same⟩
            · exact .inl earlier
          · exact .inr ⟨other, before, .tail _ known, same⟩
      | _ =>
          obtain earlier | ⟨other, before, known, same⟩ := inductionHypothesis present
          · exact .inl earlier
          · exact .inr ⟨other, before, .tail _ known, same⟩

/-- A name that stands in a record at most once keeps its value. -/
theorem valuesNamed_sortedMembers
    {name : String}
    {done members : List (Key × Document)}
    (once : (valuesNamed name done ++ valuesNamed name members).length ≤ 1) :
    valuesNamed name (sortedMembers done members) =
      valuesNamed name done ++ (valuesNamed name members).map Document.sorted := by
  induction members generalizing done with
  | nil => exact (List.append_nil _).symm
  | cons first members inductionHypothesis =>
      obtain ⟨key, value⟩ := first
      cases key with
      | name other =>
          rw [sortedMembers]
          by_cases same : other = name
          · subst same
            rw [valuesNamed_cons_self, List.length_append, List.length_cons] at once
            have absent : valuesNamed other done = [] :=
              List.eq_nil_of_length_eq_zero (by omega)
            have last : valuesNamed other members = [] :=
              List.eq_nil_of_length_eq_zero (by omega)
            have here := valuesNamed_insertMember_self absent value.sorted
            rw [inductionHypothesis (by rw [here, last]; exact Nat.le_refl 1), here, last, absent,
              valuesNamed_cons_self, last]
            rfl
          · rw [valuesNamed_cons_of_ne same] at once ⊢
            have elsewhere := valuesNamed_insertMember_of_ne same value.sorted done
            rw [inductionHypothesis (by rwa [elsewhere]), elsewhere]
      | _ => exact inductionHypothesis once

/-! ## Breaks -/

theorem skipMembersBreak?_sortedMembers
    {members : List (Key × Document)}
    (whole : ∀ member ∈ members, member.2.sorted.skipBreak? = none) :
    Document.skipMembersBreak? (sortedMembers [] members) = none := by
  rw [skipMembersBreak?_eq_none_iff]
  intro member present
  obtain earlier | ⟨name, value, known, rfl⟩ := exists_of_mem_sortedMembers present
  · cases earlier
  · exact ⟨rfl, whole _ known⟩

theorem sortedItems_eq_map (items : List Document) : sortedItems items = items.map .sorted := by
  induction items with
  | nil => rfl
  | cons item items inductionHypothesis => rw [sortedItems, inductionHypothesis, List.map_cons]

theorem IsNumeric.skipBreak?_sorted {document : Document} (numeric : IsNumeric document) :
    document.sorted.skipBreak? = none := by
  cases numeric <;> rfl

/-- What is spelled does not break off when it has been sorted either. -/
theorem Spells.skipBreak?_sorted {cs : List Char} {document : Document}
    (spelled : Spells cs document) :
    document.sorted.skipBreak? = none := by
  induction spelled with
  | null | yes | no => rfl
  | number written => exact written.isNumeric.skipBreak?_sorted
  | @text cs value? spelled => cases value? <;> rfl
  | sequence isBlank spelled inductionHypothesis =>
      rw [Document.sorted, Document.skipBreak?, sortedItems_eq_map, skipItemsBreak?_eq_none]
      · rfl
      · intro item present
        obtain ⟨_, known, rfl⟩ := List.mem_map.mp present
        obtain ⟨written, spelled, rfl⟩ := List.mem_map.mp known
        exact inductionHypothesis written spelled
  | table isBlank keys values inductionHypothesis =>
      rw [Document.sorted, Document.skipBreak?, skipMembersBreak?_sortedMembers]
      · rfl
      · intro member present
        obtain ⟨written, known, rfl⟩ := List.mem_map.mp present
        exact inductionHypothesis written known
  | before blank spelled inductionHypothesis => exact inductionHypothesis
  | after spelled blank inductionHypothesis => exact inductionHypothesis

end Json
end AgentCohort
