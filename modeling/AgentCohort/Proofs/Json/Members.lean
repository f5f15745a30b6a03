import AgentCohort.Proofs.Json.Writing
import Mathlib.Data.List.Forall2

/-!
# The members of a record

A record is read by the names of its members.  Their order does not matter, and members with
unknown names are passed over, whatever they hold.  So a record that lists each field of a value
once is read as the fields of that value.
-/

namespace AgentCohort
namespace Json

/-! ## Members by name -/

/-- The value of a member if it has the name. -/
def valueNamed? (name : String) (member : Key × Document) : Option Document :=
  match member.1 with
  | .name other => if other = name then some member.2 else none
  | _ => none

/-- The values of the members with a name, in their order. -/
def valuesNamed (name : String) (members : List (Key × Document)) : List Document :=
  members.filterMap (valueNamed? name)

@[simp] theorem valuesNamed_nil (name : String) : valuesNamed name [] = [] :=
  rfl

@[simp] theorem valuesNamed_cons_self
    (name : String)
    (value : Document)
    (members : List (Key × Document)) :
    valuesNamed name ((.name name, value) :: members) = value :: valuesNamed name members := by
  simp [valuesNamed, valueNamed?]

theorem valuesNamed_cons_of_ne
    {name other : String}
    (different : other ≠ name)
    (value : Document)
    (members : List (Key × Document)) :
    valuesNamed name ((.name other, value) :: members) = valuesNamed name members := by
  simp [valuesNamed, valueNamed?, different]

theorem exists_of_mem_valuesNamed
    {name : String}
    {value : Document}
    {members : List (Key × Document)}
    (present : value ∈ valuesNamed name members) :
    ∃ member ∈ members, member.2 = value := by
  obtain ⟨member, known, found⟩ := List.mem_filterMap.mp present
  refine ⟨member, known, ?_⟩
  unfold valueNamed? at found
  split at found
  · split at found
    · exact Option.some.inj found
    · cases found
  · cases found

/-- A record lists named values: each is the value of the only member with its name, and one
that is nothing may be left out. -/
structure Lists (members : List (Key × Document)) (listing : List (String × Json)) : Prop where
  /-- All names have values. -/
  named : ∀ member ∈ members, ∃ name, member.1 = .name name
  /-- Each value is there once. -/
  listed : ∀ entry ∈ listing, valuesNamed entry.1 members = [entry.2.document] ∨
    entry.2 = .null ∧ valuesNamed entry.1 members = []

/-! ## Fields -/

/-- The fields that were found hold a named value, or nothing where it is nothing. -/
def Fields.Holds (found : Fields) (entry : String × Json) : Prop :=
  found.entries.lookup entry.1 = some entry.2.document ∨
    entry.2 = .null ∧ found.entries.lookup entry.1 = none

/-- A field and a named value belong together. -/
structure Field.Takes (field : Field) (entry : String × Json) : Prop where
  /-- They have one name. -/
  name : field.name = entry.1
  /-- The field takes the value. -/
  check : ∀ source, field.check source entry.2.document = .ok ()
  /-- All numbers in the value fit. -/
  fits : entry.2.Fits

/-! ## Collecting -/

/-- The documents that belong to a name: the one that has been found and those to come. -/
def valuesHeld
    (found : List (String × Document))
    (members : List (Key × Document))
    (name : String) : List Document :=
  (found.lookup name).toList ++ valuesNamed name members

/-- Finding a value leaves the documents of every name as they are. -/
theorem valuesHeld_cons
    {found : List (String × Document)}
    {name : String}
    (absent : found.lookup name = none)
    (value : Document)
    (members : List (Key × Document))
    (other : String) :
    valuesHeld ((name, value) :: found) members other =
      valuesHeld found ((.name name, value) :: members) other := by
  unfold valuesHeld
  by_cases same : other = name
  · subst same
    rw [List.lookup_cons_self, absent, valuesNamed_cons_self]
    rfl
  · rw [List.lookup_cons, beq_eq_false_iff_ne.mpr same,
      valuesNamed_cons_of_ne (Ne.symm same)]

/-- A second value of one name is one too many. -/
theorem lookup_eq_none_of_valuesHeld
    {found : List (String × Document)}
    {name : String}
    {value : Document}
    {members : List (Key × Document)}
    (once : (valuesHeld found ((.name name, value) :: members) name).length ≤ 1) :
    found.lookup name = none := by
  unfold valuesHeld at once
  cases lookup : found.lookup name with
  | none => rfl
  | some earlier =>
      rw [lookup, valuesNamed_cons_self, Option.toList_some, List.length_append,
        List.length_cons, List.length_cons] at once
      omega

/-- Members are collected one after another; those with unknown names leave no trace. -/
theorem collectMembers_eq_ok
    {source : Source}
    {fields : List Field}
    {found : List (String × Document)}
    {members : List (Key × Document)}
    (named : ∀ member ∈ members, ∃ name, member.1 = .name name)
    (whole : ∀ member ∈ members, member.2.skipBreak? = none)
    (checked : ∀ field ∈ fields, ∀ value ∈ valuesHeld found members field.name,
      field.check source value = .ok ())
    (once : ∀ field ∈ fields, (valuesHeld found members field.name).length ≤ 1) :
    ∃ entries, collectMembers source fields .closed found members = .ok entries ∧
      ∀ field ∈ fields,
        entries.lookup field.name = (valuesHeld found members field.name).head? := by
  induction members generalizing found with
  | nil =>
      refine ⟨found, rfl, ?_⟩
      intro field _
      simp [valuesHeld]
  | cons member members inductionHypothesis =>
      rw [List.forall_mem_cons] at named whole
      obtain ⟨⟨name, key⟩, named⟩ := named
      obtain ⟨whole, wholeRest⟩ := whole
      obtain ⟨key', value⟩ := member
      obtain rfl : key' = .name name := key
      cases known : fields.find? (·.name = name) with
      | none =>
          have passed (field : Field) (present : field ∈ fields) :
              valuesHeld found members field.name =
                valuesHeld found ((.name name, value) :: members) field.name := by
            have different : name ≠ field.name := by
              intro same
              exact List.find?_eq_none.mp known field present (decide_eq_true same.symm)
            unfold valuesHeld
            rw [valuesNamed_cons_of_ne different]
          obtain ⟨entries, collected, lookup⟩ := inductionHypothesis named wholeRest
            (fun field present => passed field present ▸ checked field present)
            (fun field present => passed field present ▸ once field present)
          refine ⟨entries, ?_, fun field present => ?_⟩
          · rw [collectMembers, known]
            dsimp only
            rw [whole]
            exact collected
          · rw [← passed field present]
            exact lookup field present
      | some field =>
          have present := List.mem_of_find?_eq_some known
          have same : field.name = name := by simpa using List.find?_some known
          subst same
          have absent := lookup_eq_none_of_valuesHeld (once field present)
          have moved (other : Field) := valuesHeld_cons absent value members other.name
          obtain ⟨entries, collected, lookup⟩ := @inductionHypothesis
            ((field.name, value) :: found) named wholeRest
            (fun other present => moved other ▸ checked other present)
            (fun other present => moved other ▸ once other present)
          refine ⟨entries, ?_, fun other present => ?_⟩
          · rw [collectMembers, known]
            dsimp only
            rw [absent, checked field present value (by simp [valuesHeld])]
            exact collected
          · rw [← moved other]
            exact lookup other present

/-- Members are collected if the fields take their values and none stands there twice. -/
theorem exists_collect_table_eq_ok
    {name : String}
    {source : Source}
    {fields : List Field}
    {members : List (Key × Document)}
    (named : ∀ member ∈ members, ∃ name, member.1 = .name name)
    (whole : ∀ member ∈ members, member.2.skipBreak? = none)
    (checked : ∀ field ∈ fields, ∀ value ∈ valuesNamed field.name members,
      field.check source value = .ok ())
    (once : ∀ field ∈ fields, (valuesNamed field.name members).length ≤ 1) :
    ∃ entries, collect name fields source (.table members .closed) = .ok ⟨source, entries⟩ ∧
      ∀ field ∈ fields, entries.lookup field.name = (valuesNamed field.name members).head? := by
  obtain ⟨entries, collected, lookup⟩ := @collectMembers_eq_ok source fields [] members named whole
    checked once
  refine ⟨entries, ?_, lookup⟩
  unfold collect
  dsimp only
  rw [collected]
  rfl

/-- Members that are collected leave each field its only value. -/
theorem lookup_of_collectMembers
    {source : Source}
    {fields : List Field}
    {found entries : List (String × Document)}
    {members : List (Key × Document)}
    (collected : collectMembers source fields .closed found members = .ok entries) :
    ∀ field ∈ fields, (entries.lookup field.name).toList = valuesHeld found members field.name := by
  induction members generalizing found with
  | nil =>
      cases collected
      intro field _
      simp [valuesHeld]
  | cons member members inductionHypothesis =>
      obtain ⟨key, value⟩ := member
      cases key with
      | name name =>
          rw [collectMembers] at collected
          cases known : fields.find? (·.name = name) with
          | none =>
              rw [known] at collected
              dsimp only at collected
              split at collected
              · cases collected
              · intro field present
                have different : name ≠ field.name := by
                  intro same
                  exact List.find?_eq_none.mp known field present (decide_eq_true same.symm)
                rw [inductionHypothesis collected field present, valuesHeld, valuesHeld,
                  valuesNamed_cons_of_ne different]
          | some field =>
              rw [known] at collected
              dsimp only at collected
              split at collected
              · cases collected
              · rename_i absent
                split at collected
                · intro other present
                  rw [inductionHypothesis collected other present,
                    valuesHeld_cons (Option.not_isSome_iff_eq_none.mp absent)]
                · cases collected
      | _ => cases collected

/-- Each field that is found in a record has the only value of its name, or none. -/
theorem lookup_of_collect_table
    {name : String}
    {source : Source}
    {fields : List Field}
    {members : List (Key × Document)}
    {found : Fields}
    (collected : collect name fields source (.table members .closed) = .ok found) :
    found.source = source ∧
      ∀ field ∈ fields,
        (found.entries.lookup field.name).toList = valuesNamed field.name members := by
  obtain ⟨entries, inTurn, rfl⟩ := map_eq_ok collected
  exact ⟨rfl, lookup_of_collectMembers inTurn⟩

theorem exists_related
    {related : α → β → Prop}
    {first : List α}
    {second : List β}
    (pairs : List.Forall₂ related first second)
    {a : α}
    (present : a ∈ first) :
    ∃ b ∈ second, related a b := by
  induction pairs with
  | nil => cases present
  | cons pair pairs inductionHypothesis =>
      rcases List.mem_cons.mp present with rfl | later
      · exact ⟨_, List.mem_cons_self, pair⟩
      · obtain ⟨b, known, relation⟩ := inductionHypothesis later
        exact ⟨b, List.mem_cons_of_mem _ known, relation⟩

/-- A record that lists the values for some fields gives each field its value. -/
theorem Lists.collect
    {members : List (Key × Document)}
    {listing : List (String × Json)}
    {source : Source}
    {fields : List Field}
    (lists : Lists members listing)
    (whole : ∀ member ∈ members, member.2.skipBreak? = none)
    (takes : List.Forall₂ Field.Takes fields listing)
    (name : String) :
    ∃ found, collect name fields source (.table members .closed) = .ok found ∧
      ∀ entry ∈ listing, found.Holds entry := by
  have taken (field : Field) (present : field ∈ fields) :
      ∃ entry ∈ listing, field.Takes entry :=
    exists_related takes present
  have given (entry : String × Json) (present : entry ∈ listing) :
      ∃ field ∈ fields, field.Takes entry :=
    exists_related (List.Forall₂.flip takes) present
  have checked : ∀ field ∈ fields, ∀ value ∈ valuesNamed field.name members,
      field.check source value = .ok () := by
    intro field present value held
    obtain ⟨entry, known, same, check, _⟩ := taken field present
    rw [same] at held
    rcases lists.listed entry known with values | ⟨_, values⟩
    · rw [values] at held
      rw [List.mem_singleton.mp held]
      exact check source
    · rw [values] at held
      cases held
  have once : ∀ field ∈ fields, (valuesNamed field.name members).length ≤ 1 := by
    intro field present
    obtain ⟨entry, known, same, _⟩ := taken field present
    rw [same]
    rcases lists.listed entry known with values | ⟨_, values⟩
    · rw [values]
      exact Nat.le_refl 1
    · rw [values]
      exact Nat.zero_le 1
  obtain ⟨entries, collected, lookup⟩ :=
    exists_collect_table_eq_ok lists.named whole checked once
  refine ⟨⟨source, entries⟩, collected, fun entry known => ?_⟩
  obtain ⟨field, present, same, _⟩ := given entry known
  have found := lookup field present
  rw [same] at found
  unfold Fields.Holds
  rw [found]
  rcases lists.listed entry known with values | ⟨nothing, values⟩
  · left
    rw [values]
    rfl
  · right
    rw [values]
    exact ⟨nothing, rfl⟩

end Json
end AgentCohort
