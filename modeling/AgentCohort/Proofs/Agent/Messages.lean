import AgentCohort.Agent.Message
import AgentCohort.Proofs.Json.Members

/-!
# What a message means

The type of a message decides what it means, wherever it stands among the members and however
its characters are written.  Only one type stops an agent, and a record without a single type
that is a text is no message at all.
-/

namespace AgentCohort
namespace Agent
namespace Message

open Json (Document Key Within Spells Fault valuesNamed)

/-! ## The type of a message -/

theorem ofTypeName_eq_stop_iff {name : String} : ofTypeName name = .stop ↔ name = "stop" := by
  unfold ofTypeName
  split
  · simp_all
  · split <;> simp_all

theorem ofTypeName_eq_ping_iff {name : String} : ofTypeName name = .ping ↔ name = "ping" := by
  unfold ofTypeName
  split
  · simp_all
  · split <;> simp_all

theorem ofTypeName_eq_other_iff {name : String} :
    ofTypeName name = .other ↔ name ≠ "stop" ∧ name ≠ "ping" := by
  unfold ofTypeName
  split
  · simp_all
  · split <;> simp_all

/-- The type that is written for a message is the type of that message. -/
theorem ofTypeName_typeName (message : Message) : ofTypeName message.typeName = message := by
  cases message <;> decide

/-- A document within the limits shows what it is. -/
theorem exists_found_of_within {depth : Nat} {document : Document}
    (within : Within depth document) :
    ∃ found, document.found = .ok found := by
  cases within <;> exact ⟨_, rfl⟩

/-- A type that is no text is a mismatch. -/
theorem ofType_of_ne_text
    {depth : Nat}
    {document : Document}
    (within : Within depth document)
    (other : ∀ name, document ≠ .text name) :
    ∃ found, document.found = .ok found ∧
      ofType document = .error (.data (.type found "variant identifier")) := by
  obtain ⟨found, shown⟩ := exists_found_of_within within
  refine ⟨found, shown, ?_⟩
  have mismatch : ofType document = .error (document.mismatch "variant identifier") := by
    cases document with
    | text name => exact absurd rfl (other name)
    | _ => rfl
  rw [mismatch, Document.mismatch, shown]

/-! ## The members of a message -/

section Members

variable {members : List (Key × Document)}

/-- Another member is passed over, whether the type has been met or not. -/
theorem ofMembers_cons_of_ne
    {name : String}
    {value : Document}
    (other : name ≠ "type")
    (whole : innerBreak? value = none)
    (message? : Option Message)
    (members : List (Key × Document)) :
    ofMembers message? .closed ((.name name, value) :: members) =
      ofMembers message? .closed members := by
  rw [ofMembers, if_neg other, whole]

/-- After the type only other members may come. -/
theorem ofMembers_some
    (message : Message)
    (named : ∀ member ∈ members, ∃ name, member.1 = .name name)
    (whole : ∀ member ∈ members, innerBreak? member.2 = none) :
    ofMembers (some message) .closed members =
      if valuesNamed "type" members = [] then .ok message
      else .error (.data (.duplicateField "type")) := by
  induction members with
  | nil => rfl
  | cons member members inductionHypothesis =>
      rw [List.forall_mem_cons] at named whole
      obtain ⟨⟨name, key⟩, named⟩ := named
      obtain ⟨key', value⟩ := member
      obtain rfl : key' = .name name := key
      by_cases tag : name = "type"
      · subst tag
        rw [Json.valuesNamed_cons_self, if_neg (List.cons_ne_nil _ _)]
        rfl
      · rw [ofMembers_cons_of_ne tag whole.1, Json.valuesNamed_cons_of_ne tag]
        exact inductionHypothesis named whole.2

/-- Before the type other members may come. -/
theorem ofMembers_none
    (named : ∀ member ∈ members, ∃ name, member.1 = .name name)
    (whole : ∀ member ∈ members, innerBreak? member.2 = none) :
    ofMembers none .closed members =
      match valuesNamed "type" members with
      | [] => .error (.data (.missingField "type"))
      | value :: rest =>
        match ofType value with
        | .error fault => .error fault
        | .ok message =>
          if rest = [] then .ok message else .error (.data (.duplicateField "type")) := by
  induction members with
  | nil => rfl
  | cons member members inductionHypothesis =>
      rw [List.forall_mem_cons] at named whole
      obtain ⟨⟨name, key⟩, named⟩ := named
      obtain ⟨key', value⟩ := member
      obtain rfl : key' = .name name := key
      by_cases tag : name = "type"
      · subst tag
        rw [Json.valuesNamed_cons_self, ofMembers, if_pos rfl]
        dsimp only
        cases ofType value with
        | error fault => rfl
        | ok message => exact ofMembers_some message named whole.2
      · rw [ofMembers_cons_of_ne tag whole.1, Json.valuesNamed_cons_of_ne tag]
        exact inductionHypothesis named whole.2

end Members

/-! ## Messages as texts -/

/-- The types among the members of a record decide what its text is decoded to. -/
structure DecodedByType (text : String) (members : List (Key × Document)) : Prop where
  /-- A single type that is a text makes a message. -/
  message : ∀ name, valuesNamed "type" members = [.text name] →
    ∃ message, Json.decode decoder text = .ok message ∧
      (message = .stop ↔ name = "stop") ∧
      (message = .ping ↔ name = "ping") ∧
      (message = .other ↔ name ≠ "stop" ∧ name ≠ "ping")
  /-- There must be a type. -/
  missing : valuesNamed "type" members = [] →
    Json.decode decoder text = .error (.data (.missingField "type"))
  /-- There must not be two. -/
  repeated : ∀ name second rest, valuesNamed "type" members = .text name :: second :: rest →
    Json.decode decoder text = .error (.data (.duplicateField "type"))
  /-- It must be a text. -/
  unsuitable : ∀ value rest, valuesNamed "type" members = value :: rest →
    (∀ name, value ≠ .text name) →
    ∃ found, value.found = .ok found ∧
      Json.decode decoder text = .error (.data (.type found "variant identifier"))

/-- A record within the limits is decoded by its types. -/
theorem DecodedByType.of_spells
    {text : String}
    {members : List (Key × Document)}
    (spelled : Spells text.toList (.table members .closed))
    (within : Within Document.depthLimit (.table members .closed)) :
    DecodedByType text members := by
  have limits : (∀ member ∈ members, ∃ name, member.1 = .name name) ∧
      ∀ member ∈ members, Within (Document.depthLimit - 1) member.2 := by
    cases within with
    | table named inner => exact ⟨named, inner⟩
  have decoded : Json.decode decoder text = ofMembers none .closed members :=
    Json.decodeChars_of_spells spelled decoder
  rw [ofMembers_none limits.1 fun member present =>
    (limits.2 member present).keepBreak?] at decoded
  refine ⟨?_, ?_, ?_, ?_⟩
  · intro name single
    rw [single] at decoded
    exact ⟨ofTypeName name, decoded, ofTypeName_eq_stop_iff, ofTypeName_eq_ping_iff,
      ofTypeName_eq_other_iff⟩
  · intro none
    rw [none] at decoded
    exact decoded
  · intro name second rest several
    rw [several] at decoded
    exact decoded
  · intro value rest several other
    have known : value ∈ valuesNamed "type" members := by
      rw [several]
      exact List.mem_cons_self
    obtain ⟨member, present, same⟩ := Json.exists_of_mem_valuesNamed known
    obtain ⟨found, shown, mismatch⟩ :=
      ofType_of_ne_text (same ▸ limits.2 member present) other
    refine ⟨found, shown, ?_⟩
    rw [decoded, several]
    dsimp only
    rw [mismatch]

/-- A message is decoded from its own text. -/
theorem decode_toJson (message : Message) :
    Json.decode decoder message.toJson.compact = .ok message := by
  have fits : message.toJson.Fits := by
    apply Json.Fits.record
    intro member present
    rw [List.mem_singleton.mp present]
    exact .text _
  rw [fits.decode]
  change Except.ok (ofTypeName message.typeName) = _
  rw [ofTypeName_typeName]

/-- The type of a message decides what it means, and each message is decoded from its text. -/
theorem decodes_by_type :
    (∀ text members, Spells text.toList (.table members .closed) →
      Within Document.depthLimit (.table members .closed) → DecodedByType text members) ∧
    ∀ message, Json.decode decoder (toJson message).compact = .ok message :=
  ⟨fun _ _ => DecodedByType.of_spells, decode_toJson⟩

/-- A message whose type is escaped, after another member with a type inside. -/
def escapedStop : String :=
  "\x7b\"note\": [\x7b\"type\":\"ping\"\x7d],\"type\": \"\\u0073top\"\x7d"

/-- The members of that message. -/
def escapedStopMembers : List Json.WrittenMember :=
  [⟨"\"note\"".toList, .name "note", " [\x7b\"type\":\"ping\"\x7d]".toList,
      .sequence [.table [(.name "type", .text "ping")] .closed] .closed⟩,
    ⟨"\"type\"".toList, .name "type", " \"\\u0073top\"".toList, .text "stop"⟩]

theorem decodes_by_type_escapedStop :
    Spells escapedStop.toList (.table (escapedStopMembers.map Json.WrittenMember.entry) .closed) ∧
      Within Document.depthLimit (.table (escapedStopMembers.map Json.WrittenMember.entry) .closed) ∧
      DecodedByType escapedStop (escapedStopMembers.map Json.WrittenMember.entry) := by
  have note : Json.Fits (.list [.record [("type", .text "ping")]]) := by
    refine .list fun item present => ?_
    rw [List.mem_singleton.mp present]
    refine .record fun member present => ?_
    rw [List.mem_singleton.mp present]
    exact .text "ping"
  have stop : Json.SpellsText (Json.codeEscape ['0', '0', '7', '3'] ++ ['t', 'o', 'p'])
      (some ['s', 't', 'o', 'p']) :=
    .code (Json.isCode_of_all rfl (by decide) (by rfl)) (by decide) (by decide)
      (.plain (by decide) (by decide) (by decide)
        (.plain (by decide) (by decide) (by decide)
          (.plain (by decide) (by decide) (by decide) .nil)))
  have spelled :
      Spells escapedStop.toList (.table (escapedStopMembers.map Json.WrittenMember.entry) .closed) := by
    have keys : ∀ member ∈ escapedStopMembers, Json.SpellsKey member.keyChars member.key := by
      unfold escapedStopMembers
      rw [List.forall_mem_cons, List.forall_mem_singleton]
      exact ⟨Json.spellsKey_quotedText "note", Json.spellsKey_quotedText "type"⟩
    have values : ∀ member ∈ escapedStopMembers, Spells member.valueChars member.value := by
      unfold escapedStopMembers
      rw [List.forall_mem_cons, List.forall_mem_singleton]
      exact ⟨.before rfl note.spells, .before rfl (.text stop)⟩
    exact .table Json.isBlank_nil keys values
  have within : Within Document.depthLimit
      (.table (escapedStopMembers.map Json.WrittenMember.entry) .closed) := by
    refine .table ?_ ?_
    · simp [escapedStopMembers, Json.WrittenMember.entry]
    · unfold escapedStopMembers
      rw [List.map_cons, List.map_singleton, List.forall_mem_cons, List.forall_mem_singleton]
      refine ⟨.sequence fun item present => ?_, .text "stop"⟩
      rw [List.mem_singleton.mp present]
      refine .table ?_ ?_
      · simp
      · rw [List.forall_mem_singleton]
        exact .text "ping"
  exact ⟨spelled, within, decodes_by_type.1 _ _ spelled within⟩

end Message
end Agent
end AgentCohort
