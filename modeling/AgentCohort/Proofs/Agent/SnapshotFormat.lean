import AgentCohort.Agent.Snapshot
import AgentCohort.Proofs.Instant.RoundTrip
import AgentCohort.Proofs.Json.Records

/-!
# Snapshots as they are exchanged

Whatever text a snapshot has been read from, the text that is written for it is read as the same
snapshot.  The start of the agent is the instant that the first text names, by the clock of any
zone; it is written in universal time, with as few decimals as possible.
-/

namespace AgentCohort
namespace Agent

open Json (Decoder Document Exchanged Field Fields Spells Undoes valuesNamed)

theorem Status.undoes_toJson (status : Status) : Undoes decoder toJson status where
  read source := by
    cases source <;> cases status <;> rfl
  fits := .text status.name
  present absent := by cases absent

namespace Snapshot

open Instant (nanosecondsPerSecond)
open Network (portJson)

/-! ## The fields of a snapshot -/

/-- The number of messages as JSON. -/
def receivedJson (received : UInt64) : Json :=
  .natural received.toNat

theorem undoes_receivedJson (received : UInt64) : Undoes .word64 receivedJson received :=
  .word64 received

/-- An instant as JSON. -/
def instantJson (instant : Instant) : Json :=
  .text instant.text

theorem undoes_instantJson {instant : Instant} (proper : instant.IsProper) :
    Undoes instantDecoder instantJson instant where
  read source := by
    unfold instantJson
    rw [Json.document]
    unfold instantDecoder
    dsimp only
    rw [proper.ofChars_text]
  fits := .text instant.text
  present absent := by cases absent

/-- All fields of a snapshot. -/
def listing (snapshot : Snapshot) : List (String × Json) :=
  [("name", .text snapshot.name),
   ("status", snapshot.status.toJson),
   ("address", .text snapshot.address),
   ("ui_port", .optional portJson snapshot.uiPort?),
   ("orchestrator", .text snapshot.orchestrator),
   ("registered", .boolean snapshot.registered),
   ("messages_received", receivedJson snapshot.messagesReceived),
   ("started_at", .optional instantJson snapshot.startedAt?)]

/-- Members without a value are not written. -/
theorem toJson_eq (snapshot : Snapshot) :
    snapshot.toJson = .record (snapshot.listing.filter fun entry => entry.2.isPresent) := by
  obtain ⟨name, status, address, uiPort?, orchestrator, registered, received, startedAt?⟩ :=
    snapshot
  cases uiPort? <;> cases startedAt? <;> rfl

section Proper

variable {snapshot : Snapshot}

theorem takes_listing (proper : ∀ instant ∈ snapshot.startedAt?, instant.IsProper) :
    List.Forall₂ Field.Takes fields snapshot.listing :=
  .cons (Field.takes_placed (.text snapshot.name))
    (.cons (Field.takes_placed snapshot.status.undoes_toJson)
      (.cons (Field.takes_placed (.text snapshot.address))
        (.cons (Field.takes_optional fun port _ => .word16 port)
          (.cons (Field.takes_placed (.text snapshot.orchestrator))
            (.cons (Field.takes_placed (.boolean snapshot.registered))
              (.cons (Field.takes_placed (undoes_receivedJson snapshot.messagesReceived))
                (.cons (Field.takes_optional fun instant known =>
                  undoes_instantJson (proper instant known)) .nil)))))))

/-- A snapshot with a proper start is exchanged without the members that are absent. -/
theorem exchanged (proper : ∀ instant ∈ snapshot.startedAt?, instant.IsProper) :
    Exchanged decoder snapshot.toJson snapshot.listing snapshot := by
  rw [toJson_eq]
  apply Exchanged.of_present "AgentSnapshot" (takes_listing proper)
  · intro document found collected holds
    simp only [listing, List.forall_mem_cons] at holds
    obtain ⟨name, status, address, uiPort, orchestrator, registered, received, startedAt, _⟩ :=
      holds
    simp only [decoder, bind, Except.bind, collected,
      name.required (Undoes.text snapshot.name),
      status.required snapshot.status.undoes_toJson,
      address.required (Undoes.text snapshot.address),
      uiPort.optional fun port _ => Undoes.word16 port,
      orchestrator.required (Undoes.text snapshot.orchestrator),
      registered.required (Undoes.boolean snapshot.registered),
      received.required (undoes_receivedJson snapshot.messagesReceived),
      startedAt.optional fun instant known => undoes_instantJson (proper instant known)]
    rfl
  · change ["name", "status", "address", "ui_port", "orchestrator", "registered",
      "messages_received", "started_at"].Nodup
    decide

theorem spells_compact (proper : ∀ instant ∈ snapshot.startedAt?, instant.IsProper) :
    Spells snapshot.toJson.compact.toList
      (.table (Json.memberDocuments (snapshot.listing.filter fun entry => entry.2.isPresent))
        .closed) := by
  rw [toJson_eq, Json.compact, String.toList_ofList]
  exact (Json.fits_of_takes (takes_listing proper) _).spells

end Proper

/-! ## Snapshots that have been read -/

/-- What stands for the start of an agent: nothing, or a text that names it in any zone. -/
inductive TellsStart : List Document → Option Instant → Prop
  | absent : TellsStart [] none
  | nothing : TellsStart [.null] none
  | named {written : String} {instant : Instant} (names : Instant.Names written.toList instant) :
      TellsStart [.text written] (some instant)

theorem TellsStart.isProper {documents : List Document} {startedAt? : Option Instant}
    (tells : TellsStart documents startedAt?) : ∀ instant ∈ startedAt?, instant.IsProper := by
  cases tells with
  | absent => exact nofun
  | nothing => exact nofun
  | named names =>
      intro instant known
      cases known
      exact names.isProper

/-- An instant is read from a text that names it, and from nothing else. -/
theorem instantDecoder_eq_ok_iff {source : Json.Source} {document : Document} {instant : Instant} :
    instantDecoder source document = .ok instant ↔
      ∃ written, document = .text written ∧ Instant.Names written.toList instant := by
  unfold instantDecoder
  constructor
  · intro read
    split at read
    · split at read
      · rename_i found
        cases read
        exact ⟨_, rfl, Instant.names_of_ofChars found⟩
      · cases read
    · cases read
  · rintro ⟨written, rfl, names⟩
    dsimp only
    rw [Instant.ofChars_of_names names]

theorem tellsStart_of_optional {found : Fields} {startedAt? : Option Instant}
    (read : found.optional "started_at" instantDecoder = .ok startedAt?) :
    TellsStart (found.entries.lookup "started_at").toList startedAt? := by
  unfold Fields.optional at read
  split at read
  · rename_i document present
    rw [present]
    unfold Decoder.optional at read
    split at read
    · cases read
      exact .nothing
    · obtain ⟨instant, decoded, rfl⟩ := map_eq_ok read
      obtain ⟨written, rfl, names⟩ := instantDecoder_eq_ok_iff.mp decoded
      exact .named names
  · rename_i absent
    rw [absent]
    cases read
    exact .absent

/-- The start of a snapshot is one of the members that were found. -/
theorem exists_of_decoder
    {source : Json.Source}
    {document : Document}
    {snapshot : Snapshot}
    (decoded : decoder source document = .ok snapshot) :
    ∃ found, Json.collect "AgentSnapshot" fields source document = .ok found ∧
      TellsStart (found.entries.lookup "started_at").toList snapshot.startedAt? := by
  unfold decoder at decoded
  obtain ⟨found, collected, decoded⟩ := bind_eq_ok decoded
  obtain ⟨name, _, decoded⟩ := bind_eq_ok decoded
  obtain ⟨status, _, decoded⟩ := bind_eq_ok decoded
  obtain ⟨address, _, decoded⟩ := bind_eq_ok decoded
  obtain ⟨uiPort?, _, decoded⟩ := bind_eq_ok decoded
  obtain ⟨orchestrator, _, decoded⟩ := bind_eq_ok decoded
  obtain ⟨registered, _, decoded⟩ := bind_eq_ok decoded
  obtain ⟨received, _, decoded⟩ := bind_eq_ok decoded
  obtain ⟨startedAt?, start, decoded⟩ := bind_eq_ok decoded
  cases decoded
  exact ⟨found, collected, tellsStart_of_optional start⟩

section Read

variable {text : String}
variable {snapshot : Snapshot}

/-- The start of a snapshot that has been read is an instant of the calendar. -/
theorem isProper_of_decode (read : Json.decode decoder text = .ok snapshot) :
    ∀ instant ∈ snapshot.startedAt?, instant.IsProper := by
  have decoded : decoder .text (Document.ofChars text.toList).1 = .ok snapshot := by
    unfold Json.decode Json.decodeChars at read
    dsimp only at read
    split at read
    · cases read
    · rename_i found
      split at read
      · cases read
        exact found
      · cases read
  obtain ⟨found, _, tells⟩ := exists_of_decoder decoded
  exact tells.isProper

/-- The start of a snapshot is the instant that the record names which it has been read from. -/
theorem tellsStart_of_decode
    (read : Json.decode decoder text = .ok snapshot)
    {members : List (Json.Key × Document)}
    (spelled : Spells text.toList (.table members .closed)) :
    TellsStart (valuesNamed "started_at" members) snapshot.startedAt? := by
  unfold Json.decode at read
  rw [Json.decodeChars_of_spells spelled] at read
  obtain ⟨found, collected, tells⟩ := exists_of_decoder read
  obtain ⟨_, held⟩ := Json.lookup_of_collect_table collected
  have start := held (.placed "started_at" instantDecoder.optional) (by simp [fields])
  exact start ▸ tells

end Read

/-! ## Stability -/

/-- The text that is written for a snapshot means the snapshot and nothing else. -/
structure IsStable (snapshot : Snapshot) : Prop where
  /-- It is read as the snapshot. -/
  again : Json.decode decoder snapshot.toJson.compact = .ok snapshot
  /-- The text names the start with the fewest decimals, and is silent only if there is none. -/
  start : ∃ members, Spells snapshot.toJson.compact.toList (.table members .closed) ∧
    (valuesNamed "started_at" members = [] ↔ snapshot.startedAt? = none) ∧
    ∀ instant ∈ snapshot.startedAt?, ∃ written,
      valuesNamed "started_at" members = [.text written] ∧
      Instant.Names written.toList instant ∧
      Instant.EndsInDecimals written.toList (instant.nanosecond % nanosecondsPerSecond)

theorem valuesNamed_startedAt (snapshot : Snapshot) :
    valuesNamed "started_at"
        (Json.memberDocuments (snapshot.listing.filter fun entry => entry.2.isPresent)) =
      snapshot.startedAt?.toList.map fun instant => .text instant.text := by
  obtain ⟨name, status, address, uiPort?, orchestrator, registered, received, startedAt?⟩ :=
    snapshot
  cases uiPort? <;> cases startedAt? <;> rfl

/-- A snapshot that has been read starts at the instant that its text names, and is written to a
text that is read as the same snapshot. -/
theorem isStable_of_decode
    {text : String}
    {snapshot : Snapshot}
    (read : Json.decode decoder text = .ok snapshot) :
    snapshot.IsStable ∧
      ∀ members, Spells text.toList (.table members .closed) →
        TellsStart (valuesNamed "started_at" members) snapshot.startedAt? := by
  have proper := isProper_of_decode read
  refine ⟨⟨(exchanged proper).written, _, spells_compact proper, ?_, fun instant known => ?_⟩,
    fun members => tellsStart_of_decode read⟩
  · rw [valuesNamed_startedAt]
    cases snapshot.startedAt? <;> simp
  · have inCalendar := proper instant known
    refine ⟨instant.text, ?_, inCalendar.names_text, inCalendar.endsInDecimals⟩
    rw [valuesNamed_startedAt, Option.mem_def.mp known]
    rfl

/-- A snapshot of an agent that was started in a leap second, by the clock of another zone. -/
def leapText : String :=
  "\x7b\"name\":\"a\",\"status\":\"running\",\"address\":\"127.0.0.1:9000\"," ++
    "\"orchestrator\":\"h:1\",\"registered\":true,\"messages_received\":3," ++
    "\"started_at\":\"2017-01-01 01:29:60.50+01:30\"\x7d"

/-- The snapshot, with its start in universal time. -/
def leapSnapshot : Snapshot where
  name := "a"
  status := .running
  address := "127.0.0.1:9000"
  uiPort? := none
  orchestrator := "h:1"
  registered := true
  messagesReceived := 3
  startedAt? := some ⟨17166, 86399, 1500000000⟩

theorem isStable_leapSnapshot :
    Json.decode decoder leapText = .ok leapSnapshot ∧ leapSnapshot.IsStable ∧
      ∀ members, Spells leapText.toList (.table members .closed) →
        TellsStart (valuesNamed "started_at" members) leapSnapshot.startedAt? := by
  have read : Json.decode decoder leapText = .ok leapSnapshot := by decide +kernel
  exact ⟨read, isStable_of_decode read⟩

end Snapshot
end Agent
end AgentCohort
