import AgentCohort.Agent.Message
import AgentCohort.Agent.Registration
import AgentCohort.Proofs.Json.Records

/-!
# Wire formats

The records that agents, orchestrators and launch lists exchange.  A value is read from any
record that lists its fields once, in any order and among any other members, and the record
that is written for it lists them in one order.
-/

namespace AgentCohort

open Json (Document Exchanged Field Key Undoes nullOr quotedText recordChars)

/-! ## Endpoints -/

namespace Network

theorem undoes_portJson (port : UInt16) : Undoes .word16 portJson port :=
  .word16 port

/-- The digits of a port. -/
def portChars (port : UInt16) : List Char :=
  Nat.toDigits 10 port.toNat

theorem chars_portJson (port : UInt16) : (portJson port).chars = portChars port :=
  Json.chars_natural port.toNat

namespace EndpointBase

/-- All fields of a base. -/
def listing (base : EndpointBase) : List (String × Json) :=
  [("listen_address", .optional .text base.listenAddress?),
   ("base_port", portJson base.basePort),
   ("base_ui_port", .optional portJson base.baseUiPort?)]

theorem takes_listing (base : EndpointBase) :
    List.Forall₂ Field.Takes fields base.listing :=
  .cons (Field.takes_optional fun value _ => .text value)
    (.cons (Field.takes_placed (undoes_portJson base.basePort))
      (.cons (Field.takes_optional fun port _ => undoes_portJson port) .nil))

/-- A base is exchanged with all its fields. -/
theorem exchanged (base : EndpointBase) : Exchanged decoder base.toJson base.listing base := by
  apply Exchanged.of_record "EndpointConfig" base.takes_listing
  · intro document found collected holds
    simp only [listing, List.forall_mem_cons] at holds
    obtain ⟨listenAddress, basePort, baseUiPort, _⟩ := holds
    simp only [decoder, bind, Except.bind, collected,
      listenAddress.optional fun value _ => Undoes.text value,
      basePort.required (undoes_portJson base.basePort),
      baseUiPort.optional fun port _ => undoes_portJson port]
    rfl
  · change ["listen_address", "base_port", "base_ui_port"].Nodup
    decide

theorem chars_toJson (base : EndpointBase) :
    base.toJson.chars = recordChars [
      ("listen_address", nullOr quotedText base.listenAddress?),
      ("base_port", portChars base.basePort),
      ("base_ui_port", nullOr portChars base.baseUiPort?)] := by
  rw [toJson, Json.chars_record]
  · simp only [List.map_cons, List.map_nil, Json.chars_optional, chars_portJson]
    rfl
  · change ∀ name ∈ ["listen_address", "base_port", "base_ui_port"], _
    decide

end EndpointBase

namespace Endpoint

/-- All fields of an endpoint. -/
def listing (endpoint : Endpoint) : List (String × Json) :=
  [("index", .natural endpoint.index),
   ("message_port", portJson endpoint.messagePort),
   ("ui_port", .optional portJson endpoint.uiPort?)]

variable {endpoint : Endpoint}

theorem undoes_index (word : endpoint.index ≤ Numeral.maxUInt64) :
    Undoes indexDecoder .natural endpoint.index :=
  .natural "usize" (Nat.le_refl _) word

theorem takes_listing (word : endpoint.index ≤ Numeral.maxUInt64) :
    List.Forall₂ Field.Takes fields endpoint.listing :=
  .cons (Field.takes_placed (undoes_index word))
    (.cons (Field.takes_placed (undoes_portJson endpoint.messagePort))
      (.cons (Field.takes_optional fun port _ => undoes_portJson port) .nil))

/-- An endpoint is exchanged with all its fields. -/
theorem exchanged (word : endpoint.index ≤ Numeral.maxUInt64) :
    Exchanged decoder endpoint.toJson endpoint.listing endpoint := by
  apply Exchanged.of_record "AllocatedEndpoint" (takes_listing word)
  · intro document found collected holds
    simp only [listing, List.forall_mem_cons] at holds
    obtain ⟨index, messagePort, uiPort, _⟩ := holds
    simp only [decoder, bind, Except.bind, collected,
      index.required (undoes_index word),
      messagePort.required (undoes_portJson endpoint.messagePort),
      uiPort.optional fun port _ => undoes_portJson port]
    rfl
  · change ["index", "message_port", "ui_port"].Nodup
    decide

theorem chars_toJson (endpoint : Endpoint) :
    endpoint.toJson.chars = recordChars [
      ("index", Nat.toDigits 10 endpoint.index),
      ("message_port", portChars endpoint.messagePort),
      ("ui_port", nullOr portChars endpoint.uiPort?)] := by
  rw [toJson, Json.chars_record]
  · simp only [List.map_cons, List.map_nil, Json.chars_optional, Json.chars_natural,
      chars_portJson]
  · change ∀ name ∈ ["index", "message_port", "ui_port"], _
    decide

end Endpoint

/-! ## Addresses -/

namespace OrchestratorAddress

/-- All fields of an address. -/
def listing (address : OrchestratorAddress) : List (String × Json) :=
  [("host", .text address.host), ("port", portJson address.port)]

theorem takes_listing (address : OrchestratorAddress) :
    List.Forall₂ Field.Takes fields address.listing :=
  .cons (Field.takes_placed (.text address.host))
    (.cons (Field.takes_placed (undoes_portJson address.port)) .nil)

/-- An address is exchanged with all its fields. -/
theorem exchanged (address : OrchestratorAddress) :
    Exchanged decoder address.toJson address.listing address := by
  apply Exchanged.of_record "OrchestratorAddress" address.takes_listing
  · intro document found collected holds
    simp only [listing, List.forall_mem_cons] at holds
    obtain ⟨host, port, _⟩ := holds
    simp only [decoder, bind, Except.bind, collected,
      host.required (Undoes.text address.host),
      port.required (undoes_portJson address.port)]
    rfl
  · change ["host", "port"].Nodup
    decide

theorem chars_toJson (address : OrchestratorAddress) :
    address.toJson.chars = recordChars [
      ("host", quotedText address.host), ("port", portChars address.port)] := by
  rw [toJson, Json.chars_record]
  · simp only [List.map_cons, List.map_nil, chars_portJson]
    rfl
  · change ∀ name ∈ ["host", "port"], _
    decide

end OrchestratorAddress
end Network

namespace Agent

/-! ## Acknowledgements -/

namespace Acknowledgement

/-- The field of an acknowledgement. -/
def listing (acknowledgement : Acknowledgement) : List (String × Json) :=
  [("accepted", .boolean acknowledgement.accepted)]

theorem takes_listing (acknowledgement : Acknowledgement) :
    List.Forall₂ Field.Takes fields acknowledgement.listing :=
  .cons (Field.takes_placed (.boolean acknowledgement.accepted)) .nil

/-- An acknowledgement is exchanged with its field. -/
theorem exchanged (acknowledgement : Acknowledgement) :
    Exchanged decoder acknowledgement.toJson acknowledgement.listing acknowledgement := by
  apply Exchanged.of_record "MessageAck" acknowledgement.takes_listing
  · intro document found collected holds
    simp only [listing, List.forall_mem_cons] at holds
    obtain ⟨accepted, _⟩ := holds
    simp only [decoder, bind, Except.bind, collected,
      accepted.required (Undoes.boolean acknowledgement.accepted)]
    rfl
  · change ["accepted"].Nodup
    decide

theorem chars_toJson (acknowledgement : Acknowledgement) :
    acknowledgement.toJson.chars = recordChars [
      ("accepted", (if acknowledgement.accepted then "true" else "false").toList)] := by
  obtain ⟨accepted⟩ := acknowledgement
  cases accepted <;> rfl

end Acknowledgement

/-! ## Registrations -/

namespace Registration

open Network (chars_portJson portChars portJson undoes_portJson)

/-- All fields of a registration. -/
def listing (registration : Registration) : List (String × Json) :=
  [("type", .text registration.kind),
   ("agent", .text registration.agent),
   ("address", .text registration.address),
   ("port", portJson registration.port),
   ("ui_port", .optional portJson registration.uiPort?)]

theorem takes_listing (registration : Registration) :
    List.Forall₂ Field.Takes fields registration.listing :=
  .cons (Field.takes_placed (.text registration.kind))
    (.cons (Field.takes_placed (.text registration.agent))
      (.cons (Field.takes_placed (.text registration.address))
        (.cons (Field.takes_placed (undoes_portJson registration.port))
          (.cons (Field.takes_optional fun port _ => undoes_portJson port) .nil))))

/-- A port for user interfaces that is absent is not written. -/
theorem toJson_eq (registration : Registration) :
    registration.toJson =
      .record (registration.listing.filter fun entry => entry.2.isPresent) := by
  obtain ⟨kind, agent, address, port, uiPort?⟩ := registration
  cases uiPort? <;> rfl

/-- A registration is exchanged without a port that is absent. -/
theorem exchanged (registration : Registration) :
    Exchanged decoder registration.toJson registration.listing registration := by
  rw [toJson_eq]
  apply Exchanged.of_present "AgentRegistration" registration.takes_listing
  · intro document found collected holds
    simp only [listing, List.forall_mem_cons] at holds
    obtain ⟨kind, agent, address, port, uiPort, _⟩ := holds
    simp only [decoder, bind, Except.bind, collected,
      kind.required (Undoes.text registration.kind),
      agent.required (Undoes.text registration.agent),
      address.required (Undoes.text registration.address),
      port.required (undoes_portJson registration.port),
      uiPort.optional fun port _ => undoes_portJson port]
    rfl
  · change ["type", "agent", "address", "port", "ui_port"].Nodup
    decide

theorem chars_toJson (registration : Registration) :
    registration.toJson.chars = recordChars ([
      ("type", quotedText registration.kind),
      ("agent", quotedText registration.agent),
      ("address", quotedText registration.address),
      ("port", portChars registration.port)] ++
      registration.uiPort?.toList.map fun port => ("ui_port", portChars port)) := by
  obtain ⟨kind, agent, address, port, uiPort?⟩ := registration
  cases uiPort? with
  | none =>
      unfold toJson
      dsimp only
      rw [Json.chars_record]
      · simp only [List.map_append, List.map_cons, List.map_nil, chars_portJson]
        rfl
      · change ∀ name ∈ ["type", "agent", "address", "port"], _
        decide
  | some uiPort =>
      unfold toJson
      dsimp only
      rw [Json.chars_record]
      · simp only [List.map_append, List.map_cons, List.map_nil, chars_portJson]
        rfl
      · change ∀ name ∈ ["type", "agent", "address", "port", "ui_port"], _
        decide

end Registration
end Agent

/-! ## All formats -/

open Network Agent in
/-- The values of each type are exchanged as records, and their fields are written in one order:
an absent part of an endpoint as nothing, an absent port of a registration not at all. -/
theorem wireFormats_exchange_values :
    (∀ base : EndpointBase,
      Exchanged EndpointBase.decoder base.toJson base.listing base ∧
        base.toJson.compact.toList = recordChars [
          ("listen_address", nullOr quotedText base.listenAddress?),
          ("base_port", portChars base.basePort),
          ("base_ui_port", nullOr portChars base.baseUiPort?)]) ∧
    (∀ endpoint : Endpoint, endpoint.index ≤ Numeral.maxUInt64 →
      Exchanged Endpoint.decoder endpoint.toJson endpoint.listing endpoint ∧
        endpoint.toJson.compact.toList = recordChars [
          ("index", Nat.toDigits 10 endpoint.index),
          ("message_port", portChars endpoint.messagePort),
          ("ui_port", nullOr portChars endpoint.uiPort?)]) ∧
    (∀ address : OrchestratorAddress,
      Exchanged OrchestratorAddress.decoder address.toJson address.listing address ∧
        address.toJson.compact.toList = recordChars [
          ("host", quotedText address.host),
          ("port", portChars address.port)]) ∧
    (∀ acknowledgement : Acknowledgement,
      Exchanged Acknowledgement.decoder acknowledgement.toJson acknowledgement.listing
        acknowledgement ∧
        acknowledgement.toJson.compact.toList = recordChars [
          ("accepted", (if acknowledgement.accepted then "true" else "false").toList)]) ∧
    (∀ registration : Registration,
      Exchanged Registration.decoder registration.toJson registration.listing registration ∧
        registration.toJson.compact.toList = recordChars ([
          ("type", quotedText registration.kind),
          ("agent", quotedText registration.agent),
          ("address", quotedText registration.address),
          ("port", portChars registration.port)] ++
          registration.uiPort?.toList.map fun port => ("ui_port", portChars port))) := by
  refine ⟨fun base => ?_, fun endpoint word => ?_, fun address => ?_, fun acknowledgement => ?_,
    fun registration => ?_⟩
  · exact ⟨base.exchanged, String.toList_ofList.trans base.chars_toJson⟩
  · exact ⟨Endpoint.exchanged word, String.toList_ofList.trans endpoint.chars_toJson⟩
  · exact ⟨address.exchanged, String.toList_ofList.trans address.chars_toJson⟩
  · exact ⟨acknowledgement.exchanged, String.toList_ofList.trans acknowledgement.chars_toJson⟩
  · exact ⟨registration.exchanged, String.toList_ofList.trans registration.chars_toJson⟩

namespace Agent.Registration

/-- A registration with characters that are escaped or take several bytes. -/
def quotedAgent : Registration :=
  ⟨ownKind, "say \"hi\"\\\n\x01é", "127.0.0.1", 9000, none⟩

/-- Its fields in another order among members that nobody knows. -/
def quotedAgentShuffled : List (String × Json) :=
  [("port", .integer 9000), ("extra", .list [.integer (-1), .text "type"]),
   ("agent", .text "say \"hi\"\\\n\x01é"), ("ui_port", .null), ("extra", .boolean true),
   ("type", .text ownKind), ("address", .text "127.0.0.1")]

end Agent.Registration

open Network Agent Registration in
theorem wireFormats_exchange_values_quotedAgent :
    Json.decode Registration.decoder (Json.record quotedAgentShuffled).compact = .ok quotedAgent ∧
      Json.decode Endpoint.decoder (Endpoint.toJson ⟨Numeral.maxUInt64, 65535, none⟩).compact =
        .ok ⟨Numeral.maxUInt64, 65535, none⟩ := by
  have fits : Json.Fits (.record quotedAgentShuffled) := by
    refine .record ?_
    simp only [quotedAgentShuffled, List.forall_mem_cons]
    refine ⟨.integer (by decide) (by decide), .list ?_, .text _, .null, .boolean true, .text _,
      .text _, List.forall_mem_nil _⟩
    simp only [List.forall_mem_cons]
    exact ⟨.integer (by decide) (by decide), .text _, List.forall_mem_nil _⟩
  have lists : Json.Lists (Json.memberDocuments quotedAgentShuffled) quotedAgent.listing := by
    constructor
    · intro member present
      rw [Json.memberDocuments_eq_map] at present
      obtain ⟨entry, _, rfl⟩ := List.mem_map.mp present
      exact ⟨entry.1, rfl⟩
    · simp only [listing, List.forall_mem_cons]
      exact ⟨.inl rfl, .inl rfl, .inl rfl, .inl rfl, .inl rfl, List.forall_mem_nil _⟩
  have spelled : Json.Spells (Json.record quotedAgentShuffled).compact.toList
      (.table (Json.memberDocuments quotedAgentShuffled) .closed) := by
    rw [Json.compact, String.toList_ofList]
    exact fits.spells
  constructor
  · exact (wireFormats_exchange_values.2.2.2.2 quotedAgent).1.read _ _ spelled lists
  · exact
      (wireFormats_exchange_values.2.1 ⟨Numeral.maxUInt64, 65535, none⟩ (Nat.le_refl _)).1.written

end AgentCohort
