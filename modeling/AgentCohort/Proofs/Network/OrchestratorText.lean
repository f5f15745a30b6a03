import AgentCohort.Network.Orchestrator
import AgentCohort.Proofs.Numeral
import AgentCohort.Proofs.Text.Digits

/-!
# Texts of orchestrator addresses

The texts that are read as the address of an orchestrator are exactly those with a host before
their last colon and a port after it.  Any other text is refused and shown as it is.  An address
that has been read is printed as a text that is read as the same address, since its host holds
all colons but the last one and neither begins nor ends with a blank.
-/

namespace AgentCohort
namespace Network
namespace OrchestratorAddress

open Text (AllBlank Surrounds Tight splitLast? trim)

/-- A text that writes an address: the host stands before its last colon, the port after it, and
blanks around either do not count. -/
structure Writes (text : String) (address : OrchestratorAddress) : Prop where
  /-- The last colon separates the host from the port. -/
  split : ∃ before after port, text.toList = before ++ ':' :: after ∧ ':' ∉ after ∧
    Surrounds before address.host.toList ∧ Surrounds after port ∧
    Numeral.Writes 65535 port address.port.toNat
  /-- There is a host. -/
  host_ne : address.host ≠ ""

theorem ofChars?_eq_some_iff {cs : List Char} {address : OrchestratorAddress} :
    ofChars? cs = some address ↔
      ∃ before after, splitLast? ':' cs = some (before, after) ∧
        trim before = address.host.toList ∧ address.host ≠ "" ∧
        Numeral.readUInt16 (trim after) = .ok address.port := by
  unfold ofChars?
  cases split : splitLast? ':' cs with
  | none => simp
  | some parts =>
      obtain ⟨before, after⟩ := parts
      have hostless : (trim before).isEmpty = true ↔ String.ofList (trim before) = "" := by
        rw [List.isEmpty_iff, String.ofList_eq_empty_iff]
      constructor
      · intro read
        simp only [Option.bind_eq_bind, Option.bind_some] at read
        split at read
        · cases read
        · rename_i present
          split at read
          · rename_i port numeral
            obtain rfl := Option.some.inj read
            exact ⟨before, after, rfl, String.toList_ofList.symm, mt hostless.mpr present, numeral⟩
          · cases read
      · rintro ⟨_, _, same, host, present, numeral⟩
        obtain ⟨rfl, rfl⟩ := Prod.mk.inj (Option.some.inj same)
        have written : String.ofList (trim before) = address.host := by
          rw [host, String.ofList_toList]
        rw [← written] at present
        simp only [Option.bind_eq_bind, Option.bind_some]
        rw [if_neg (mt hostless.mp present), numeral]
        exact congrArg some (congrArg (mk · address.port) written)

theorem ofText_eq_ok_iff {text : String} {address : OrchestratorAddress} :
    ofText text = .ok address ↔ ofChars? text.toList = some address := by
  unfold ofText
  cases ofChars? text.toList <;> simp

/-- An address is read from exactly the texts that write it. -/
theorem ofText_eq_ok_iff_writes {text : String} {address : OrchestratorAddress} :
    ofText text = .ok address ↔ Writes text address := by
  rw [ofText_eq_ok_iff, ofChars?_eq_some_iff]
  constructor
  · rintro ⟨before, after, split, host, present, numeral⟩
    obtain ⟨joined, last⟩ := Text.splitLast?_eq_some_iff.mp split
    exact ⟨⟨before, after, trim after, joined, last, Text.trim_eq_iff.mp host,
      Text.surrounds_trim after, Numeral.readUInt16_eq_ok_iff.mp numeral⟩, present⟩
  · rintro ⟨⟨before, after, port, joined, last, host, around, numeral⟩, present⟩
    refine ⟨before, after, Text.splitLast?_eq_some_iff.mpr ⟨joined, last⟩,
      Text.trim_eq_iff.mpr host, present, ?_⟩
    rw [Text.trim_eq_iff.mpr around]
    exact Numeral.readUInt16_eq_ok_iff.mpr numeral

/-! ## Printed addresses -/

theorem toList_toString_port (port : UInt16) :
    (toString port).toList = Nat.toDigits 10 port.toNat :=
  String.toList_ofList

theorem toList_text (address : OrchestratorAddress) :
    address.text.toList = address.host.toList ++ ':' :: Nat.toDigits 10 address.port.toNat := by
  unfold text
  rw [String.toList_append, String.toList_append, toList_toString_port, List.append_assoc]
  rfl

theorem plain_of_mem_digits {n : Nat} {c : Char} (present : c ∈ Nat.toDigits 10 n) :
    Text.isBlank c = false ∧ c ≠ ':' :=
  have plain := Text.plain_of_mem_toDigits (by decide) (by decide) present
  ⟨plain.1, plain.2.1⟩

/-- An address with a host that no blanks surround is written by its own text. -/
theorem writes_text
    {address : OrchestratorAddress}
    (tight : Tight address.host.toList)
    (present : address.host ≠ "") :
    Writes address.text address where
  split := by
    have bare (cs : List Char) (tight : Tight cs) : Surrounds cs cs :=
      Text.trim_eq_iff.mp (Text.trim_of_tight tight)
    have digits : Tight (Nat.toDigits 10 address.port.toNat) :=
      .of_forall fun _ present => (plain_of_mem_digits present).1
    exact ⟨_, _, _, toList_text address, fun present => (plain_of_mem_digits present).2 rfl,
      bare _ tight, bare _ digits,
      Numeral.writes_toDigits (Nat.le_of_lt_succ address.port.toNat_lt)⟩
  host_ne := present

/-- How a text is read as an address. -/
structure ReadsAddress (text : String) : Prop where
  /-- It is read as the address that it writes. -/
  accepts : ∀ address, ofText text = .ok address ↔ Writes text address
  /-- It is refused as it is if it writes none. -/
  refuses : ∀ failure, ofText text = .error failure ↔
    failure = .orchestratorAddress text ∧ ∀ address, ¬ Writes text address
  /-- An address that has been read is read again from its own text. -/
  again : ∀ address, ofText text = .ok address → ofText address.text = .ok address

/-- The addresses that are read are those that are written, and they are printed so that they can
be read again. -/
theorem readsAddress_ofText (text : String) : ReadsAddress text where
  accepts _ := ofText_eq_ok_iff_writes
  refuses failure := by
    simp only [← ofText_eq_ok_iff_writes]
    unfold ofText
    cases ofChars? text.toList with
    | some address => simp
    | none => simp [eq_comm]
  again address read := by
    obtain ⟨⟨_, _, _, _, _, host, _, _⟩, present⟩ := ofText_eq_ok_iff_writes.mp read
    exact ofText_eq_ok_iff_writes.mpr (writes_text host.tight present)

/-- A host with a colon and a blank inside, and a port with a sign and leading zeros. -/
example : ofText " one:two three\u3000:\t+00080 " = .ok ⟨"one:two three", 80⟩ := by
  decide +kernel

end OrchestratorAddress
end Network
end AgentCohort
