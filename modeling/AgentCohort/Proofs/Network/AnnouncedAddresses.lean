import AgentCohort.Agent.Blueprint
import AgentCohort.Proofs.Network.AddressReading
import AgentCohort.Proofs.Text.Trimming

/-!
# Announced addresses

The address that an agent announces is resolved to the address that it listens on, and no name
server is asked: it is printed in a form that is read as an address, and blanks around it do not
count.  Bindings are told apart by their texts, since the port stands after the last colon and
brackets stand around addresses of version 6 only.
-/

namespace AgentCohort
namespace Network

open Text (AllBlank Tight isBlank)

namespace IpAddress

/-! ## The characters of a printed address -/

/-- A character that stands in no address. -/
def IsForeign (c : Char) : Prop :=
  isBlank c = true ∨ c = '['

theorem not_isForeign_of_mem_toDigits
    {base n : Nat}
    {c : Char}
    (twoDigits : 1 < base)
    (fits : base ≤ 16)
    (present : c ∈ Nat.toDigits base n) :
    ¬ IsForeign c := by
  obtain ⟨printed, -, -, open_⟩ := Text.plain_of_mem_toDigits twoDigits fits present
  rintro (blank | bracket)
  · rw [printed] at blank
    cases blank
  · exact open_ bracket

theorem not_isForeign_of_mem_bytesText
    {a b c d : UInt8}
    {mark : Char}
    (present : mark ∈ bytesText a b c d) :
    ¬ IsForeign mark := by
  have digit {n : Nat} : mark ∈ decimal n → ¬ IsForeign mark :=
    not_isForeign_of_mem_toDigits (by decide) (by decide)
  have point : mark = '.' → ¬ IsForeign mark := by
    rintro rfl
    simp [IsForeign, show isBlank '.' = false by decide]
  simp only [bytesText, List.mem_append, List.mem_cons, or_assoc] at present
  rcases present with first | mark | second | mark | third | mark | fourth
  · exact digit first
  · exact point mark
  · exact digit second
  · exact point mark
  · exact digit third
  · exact point mark
  · exact digit fourth

theorem not_isForeign_colon : ¬ IsForeign ':' := by
  simp [IsForeign, show isBlank ':' = false by decide]

theorem not_isForeign_of_mem_groupsText
    {groups : List UInt16}
    {c : Char}
    (present : c ∈ groupsText groups) :
    ¬ IsForeign c := by
  cases groups with
  | nil => cases present
  | cons group groups =>
      have digit {group : UInt16} : c ∈ hexadecimal group → ¬ IsForeign c :=
        not_isForeign_of_mem_toDigits (by decide) (by decide)
      rw [groupsText_cons, List.mem_append, furtherText, List.mem_flatMap] at present
      rcases present with first | ⟨further, -, present⟩
      · exact digit first
      · rcases List.mem_cons.mp present with rfl | present
        · exact not_isForeign_colon
        · exact digit present

/-- There are neither blanks nor brackets in a printed address. -/
theorem not_isForeign_of_mem_toText
    {address : IpAddress}
    {c : Char}
    (present : c ∈ address.toText) :
    ¬ IsForeign c := by
  cases address with
  | v4 => exact not_isForeign_of_mem_bytesText present
  | v6 groups =>
      change c ∈ v6Text groups.toList at present
      unfold v6Text at present
      split at present
      · have none : ("::ffff:".toList.any fun mark => isBlank mark || mark = '[') = false := by
          decide
        rcases List.mem_append.mp present with mark | bytes
        · have known := List.any_eq_false.mp none c mark
          rwa [Bool.or_eq_true, decide_eq_true_iff] at known
        · exact not_isForeign_of_mem_bytesText bytes
      · dsimp only at present
        split at present
        · simp only [List.mem_append, List.mem_cons] at present
          rcases present with front | rfl | rfl | back
          · exact not_isForeign_of_mem_groupsText front
          · exact not_isForeign_colon
          · exact not_isForeign_colon
          · exact not_isForeign_of_mem_groupsText back
        · exact not_isForeign_of_mem_groupsText present

theorem tight_toText (address : IpAddress) : Tight address.toText :=
  .of_forall fun _ present =>
    Bool.eq_false_iff.mpr fun blank => not_isForeign_of_mem_toText present (.inl blank)

theorem toText_injective : Function.Injective toText := by
  intro one other same
  have read := ofText?_toText one
  rw [same, ofText?_toText] at read
  exact (Option.some.inj read).symm

theorem toList_toString (address : IpAddress) : (toString address).toList = address.toText :=
  String.toList_ofList

end IpAddress

namespace Binding

/-! ## Printed bindings -/

/-- An address in a binding, in square brackets if it is of version 6. -/
def hostText (ip : IpAddress) : List Char :=
  if ip.isV6 then '[' :: ip.toText ++ [']'] else ip.toText

theorem toList_text (binding : Binding) :
    binding.text.toList = hostText binding.ip ++ ':' :: Nat.toDigits 10 binding.port.toNat := by
  have port : (toString binding.port).toList = Nat.toDigits 10 binding.port.toNat :=
    String.toList_ofList
  unfold text hostText
  dsimp only
  rw [String.toList_append, String.toList_append, port, List.append_assoc]
  cases binding.ip.isV6 <;> simp [IpAddress.toList_toString]

theorem hostText_injective : Function.Injective hostText := by
  have apart {one other : IpAddress} (four : one.isV6 = false) (six : other.isV6 = true) :
      hostText one ≠ hostText other := by
    intro same
    simp only [hostText, four, six, Bool.false_eq_true, if_false, if_true] at same
    have bracket : '[' ∈ one.toText := same ▸ List.mem_cons_self
    exact IpAddress.not_isForeign_of_mem_toText bracket (.inr rfl)
  intro one other same
  cases oneV6 : one.isV6 <;> cases otherV6 : other.isV6
  · simp only [hostText, oneV6, otherV6, Bool.false_eq_true, if_false] at same
    exact IpAddress.toText_injective same
  · exact absurd same (apart oneV6 otherV6)
  · exact absurd same.symm (apart otherV6 oneV6)
  · simp only [hostText, oneV6, otherV6, if_true] at same
    exact IpAddress.toText_injective
      (List.append_cancel_right (List.cons.inj same).2)

/-- The text of a binding tells its address and its port. -/
theorem text_injective : Function.Injective text := by
  intro one other same
  have split (binding : Binding) : Text.splitLast? ':' binding.text.toList =
      some (hostText binding.ip, Nat.toDigits 10 binding.port.toNat) := by
    rw [toList_text]
    exact Text.splitLast?_append (fun colon =>
      (Text.plain_of_mem_toDigits (by decide) (by decide) colon).2.1 rfl) _
  have parts := split one
  rw [same, split other] at parts
  obtain ⟨host, port⟩ := Prod.mk.inj (Option.some.inj parts)
  have number := congrArg Numeral.valueOf port
  rw [Numeral.valueOf_toDigits, Numeral.valueOf_toDigits] at number
  cases one
  cases other
  obtain rfl := hostText_injective host
  obtain rfl := UInt16.toNat_inj.mp number
  rfl

/-! ## Resolved addresses -/

variable {left right : List Char}

/-- Blanks around a printed address do not change what it is resolved to. -/
theorem resolveHost_toText
    (resolver : Resolver)
    (blankLeft : AllBlank left)
    (blankRight : AllBlank right)
    (ip : IpAddress) :
    resolveHost resolver (String.ofList (left ++ ip.toText ++ right)) = .ok ip := by
  unfold resolveHost
  rw [String.toList_ofList, Text.trim_append blankLeft ip.tight_toText blankRight]
  dsimp only
  rw [IpAddress.ofText?_toText]

/-- Addresses with certain blanks around them are resolved to what they were printed from, and
bindings have texts of their own. -/
structure ResolvesBack
    (resolver : Resolver)
    (primary : IpAddress)
    (left right : List Char) : Prop where
  /-- The text of an address is resolved to that address. -/
  printed : ∀ (ip : IpAddress) (port : UInt16),
    resolve resolver primary (some (String.ofList (left ++ (toString ip).toList ++ right))) port =
      .ok ⟨ip, port⟩
  /-- What an agent announces is resolved to the binding that it listens on. -/
  announced : ∀ blueprint : Agent.Blueprint,
    resolve resolver primary
        (some (String.ofList (left ++ blueprint.registration.address.toList ++ right)))
        blueprint.registration.port =
      .ok blueprint.binding
  /-- Bindings with the same text are the same. -/
  injective : ∀ one other : Binding, one.text = other.text → one = other

/-- Addresses are resolved to what they were printed from, whatever blanks stand around them and
whatever the resolver of the host would find. -/
theorem resolvesBack_of_allBlank
    (resolver : Resolver)
    (primary : IpAddress)
    (blankLeft : AllBlank left)
    (blankRight : AllBlank right) :
    ResolvesBack resolver primary left right := by
  have printed (ip : IpAddress) (port : UInt16) :
      resolve resolver primary (some (String.ofList (left ++ (toString ip).toList ++ right)))
        port = .ok ⟨ip, port⟩ := by
    rw [IpAddress.toList_toString, resolve, resolveHost_toText resolver blankLeft blankRight]
    rfl
  exact {
    printed := printed
    announced := fun blueprint => printed blueprint.binding.ip blueprint.binding.port
    injective := fun _ _ same => text_injective same }

/-- An address of version 6 that stands for one of version 4, between a tabulator and a wide
space. -/
theorem resolvesBack_mappedAddress :
    AllBlank ['\t'] ∧ AllBlank ['\u3000'] ∧
      resolve (fun _ => []) .loopback (some "\t::ffff:10.0.0.1\u3000") 9001 =
        .ok ⟨.v6 #v[0, 0, 0, 0, 0, 0xFFFF, 0xA00, 1], 9001⟩ := by
  have blankLeft : AllBlank ['\t'] := by simp [AllBlank]; decide
  have blankRight : AllBlank ['\u3000'] := by simp [AllBlank]; decide
  have back := (resolvesBack_of_allBlank (fun _ => []) .loopback blankLeft blankRight).printed
    (.v6 #v[0, 0, 0, 0, 0, 0xFFFF, 0xA00, 1]) 9001
  exact ⟨blankLeft, blankRight, back⟩

end Binding
end Network
end AgentCohort
