import AgentCohort.Proofs.Network.OrchestratorText

/-!
# Base URLs

The host of an orchestrator goes into the base URL as it is.  The authority of that URL is the
host and the port that were read if and only if what stands before the last colon of the text is
the host of a URL.  Nothing checks this when the address is read, so an address with a scheme in
front of it is taken, and its URL leads somewhere else.
-/

namespace AgentCohort
namespace Network

namespace Url

open Text (isBlank splitLast?)

/-- What stands in front of an authority. -/
def scheme : List Char :=
  "http://".toList

/-- Whether a character ends an authority. -/
def endsAuthority (c : Char) : Bool :=
  c = '/' || c = '?' || c = '#'

/-- The authority of a URL. -/
def authority (url : String) : List Char :=
  (url.toList.drop scheme.length).takeWhile fun c => !endsAuthority c

/-- The parts of an authority. -/
structure Authority where
  /-- The user, who stands before the last `@`. -/
  user? : Option (List Char)
  /-- The host: a name, or an address in square brackets. -/
  host : List Char
  /-- The port, which stands after a colon. -/
  port? : Option (List Char)
  deriving DecidableEq

/-- The host at the front of a text and what comes after it.  A name ends at the first colon, an
address in brackets with its bracket, and brackets stand nowhere else. -/
def readHost (cs : List Char) : Option (List Char × List Char) :=
  match cs with
  | '[' :: rest =>
    let inner := rest.takeWhile (· ≠ ']')
    match rest.dropWhile (· ≠ ']') with
    | ']' :: after => if '[' ∈ inner then none else some ('[' :: inner ++ [']'], after)
    | _ => none
  | _ =>
    let name := cs.takeWhile (· ≠ ':')
    if '[' ∈ name ∨ ']' ∈ name then none else some (name, cs.dropWhile (· ≠ ':'))

/-- The port at the end of an authority, which need not have one. -/
def readPort (cs : List Char) : Option (Option (List Char)) :=
  match cs with
  | [] => some none
  | ':' :: port => if port.all Numeral.isDigit then some (some port) else none
  | _ => none

/-- The host and the port of an authority, if they are well formed. -/
def readServer (user? : Option (List Char)) (cs : List Char) : Option Authority :=
  (readHost cs).bind fun (host, after) =>
    (readPort after).map fun port? => ⟨user?, host, port?⟩

/-- The parts of an authority, if it is well formed. -/
def readAuthority (cs : List Char) : Option Authority :=
  match splitLast? '@' cs with
  | some (user, rest) => readServer (some user) rest
  | none => readServer none cs

/-- A text in one pair of square brackets. -/
def Bracketed (cs : List Char) : Prop :=
  ∃ inner, cs = '[' :: inner ++ [']'] ∧ '[' ∉ inner ∧ ']' ∉ inner

/-- A text without colons and square brackets. -/
def IsName (cs : List Char) : Prop :=
  ':' ∉ cs ∧ '[' ∉ cs ∧ ']' ∉ cs

/-- A URL whose authority consists of a host and a port. -/
structure LeadsTo (url : String) (host : List Char) (port : UInt16) : Prop where
  /-- It is a URL of its scheme. -/
  scheme : Url.scheme <+: url.toList
  /-- Its authority is the host, a colon and the port. -/
  authority : Url.authority url = host ++ ':' :: Nat.toDigits 10 port.toNat
  /-- It is taken apart into the host and the port. -/
  parts : readAuthority (Url.authority url) = some ⟨none, host, some (Nat.toDigits 10 port.toNat)⟩
  /-- It names no user. -/
  userless : '@' ∉ Url.authority url
  /-- It holds no blanks. -/
  printed : ∀ c ∈ Url.authority url, isBlank c = false
  /-- The host holds colons only in one pair of brackets. -/
  bracketed : ':' ∈ host → Bracketed host

/-- What a URL may have as its host. -/
structure IsHost (cs : List Char) : Prop where
  /-- It holds nothing that ends the authority. -/
  inside : ∀ c ∈ cs, endsAuthority c = false
  /-- It holds nothing that ends the name of a user. -/
  userless : '@' ∉ cs
  /-- It holds no blanks. -/
  printed : ∀ c ∈ cs, isBlank c = false
  /-- It is a name, or something in brackets. -/
  shape : IsName cs ∨ Bracketed cs

variable {cs host after : List Char}

/-- A text is taken off up to the first mark that it does not hold. -/
theorem takeWhile_ne_append
    {mark : Char}
    {front : List Char}
    (absent : mark ∉ front)
    (rest : List Char) :
    (front ++ mark :: rest).takeWhile (· ≠ mark) = front ∧
      (front ++ mark :: rest).dropWhile (· ≠ mark) = mark :: rest := by
  have others : ∀ c ∈ front, decide (c ≠ mark) = true := by
    intro c present
    exact decide_eq_true fun same => absent (same ▸ present)
  rw [List.takeWhile_append_of_pos others, List.dropWhile_append_of_pos others]
  simp

theorem not_mem_takeWhile_ne (mark : Char) (cs : List Char) :
    mark ∉ cs.takeWhile (· ≠ mark) := by
  intro present
  have other : decide (mark ≠ mark) = true := List.mem_takeWhile_imp (p := (· ≠ mark)) present
  exact of_decide_eq_true other rfl

/-- A host that is taken off is a name or stands in brackets. -/
theorem shape_of_readHost (read : readHost cs = some (host, after)) :
    IsName host ∨ Bracketed host := by
  unfold readHost at read
  split at read
  · dsimp only at read
    split at read
    · simp only [Option.ite_none_left_eq_some, Option.some.injEq, Prod.mk.injEq] at read
      obtain ⟨opened, rfl, rfl⟩ := read
      exact .inr ⟨_, rfl, opened, not_mem_takeWhile_ne ']' _⟩
    · cases read
  · simp only [Option.ite_none_left_eq_some, Option.some.injEq, Prod.mk.injEq, not_or] at read
    obtain ⟨unbracketed, rfl, rfl⟩ := read
    exact .inl ⟨not_mem_takeWhile_ne ':' cs, unbracketed⟩

/-- A name or something in brackets is taken off up to the colon that follows. -/
theorem readHost_append (shape : IsName host ∨ Bracketed host) (port : List Char) :
    readHost (host ++ ':' :: port) = some (host, ':' :: port) := by
  rcases shape with ⟨colonless, opened, closed⟩ | ⟨inner, rfl, opened, closed⟩
  · obtain ⟨taken, dropped⟩ := takeWhile_ne_append colonless port
    unfold readHost
    split
    · rename_i rest first
      exfalso
      cases host with
      | nil => cases first
      | cons c host =>
          obtain ⟨rfl, -⟩ := List.cons.inj first
          exact opened List.mem_cons_self
    · rw [taken, dropped, if_neg (not_or.mpr ⟨opened, closed⟩)]
  · obtain ⟨taken, dropped⟩ := takeWhile_ne_append closed (':' :: port)
    have joined : '[' :: inner ++ [']'] ++ ':' :: port = '[' :: (inner ++ ']' :: ':' :: port) := by
      simp
    rw [joined, readHost]
    simp only [taken, dropped, if_neg opened]

theorem readPort_digits (n : Nat) :
    readPort (':' :: Nat.toDigits 10 n) = some (some (Nat.toDigits 10 n)) :=
  if_pos (List.all_eq_true.mpr fun _ => Numeral.isDigit_of_mem_toDigits)

theorem readAuthority_of_userless (userless : '@' ∉ cs) :
    readAuthority cs = readServer none cs := by
  unfold readAuthority
  rw [Text.splitLast?_eq_none_iff.mpr userless]

/-- An authority without a user that is taken apart has a host in its place. -/
theorem shape_of_readServer
    {user? port? : Option (List Char)}
    (read : readServer user? cs = some ⟨user?, host, port?⟩) :
    IsName host ∨ Bracketed host := by
  obtain ⟨⟨found, after⟩, front, rest⟩ := Option.bind_eq_some_iff.mp read
  obtain ⟨_, -, same⟩ := Option.map_eq_some_iff.mp rest
  rw [← (Authority.mk.inj same).2.1]
  exact shape_of_readHost front

theorem readServer_append (shape : IsName host ∨ Bracketed host) (n : Nat) :
    readServer none (host ++ ':' :: Nat.toDigits 10 n) =
      some ⟨none, host, some (Nat.toDigits 10 n)⟩ := by
  unfold readServer
  rw [readHost_append shape, Option.bind_some]
  dsimp only
  rw [readPort_digits]
  rfl

end Url

namespace OrchestratorAddress

open Text (Surrounds isBlank)
open Url (endsAuthority scheme)

theorem toList_baseUrl (address : OrchestratorAddress) :
    address.baseUrl.toList =
      scheme ++ (address.host.toList ++ ':' :: Nat.toDigits 10 address.port.toNat) := by
  unfold baseUrl
  rw [String.toList_append, toList_text]
  rfl

theorem authority_baseUrl (address : OrchestratorAddress) :
    Url.authority address.baseUrl =
      (address.host.toList ++ ':' :: Nat.toDigits 10 address.port.toNat).takeWhile
        fun c => !endsAuthority c := by
  unfold Url.authority
  rw [toList_baseUrl, List.drop_left]

/-- A port belongs into an authority. -/
theorem mem_port {c : Char} {n : Nat} (present : c ∈ ':' :: Nat.toDigits 10 n) :
    endsAuthority c = false ∧ c ≠ '@' ∧ isBlank c = false := by
  rcases List.mem_cons.mp present with rfl | digit
  · decide
  · have known : ∀ digit < 10, endsAuthority (Nat.digitChar digit) = false ∧
        Nat.digitChar digit ≠ '@' ∧ isBlank (Nat.digitChar digit) = false := by
      decide
    exact Text.forall_mem_toDigits (fun c => endsAuthority c = false ∧ c ≠ '@' ∧ isBlank c = false)
      (by decide) known c digit

/-- The authority is the host and the port exactly if the host does not end it. -/
theorem authority_baseUrl_eq_iff (address : OrchestratorAddress) :
    Url.authority address.baseUrl =
        address.host.toList ++ ':' :: Nat.toDigits 10 address.port.toNat ↔
      ∀ c ∈ address.host.toList, endsAuthority c = false := by
  rw [authority_baseUrl, List.takeWhile_eq_self_iff]
  simp only [Bool.not_eq_true', List.mem_append]
  constructor
  · exact fun inside c present => inside c (.inl present)
  · intro inside c present
    exact present.elim (inside c) fun port => (mem_port port).1

/-- A base URL leads to the host and the port that it is made of if and only if the host is one of
a URL. -/
theorem leadsTo_baseUrl_iff (address : OrchestratorAddress) :
    Url.LeadsTo address.baseUrl address.host.toList address.port ↔
      Url.IsHost address.host.toList := by
  constructor
  · rintro ⟨-, authority, parts, userless, printed, -⟩
    have inside := (authority_baseUrl_eq_iff address).mp authority
    rw [Url.readAuthority_of_userless userless] at parts
    rw [authority] at userless printed
    exact ⟨inside, fun present => userless (List.mem_append_left _ present),
      fun c present => printed c (List.mem_append_left _ present), Url.shape_of_readServer parts⟩
  · rintro ⟨inside, userless, printed, shape⟩
    have authority := (authority_baseUrl_eq_iff address).mpr inside
    have whole : '@' ∉ Url.authority address.baseUrl := by
      rw [authority, List.mem_append]
      exact not_or.mpr ⟨userless, fun port => (mem_port port).2.1 rfl⟩
    refine ⟨⟨_, (toList_baseUrl address).symm⟩, authority, ?_, whole, ?_, ?_⟩
    · rw [Url.readAuthority_of_userless whole, authority, Url.readServer_append shape]
    · intro c present
      rw [authority, List.mem_append] at present
      exact present.elim (printed c) fun port => (mem_port port).2.2
    · exact fun colon => shape.resolve_left fun name => name.1 colon

/-- The URL of an address that has been read leads to its host and port if and only if the text
has the host of a URL before its last colon. -/
theorem leadsTo_baseUrl_of_ofText
    {text : String}
    {address : OrchestratorAddress}
    (read : ofText text = .ok address) :
    ∃ before after, text.toList = before ++ ':' :: after ∧ ':' ∉ after ∧
      Surrounds before address.host.toList ∧
      (Url.LeadsTo address.baseUrl address.host.toList address.port ↔
        Url.IsHost (Text.trim before)) := by
  obtain ⟨⟨before, after, _, split, last, host, _, _⟩, _⟩ := ofText_eq_ok_iff_writes.mp read
  refine ⟨before, after, split, last, host, ?_⟩
  rw [Text.trim_eq_iff.mpr host]
  exact leadsTo_baseUrl_iff address

/-- An address of version 6 in its brackets. -/
theorem leadsTo_baseUrl_bracketed :
    ofText "[::1]:9000" = .ok ⟨"[::1]", 9000⟩ ∧
      Url.LeadsTo "http://[::1]:9000" "[::1]".toList 9000 := by
  have read : ofText "[::1]:9000" = .ok ⟨"[::1]", 9000⟩ := by decide +kernel
  obtain ⟨before, after, split, last, host, leads⟩ := leadsTo_baseUrl_of_ofText read
  have ends : "[::1]".toList.any endsAuthority = false := by decide
  have blank : "[::1]".toList.any isBlank = false := by decide
  refine ⟨read, leads.mpr ?_⟩
  rw [Text.trim_eq_iff.mpr host]
  exact ⟨fun c present => Bool.eq_false_iff.mpr (List.any_eq_false.mp ends c present), by decide,
    fun c present => Bool.eq_false_iff.mpr (List.any_eq_false.mp blank c present),
    .inr ⟨"::1".toList, by decide, by decide, by decide⟩⟩

/-- An address with a scheme in front of it is read, but its URL leads to the name of the scheme. -/
theorem not_leadsTo_baseUrl_withScheme :
    ofText "http://localhost:9000" = .ok ⟨"http://localhost", 9000⟩ ∧
      Url.authority (baseUrl ⟨"http://localhost", 9000⟩) = "http:".toList ∧
      ¬ Url.LeadsTo (baseUrl ⟨"http://localhost", 9000⟩) "http://localhost".toList 9000 := by
  refine ⟨by decide +kernel, by decide +kernel, fun leads => ?_⟩
  have host := (leadsTo_baseUrl_iff ⟨"http://localhost", 9000⟩).mp leads
  exact absurd (host.inside '/' (by decide)) (by decide)

end OrchestratorAddress
end Network
end AgentCohort
