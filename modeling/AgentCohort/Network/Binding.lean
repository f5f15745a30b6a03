import AgentCohort.Failure
import AgentCohort.Network.IpAddress.Reader
import AgentCohort.Network.Resolver
import AgentCohort.Text.Blank

/-!
# Bindings

The address and port that an agent listens on.  A listen address is a literal address
or a name and is resolved once; without one the primary address of the host is taken.
-/

namespace AgentCohort
namespace Network

/-- An address together with a port. -/
structure Binding where
  /-- The address. -/
  ip : IpAddress
  /-- The port. -/
  port : UInt16
  deriving DecidableEq, Repr

namespace Binding

/-- The binding as `address:port`, an address of version 6 in square brackets. -/
def text (binding : Binding) : String :=
  let ip := toString binding.ip
  let host := if binding.ip.isV6 then "[" ++ ip ++ "]" else ip
  host ++ ":" ++ toString binding.port

/-- The address that a listen address stands for; blanks around it do not count.  A literal
address is not looked up, and neither is the empty name, which stands for none. -/
def resolveHost (resolver : Resolver) (address : String) : Except Failure IpAddress :=
  let host := Text.trim address.toList
  let found :=
    match IpAddress.ofText? host with
    | some ip => some ip
    | none => if host.isEmpty then none else resolver.address? (String.ofList host)
  match found with
  | some ip => .ok ip
  | none => .error (.listenAddress address)

/-- The binding for a listen address and a port, on a host with a resolver and a primary
address. -/
def resolve
    (resolver : Resolver)
    (primary : IpAddress)
    (address? : Option String)
    (port : UInt16) : Except Failure Binding :=
  match address? with
  | some address => (resolveHost resolver address).map fun ip => ⟨ip, port⟩
  | none => .ok ⟨primary, port⟩

end Binding
end Network
end AgentCohort
