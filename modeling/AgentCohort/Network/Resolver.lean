import AgentCohort.Network.IpAddress

/-!
# Resolvers

Which addresses a name stands for is up to the host: its resolver may ask a name server or look
into a file.  Of the addresses that it finds one is taken, if possible of version 4.
-/

namespace AgentCohort
namespace Network

/-- The addresses that a host finds for a name, in its order; none if it cannot tell. -/
abbrev Resolver : Type :=
  String → List IpAddress

namespace Resolver

/-- The address that is taken of those found: the first one of version 4, or else the first. -/
def preferred? (addresses : List IpAddress) : Option IpAddress :=
  (addresses.find? fun ip => !ip.isV6).or addresses.head?

/-- The address that is taken for a name. -/
def address? (resolver : Resolver) (name : String) : Option IpAddress :=
  preferred? (resolver name)

end Resolver
end Network
end AgentCohort
