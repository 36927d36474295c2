import Switchboard.Address.Endpoint
import Switchboard.Fault.Network

/-!
# From names to endpoints

A resolver turns a host and a service into the endpoints to try, best first. A service is named by a
decimal port number, with an optional plus sign and any number of leading zeros, or by one of seven
well-known names in any case of ASCII letters. The resolver of the operating system reads addresses
itself and looks up every other name. The local end of an outbound connection is given by an address
and a port; leaving both open asks for no particular local end.
-/

namespace Switchboard

namespace Service

/-- The well-known names and their ports. -/
def wellKnown : List (String × Port) :=
  [("ftp", 21), ("ssh", 22), ("telnet", 23), ("smtp", 25), ("domain", 53), ("http", 80),
   ("https", 443)]

/-- A text with its ASCII capital letters made small. -/
def lowered (s : String) : String := String.ofList (s.toList.map Char.toLower)

/-- The port a service name stands for. -/
def port? (service : String) : Option Port :=
  match Numeral.unsigned? 65535 service.toList with
  | some n => some (UInt16.ofNat n)
  | none => wellKnown.lookup (lowered service)

end Service

/-- Turns a host and a service into the endpoints to try, best first. -/
abbrev Resolver := String → String → Except SystemError (List Endpoint)

/-- Looks up the addresses of a host that is not an address itself. -/
abbrev NameLookup := String → Except SystemError (List IpAddress)

namespace Resolver

/-- The addresses of a host: the one it denotes, or else those that the lookup finds. -/
def addresses (lookup : NameLookup) (host : String) : Except SystemError (List IpAddress) :=
  match IpAddress.ofString? host with
  | some ip => .ok [ip]
  | none => lookup host

/-- The resolver of the operating system. -/
def system (lookup : NameLookup) : Resolver := fun host service =>
  match Service.port? service with
  | none => .error (.described .invalidInput ("unknown service '" ++ service ++ "'"))
  | some port =>
    match addresses lookup host with
    | .error e => .error e
    | .ok [] => .error (.described .notFound ("no addresses found for '" ++ host ++ "'"))
    | .ok (ip :: ips) => .ok ((ip :: ips).map fun ip => ⟨ip, port⟩)

end Resolver

/-- The local end to bind before connecting, if one is asked for. An empty address is the
unspecified one. -/
def bindEndpoint (ip : String) (port : Port) : Except NetworkError (Option Endpoint) :=
  let address := if ip.isEmpty then some (IpAddress.v4 0) else IpAddress.ofString? ip
  match address with
  | none => .error (.config ("invalid bind address '" ++ ip ++ "'"))
  | some address =>
    if address.isUnspecified ∧ port = 0 then .ok none else .ok (some ⟨address, port⟩)

end Switchboard
