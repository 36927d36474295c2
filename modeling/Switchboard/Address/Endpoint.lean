import Switchboard.Address.Ip

/-!
# Endpoints

An endpoint is an address and a port. Its text is the address and the port with a colon between;
an address of the second family stands in brackets.
-/

namespace Switchboard

/-- A port number; 0 asks the system for a free one. -/
abbrev Port := UInt16

/-- A port number from its decimal digits, leading zeros allowed. -/
def Port.ofDigits? (cs : List Char) : Option Port :=
  ((Numeral.value? 10 cs).filter (· ≤ 65535)).map UInt16.ofNat

/-- An address and a port. -/
structure Endpoint where
  /-- The address. -/
  ip : IpAddress
  /-- The port. -/
  port : Port
  deriving DecidableEq, Repr

namespace Endpoint

/-- An endpoint of the first family comes before one of the second; then the address decides, then
the port. -/
def before (a b : Endpoint) : Bool :=
  a.ip.rank < b.ip.rank || (a.ip.rank == b.ip.rank && a.port < b.port)

/-- The endpoint on any address and any port in the family of `e`. -/
def unspecifiedFor (e : Endpoint) : Endpoint := ⟨e.ip.unspecifiedLike, 0⟩

/-- The text of an endpoint. -/
def print (e : Endpoint) : String :=
  let host := if e.ip.isV4 then e.ip.print else "[" ++ e.ip.print ++ "]"
  host ++ ":" ++ Numeral.decimal e.port.toNat

/-- The endpoint a text stands for. -/
def ofString? (s : String) : Option Endpoint := do
  let (host, port) ← Text.cutLast? ':' s.toList
  let port ← Port.ofDigits? port
  match host with
  | '[' :: inner => do
    let n ← match inner.reverse with
      | ']' :: digits => IpAddress.readV6? digits.reverse
      | _ => none
    return ⟨.v6 (BitVec.ofNat 128 n), port⟩
  | _ => do
    let n ← IpAddress.readV4? host
    return ⟨.v4 (BitVec.ofNat 32 n), port⟩

end Endpoint

end Switchboard
