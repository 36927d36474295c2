import Switchboard.Fault.Network

/-!
# Names of servers

A client checks the server's certificate against the name it connected to. The name is an address,
or a host name of at most 253 letters, digits, hyphens and underscores in labels between dots. A
label has 1 to 63 characters and neither starts nor ends with a hyphen, the last one does not
consist of digits alone, and one dot may stand at the end.
-/

namespace Switchboard.Tls

/-- A name that a certificate can be checked against. -/
inductive ServerName where
  /-- A host name. -/
  | dns (name : String)
  /-- An address. -/
  | ip (address : IpAddress)
  deriving DecidableEq, Repr

namespace ServerName

/-- Whether a character may stand in a label. -/
def isLabelChar (c : Char) : Bool := c.isAlphanum || c = '-' || c = '_'

/-- Whether a text is a label. -/
def isLabel (label : List Char) : Bool :=
  !label.isEmpty && decide (label.length ≤ 63) && label.all isLabelChar &&
    label.head? != some '-' && label.getLast? != some '-'

/-- Whether a text is a host name. -/
def isHostName (name : List Char) : Bool :=
  let labels := Text.splitAt '.' name
  let labels := if labels.length > 1 ∧ labels.getLast? = some [] then labels.dropLast else labels
  decide (name.length ≤ 253) && labels.all isLabel &&
    labels.getLast?.any (fun last => !last.all Char.isDigit)

/-- The name a text stands for. -/
def ofString? (s : String) : Option ServerName :=
  match IpAddress.ofString? s with
  | some address => some (.ip address)
  | none => if isHostName s.toList then some (.dns s) else none

/-- The name that the certificate of a host is checked against. -/
def ofHost (host : String) : Except NetworkError ServerName :=
  match ofString? host with
  | some name => .ok name
  | none => .error (.tls ("invalid server name '" ++ host ++ "': invalid dns name"))

end ServerName

end Switchboard.Tls
