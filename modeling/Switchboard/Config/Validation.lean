import Switchboard.Config.Schema

/-!
# Acceptable settings

A configuration is accepted if none of a fixed list of rules is violated. Every violated rule is
reported, in the order of the list, by the setting it is about and a message.
-/

namespace Switchboard

/-- A violated rule. -/
structure Violation where
  /-- The setting. -/
  field : String
  /-- What is wrong with it. -/
  message : String
  deriving DecidableEq, Repr

namespace Violation

/-- The text of one violation. -/
def print (v : Violation) : String := v.field ++ ": " ++ v.message

/-- Violations on one line. -/
def describe (vs : List Violation) : String := String.intercalate ", " (vs.map print)

/-- The report of a rule, if it is broken. -/
def reportIf (broken : Bool) (field message : String) : List Violation :=
  if broken then [⟨field, message⟩] else []

end Violation

/-- The largest payload of a datagram. -/
def maxDatagramPayload : Nat := 65507

namespace Config

/-- The message of rules about numbers that must not be zero. -/
def notZero : String := "must be greater than zero"

/-- The rules that both managers share. -/
def violationsOfLoops (part : String) (threadCount : Nat) (bindHost : String) : List Violation :=
  Violation.reportIf (threadCount == 0) (part ++ ".thread_count") notZero ++
  Violation.reportIf (IpAddress.ofString? bindHost).isNone (part ++ ".bind_host")
    ("'" ++ bindHost ++ "' is not an IP address")

/-- The rules of a certificate for accepted connections. -/
def violationsOfServer (field : String) (c : Certificate) : List Violation :=
  Violation.reportIf c.cert.isNone field "cert is required" ++
  Violation.reportIf c.key.isNone field "key is required"

/-- The rules of a certificate for outbound connections. -/
def violationsOfClient (field : String) (c : Certificate) : List Violation :=
  match c.cert, c.key with
  | some _, none => [⟨field, "cert given without key"⟩]
  | none, some _ => [⟨field, "key given without cert"⟩]
  | none, none => Violation.reportIf c.ca.isNone field "needs ca or cert and key"
  | some _, some _ => []

end Config

/-- The violated rules of the stream manager's settings. -/
def TcpConfig.violations (c : TcpConfig) : List Violation :=
  Config.violationsOfLoops "tcp" c.threadCount c.bindHost ++
  Violation.reportIf (c.chunkSize == 0) "tcp.recv_chunk_size" Config.notZero ++
  Violation.reportIf (c.maxConnections == 0) "tcp.max_connections" Config.notZero ++
  (match c.serverCertificate with
    | some cert => Config.violationsOfServer "tcp.server_certificate" cert
    | none => []) ++
  (match c.clientCertificate with
    | some cert => Config.violationsOfClient "tcp.client_certificate" cert
    | none => [])

/-- The violated rules of the datagram manager's settings. -/
def UdpConfig.violations (c : UdpConfig) : List Violation :=
  Config.violationsOfLoops "udp" c.threadCount c.bindHost ++
  Violation.reportIf (c.maxDatagramSize == 0 || decide (c.maxDatagramSize > maxDatagramPayload))
    "udp.max_datagram_size" ("must be between 1 and " ++ Numeral.decimal maxDatagramPayload)

/-- The violated rules of the forwarding program's settings. -/
def ProxyConfig.violations (c : ProxyConfig) : List Violation :=
  Violation.reportIf c.targetHost.isEmpty "proxy.target_host" "must not be empty" ++
  Violation.reportIf (c.maxPendingBytes == 0) "proxy.max_pending_bytes" Config.notZero

/-- The violated rules of a configuration. -/
def Config.violations (c : Config) : List Violation :=
  c.tcp.violations ++ c.udp.violations ++ c.proxy.violations

end Switchboard
