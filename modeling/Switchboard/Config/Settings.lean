import Switchboard.Config.Schema

/-!
# Settings by name

A configuration as a tree of named values, every setting under the name by which documents give it.
Settings that are not given are there as absent ones.
-/

namespace Switchboard

/-- The value of a setting, or the settings of a part. -/
inductive SettingValue where
  /-- The setting is not given. -/
  | absent
  | flag (value : Bool)
  | number (value : Nat)
  | text (value : String)
  | numbers (values : List Nat)
  /-- Settings by name. -/
  | part (settings : List (String × SettingValue))
  deriving Repr

namespace SettingValue

/-- A text that may be absent. -/
def ofText? : Option String → SettingValue
  | some s => text s
  | none => absent

end SettingValue

open SettingValue

/-- The settings of a certificate. -/
def Certificate.settings (c : Certificate) : SettingValue :=
  part [("pass_file_not_buffer", flag c.fromFiles), ("cert", ofText? c.cert),
    ("key", ofText? c.key), ("dh", ofText? c.dh), ("password", ofText? c.password),
    ("ca", ofText? c.ca)]

/-- The name of a port policy. -/
def PortPolicy.name : PortPolicy → String
  | .all => "all"
  | .any => "any"

/-- The settings that both managers have. -/
def managerSettings (threadCount : Nat) (bindHost : String) (ports : List Port)
    (policy : PortPolicy) : List (String × SettingValue) :=
  [("thread_count", number threadCount), ("bind_host", text bindHost),
   ("ports", numbers (ports.map UInt16.toNat)), ("port_policy", text policy.name)]

/-- The settings of the stream manager. -/
def TcpConfig.settings (c : TcpConfig) : SettingValue :=
  let certificate (c : Option Certificate) := (c.map Certificate.settings).getD absent
  part (managerSettings c.threadCount c.bindHost c.ports c.portPolicy ++
    [("recv_chunk_size", number c.chunkSize), ("connect_timeout_secs", number c.connectTimeoutSecs),
     ("max_connections", number c.maxConnections), ("close_linger_secs", number c.closeLingerSecs),
     ("server_certificate", certificate c.serverCertificate),
     ("client_certificate", certificate c.clientCertificate), ("require_tls", flag c.requireTls)])

/-- The settings of the datagram manager. -/
def UdpConfig.settings (c : UdpConfig) : SettingValue :=
  part (managerSettings c.threadCount c.bindHost c.ports c.portPolicy ++
    [("max_datagram_size", number c.maxDatagramSize)])

/-- The settings of the forwarding program. -/
def ProxyConfig.settings (c : ProxyConfig) : SettingValue :=
  part [("target_host", text c.targetHost), ("target_port", number c.targetPort.toNat),
    ("max_pending_bytes", number c.maxPendingBytes),
    ("close_linger_secs", number c.closeLingerSecs)]

/-- The settings of logs and metrics. -/
def ObservabilityConfig.settings (c : ObservabilityConfig) : SettingValue :=
  part [("log_level", text c.logLevel), ("metrics_address", ofText? c.metricsAddress)]

/-- All settings. -/
def Config.settings (c : Config) : SettingValue :=
  part [("tcp", c.tcp.settings), ("udp", c.udp.settings), ("proxy", c.proxy.settings),
    ("observability", c.observability.settings)]

end Switchboard
