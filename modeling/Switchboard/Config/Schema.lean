import Switchboard.Address.Endpoint
import Switchboard.Connect.Timeout

/-!
# Configuration

What can be set about the two managers, the forwarding program and its logs, with the value each
setting has if nothing is said about it. Times are in seconds, and 0 stands for none.
-/

namespace Switchboard

/-- Certificates, keys and trust anchors for one side of encrypted connections. The texts are names
of files or the contents themselves. -/
structure Certificate where
  /-- Whether the texts are names of files. -/
  fromFiles : Bool := true
  /-- The chain of certificates, the own one first. -/
  cert : Option String := none
  /-- The private key, not encrypted. -/
  key : Option String := none
  /-- Key exchange parameters; accepted and not used. -/
  dh : Option String := none
  /-- A password for the key; accepted and not used. -/
  password : Option String := none
  /-- The anchors that the peer's certificate must lead to. -/
  ca : Option String := none
  deriving DecidableEq, Repr

namespace Certificate

/-- A certificate and its key, given by the names of their files. -/
def ofFiles (cert key : String) : Certificate := { cert := some cert, key := some key }

/-- Trust anchors and nothing else. -/
def trustOnly (ca : String) (fromFiles : Bool) : Certificate := { fromFiles, ca := some ca }

end Certificate

/-- What to do with several ports. -/
inductive PortPolicy where
  /-- Every port must open. -/
  | all
  /-- The first port that opens is enough. -/
  | any
  deriving DecidableEq, Repr

/-- The settings of the stream manager. -/
structure TcpConfig where
  /-- How many event loops run. -/
  threadCount : Nat := 5
  /-- The address that listeners open on. -/
  bindHost : String := "0.0.0.0"
  /-- The ports that listeners open on. -/
  ports : List Port := []
  /-- What to do with several ports. -/
  portPolicy : PortPolicy := .all
  /-- How many bytes each read asks for. -/
  chunkSize : Nat := 512
  /-- The time for an attempt to connect and for a handshake. -/
  connectTimeoutSecs : Nat := 10
  /-- How many accepted connections there may be at a time. -/
  maxConnections : Nat := 10000
  /-- How long a closing connection goes on sending what is queued. -/
  closeLingerSecs : Nat := 0
  /-- Encrypts accepted connections. -/
  serverCertificate : Option Certificate := none
  /-- Encrypts outbound connections. -/
  clientCertificate : Option Certificate := none
  /-- Whether a certificate that cannot be loaded keeps the manager from starting. -/
  requireTls : Bool := false
  deriving DecidableEq, Repr

namespace TcpConfig

/-- The default settings on the given ports. -/
def withPorts (ports : List Port) : TcpConfig := { ports }

/-- The time for an attempt to connect, if it is limited. -/
def connectTimeout (c : TcpConfig) : Option Nat := seconds? c.connectTimeoutSecs

/-- The time that a closing connection may go on sending, if there is any. -/
def closeLinger (c : TcpConfig) : Option Nat := seconds? c.closeLingerSecs

end TcpConfig

/-- The settings of the datagram manager. -/
structure UdpConfig where
  /-- How many event loops run. -/
  threadCount : Nat := 5
  /-- The address that acceptors open on. -/
  bindHost : String := "0.0.0.0"
  /-- The ports that acceptors open on. -/
  ports : List Port := []
  /-- What to do with several ports. -/
  portPolicy : PortPolicy := .all
  /-- How long a received datagram may be; longer ones are cut. -/
  maxDatagramSize : Nat := 1500
  deriving DecidableEq, Repr

/-- The default settings on the given ports. -/
def UdpConfig.withPorts (ports : List Port) : UdpConfig := { ports }

/-- The settings of the forwarding program. -/
structure ProxyConfig where
  /-- The host that connections are forwarded to. -/
  targetHost : String := "127.0.0.1"
  /-- The port that connections are forwarded to. -/
  targetPort : Port := 8080
  /-- How many bytes of a client are held while its target is not there yet. -/
  maxPendingBytes : Nat := 1048576
  /-- Replaces the closing time of the stream manager. -/
  closeLingerSecs : Nat := 5
  deriving DecidableEq, Repr

/-- The settings of logs and metrics. -/
structure ObservabilityConfig where
  /-- What is logged. -/
  logLevel : String := "info"
  /-- Where metrics are served, if anywhere. -/
  metricsAddress : Option String := none
  deriving DecidableEq, Repr

/-- All settings. -/
structure Config where
  /-- The stream manager. -/
  tcp : TcpConfig := {}
  /-- The datagram manager. -/
  udp : UdpConfig := {}
  /-- The forwarding program. -/
  proxy : ProxyConfig := {}
  /-- Logs and metrics. -/
  observability : ObservabilityConfig := {}
  deriving DecidableEq, Repr

end Switchboard
