import Switchboard.Config.Load
import Switchboard.Proxy.CommandLine
import Switchboard.Proxy.Forwarder
import Switchboard.Tcp.Manager
import Switchboard.Text.Invisible

/-!
# The forwarding program

The program takes its configuration from a file, or else the defaults, puts the command line over
it, and has the manager's connections close in the forwarder's closing time. It then needs an
address for its metrics if they are wanted, at least one port, a deadline that can be told, and a
manager that starts. Once it listens it goes on until it is told to stop, which always ends well.
-/

namespace Switchboard.Proxy

/-- Why the program does not come to listen. -/
inductive Failure where
  /-- The command line is not followed. -/
  | commandLine (source : CommandLineError)
  /-- The configuration is refused. -/
  | config (source : ConfigError)
  /-- The address for metrics is no address with a port. -/
  | metricsAddress
  /-- Metrics cannot be served on their address. -/
  | metricsListener (source : SystemError)
  /-- There is no port to listen on. -/
  | noPort
  /-- The deadline for clients is too long to be told. -/
  | deadline
  /-- The manager does not start. -/
  | manager (source : NetworkError)
  /-- The manager breaks down while it starts. -/
  | breakdown
  deriving DecidableEq, Repr

namespace Failure

/-- The exit status of the program. -/
def status : Failure → Nat
  | commandLine e => e.status
  | deadline | breakdown => 101
  | _ => 1

/-- What a missing port says. -/
def noPortMessage : String := "no listen port configured (use --listen-port or tcp.ports)"

/-- What a deadline that is too long says. -/
def deadlineMessage : String := "overflow when multiplying duration by scalar"

/-- The word by which the program reports a failure, if it reports it; a missing port is reported by
its message in quotes. -/
def word? : Failure → Option String
  | commandLine _ | deadline | breakdown => none
  | config (.unreadable _) => some "Io"
  | config (.invalid _) => some "Validation"
  | config .malformed | config (.misfit _) => some "Parse"
  | metricsAddress => some "AddrParseError"
  | metricsListener _ => some "FailedToCreateHTTPListener"
  | noPort => some (Text.quoted noPortMessage)
  | manager e => some e.name

end Failure

/-- The program while it listens. -/
structure Running where
  /-- The configuration in force. -/
  config : Config
  /-- The forwarder. -/
  forwarder : Forwarder
  /-- The manager. -/
  manager : Tcp.Manager
  /-- The host with the sockets that are bound. -/
  host : Host

namespace Running

/-- The configuration in force: the file's or the default one under the command line, with the
closing time of the forwarder. -/
def configFor (files : Files) (line : CommandLine) : Except ConfigError Config := do
  let config ← match line.config with
    | some path => Config.load files path
    | none => .ok {}
  let config := line.apply config
  return { config with tcp := { config.tcp with closeLingerSecs := config.proxy.closeLingerSecs } }

/-- Binds the port that metrics are served on. -/
def serveMetrics (host : Host) : Option String → Except Failure Host
  | none => .ok host
  | some address =>
    match Endpoint.ofString? address with
    | none => .error .metricsAddress
    | some endpoint =>
      match host.bind .stream endpoint true with
      | (.ok _, host) => .ok host
      | (.error e, _) => .error (.metricsListener e)

/-- Comes to listen with a configuration. -/
def listen (files : Files) (host : Host) (config : Config) : Except Failure Running := do
  let host ← serveMetrics host config.observability.metricsAddress
  if config.tcp.ports.isEmpty then throw .noPort
  match Forwarder.ofConfig? config with
  | none => throw .deadline
  | some forwarder =>
    match ({} : Tcp.Manager).init (.onHost files) config.tcp host with
    | (.error (.refused e), _, _, _) => throw (.manager e)
    | (.error .breakdown, _, _, _) => throw .breakdown
    | (.ok (), manager, host, _) =>
      return { config, forwarder := { forwarder with attached := true }, manager, host }

/-- Comes to listen as the command line says. -/
def start (files : Files) (host : Host) (words : List String) : Except Failure Running := do
  match CommandLine.read words with
  | .error e => throw (.commandLine e)
  | .ok line =>
    match configFor files line with
    | .error e => throw (.config e)
    | .ok config => listen files host config

end Running

end Switchboard.Proxy
