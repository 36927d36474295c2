import Switchboard.Config.Decode
import Switchboard.Connection.Note
import Switchboard.Tcp.Manager
import Switchboard.Udp.Manager

/-!
# Managers on a host

A script drives a manager on a host of its own. It speaks of ports by name, so that what it sees
does not depend on the numbers the host gives out: a port is free, or held by somebody, or set
aside, or one that the manager has opened. What the manager tells its service is kept until the
script asks for it.
-/

namespace Switchboard.Simulation

/-- What a script calls a port. -/
inductive PortName where
  /-- A number. -/
  | number (port : Port)
  /-- Any free port. -/
  | free
  /-- A port that a plain socket holds. -/
  | busy (name : String)
  /-- A port that was free when it was first named. -/
  | fixed (name : String)
  /-- A port that nobody ever holds. -/
  | dead (name : String)
  /-- The port of a socket of the script's own. -/
  | local_ (name : String)
  /-- A port that the manager opened, counted from 0. -/
  | own (index : Nat)
  deriving DecidableEq, Repr

namespace PortName

/-- The text of a name. -/
def print : PortName → String
  | number p => Numeral.decimal p.toNat
  | free => "free"
  | busy n => "busy:" ++ n
  | fixed n => "fixed:" ++ n
  | dead n => "dead:" ++ n
  | local_ n => "local:" ++ n
  | own i => "self:" ++ Numeral.decimal i

/-- The name that a text stands for. -/
def ofString? (s : String) : Option PortName :=
  if s = "free" then some free
  else
    match s.toList.span (· != ':') with
    | (_, []) => none
    | (kind, _ :: rest) =>
      let name := String.ofList rest
      match String.ofList kind with
      | "busy" => some (busy name)
      | "fixed" => some (fixed name)
      | "dead" => some (dead name)
      | "local" => some (local_ name)
      | "self" => (Numeral.value? 10 rest).map own
      | _ => none

end PortName

/-- A manager on a host. -/
structure Stage (μ : Type) where
  /-- The kind of the manager's sockets. -/
  kind : SocketKind
  /-- The manager. -/
  manager : μ
  /-- The host. -/
  host : Host := {}
  /-- The ports that were named. -/
  names : Table PortName Port := []
  /-- What the service was told and the script has not asked for, oldest first. -/
  told : List Callback := []

namespace Stage

variable {μ : Type}

/-- The address that scripts use. -/
def loopback : IpAddress := .v4 0x7f000001

/-- Binds a plain socket to any port and names it. -/
def hold (s : Stage μ) (name : PortName) : Port × Stage μ :=
  match s.host.bind s.kind ⟨loopback, 0⟩ false with
  | (.ok port, host) => (port, { s with host, names := s.names.put name port })
  | (.error _, host) => (0, { s with host })

/-- Sets a fresh port aside and names it. -/
def setAside (s : Stage μ) (name : PortName) : Port × Stage μ :=
  let (port, host) := s.host.freshPort
  (port, { s with host, names := s.names.put name port })

/-- The port that a name stands for, given the ports that the manager has opened. -/
def port? (s : Stage μ) (opened : List Port) (name : PortName) : Option Port × Stage μ :=
  match name with
  | .number p => (some p, s)
  | .free => (some 0, s)
  | .own i => (opened[i]?, s)
  | .local_ _ => (s.names.get? name, s)
  | .busy _ | .fixed _ | .dead _ =>
    match s.names.get? name, name with
    | some p, _ => (some p, s)
    | none, .busy _ =>
      let (p, s) := s.hold name
      (some p, s)
    | none, _ =>
      let (p, s) := s.setAside name
      (some p, s)

/-- Lets go of a named port. -/
def releasePort (s : Stage μ) (name : PortName) : Stage μ :=
  match s.names.get? name with
  | some p => { s with host := s.host.release s.kind p }
  | none => s

/-- The names of ports, given those that the manager has opened. -/
def named (s : Stage μ) (opened : List Port) : List (PortName × Port) :=
  s.names ++ (opened.zipIdx.map fun (p, i) => (PortName.own i, p))

/-- What a script calls a port. -/
def nameOf (s : Stage μ) (opened : List Port) (port : Port) : String :=
  match (s.named opened).find? fun n => n.2 == port with
  | some (name, _) => name.print
  | none => "ephemeral"

/-- A message with named ports in place of their numbers. -/
def rename (s : Stage μ) (opened : List Port) (message : String) : String :=
  (s.named opened).foldl
    (fun text (name, port) =>
      text.replace (":" ++ Numeral.decimal port.toNat) (":<" ++ name.print ++ ">"))
    message

/-- Keeps what the service was told. -/
def tell (s : Stage μ) (notes : List Note) : Stage μ :=
  { s with told := s.told ++ Note.callbacks notes }

/-- Hands out the oldest things that the service was told, at most so many. -/
def ask (s : Stage μ) (count : Nat) : List Callback × Stage μ :=
  (s.told.take count, { s with told := s.told.drop count })

end Stage

/-- The resolver of a script: it finds an address at some ports, or fails. -/
def scriptedResolver (ports : List Port) (failure : Option SystemError) : Resolver := fun _ _ =>
  match failure with
  | some e => .error e
  | none => .ok (ports.map fun p => ⟨Stage.loopback, p⟩)

/-- A stream manager on a host. -/
abbrev StreamStage := Stage Tcp.Manager

namespace StreamStage

/-- Starts the manager. -/
def init (s : StreamStage) (files : Files) (config : TcpConfig) :
    Except Tcp.Setback Unit × StreamStage :=
  let before := s.manager.listeners
  let (answer, manager, host, notes) := s.manager.init (.onHost files) config s.host
  let opened := (manager.serving.drop s.manager.serving.length) ++ before
  let host := manager.releasePorts opened host
  (answer, ({ s with manager, host } : StreamStage).tell notes)

/-- Stops the manager. -/
def exit (s : StreamStage) : StreamStage :=
  let manager := s.manager.exit
  { s with manager, host := manager.releasePorts s.manager.listeners s.host }

/-- Asks for an outbound connection. -/
def create (s : StreamStage) (resolver : Resolver) (request : Connect.Request) :
    Except NetworkError Unit × StreamStage :=
  let (outcome, manager) :=
    s.manager.createConnection (.onHost s.host resolver) .first request
  (outcome.answer, ({ s with manager } : StreamStage).tell outcome.notes)

end StreamStage

/-- A datagram manager on a host. -/
abbrev DatagramStage := Stage Udp.Manager

namespace DatagramStage

/-- Starts the manager. -/
def init (s : DatagramStage) (config : UdpConfig) : Except NetworkError Unit × DatagramStage :=
  let before := s.manager.acceptors
  let (answer, manager, host, notes) := s.manager.init .onHost config s.host
  let opened := (manager.serving.drop s.manager.serving.length) ++ before
  let host := manager.releasePorts (opened.map fun a => { a with stopAsked := false }) host
  (answer, ({ s with manager, host } : DatagramStage).tell notes)

/-- Stops the manager. -/
def exit (s : DatagramStage) : DatagramStage :=
  let manager := s.manager.exit
  { s with manager, host := manager.releasePorts s.manager.acceptors s.host }

/-- Asks for an outbound connection. -/
def create (s : DatagramStage) (resolver : Resolver) (request : Connect.Request) :
    Except NetworkError Unit × DatagramStage :=
  let (outcome, manager) :=
    s.manager.createConnection (.onHost s.host resolver) .first request
  (outcome.answer, ({ s with manager } : DatagramStage).tell outcome.notes)

end DatagramStage

/-- Why the start of a manager in a script has no answer. -/
inductive Mishap where
  /-- The settings cannot be read. -/
  | misfit (source : MisfitError)
  /-- The start breaks down. -/
  | breakdown
  deriving DecidableEq, Repr

/-- What is said of it. -/
def Mishap.message : Mishap → String
  | misfit e => e.message
  | breakdown => Tcp.Gate.tooManyPermits

/-- A manager as a script sees it. -/
structure Controls (μ : Type) where
  /-- The stage before anything has happened. -/
  stage : Stage μ
  /-- The ports that were opened. -/
  opened : μ → List Port
  /-- Whether the manager runs. -/
  running : μ → Bool
  /-- How many loops there are. -/
  threads : μ → Nat
  /-- Starts the manager with settings, and ports to open. -/
  init : Stage μ → Toml.Node → List Port →
    Except Mishap (Except NetworkError Unit × Stage μ)
  /-- Stops the manager. -/
  exit : Stage μ → Stage μ
  /-- Asks for an outbound connection. -/
  create : Stage μ → Resolver → Connect.Request → Except NetworkError Unit × Stage μ

/-- The number of loops that scripts start unless they say otherwise. -/
def scriptThreads : Nat := 2

/-- A stream manager with some files. -/
def streamControls (files : Files) : Controls Tcp.Manager where
  stage := { kind := .stream, manager := {} }
  opened m := m.ports
  running m := m.isRunning
  threads m := m.threadCount
  init s settings ports := do
    let start := { threadCount := scriptThreads, bindHost := Stage.loopback.print }
    let config ← (Config.Decode.tcp.read start settings).mapError .misfit
    match StreamStage.init s files { config with ports } with
    | (.ok (), s) => return (.ok (), s)
    | (.error (.refused e), s) => return (.error e, s)
    | (.error .breakdown, _) => throw .breakdown
  exit := StreamStage.exit
  create := StreamStage.create

/-- A datagram manager. -/
def datagramControls : Controls Udp.Manager where
  stage := { kind := .datagram, manager := {} }
  opened m := m.ports
  running m := m.isRunning
  threads m := m.threadCount
  init s settings ports := do
    let start := { threadCount := scriptThreads, bindHost := Stage.loopback.print }
    let config ← (Config.Decode.udp.read start settings).mapError .misfit
    return DatagramStage.init s { config with ports }
  exit := DatagramStage.exit
  create := DatagramStage.create

end Switchboard.Simulation
