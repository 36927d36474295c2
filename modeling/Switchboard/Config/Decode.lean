import Switchboard.Config.Schema
import Switchboard.Text.Invisible
import Switchboard.Toml.Node

/-!
# Settings from documents

A section of settings is a table. Keys that no setting has are passed over, settings that no key
names keep their defaults, and the first key in the order of the document whose value does not fit
its setting is reported. An array in place of a table gives the settings in their declared order,
and a date in place of a table gives none.
-/

namespace Switchboard

/-- The ways in which a value does not fit its setting. -/
inductive MisfitError where
  /-- A value of another kind. -/
  | wrongKind (found expected : String)
  /-- A number out of range. -/
  | outOfRange (value : Int) (expected : String)
  /-- A choice that does not exist. -/
  | unknownChoice (name : String)
  /-- A value that cannot be a choice. -/
  | noChoice
  /-- A table with a number of keys other than one in place of a choice. -/
  | choiceCount (none : Bool)
  /-- A choice with something other than an empty table. -/
  | choiceContent (message : String)
  deriving DecidableEq, Repr

namespace MisfitError

/-- What a misfit says. -/
def message : MisfitError → String
  | wrongKind found expected => "invalid type: " ++ found ++ ", expected " ++ expected
  | outOfRange value expected =>
    "invalid value: integer `" ++ Numeral.signed value ++ "`, expected " ++ expected
  | unknownChoice name => "unknown variant `" ++ name ++ "`, expected `all` or `any`"
  | noChoice => "wanted string or table"
  | choiceCount true => "wanted exactly 1 element, found 0 elements"
  | choiceCount false => "wanted exactly 1 element, more than 1 element"
  | choiceContent m => m

end MisfitError

namespace Config.Decode

open Toml

/-- The result of fitting a value. -/
abbrev Fit := Except MisfitError

/-- What a value is, for messages. -/
def found : Node → String
  | .string s => "string " ++ Text.quoted s
  | .integer n => "integer `" ++ Numeral.signed n ++ "`"
  | .float x => "floating point `" ++ x.print ++ "`"
  | .boolean b => "boolean `" ++ (if b then "true" else "false") ++ "`"
  | .datetime _ => "map"
  | .array _ => "sequence"
  | .table _ _ => "map"
  | .tables _ => "sequence"

/-- A whole number from 0 to `max`. -/
def natural (expected : String) (max : Nat) : Node → Fit Nat
  | .integer n => if 0 ≤ n ∧ n ≤ max then .ok n.toNat else .error (.outOfRange n expected)
  | node => .error (.wrongKind (found node) expected)

/-- A size of something in memory. -/
def size : Node → Fit Nat := natural "usize" (UInt64.size - 1)

/-- A number of seconds. -/
def seconds : Node → Fit Nat := natural "u64" (UInt64.size - 1)

/-- A port. -/
def port (node : Node) : Fit Port := UInt16.ofNat <$> natural "u16" 65535 node

/-- A truth value. -/
def boolean : Node → Fit Bool
  | .boolean b => .ok b
  | node => .error (.wrongKind (found node) "a boolean")

/-- A text. -/
def text : Node → Fit String
  | .string s => .ok s
  | node => .error (.wrongKind (found node) "a string")

/-- A list. -/
def list {α : Type} (item : Node → Fit α) : Node → Fit (List α)
  | .array items => items.mapM item
  | .tables items => (items.map (Node.table .headed)).mapM item
  | node => .error (.wrongKind (found node) "a sequence")

/-- The choice of a name. -/
def choice (name : String) : Fit PortPolicy :=
  if name = "all" then .ok .all
  else if name = "any" then .ok .any
  else .error (.unknownChoice name)

/-- What may stand behind a choice that is written as a key: an empty table or array. -/
def choiceContent : Node → Fit Unit
  | .tables items =>
    if items.isEmpty then .ok () else .error (.choiceContent "expected empty array")
  | .array items => if items.isEmpty then .ok () else .error (.choiceContent "expected empty table")
  | .table _ entries =>
    if entries.isEmpty then .ok () else .error (.choiceContent "expected empty table")
  | .string _ => .error (.choiceContent "expected table, found string")
  | .integer _ => .error (.choiceContent "expected table, found integer")
  | .float _ => .error (.choiceContent "expected table, found float")
  | .boolean _ => .error (.choiceContent "expected table, found boolean")
  | .datetime _ => .error (.choiceContent "expected table, found datetime")

/-- What to do with several ports. -/
def policy : Node → Fit PortPolicy
  | .string s => choice s
  | .table _ [(name, content)] => do
    let chosen ← choice name
    choiceContent content
    return chosen
  | .table _ [] => .error (.choiceCount true)
  | .table _ _ => .error (.choiceCount false)
  | _ => .error .noChoice

/-- A section of settings: its name, its settings in declared order, and how a key sets one. -/
structure Shape (σ : Type) where
  /-- The name of the section, for messages. -/
  name : String
  /-- The settings in declared order. -/
  fields : List String
  /-- Sets one setting; keys of no setting change nothing. -/
  set : String → Node → σ → Fit σ

/-- Sets the settings of keys, one after the other. -/
def Shape.setAll {σ : Type} (shape : Shape σ) (start : σ) (entries : Entries) : Fit σ :=
  entries.foldlM (fun s (k, n) => shape.set k n s) start

/-- Reads a section whose settings start out as `start`. -/
def Shape.read {σ : Type} (shape : Shape σ) (start : σ) : Node → Fit σ
  | .table _ entries => shape.setAll start entries
  | .array items => shape.setAll start (shape.fields.zip items)
  | .tables items => shape.setAll start (shape.fields.zip (items.map (Node.table .headed)))
  | .datetime _ => .ok start
  | node => .error (.wrongKind (found node) ("struct " ++ shape.name))

/-- The settings of a certificate. -/
def certificate : Shape Certificate where
  name := "Certificate"
  fields := ["pass_file_not_buffer", "cert", "key", "dh", "password", "ca"]
  set
    | "pass_file_not_buffer", n, c => do return { c with fromFiles := ← boolean n }
    | "cert", n, c => do return { c with cert := some (← text n) }
    | "key", n, c => do return { c with key := some (← text n) }
    | "dh", n, c => do return { c with dh := some (← text n) }
    | "password", n, c => do return { c with password := some (← text n) }
    | "ca", n, c => do return { c with ca := some (← text n) }
    | _, _, c => .ok c

/-- The settings of the stream manager. -/
def tcp : Shape TcpConfig where
  name := "TcpManagerConfig"
  fields := ["thread_count", "bind_host", "ports", "port_policy", "recv_chunk_size",
    "connect_timeout_secs", "max_connections", "close_linger_secs", "server_certificate",
    "client_certificate", "require_tls"]
  set
    | "thread_count", n, c => do return { c with threadCount := ← size n }
    | "bind_host", n, c => do return { c with bindHost := ← text n }
    | "ports", n, c => do return { c with ports := ← list port n }
    | "port_policy", n, c => do return { c with portPolicy := ← policy n }
    | "recv_chunk_size", n, c => do return { c with chunkSize := ← size n }
    | "connect_timeout_secs", n, c => do return { c with connectTimeoutSecs := ← seconds n }
    | "max_connections", n, c => do return { c with maxConnections := ← size n }
    | "close_linger_secs", n, c => do return { c with closeLingerSecs := ← seconds n }
    | "server_certificate", n, c => do
      return { c with serverCertificate := some (← certificate.read {} n) }
    | "client_certificate", n, c => do
      return { c with clientCertificate := some (← certificate.read {} n) }
    | "require_tls", n, c => do return { c with requireTls := ← boolean n }
    | _, _, c => .ok c

/-- The settings of the datagram manager. -/
def udp : Shape UdpConfig where
  name := "UdpManagerConfig"
  fields := ["thread_count", "bind_host", "ports", "port_policy", "max_datagram_size"]
  set
    | "thread_count", n, c => do return { c with threadCount := ← size n }
    | "bind_host", n, c => do return { c with bindHost := ← text n }
    | "ports", n, c => do return { c with ports := ← list port n }
    | "port_policy", n, c => do return { c with portPolicy := ← policy n }
    | "max_datagram_size", n, c => do return { c with maxDatagramSize := ← size n }
    | _, _, c => .ok c

/-- The settings of the forwarding program. -/
def proxy : Shape ProxyConfig where
  name := "ProxyConfig"
  fields := ["target_host", "target_port", "max_pending_bytes", "close_linger_secs"]
  set
    | "target_host", n, c => do return { c with targetHost := ← text n }
    | "target_port", n, c => do return { c with targetPort := ← port n }
    | "max_pending_bytes", n, c => do return { c with maxPendingBytes := ← size n }
    | "close_linger_secs", n, c => do return { c with closeLingerSecs := ← seconds n }
    | _, _, c => .ok c

/-- The settings of logs and metrics. -/
def observability : Shape ObservabilityConfig where
  name := "ObservabilityConfig"
  fields := ["log_level", "metrics_address"]
  set
    | "log_level", n, c => do return { c with logLevel := ← text n }
    | "metrics_address", n, c => do return { c with metricsAddress := some (← text n) }
    | _, _, c => .ok c

/-- All settings. -/
def config : Shape Config where
  name := "NetloomConfig"
  fields := ["tcp", "udp", "proxy", "observability"]
  set
    | "tcp", n, c => do return { c with tcp := ← tcp.read {} n }
    | "udp", n, c => do return { c with udp := ← udp.read {} n }
    | "proxy", n, c => do return { c with proxy := ← proxy.read {} n }
    | "observability", n, c => do return { c with observability := ← observability.read {} n }
    | _, _, c => .ok c

end Config.Decode

end Switchboard
