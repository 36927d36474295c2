import Switchboard.Connection.Identity
import Switchboard.Table

/-!
# Measurements

Connections report what happens to them as measurements: that one was opened or closed, how many
bytes came in or went out, that an attempt to connect failed, that the number of datagram peers
changed. Each measurement moves one or two series of the exposition, and a series is shown from the
first measurement on that touches it.
-/

namespace Switchboard

/-- What a connection runs over. -/
inductive Carrier where
  | tcp
  | tls
  | udp
  deriving DecidableEq, Repr

/-- The name of a carrier. -/
def Carrier.name : Carrier → String
  | .tcp => "tcp"
  | .tls => "tls"
  | .udp => "udp"

/-- Where an attempt to connect failed. -/
inductive ConnectStage where
  | resolve
  | connect
  | handshake
  deriving DecidableEq, Repr

/-- The name of a stage. -/
def ConnectStage.name : ConnectStage → String
  | .resolve => "resolve"
  | .connect => "connect"
  | .handshake => "handshake"

/-- One report of something that happened. -/
inductive Measurement where
  /-- A connection was opened. -/
  | opened (carrier : Carrier) (direction : Direction)
  /-- A connection was closed. -/
  | closed (carrier : Carrier)
  /-- Bytes came in. -/
  | received (carrier : Carrier) (bytes : Nat)
  /-- Bytes went out. -/
  | sent (carrier : Carrier) (bytes : Nat)
  /-- An attempt to connect failed. -/
  | failure (carrier : Carrier) (stage : ConnectStage)
  /-- The number of datagram peers changed. -/
  | peers (change : Int)
  deriving DecidableEq, Repr

/-- The series of the exposition. -/
inductive Series where
  | opened (carrier : Carrier) (direction : Direction)
  | closed (carrier : Carrier)
  | active (carrier : Carrier)
  | received (carrier : Carrier)
  | sent (carrier : Carrier)
  | failures (carrier : Carrier) (stage : ConnectStage)
  | udpPeers
  deriving DecidableEq, Repr

namespace Series

/-- The family a series belongs to. -/
def family : Series → String
  | opened _ _ => "netloom_connections_opened_total"
  | closed _ => "netloom_connections_closed_total"
  | active _ => "netloom_active_connections"
  | received _ => "netloom_bytes_received_total"
  | sent _ => "netloom_bytes_sent_total"
  | failures _ _ => "netloom_connect_failures_total"
  | udpPeers => "netloom_udp_peers"

/-- Whether the series only ever grows. -/
def isCounter : Series → Bool
  | active _ | udpPeers => false
  | _ => true

/-- The labels of a series with their values. -/
def labels : Series → List (String × String)
  | opened c d => [("transport", c.name), ("direction", d.name)]
  | closed c | active c | received c | sent c => [("transport", c.name)]
  | failures c s => [("transport", c.name), ("stage", s.name)]
  | udpPeers => []

/-- The heading of the family of a series. -/
def heading (s : Series) : String :=
  "# TYPE " ++ s.family ++ (if s.isCounter then " counter" else " gauge")

/-- A series with its labels. -/
def print (s : Series) : String :=
  let shown := s.labels.map fun (k, v) => k ++ "=\"" ++ v ++ "\""
  if shown.isEmpty then s.family
  else s.family ++ "\x7b" ++ String.intercalate "," shown ++ "\x7d"

end Series

/-- The series that a measurement moves, and by how much. -/
def Measurement.changes : Measurement → List (Series × Int)
  | opened c d => [(.opened c d, 1), (.active c, 1)]
  | closed c => [(.closed c, 1), (.active c, -1)]
  | received c n => [(.received c, n)]
  | sent c n => [(.sent c, n)]
  | failure c s => [(.failures c s, 1)]
  | peers d => [(.udpPeers, d)]

/-- The values of all series touched so far. -/
structure Metrics where
  /-- The values by series. -/
  values : Table Series Int := []
  deriving DecidableEq, Repr

namespace Metrics

/-- The value of a series; untouched ones are at zero. -/
def value (m : Metrics) (s : Series) : Int := (m.values.get? s).getD 0

/-- Moves a series. -/
def add (m : Metrics) (change : Series × Int) : Metrics :=
  ⟨m.values.put change.1 (m.value change.1 + change.2)⟩

/-- Takes a measurement in. -/
def record (m : Metrics) (measurement : Measurement) : Metrics :=
  measurement.changes.foldl add m

/-- Takes measurements in, one after the other. -/
def recordAll (m : Metrics) (measurements : List Measurement) : Metrics :=
  measurements.foldl record m

/-- The exposition: a heading for each family and a line for each series, sorted. -/
def lines (m : Metrics) : List String :=
  let headings := (m.values.map fun p => p.1.heading).eraseDups
  let samples := m.values.map fun p => p.1.print ++ " " ++ Numeral.signed p.2
  (headings ++ samples).mergeSort fun a b => decide (a ≤ b)

/-- A series holds the sum of all changes made to it. -/
theorem value_add (m : Metrics) (s s' : Series) (d : Int) :
    (m.add (s, d)).value s' = m.value s' + if s' = s then d else 0 := by
  by_cases h : s' = s
  · subst h
    simp [add, value, Table.get?_put]
  · simp [add, value, Table.get?_put, h]

end Metrics

end Switchboard
