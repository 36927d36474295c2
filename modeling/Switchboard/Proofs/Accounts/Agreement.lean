import Switchboard.Proofs.Accounts.Processes

/-!
# The accounts of a process agree

The books of a process are three mechanisms that know nothing of each other: a tracker for each
manager, the counters and gauges of the carriers, and the gauge of datagram peers.  A census of the
tasks says what each of them amounts to, in numbers of drivers and of registered endpoints.

While a service is told of the end of a connection, that connection is off the gauges and still in
the tracker.  Apart from these moments the tracker, the gauges and the counters all say how many
connections there are (`Process.accounts_agree`).
-/

namespace Switchboard

/-! ### What is there -/

/-- The driver of an accepted connection, once it has one. -/
def Tcp.Arrival.driver? (a : Tcp.Arrival) : Option TcpDriver :=
  match a.stage with
  | .driven d => some d
  | _ => none

/-- The drivers of the connections that a gate let in. -/
def Tcp.Gate.drivers (g : Tcp.Gate) : List TcpDriver :=
  g.arrivals.filterMap fun p => p.2.driver?

/-- A gate counts for its drivers. -/
lemma Tcp.Gate.census_eq_total (g : Tcp.Gate) (k : Account) :
    g.census k = Account.total TcpDriver.census g.drivers k := by
  rw [census, Account.totalOf, drivers]
  induction g.arrivals with
  | nil => rfl
  | cons p rest ih =>
    obtain ⟨n, port, loop, _ | _ | d⟩ := p <;>
      simp [Tcp.Arrival.census, Tcp.Arrival.driver?, ih]

namespace Task

/-- The drivers of stream connections that a task is made of. -/
def streams : Task → List TcpDriver
  | gate g => g.drivers
  | stream d => [d]
  | _ => []

/-- The acceptor that a task may be. -/
def acceptors : Task → List Acceptor
  | acceptor a => [a]
  | _ => []

/-- The driver of an outbound datagram connection that a task may be. -/
def datagrams : Task → List UdpDriver
  | datagram d => [d]
  | _ => []

end Task

namespace Process

/-- The drivers of stream connections. -/
def streams (x : Process) : List TcpDriver := x.tasks.flatMap Task.streams

/-- The acceptors. -/
def acceptors (x : Process) : List Acceptor := x.tasks.flatMap Task.acceptors

/-- The drivers of outbound datagram connections. -/
def datagrams (x : Process) : List UdpDriver := x.tasks.flatMap Task.datagrams

/-- The stream manager counts for its drivers. -/
lemma census_stream (x : Process) (k : Account) :
    x.census .stream k = Account.total TcpDriver.census x.streams k := by
  rw [census, streams]
  induction x.tasks with
  | nil => rfl
  | cons t rest ih =>
    rw [Account.total_cons, List.flatMap_cons, Account.total_append, ih]
    congr 1
    cases t with
    | gate g => exact g.census_eq_total k
    | stream d => exact (Int.add_zero _).symm
    | acceptor a => rfl
    | datagram d => rfl

/-- The datagram manager counts for its acceptors and its drivers. -/
lemma census_datagram (x : Process) (k : Account) :
    x.census .datagram k = Account.total Acceptor.census x.acceptors k +
      Account.total UdpDriver.census x.datagrams k := by
  rw [census, acceptors, datagrams]
  induction x.tasks with
  | nil => rfl
  | cons t rest ih =>
    simp only [Account.total_cons, List.flatMap_cons, Account.total_append, ih]
    cases t <;> simp [Task.side, Task.census, Task.acceptors, Task.datagrams] <;> omega

/-- How many endpoints are registered with the acceptors. -/
def peers (x : Process) : Nat := (x.acceptors.map fun a => a.peers.length).sum

/-- How many endpoints are registered no more while the service is told of their end. -/
def dismissals (x : Process) : Nat := x.acceptors.countP fun a => a.phase.isClosing

/-- How many drivers of stream connections are not done. -/
def liveStreams (x : Process) : Nat := x.streams.countP fun d => d.phase ≠ .done

/-- How many drivers of outbound datagram connections are not done. -/
def liveDatagrams (x : Process) : Nat := x.datagrams.countP fun d => d.phase ≠ .done

/-- How many connections over a carrier have not come to their announced end. -/
def running (x : Process) (c : Carrier) : Nat :=
  x.streams.countP (fun d => d.carrier = c ∧ d.phase.isOver = false) +
    if c = .udp then x.peers + x.datagrams.countP (fun d => d.phase.isOver = false) else 0

/-- How many connections over a carrier there are: drivers that are not done and registered
endpoints. -/
def live (x : Process) (c : Carrier) : Nat :=
  x.streams.countP (fun d => d.carrier = c ∧ d.phase ≠ .done) +
    if c = .udp then x.peers + x.liveDatagrams else 0

/-- No service is just being told of an end. -/
structure AtRest (x : Process) : Prop where
  /-- No driver of a stream connection tells of its end. -/
  streams : ∀ d ∈ x.streams, d.phase ≠ .closing
  /-- No acceptor tells of the end of a connection. -/
  acceptors : ∀ a ∈ x.acceptors, a.phase.isClosing = false
  /-- No driver of an outbound datagram connection tells of its end. -/
  datagrams : ∀ d ∈ x.datagrams, d.phase ≠ .closing

/-- Every connection has closed. -/
structure Deserted (x : Process) : Prop where
  /-- The drivers of stream connections are done. -/
  streams : ∀ d ∈ x.streams, d.phase = .done
  /-- The acceptors have no endpoint registered, and tell of no end. -/
  acceptors : ∀ a ∈ x.acceptors, a.peers = [] ∧ a.phase.isClosing = false
  /-- The drivers of outbound datagram connections are done. -/
  datagrams : ∀ d ∈ x.datagrams, d.phase = .done

variable {x : Process}

/-- Where everybody has gone no service is being told of it. -/
lemma Deserted.atRest (h : x.Deserted) : x.AtRest where
  streams d hd hclosing := by
    rw [h.streams d hd] at hclosing
    cases hclosing
  acceptors a ha := (h.acceptors a ha).2
  datagrams d hd hclosing := by
    rw [h.datagrams d hd] at hclosing
    cases hclosing

/-- Where no service is being told of an end the connections that run are those there are. -/
lemma AtRest.running_eq_live (h : x.AtRest) (c : Carrier) : x.running c = x.live c := by
  have hstream : ∀ d ∈ x.streams, (d.phase.isOver = false ↔ d.phase ≠ .done) := by
    intro d hd
    have hnot := h.streams d hd
    cases hphase : d.phase <;> simp_all [TcpPhase.isOver]
  have hdatagram : ∀ d ∈ x.datagrams, (d.phase.isOver = false ↔ d.phase ≠ .done) := by
    intro d hd
    have hnot := h.datagrams d hd
    cases hphase : d.phase <;> simp_all [UdpPhase.isOver]
  have hstreams : x.streams.countP (fun d => d.carrier = c ∧ d.phase.isOver = false) =
      x.streams.countP fun d => d.carrier = c ∧ d.phase ≠ .done :=
    List.countP_congr fun d hd => by simp [hstream d hd]
  have hdatagrams : x.datagrams.countP (fun d => d.phase.isOver = false) = x.liveDatagrams :=
    List.countP_congr fun d hd => by simp [hdatagram d hd]
  rw [running, live, hstreams, hdatagrams]

/-- Where everybody has gone nobody is there. -/
lemma Deserted.counts (h : x.Deserted) :
    x.liveStreams = 0 ∧ x.liveDatagrams = 0 ∧ x.peers = 0 ∧ ∀ c, x.running c = 0 := by
  have hstreams : x.liveStreams = 0 := List.countP_eq_zero.mpr fun d hd => by simp [h.streams d hd]
  have hdatagrams : x.liveDatagrams = 0 :=
    List.countP_eq_zero.mpr fun d hd => by simp [h.datagrams d hd]
  have hpeers : x.peers = 0 := by
    refine List.sum_eq_zero fun n hn => ?_
    obtain ⟨a, ha, rfl⟩ := List.mem_map.mp hn
    rw [(h.acceptors a ha).1, List.length_nil]
  refine ⟨hstreams, hdatagrams, hpeers, fun c => ?_⟩
  have hcarrier : x.streams.countP (fun d => d.carrier = c ∧ d.phase ≠ .done) = 0 :=
    List.countP_eq_zero.mpr fun d hd => by simp [h.streams d hd]
  rw [h.atRest.running_eq_live, live, hcarrier, hpeers, hdatagrams, ite_self]

/-! ### Agreement -/

variable (x)

/-- What the acceptors count for. -/
lemma total_acceptors (k : Account) : Account.total Acceptor.census x.acceptors k =
    match k with
    | .live => x.peers + x.dismissals
    | .running c => if c = .udp then x.peers else 0
    | .peers => x.peers := by
  rw [peers, dismissals]
  induction x.acceptors with
  | nil => cases k <;> simp
  | cons a rest ih =>
    rw [Account.total_cons, ih]
    cases k with
    | live =>
      simp only [Acceptor.census, List.map_cons, List.sum_cons, List.countP_cons]
      split <;> omega
    | running c =>
      simp only [Acceptor.census, List.map_cons, List.sum_cons]
      split <;> omega
    | peers =>
      simp only [Acceptor.census, List.map_cons, List.sum_cons]
      omega

/-- The stream manager counts the drivers that are not done. -/
lemma census_stream_live : x.census .stream .live = x.liveStreams := by
  rw [census_stream]
  refine Account.total_eq_countP _ _ fun d _ => ?_
  by_cases hdone : d.phase = .done <;> simp [TcpDriver.census, hdone]

/-- The datagram manager counts its endpoints, those that are being dismissed, and the drivers that
are not done. -/
lemma census_datagram_live :
    x.census .datagram .live = x.peers + x.dismissals + x.liveDatagrams := by
  have hdrivers : Account.total UdpDriver.census x.datagrams .live = x.liveDatagrams := by
    refine Account.total_eq_countP _ _ fun d _ => ?_
    by_cases hdone : d.phase = .done <;> simp [UdpDriver.census, hdone]
  rw [census_datagram, total_acceptors, hdrivers]

/-- Both managers together count the connections over a carrier that run. -/
lemma census_running (c : Carrier) :
    x.census .stream (.running c) + x.census .datagram (.running c) = x.running c := by
  have hstreams : x.census .stream (.running c) =
      x.streams.countP fun d => d.carrier = c ∧ d.phase.isOver = false := by
    rw [census_stream]
    exact Account.total_eq_countP _ _ fun d _ => by simp [TcpDriver.census]
  have hdatagrams : Account.total UdpDriver.census x.datagrams (.running c) =
      if c = .udp then (x.datagrams.countP fun d => d.phase.isOver = false : Nat) else 0 := by
    split
    · rename_i hc
      exact Account.total_eq_countP _ _ fun d _ => by simp [UdpDriver.census, hc]
    · rename_i hc
      exact Account.total_eq_zero fun d _ => by simp [UdpDriver.census, hc]
  rw [hstreams, census_datagram, total_acceptors, hdatagrams, running]
  by_cases hc : c = .udp <;> simp [hc]

/-- Both managers together count the registered endpoints. -/
lemma census_peers : x.census .stream .peers + x.census .datagram .peers = x.peers := by
  have hstreams : x.census .stream .peers = 0 := by
    rw [census_stream]
    exact Account.total_eq_zero fun _ _ => rfl
  have hdatagrams : Account.total UdpDriver.census x.datagrams .peers = 0 :=
    Account.total_eq_zero fun _ _ => rfl
  rw [hstreams, census_datagram, total_acceptors, hdatagrams, Int.zero_add, Int.add_zero]

/-- What it means that the books of a process agree with what is there. -/
structure Agrees (b : Books) : Prop where
  /-- The stream manager reports the drivers that are not done. -/
  streams : b.active .stream = x.liveStreams
  /-- The datagram manager reports the registered endpoints and the drivers that are not done; an
  endpoint stays counted while the service is told of its end. -/
  datagrams : b.active .datagram = x.peers + x.dismissals + x.liveDatagrams
  /-- The gauge of a carrier is what was opened less what was closed. -/
  counters : ∀ c, b.metrics.value (.active c) = b.metrics.value (.opened c .active) +
    b.metrics.value (.opened c .passive) - b.metrics.value (.closed c)
  /-- It shows the connections that have not come to their announced end. -/
  running : ∀ c, b.metrics.value (.active c) = x.running c
  /-- The gauge of peers shows the registered endpoints. -/
  peers : b.metrics.value .udpPeers = x.peers
  /-- Unless a service is just being told of an end, the datagram manager reports the endpoints and
  the drivers, and the gauges show the connections that are there. -/
  atRest : x.AtRest → b.active .datagram = x.peers + x.liveDatagrams ∧
    ∀ c, b.metrics.value (.active c) = x.live c
  /-- Once every connection has closed nothing is left in the books. -/
  deserted : x.Deserted → (∀ side, b.active side = 0) ∧ b.metrics.value .udpPeers = 0 ∧
    ∀ c, b.metrics.value (.active c) = 0 ∧ b.metrics.value (.opened c .active) +
      b.metrics.value (.opened c .passive) = b.metrics.value (.closed c)

variable {x}

/-- Where no service is being told of an end no endpoint is being dismissed. -/
lemma AtRest.dismissals (h : x.AtRest) : x.dismissals = 0 :=
  List.countP_eq_zero.mpr fun a ha => by simp [h.acceptors a ha]

/-- A process that keeps its accounts agrees with its books. -/
lemma Kept.agrees {history : List Entry} (h : x.Kept history) : x.Agrees (Books.after history) := by
  have hshows := Books.shows_after history
  have hrunning (c : Carrier) :
      (Books.after history).metrics.value (.active c) = x.running c := by
    rw [hshows.value (.running c) _ rfl, ← h.balanced, ← h.balanced, x.census_running]
  have hpeers : (Books.after history).metrics.value .udpPeers = x.peers := by
    rw [hshows.value .peers _ rfl, ← h.balanced, ← h.balanced, x.census_peers]
  have hstreams : (Books.after history).active .stream = x.liveStreams := by
    rw [hshows.active, ← h.balanced, x.census_stream_live]
  have hdatagrams : (Books.after history).active .datagram =
      x.peers + x.dismissals + x.liveDatagrams := by
    rw [hshows.active, ← h.balanced, x.census_datagram_live]
  refine ⟨hstreams, hdatagrams, hshows.gauge, hrunning, hpeers, ?rest, ?deserted⟩
  case rest =>
    intro hrest
    refine ⟨?_, fun c => ?_⟩
    · rw [hdatagrams, hrest.dismissals, Int.natCast_zero, Int.add_zero]
    · rw [hrunning, hrest.running_eq_live]
  case deserted =>
    intro hdeserted
    obtain ⟨hnoStream, hnoDatagram, hnoPeer, hnone⟩ := hdeserted.counts
    refine ⟨fun side => ?_, by rw [hpeers, hnoPeer]; rfl, fun c => ?_⟩
    · cases side with
      | stream => rw [hstreams, hnoStream]; rfl
      | datagram => rw [hdatagrams, hnoPeer, hdeserted.atRest.dismissals, hnoDatagram]; rfl
    · have hzero : (Books.after history).metrics.value (.active c) = 0 := by
        rw [hrunning, hnone]
        rfl
      have hgauge := hshows.gauge c
      exact ⟨hzero, by omega⟩

/-- The trackers of the managers and the exposition agree with each other and with what is there,
whatever happens in a process and in whatever order.  At no moment does a tracker count less than
nothing. -/
theorem accounts_agree (es : List Event) :
    (run {} es).1.Agrees (Books.after (run {} es).2) ∧
      ∀ side i, 0 ≤ (Books.after ((run {} es).2.take i)).active side := by
  have hkept := kept_run es
  refine ⟨hkept.agrees, fun side i => ?_⟩
  rw [(Books.shows_after _).active]
  exact hkept.never side i

/-- An endpoint that is turned away is counted while the service is told of its end, and then by the
counters alone. -/
example :
    let here : Endpoint := ⟨.v4 0x7f000001, 80⟩
    let there : Endpoint := ⟨.v4 0x7f000001, 81⟩
    let met : List Event := [.bind here 512 ⟨1⟩, .task 0 (.acceptor (.arrive there [0]))]
    let refused := met ++ [.task 0 (.acceptor (.returned false))]
    let parted := refused ++ [.task 0 (.acceptor (.returned true))]
    [met, refused, parted].map (fun es =>
      let b := Books.after (run {} es).2
      (b.active .datagram, b.metrics.value .udpPeers, b.metrics.value (.active .udp),
        b.metrics.value (.closed .udp))) =
      [(1, 1, 1, 0), (1, 0, 0, 1), (0, 0, 0, 1)] := by
  decide

end Process

end Switchboard
