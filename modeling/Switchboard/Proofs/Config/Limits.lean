import Switchboard.Proofs.Config.Layout
import Switchboard.Proofs.Manager.Lifecycle
import Switchboard.Proofs.Proxy.Listening
import Switchboard.Proofs.Tcp.Equipping
import Switchboard.Proofs.Toml.Numbers

/-!
# The numbers of a configuration

Three numbers of a configuration are computed with where it is used: the time for an attempt to
connect is trebled, the number of connections is that of permits, and what a read asks for is added
to what is held.  Each of the three can be too large (`Config.TellsDeadline`, `Config.GetsPermits`,
`Config.FitsReads`), and the rules about settings do not say so, since they ask of these numbers
only not to be zero.  A number in a file has 63 bits, which is enough for what reads ask for and not
for the other two.
-/

namespace Switchboard

/-- The largest whole number that a document can have. -/
def maxWritten : Nat := UInt64.size / 2 - 1

/-- The most bytes that a process can hold in one place. -/
def maxHeld : Nat := UInt64.size / 2 - 1

/-- The largest count of bytes. -/
def maxSize : Nat := UInt64.size - 1

/-! ### The numbers of a file -/

/-- The numbers of the stream manager that are computed with are no larger than a document can have
them. -/
structure TcpConfig.Written (c : TcpConfig) : Prop where
  /-- What a read asks for. -/
  chunkSize : c.chunkSize ≤ maxWritten
  /-- The time for an attempt to connect. -/
  connectTimeoutSecs : c.connectTimeoutSecs ≤ maxWritten
  /-- The number of connections. -/
  maxConnections : c.maxConnections ≤ maxWritten

namespace Config.Decode

open Toml

variable {σ : Type}

/-- A whole number of a document that fits is no larger than a document can have it. -/
lemma natural_le {expected : String} {max k : Nat} {n : Node} (hn : n.Narrow)
    (h : natural expected max n = .ok k) : k ≤ maxWritten := by
  cases hn with
  | integer low high =>
    simp only [natural] at h
    split at h
    · obtain rfl := Except.ok.inj h
      have hmax : Int64.maxValue.toInt = maxWritten := by decide
      omega
    · cases h
  | _ => cases h

/-- What every key keeps is kept by all of them. -/
lemma Shape.keeps_setAll {shape : Shape σ} {P : σ → Prop}
    (hset : ∀ {k n s s'}, n.Narrow → P s → shape.set k n s = .ok s' → P s') {entries : Entries}
    (hentries : entries.Narrow) {start s : σ} (hstart : P start)
    (h : shape.setAll start entries = .ok s) : P s := by
  unfold setAll at h
  induction entries generalizing start with
  | nil =>
    obtain rfl := Except.ok.inj h
    exact hstart
  | cons p rest ih =>
    rw [List.foldlM_cons] at h
    cases hfirst : shape.set p.1 p.2 start with
    | error e => simp [hfirst, bind, Except.bind] at h
    | ok next =>
      simp only [hfirst, bind, Except.bind] at h
      exact ih (fun q hq => hentries q (List.mem_cons_of_mem p hq))
        (hset (hentries p List.mem_cons_self) hstart hfirst) h

/-- The same of a section, in whatever form it is given. -/
lemma Shape.keeps_read {shape : Shape σ} {P : σ → Prop}
    (hset : ∀ {k n s s'}, n.Narrow → P s → shape.set k n s = .ok s' → P s') {n : Node}
    (hn : n.Narrow) {start s : σ} (hstart : P start) (h : shape.read start n = .ok s) : P s := by
  cases hn with
  | table hall => exact shape.keeps_setAll hset hall hstart h
  | array hall =>
    refine shape.keeps_setAll hset (fun p hp => ?_) hstart h
    exact hall p.2 (List.of_mem_zip hp).2
  | tables hall =>
    refine shape.keeps_setAll hset (fun p hp => ?_) hstart h
    obtain ⟨entries, hentries, heq⟩ := List.mem_map.mp (List.of_mem_zip hp).2
    rw [← heq]
    exact .table (hall entries hentries)
  | datetime text =>
    obtain rfl := Except.ok.inj h
    exact hstart
  | _ => cases h

/-- A key of the stream manager keeps its numbers as they are written. -/
lemma written_of_set {k : String} {n : Node} {c c' : TcpConfig} (hn : n.Narrow) (h : c.Written)
    (hset : tcp.set k n c = .ok c') : c'.Written := by
  simp only [tcp] at hset
  split at hset
  case h_5 =>
    obtain ⟨size, hsize, rfl⟩ := return_eq_ok_iff.mp hset
    exact { h with chunkSize := natural_le hn hsize }
  case h_6 =>
    obtain ⟨seconds, hseconds, rfl⟩ := return_eq_ok_iff.mp hset
    exact { h with connectTimeoutSecs := natural_le hn hseconds }
  case h_7 =>
    obtain ⟨size, hsize, rfl⟩ := return_eq_ok_iff.mp hset
    exact { h with maxConnections := natural_le hn hsize }
  case h_12 =>
    obtain rfl := Except.ok.inj hset
    exact h
  all_goals
    obtain ⟨-, -, rfl⟩ := return_eq_ok_iff.mp hset
    exact ⟨h.chunkSize, h.connectTimeoutSecs, h.maxConnections⟩

/-- A key of the whole configuration does so as well. -/
lemma written_of_set_config {k : String} {n : Node} {c c' : Config} (hn : n.Narrow)
    (h : c.tcp.Written) (hset : config.set k n c = .ok c') : c'.tcp.Written := by
  simp only [config] at hset
  split at hset
  case h_1 =>
    obtain ⟨part, hpart, rfl⟩ := return_eq_ok_iff.mp hset
    have hdefault : ({} : TcpConfig).Written := by constructor <;> decide
    exact tcp.keeps_read (P := TcpConfig.Written) written_of_set hn hdefault hpart
  case h_5 =>
    obtain rfl := Except.ok.inj hset
    exact h
  all_goals
    obtain ⟨-, -, rfl⟩ := return_eq_ok_iff.mp hset
    exact h

end Config.Decode

/-- The numbers of a configuration that was read from a text are as they can be written. -/
lemma Config.written_of_parse {text : String} {c : Config} (h : parse text = .ok c) :
    c.tcp.Written := by
  obtain ⟨entries, hread, hset, -⟩ := parse_eq_ok_iff.mp h
  have hdefault : ({} : Config).tcp.Written := by constructor <;> decide
  exact Decode.config.keeps_setAll (P := fun c => c.tcp.Written) Decode.written_of_set_config
    (Toml.narrow_of_read? hread) hdefault hset

/-! ### Starts that get as far as their permits -/

namespace Tcp

/-- A system that gives a manager whatever it asks for. -/
def System.generous : System Unit where
  serverMaterial _ := .ok { chain := [], key := ⟨.certificate, []⟩, anchors := none }
  clientMaterial _ := .ok { anchors := [], own := none }
  listen w endpoint := (.ok endpoint.port, w)

/-- Such a system has all certificates. -/
lemma Startup.exists_materials_generous (config : TcpConfig) :
    ∃ loaded, (materials .generous config).1 = .ok loaded := by
  unfold materials
  cases config.serverCertificate <;> cases config.clientCertificate <;> exact ⟨_, rfl⟩

/-- Under such a system a start with right settings breaks down if it wants too many permits. -/
lemma Startup.verdict_generous {config : TcpConfig} (hvalid : config.violations = [])
    (hlimit : config.maxConnections > Gate.maxPermits) :
    verdict .generous config () = .error .breakdown := by
  obtain ⟨host, hadmission⟩ := exists_admission hvalid
  have hloops : LoopPool.fault? config.threadCount System.generous.startLoop = none := by
    simp [LoopPool.fault?, System.generous]
  obtain ⟨loaded, hloaded⟩ := exists_materials_generous config
  simp only [verdict, hadmission, loopVerdict, hloops, loadVerdict, hloaded, if_pos hlimit]

end Tcp

/-! ### Drivers that are about to read -/

namespace TcpDriver

/-- What a driver holds and asks for together. -/
lemma length_contents_prepared (d : TcpDriver) :
    d.prepared.received.contents.length = d.received.size + d.chunkSize := by
  simp [prepared, ReceiveBuffer.contents, ReceiveBuffer.size]

/-- A driver that holds so many bytes. -/
def holding (held chunkSize : Nat) : TcpDriver where
  connection :=
    { id := .first, direction := .passive, identity := ⟨0⟩, host := ⟨.v4 0, 0⟩, peer := ⟨.v4 0, 0⟩ }
  opening := .accepted 0
  chunkSize := chunkSize
  received := { data := Bytes.zeros held }

end TcpDriver

/-! ### What is computed with the numbers -/

namespace Config

/-- The time after which a client without its target is closed can be told. -/
def TellsDeadline (c : Config) : Prop := (Proxy.Forwarder.ofConfig? c).isSome = true

/-- No start of a stopped manager breaks down over the number of permits. -/
def GetsPermits (c : Config) : Prop :=
  ∀ {ω : Type} (m : Tcp.Manager) (system : Tcp.System ω) (w : ω), m.Stands .stopped →
    (m.init system c.tcp w).1 ≠ .error .breakdown

/-- However much is held, what a driver holds and asks for together can be counted. -/
def FitsReads (c : Config) : Prop :=
  ∀ d : TcpDriver, d.chunkSize = c.tcp.chunkSize → d.received.size ≤ maxHeld →
    d.prepared.received.contents.length ≤ maxSize

variable {c : Config}

/-- The deadline can be told if three times the time for an attempt can. -/
lemma tellsDeadline_iff :
    c.TellsDeadline ↔ 3 * c.tcp.connectTimeoutSecs ≤ Proxy.Forwarder.maxSeconds := by
  unfold TellsDeadline Proxy.Forwarder.ofConfig? TcpConfig.connectTimeout seconds?
  by_cases hlimited : c.tcp.connectTimeoutSecs > 0
  · by_cases hfits : c.tcp.connectTimeoutSecs * 3 ≤ Proxy.Forwarder.maxSeconds
    · simp [hlimited, hfits, Nat.mul_comm 3]
    · simp [hlimited, hfits, Nat.mul_comm 3]
  · obtain hnone : c.tcp.connectTimeoutSecs = 0 := by omega
    simp [hnone]

/-- A manager gets its permits exactly if there can be as many. -/
lemma getsPermits_iff (hvalid : c.tcp.violations = []) :
    c.GetsPermits ↔ c.tcp.maxConnections ≤ Tcp.Gate.maxPermits := by
  constructor
  · intro hgets
    by_contra hmany
    obtain ⟨hanswer, -⟩ := Tcp.Manager.stands_fresh.start_stopped .generous c.tcp ()
    rw [Tcp.Startup.verdict_generous hvalid (Nat.lt_of_not_le hmany)] at hanswer
    exact hgets {} .generous () Tcp.Manager.stands_fresh hanswer
  · intro hlimit ω m system w hstopped hbreakdown
    obtain ⟨hanswer, -⟩ := hstopped.start_stopped system c.tcp w
    rw [hbreakdown] at hanswer
    have hverdict := Tcp.Startup.verdict_ne_breakdown system hlimit w
    cases hcause : Tcp.Startup.verdict system c.tcp w with
    | error cause =>
      rw [hcause] at hanswer
      obtain rfl := Except.error.inj hanswer
      exact hverdict hcause
    | ok ports => simp [hcause, Except.map] at hanswer

/-- Reads fit exactly if they ask for no more than can be counted behind the most that can be held.
-/
lemma fitsReads_iff : c.FitsReads ↔ c.tcp.chunkSize ≤ maxHeld + 1 := by
  have hsum : maxHeld + (maxHeld + 1) = maxSize := by decide
  constructor
  · intro hfits
    let d := TcpDriver.holding maxHeld c.tcp.chunkSize
    have hsize : d.received.size = maxHeld := Bytes.length_zeros maxHeld
    have hcount := hfits d rfl hsize.le
    rw [d.length_contents_prepared, hsize] at hcount
    exact Nat.le_of_add_le_add_left (hcount.trans hsum.ge)
  · intro hchunk d hsame hheld
    rw [d.length_contents_prepared, hsame, ← hsum]
    exact Nat.add_le_add hheld hchunk

end Config

/-- **The rules about settings leave three numbers open.**  A configuration that breaks no rule has
a deadline that can be told exactly if its time for an attempt to connect is at most a third of the
longest time, gets its permits exactly if it wants no more than there can be, and has reads that fit
exactly if they ask for at most `maxHeld + 1` bytes.  A configuration that was loaded from a file
breaks no rule and has reads that fit; the other two are as open there. -/
theorem Config.safe_within_limits (c : Config) :
    (c.violations = [] →
      (c.TellsDeadline ↔ 3 * c.tcp.connectTimeoutSecs ≤ Proxy.Forwarder.maxSeconds) ∧
      (c.GetsPermits ↔ c.tcp.maxConnections ≤ Tcp.Gate.maxPermits) ∧
      (c.FitsReads ↔ c.tcp.chunkSize ≤ maxHeld + 1)) ∧
    ∀ {files path}, Config.load files path = .ok c → c.violations = [] ∧ c.FitsReads := by
  constructor
  · intro hvalid
    simp only [Config.violations, List.append_eq_nil_iff] at hvalid
    exact ⟨tellsDeadline_iff, getsPermits_iff hvalid.1.1, fitsReads_iff⟩
  · intro files path hload
    obtain ⟨text, -, hparse⟩ := exists_of_load hload
    refine ⟨violations_of_load hload, fitsReads_iff.mpr ?_⟩
    exact (written_of_parse hparse).chunkSize.trans (Nat.le_succ maxWritten)

/-- A file with the longest time whose deadline can be told is safe in all three. -/
theorem Config.safe_within_limits_longest :
    let files : Files := { entries := [("limits.toml",
      .file (Bytes.ofText "[tcp]\nconnect_timeout_secs = 6148914691236517205"))] }
    let c : Config := { tcp := { connectTimeoutSecs := 6148914691236517205 } }
    Config.load files "limits.toml" = .ok c ∧ c.TellsDeadline ∧ c.GetsPermits ∧ c.FitsReads := by
  intro files c
  have hload : Config.load files "limits.toml" = .ok c := by decide +kernel
  obtain ⟨hvalid, hreads⟩ := (Config.safe_within_limits c).2 hload
  obtain ⟨hdeadline, hpermits, -⟩ := (Config.safe_within_limits c).1 hvalid
  exact ⟨hload, hdeadline.mpr (by decide), hpermits.mpr (by decide), hreads⟩

/-- Each of the three can fail under settings that break no rule, and the first two under settings
that a file can have. -/
theorem Config.overflows_beyond_limits :
    (∃ c, Config.parse "[tcp]\nconnect_timeout_secs = 6148914691236517206" = .ok c ∧
      c.violations = [] ∧ ¬c.TellsDeadline) ∧
    (∃ c, Config.parse "[tcp]\nmax_connections = 2305843009213693952" = .ok c ∧
      c.violations = [] ∧ ¬c.GetsPermits) ∧
    ∃ c : Config, c.tcp.chunkSize = maxSize ∧ c.violations = [] ∧ ¬c.FitsReads := by
  refine ⟨⟨{ tcp := { connectTimeoutSecs := 6148914691236517206 } }, ?_, ?_, ?_⟩,
    ⟨{ tcp := { maxConnections := 2305843009213693952 } }, ?_, ?_, ?_⟩,
    ⟨{ tcp := { chunkSize := maxSize } }, rfl, ?_, ?_⟩⟩
  · decide +kernel
  · decide +kernel
  · rw [tellsDeadline_iff]
    decide
  · decide +kernel
  · decide +kernel
  · rw [getsPermits_iff (by decide +kernel)]
    decide
  · decide +kernel
  · rw [fitsReads_iff]
    decide

end Switchboard
