import Mathlib.Tactic.Common
import Switchboard.Buffer.Receive
import Switchboard.Proofs.Dialogue

/-!
# Received bytes and the reservation behind them

A receive buffer is a queue of bytes with one reservation.  What is meant by that is kept by a
`ReceiveBuffer.Ledger`: all bytes that were ever received, the number of them that were removed, and
what was written into the space reserved last.  It never forgets a byte.

In memory the received bytes and the reservation lie side by side in one run of octets, of which the
first ones count as received.  `ReceiveBuffer.Packed` is the buffer in this layout, where each
operation shortens, extends or advances the run.

Buffer, layout and ledger answer any sequence of requests alike (`ReceiveBuffer.keeps_ledger`): each
step of the layout is one of the buffer (`ReceiveBuffer.lays_out`), and each step of the buffer is
one of the ledger (`ReceiveBuffer.simulates_ledger`).
-/

namespace Switchboard.ReceiveBuffer

/-! ### Requests -/

/-- What a receive buffer can be asked to do. -/
inductive Request where
  /-- To reserve space. -/
  | prepare (n : Nat)
  /-- To write into the reserved space, from its start. -/
  | fill (bytes : Bytes)
  /-- To receive the first bytes of the reserved space. -/
  | commit (n : Nat)
  /-- To remove bytes, or all there are. -/
  | consume (n : Nat)
  /-- To copy the first bytes out. -/
  | copyTo (n : Nat)
  /-- To copy the first bytes out and to remove them. -/
  | moveTo (n : Nat)
  /-- To remove the first bytes. -/
  | dropFront (n : Nat)
  /-- To split the first bytes off. -/
  | take (n : Nat)
  /-- To set the count that wakes the service. -/
  | setWatermark (mark : Nat)
  deriving DecidableEq

/-- What a receive buffer answers. -/
inductive Answer where
  /-- Nothing. -/
  | done
  /-- The space that is reserved. -/
  | space (bytes : Bytes)
  /-- The bytes that were asked for, if there are as many. -/
  | bytes (given : Option Bytes)
  /-- Whether the bytes were there. -/
  | granted (yes : Bool)
  deriving DecidableEq

/-- How many bytes a request wants that is refused if there are fewer. -/
def Request.wanted? : Request → Option Nat
  | copyTo n | moveTo n | dropFront n | take n => some n
  | _ => none

/-- The answer by which a request is refused. -/
def Request.refusal : Request → Answer
  | dropFront _ => .granted false
  | _ => .bytes none

/-- Does what a buffer is asked to do. -/
def perform (b : ReceiveBuffer) : Request → ReceiveBuffer × Answer
  | .prepare n => (b.prepare n, .space (b.prepare n).reserved)
  | .fill bytes => (b.fill bytes, .done)
  | .commit n => (b.commit n, .done)
  | .consume n => (b.consume n, .done)
  | .copyTo n => (b, .bytes (b.copy? n))
  | .moveTo n | .take n =>
    match b.take? n with
    | none => (b, .bytes none)
    | some (taken, b') => (b', .bytes (some taken))
  | .dropFront n =>
    match b.dropFront? n with
    | none => (b, .granted false)
    | some b' => (b', .granted true)
  | .setWatermark mark => (b.setWatermark mark, .done)

/-- Octets with others written over their start, as many as there is room for. -/
def overwrite (space bytes : Bytes) : Bytes := bytes.take space.length ++ space.drop bytes.length

/-! ### The layout in memory -/

/-- Received bytes and reserved space in one run of octets. -/
structure Packed where
  /-- The octets. -/
  space : Bytes := []
  /-- How many of them count as received. -/
  committed : Nat := 0
  /-- The service is called from this many received bytes on. -/
  watermark : Nat := 1

namespace Packed

/-- Octets cut off or filled up with blank ones to a length. -/
def resize (bytes : Bytes) (n : Nat) : Bytes := bytes.take n ++ Bytes.zeros (n - bytes.length)

/-- Puts blank space behind the received bytes instead of what is there, and gives it out. -/
def prepare (p : Packed) (n : Nat) : Packed × Bytes :=
  let space := resize (p.space.take p.committed) (p.committed + n)
  ({ p with space }, space.drop p.committed)

/-- Writes into what is behind the received bytes. -/
def fill (p : Packed) (bytes : Bytes) : Packed :=
  { p with space := p.space.take p.committed ++ overwrite (p.space.drop p.committed) bytes }

/-- Counts octets behind the received bytes as received, and forgets those behind them. -/
def commit (p : Packed) (n : Nat) : Packed :=
  let committed := p.committed + min n (p.space.length - p.committed)
  { p with space := p.space.take committed, committed }

/-- Forgets what is behind the received bytes and goes on by `n` of them, or by all there are. -/
def consume (p : Packed) (n : Nat) : Packed :=
  let size := min n p.committed
  { p with space := (p.space.take p.committed).drop size, committed := p.committed - size }

/-- The first `n` octets, if as many are received. -/
def copy? (p : Packed) (n : Nat) : Option Bytes :=
  if p.committed < n then none else some (p.space.take n)

/-- Does what a buffer is asked to do. -/
def perform (p : Packed) : Request → Packed × Answer
  | .prepare n =>
    let (p, space) := p.prepare n
    (p, .space space)
  | .fill bytes => (p.fill bytes, .done)
  | .commit n => (p.commit n, .done)
  | .consume n => (p.consume n, .done)
  | .copyTo n => (p, .bytes (p.copy? n))
  | .moveTo n =>
    match p.copy? n with
    | none => (p, .bytes none)
    | some bytes => (p.consume n, .bytes (some bytes))
  | .dropFront n =>
    if p.committed < n then (p, .granted false) else (p.consume n, .granted true)
  | .take n =>
    if p.committed < n then (p, .bytes none)
    else
      let space := p.space.take p.committed
      ({ p with space := space.drop n, committed := p.committed - n },
        .bytes (some (space.take n)))
  | .setWatermark mark => ({ p with watermark := mark }, .done)

end Packed

/-- A layout of a buffer: its received bytes lie in front of its reservation. -/
structure Lays (p : Packed) (b : ReceiveBuffer) : Prop where
  /-- What lies there. -/
  space : p.space = b.contents
  /-- What of it is received. -/
  committed : p.committed = b.size
  /-- The watermark is the same. -/
  watermark : p.watermark = b.watermark

namespace Lays

variable {p : Packed} {b : ReceiveBuffer}

lemma received (h : Lays p b) : p.space.take p.committed = b.data := by
  rw [h.space, h.committed, contents, size, List.take_left]

lemma rest (h : Lays p b) : p.space.drop p.committed = b.reserved := by
  rw [h.space, h.committed, contents, size, List.drop_left]

/-- No more octets count as received than there are. -/
lemma fits (h : Lays p b) : p.committed ≤ p.space.length := by
  rw [h.space, h.committed, contents, List.length_append]
  exact Nat.le_add_right _ _

/-- The octets behind the received ones. -/
lemma length_rest (h : Lays p b) : p.space.length - p.committed = b.reserved.length := by
  rw [← h.rest, List.length_drop]

lemma prepare (h : Lays p b) (n : Nat) :
    (p.prepare n).2 = Bytes.zeros n ∧ Lays (p.prepare n).1 (b.prepare n) := by
  have hresize : Packed.resize (p.space.take p.committed) (p.committed + n) =
      b.data ++ Bytes.zeros n := by
    rw [h.received, h.committed, Packed.resize, size, Nat.add_sub_cancel_left,
      List.take_of_length_le (Nat.le_add_right _ _)]
  constructor
  · rw [Packed.prepare, hresize, h.committed, size, List.drop_left]
  · exact ⟨hresize, h.committed, h.watermark⟩

lemma fill (h : Lays p b) (bytes : Bytes) : Lays (p.fill bytes) (b.fill bytes) := by
  refine ⟨?_, h.committed, h.watermark⟩
  rw [Packed.fill, h.received, h.rest]
  rfl

lemma commit (h : Lays p b) (n : Nat) : Lays (p.commit n) (b.commit n) := by
  have hcount : p.committed + min n (p.space.length - p.committed) = (b.commit n).size := by
    rw [h.length_rest, h.committed, size, size, data_commit, List.length_append, List.length_take]
  have hspace : p.space.take (p.committed + min n (p.space.length - p.committed)) =
      b.data ++ b.reserved.take n := by
    rw [List.take_add, h.received, h.rest, h.length_rest, ← List.take_eq_take_min]
  refine ⟨?_, hcount, h.watermark⟩
  rw [Packed.commit, hspace, contents, data_commit, reserved_commit, List.append_nil]

lemma consume (h : Lays p b) (n : Nat) : Lays (p.consume n) (b.consume n) := by
  have hdrop : b.data.drop (min n b.data.length) = b.data.drop n := by
    rcases Nat.le_total n b.data.length with hle | hle
    · rw [Nat.min_eq_left hle]
    · rw [Nat.min_eq_right hle, List.drop_length, List.drop_of_length_le hle]
  have hsize : b.size - min n b.size = (b.consume n).size := by
    rw [size, size, data_consume, List.length_drop]
    omega
  refine ⟨?_, ?_, h.watermark⟩
  · rw [Packed.consume, h.received, h.committed, size, hdrop, contents, data_consume,
      reserved_consume, List.append_nil]
  · rw [Packed.consume, h.committed, hsize]

lemma lt_iff (h : Lays p b) (n : Nat) : p.committed < n ↔ ¬ n ≤ b.size := by
  rw [h.committed, Nat.not_le]

lemma copy? (h : Lays p b) (n : Nat) : p.copy? n = b.copy? n := by
  rw [Packed.copy?, ReceiveBuffer.copy?]
  by_cases hle : n ≤ b.size
  · rw [if_pos hle, if_neg (mt (h.lt_iff n).mp (not_not_intro hle)), h.space, contents,
      List.take_append_of_le_length hle]
  · rw [if_neg hle, if_pos ((h.lt_iff n).mpr hle)]

end Lays

/-- Whatever they are asked, the layout answers as the buffer does and stays a layout of it. -/
lemma lays_out : Dialogue.Simulates Packed.perform perform Lays := by
  intro p b h r
  cases r with
  | prepare n =>
    obtain ⟨hspace, hlays⟩ := h.prepare n
    exact ⟨congrArg Answer.space hspace, hlays⟩
  | fill bytes => exact ⟨rfl, h.fill bytes⟩
  | commit n => exact ⟨rfl, h.commit n⟩
  | consume n => exact ⟨rfl, h.consume n⟩
  | copyTo n => exact ⟨congrArg Answer.bytes (h.copy? n), h⟩
  | moveTo n =>
    simp only [Packed.perform, perform, ReceiveBuffer.take?, h.copy? n]
    cases b.copy? n with
    | none => exact ⟨rfl, h⟩
    | some bytes => exact ⟨rfl, h.consume n⟩
  | dropFront n =>
    simp only [Packed.perform, perform, ReceiveBuffer.dropFront?, ReceiveBuffer.take?,
      ReceiveBuffer.copy?, h.lt_iff n, ite_not]
    by_cases hle : n ≤ b.size
    · rw [if_pos hle, if_pos hle]
      exact ⟨rfl, h.consume n⟩
    · rw [if_neg hle, if_neg hle]
      exact ⟨rfl, h⟩
  | take n =>
    simp only [Packed.perform, perform, ReceiveBuffer.take?, ReceiveBuffer.copy?, h.lt_iff n,
      ite_not]
    by_cases hle : n ≤ b.size
    · rw [if_pos hle, if_pos hle]
      have hconsume := h.consume n
      rw [Packed.consume, Nat.min_eq_left (h.committed ▸ hle)] at hconsume
      exact ⟨by rw [h.received]; rfl, hconsume⟩
    · rw [if_neg hle, if_neg hle]
      exact ⟨rfl, h⟩
  | setWatermark mark => exact ⟨rfl, h.space, h.committed, rfl⟩

/-! ### The ledger -/

/-- All that happened to a buffer that matters: what was received and how much of it was removed,
and what was written into the space reserved last. -/
structure Ledger where
  /-- All bytes that were ever received. -/
  received : Bytes := []
  /-- How many of them were removed. -/
  removed : Nat := 0
  /-- The reserved space with what was written into it; empty if nothing is reserved. -/
  written : Bytes := []
  /-- The service is called from this many received bytes on. -/
  watermark : Nat := 1

namespace Ledger

/-- The bytes that were received and not removed. -/
def kept (l : Ledger) : Bytes := l.received.drop l.removed

/-- Removes bytes for good, which ends the reservation. -/
def remove (l : Ledger) (n : Nat) : Ledger := { l with removed := l.removed + n, written := [] }

/-- Does what a buffer is asked to do. -/
def perform (l : Ledger) : Request → Ledger × Answer
  | .prepare n => ({ l with written := Bytes.zeros n }, .space (Bytes.zeros n))
  | .fill bytes => ({ l with written := overwrite l.written bytes }, .done)
  | .commit n => ({ l with received := l.received ++ l.written.take n, written := [] }, .done)
  | .consume n => (l.remove (min n l.kept.length), .done)
  | .copyTo n => (l, .bytes (if n ≤ l.kept.length then some (l.kept.take n) else none))
  | .moveTo n | .take n =>
    if n ≤ l.kept.length then (l.remove n, .bytes (some (l.kept.take n))) else (l, .bytes none)
  | .dropFront n =>
    if n ≤ l.kept.length then (l.remove n, .granted true) else (l, .granted false)
  | .setWatermark mark => ({ l with watermark := mark }, .done)

end Ledger

/-- A buffer that holds what a ledger says. -/
structure Holds (b : ReceiveBuffer) (l : Ledger) : Prop where
  /-- No more was removed than was received. -/
  within : l.removed ≤ l.received.length
  /-- The received bytes are those that were not removed. -/
  data : b.data = l.kept
  /-- The reservation is what was written. -/
  reserved : b.reserved = l.written
  /-- The watermark is the same. -/
  watermark : b.watermark = l.watermark

namespace Holds

variable {b : ReceiveBuffer} {l : Ledger}

lemma size (h : Holds b l) : b.size = l.kept.length := congrArg List.length h.data

lemma commit (h : Holds b l) (n : Nat) :
    Holds (b.commit n) { l with received := l.received ++ l.written.take n, written := [] } := by
  constructor
  case within =>
    rw [List.length_append]
    exact Nat.le_add_right_of_le h.within
  case data =>
    rw [data_commit, h.data, h.reserved, Ledger.kept, Ledger.kept,
      List.drop_append_of_le_length h.within]
  case reserved => rfl
  case watermark => exact h.watermark

/-- Removing bytes that are there. -/
lemma remove (h : Holds b l) {n : Nat} (hle : n ≤ l.kept.length) :
    Holds (b.consume n) (l.remove n) := by
  constructor
  case within =>
    rw [Ledger.kept, List.length_drop] at hle
    have hwithin := h.within
    simp only [Ledger.remove]
    omega
  case data =>
    rw [data_consume, h.data, Ledger.kept, Ledger.kept, List.drop_drop]
    rfl
  case reserved => rfl
  case watermark => exact h.watermark

/-- Removing bytes whether they are there or not. -/
lemma consume (h : Holds b l) (n : Nat) :
    Holds (b.consume n) (l.remove (min n l.kept.length)) := by
  have hsame : b.consume (min n l.kept.length) = b.consume n := by
    rcases Nat.le_total n l.kept.length with hle | hle
    · rw [Nat.min_eq_left hle]
    · rw [ReceiveBuffer.consume, ReceiveBuffer.consume, Nat.min_eq_right hle, h.data,
        List.drop_length, List.drop_of_length_le hle]
  rw [← hsame]
  exact h.remove (Nat.min_le_right _ _)

end Holds

/-- Whatever they are asked, the buffer answers as the ledger and goes on holding what it says. -/
lemma simulates_ledger : Dialogue.Simulates perform Ledger.perform Holds := by
  intro b l h r
  cases r with
  | prepare n => exact ⟨rfl, h.within, h.data, rfl, h.watermark⟩
  | fill bytes =>
    exact ⟨rfl, h.within, h.data, congrArg (overwrite · bytes) h.reserved, h.watermark⟩
  | commit n => exact ⟨rfl, h.commit n⟩
  | consume n => exact ⟨rfl, h.consume n⟩
  | copyTo n =>
    have hcopy : b.copy? n = if n ≤ l.kept.length then some (l.kept.take n) else none := by
      rw [copy?, h.size, h.data]
    exact ⟨congrArg Answer.bytes hcopy, h⟩
  | moveTo n | take n =>
    simp only [perform, Ledger.perform, take?, copy?, h.size, h.data]
    by_cases hle : n ≤ l.kept.length
    · rw [if_pos hle, if_pos hle]
      exact ⟨rfl, h.remove hle⟩
    · rw [if_neg hle, if_neg hle]
      exact ⟨rfl, h⟩
  | dropFront n =>
    simp only [perform, Ledger.perform, dropFront?, take?, copy?, h.size]
    by_cases hle : n ≤ l.kept.length
    · rw [if_pos hle, if_pos hle]
      exact ⟨rfl, h.remove hle⟩
    · rw [if_neg hle, if_neg hle]
      exact ⟨rfl, h⟩
  | setWatermark mark => exact ⟨rfl, h.within, h.data, h.reserved, rfl⟩

/-! ### Requests that are refused -/

/-- A request for more bytes than there are is refused, and nothing is changed by it. -/
lemma perform_of_lt (b : ReceiveBuffer) {r : Request} {n : Nat} (hwanted : r.wanted? = some n)
    (hlt : b.size < n) : b.perform r = (b, r.refusal) := by
  have hcopy : b.copy? n = none := (b.copy?_eq_none_iff n).mpr hlt
  have htake : b.take? n = none := (b.take?_eq_none_iff n).mpr hlt
  have hdrop : b.dropFront? n = none := (b.dropFront?_eq_none_iff n).mpr hlt
  cases r with
  | copyTo n | moveTo n | dropFront n | take n =>
    cases hwanted
    simp only [perform, Request.refusal, hcopy, htake, hdrop]
  | prepare n | fill bytes | commit n | consume n | setWatermark mark => cases hwanted

/-- In the layout nothing is changed either. -/
lemma Packed.perform_of_lt (p : Packed) {r : Request} {n : Nat} (hwanted : r.wanted? = some n)
    (hlt : p.committed < n) : p.perform r = (p, r.refusal) := by
  cases r with
  | copyTo n | moveTo n | dropFront n | take n =>
    cases hwanted
    simp only [Packed.perform, Request.refusal, copy?, if_pos hlt]
  | prepare n | fill bytes | commit n | consume n | setWatermark mark => cases hwanted

/-- What holds of a buffer, of its layout and of its ledger after the same requests. -/
structure Reconciled (b : ReceiveBuffer × List Answer) (p : Packed × List Answer)
    (l : Ledger × List Answer) : Prop where
  /-- All three have answered the same. -/
  answers : p.2 = l.2 ∧ b.2 = l.2
  /-- No more octets count as received than there are. -/
  fits : p.1.committed ≤ p.1.space.length
  /-- The octets that count as received are the received bytes. -/
  received : p.1.space.take p.1.committed = b.1.data
  /-- The octets behind them are the reservation. -/
  reserved : p.1.space.drop p.1.committed = b.1.reserved ∧ b.1.reserved = l.1.written
  /-- The bytes removed so far, with those that are there, are the bytes received so far. -/
  conserved : l.1.received.take l.1.removed ++ b.1.data = l.1.received ∧
    l.1.removed ≤ l.1.received.length
  /-- The watermark is the one that was set last. -/
  watermark : p.1.watermark = l.1.watermark ∧ b.1.watermark = l.1.watermark
  /-- Space that is reserved is blank and as long as asked for. -/
  prepares : ∀ n, (p.1.perform (.prepare n)).2 = .space (Bytes.zeros n)
  /-- Committing appends the first bytes written into the reservation, and ends it. -/
  commits : ∀ n, (b.1.commit n).data = b.1.data ++ l.1.written.take (min n l.1.written.length) ∧
    (b.1.commit n).reserved = []
  /-- Consuming as many bytes as there are, or more, removes them all. -/
  consumes : ∀ n, b.1.size ≤ n → (b.1.consume n).data = []
  /-- A request for more bytes than there are is refused and changes nothing. -/
  refuses : ∀ r n, r.wanted? = some n → b.1.size < n →
    b.1.perform r = (b.1, r.refusal) ∧ p.1.perform r = (p.1, r.refusal)

/-- **A receive buffer is a queue of bytes with one reservation.**  Whatever is asked of it, in any
order and from any watermark on, it answers as the ledger of everything that was received and
removed does, and holds what the ledger says is left; and so does the run of octets in which
received bytes and reservation lie side by side, of which never more count as received than there
are. -/
theorem keeps_ledger (mark : Nat) (requests : List Request) :
    Reconciled (Dialogue.run perform (withWatermark mark) requests)
      (Dialogue.run Packed.perform { watermark := mark } requests)
      (Dialogue.run Ledger.perform { watermark := mark } requests) := by
  have hlays : Lays { watermark := mark } (withWatermark mark) := ⟨rfl, rfl, rfl⟩
  have hholds : Holds (withWatermark mark) { watermark := mark } := ⟨Nat.le_refl _, rfl, rfl, rfl⟩
  obtain ⟨hpacked, hlays⟩ := lays_out.run hlays requests
  obtain ⟨hledger, hholds⟩ := simulates_ledger.run hholds requests
  constructor
  case answers => exact ⟨hpacked.trans hledger, hledger⟩
  case fits => exact hlays.fits
  case received => exact hlays.received
  case reserved => exact ⟨hlays.rest, hholds.reserved⟩
  case conserved =>
    rw [hholds.data, Ledger.kept, List.take_append_drop]
    exact ⟨rfl, hholds.within⟩
  case watermark => exact ⟨hlays.watermark.trans hholds.watermark, hholds.watermark⟩
  case prepares => exact fun n => congrArg Answer.space (hlays.prepare n).1
  case commits =>
    intro n
    rw [data_commit, hholds.reserved, ← List.take_eq_take_min]
    exact ⟨rfl, rfl⟩
  case consumes => exact fun n hle => List.drop_of_length_le hle
  case refuses =>
    intro r n hwanted hlt
    exact ⟨perform_of_lt _ hwanted hlt,
      Packed.perform_of_lt _ hwanted (hlays.committed ▸ hlt)⟩

end Switchboard.ReceiveBuffer
