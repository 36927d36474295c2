import Switchboard.Bytes

/-!
# The receive buffer

A receive buffer accumulates what a connection has read and its service has not yet taken. Before
each read it hands out a *reservation*: blank space behind the received bytes that the read may
fill. A *commit* turns the front of the reservation into received bytes; whatever is left of the
reservation is forgotten. The *watermark* is the number of received bytes from which on the service
is called.

Removing bytes from the front ends the reservation, looking at them does not. A removal of more
bytes than there are is refused and changes nothing, except for `consume`, which removes all there
is.
-/

namespace Switchboard

/-- Received bytes, the space reserved behind them, and the count that wakes the service. -/
structure ReceiveBuffer where
  /-- Received and not yet removed. -/
  data : Bytes := []
  /-- Handed out for the next read. -/
  reserved : Bytes := []
  /-- The service is called from this many received bytes on. -/
  watermark : Nat := 1
  deriving DecidableEq, Repr

namespace ReceiveBuffer

/-- An empty buffer that wakes its service at `mark` bytes. -/
def withWatermark (mark : Nat) : ReceiveBuffer := { watermark := mark }

/-- How many received bytes there are. -/
def size (b : ReceiveBuffer) : Nat := b.data.length

/-- All the space in use: received bytes first, the reservation behind them. -/
def contents (b : ReceiveBuffer) : Bytes := b.data ++ b.reserved

/-- Replaces the reservation by `n` blank octets. -/
def prepare (b : ReceiveBuffer) (n : Nat) : ReceiveBuffer := { b with reserved := Bytes.zeros n }

/-- Writes `bytes` over the start of the reservation; what does not fit is left out. -/
def fill (b : ReceiveBuffer) (bytes : Bytes) : ReceiveBuffer :=
  { b with reserved := bytes.take b.reserved.length ++ b.reserved.drop bytes.length }

/-- Receives the first `n` octets of the reservation, or all of it if it is shorter. -/
def commit (b : ReceiveBuffer) (n : Nat) : ReceiveBuffer :=
  { b with data := b.data ++ b.reserved.take n, reserved := [] }

/-- Removes `n` bytes from the front, or all of them if there are fewer. -/
def consume (b : ReceiveBuffer) (n : Nat) : ReceiveBuffer :=
  { b with data := b.data.drop n, reserved := [] }

/-- Whether the service is due. -/
def reachedWatermark (b : ReceiveBuffer) : Bool := b.watermark ≤ b.size

/-- Sets the watermark. -/
def setWatermark (b : ReceiveBuffer) (mark : Nat) : ReceiveBuffer := { b with watermark := mark }

/-- The first `n` bytes, if there are as many. -/
def copy? (b : ReceiveBuffer) (n : Nat) : Option Bytes :=
  if n ≤ b.size then some (b.data.take n) else none

/-- Removes the first `n` bytes and gives them out, if there are as many. -/
def take? (b : ReceiveBuffer) (n : Nat) : Option (Bytes × ReceiveBuffer) :=
  (b.copy? n).map fun taken => (taken, b.consume n)

/-- Removes the first `n` bytes, if there are as many. -/
def dropFront? (b : ReceiveBuffer) (n : Nat) : Option ReceiveBuffer :=
  (b.take? n).map Prod.snd

/-- One whole read: reserve `n`, let the read write `bytes`, receive what it wrote. -/
def receive (b : ReceiveBuffer) (n : Nat) (bytes : Bytes) : ReceiveBuffer :=
  ((b.prepare n).fill bytes).commit bytes.length

/-! ### What each operation does to the received bytes -/

@[simp] theorem data_prepare (b : ReceiveBuffer) (n : Nat) : (b.prepare n).data = b.data := rfl

@[simp] theorem reserved_prepare (b : ReceiveBuffer) (n : Nat) :
    (b.prepare n).reserved = Bytes.zeros n := rfl

@[simp] theorem watermark_prepare (b : ReceiveBuffer) (n : Nat) :
    (b.prepare n).watermark = b.watermark := rfl

@[simp] theorem data_fill (b : ReceiveBuffer) (bytes : Bytes) : (b.fill bytes).data = b.data := rfl

@[simp] theorem watermark_fill (b : ReceiveBuffer) (bytes : Bytes) :
    (b.fill bytes).watermark = b.watermark := rfl

@[simp] theorem data_commit (b : ReceiveBuffer) (n : Nat) :
    (b.commit n).data = b.data ++ b.reserved.take n := rfl

@[simp] theorem reserved_commit (b : ReceiveBuffer) (n : Nat) : (b.commit n).reserved = [] := rfl

@[simp] theorem watermark_commit (b : ReceiveBuffer) (n : Nat) :
    (b.commit n).watermark = b.watermark := rfl

@[simp] theorem data_consume (b : ReceiveBuffer) (n : Nat) :
    (b.consume n).data = b.data.drop n := rfl

@[simp] theorem reserved_consume (b : ReceiveBuffer) (n : Nat) : (b.consume n).reserved = [] := rfl

@[simp] theorem watermark_consume (b : ReceiveBuffer) (n : Nat) :
    (b.consume n).watermark = b.watermark := rfl

@[simp] theorem data_setWatermark (b : ReceiveBuffer) (n : Nat) :
    (b.setWatermark n).data = b.data := rfl

@[simp] theorem reserved_setWatermark (b : ReceiveBuffer) (n : Nat) :
    (b.setWatermark n).reserved = b.reserved := rfl

@[simp] theorem watermark_setWatermark (b : ReceiveBuffer) (n : Nat) :
    (b.setWatermark n).watermark = n := rfl

/-- A read that stays within its reservation appends exactly what it read. -/
theorem data_receive {b : ReceiveBuffer} {n : Nat} {bytes : Bytes} (h : bytes.length ≤ n) :
    (b.receive n bytes).data = b.data ++ bytes := by
  simp [receive, fill, List.take_of_length_le h]

theorem copy?_eq_none_iff (b : ReceiveBuffer) (n : Nat) : b.copy? n = none ↔ b.size < n := by
  simp [copy?]

theorem take?_eq_none_iff (b : ReceiveBuffer) (n : Nat) : b.take? n = none ↔ b.size < n := by
  simp [take?, copy?]

theorem dropFront?_eq_none_iff (b : ReceiveBuffer) (n : Nat) :
    b.dropFront? n = none ↔ b.size < n := by
  simp [dropFront?, take?, copy?]

/-- What is taken out, followed by what stays, is what was there. -/
theorem append_of_take? {b b' : ReceiveBuffer} {n : Nat} {taken : Bytes}
    (h : b.take? n = some (taken, b')) : taken ++ b'.data = b.data := by
  unfold take? copy? at h
  split at h
  · simp only [Option.map_some, Option.some.injEq, Prod.mk.injEq] at h
    obtain ⟨rfl, rfl⟩ := h
    simp
  · simp at h

end ReceiveBuffer

end Switchboard
