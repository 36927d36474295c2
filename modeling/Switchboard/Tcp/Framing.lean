import Switchboard.Tcp.Driver

/-!
# Frames on a stream

A frame starts with its own length, two octets in base 256 that count themselves. A service that
gives every frame back can leave the counting to the watermark: it wants two bytes as long as it
does not know the length of the next frame, and then as many bytes as that frame has.

`serve` is what such a service does each time it is told of received bytes: it gives back every
frame that is complete, and leaves the watermark at what the next one needs. `step` is a driver with
this service attached, which answers every call as soon as it is made.
-/

namespace Switchboard.Tcp.Framing

/-- How many octets tell the length. -/
def headerSize : Nat := 2

/-- Whether a run of octets is one frame. -/
def IsFrame (b : Bytes) : Prop :=
  headerSize ≤ b.length ∧ b.length < 65536 ∧ b.take headerSize = Bytes.ofNat headerSize b.length

/-- The frame around a body. -/
def frame (body : Bytes) : Bytes := Bytes.ofNat headerSize (headerSize + body.length) ++ body

/-- Only a body that is too long has no frame. -/
theorem isFrame_frame {body : Bytes} (h : headerSize + body.length < 65536) :
    IsFrame (frame body) := by
  refine ⟨?_, ?_, ?_⟩
  · simp [frame, headerSize]
  · simpa [frame, headerSize] using h
  · simp [frame, headerSize]

/-- Taking bytes out shortens what was received. -/
theorem size_take_lt {d : TcpDriver} {length : Nat} {taken : Bytes} (hpos : 0 < length)
    (h : (d.take length).1 = some taken) :
    (d.take length).2.1.received.size < d.received.size := by
  unfold TcpDriver.take at h ⊢
  split
  · rename_i hphase
    rw [if_pos hphase] at h
    split
    · rename_i hnone
      simp [hnone] at h
    · rename_i taken' received htake
      have happ := congrArg List.length (ReceiveBuffer.append_of_take? htake)
      have hle : ¬ d.received.size < length := by
        intro hlt
        rw [(ReceiveBuffer.take?_eq_none_iff _ _).2 hlt] at htake
        cases htake
      have hlen : taken'.length = length := by
        unfold ReceiveBuffer.take? ReceiveBuffer.copy? at htake
        rw [if_pos (by omega)] at htake
        simp only [Option.map_some, Option.some.injEq, Prod.mk.injEq] at htake
        rw [← htake.1, List.length_take]
        exact Nat.min_eq_left (by simpa [ReceiveBuffer.size] using hle)
      simp only [List.length_append] at happ
      simp only [ReceiveBuffer.size]
      omega
  · rename_i hphase
    rw [if_neg hphase] at h
    cases h

/-- Asking to send leaves what was received alone. -/
@[simp] theorem received_request (d : TcpDriver) (r : SendRequest) :
    (d.request r).2.1.received = d.received := by
  cases r <;> rfl

/-- Setting the watermark leaves the count of received bytes alone. -/
@[simp] theorem size_setMark (d : TcpDriver) (mark : Nat) :
    (d.setMark mark).received.size = d.received.size := by
  unfold TcpDriver.setMark
  split <;> rfl

/-- Gives back every complete frame and waits for the rest of the next one. A length that does not
even count itself ends the connection. -/
def serve (d : TcpDriver) : Bool × Noted TcpDriver :=
  match d.received.copy? headerSize with
  | none => (true, d.setMark headerSize, [])
  | some header =>
    let length := Bytes.toNat header
    if hlength : length < headerSize then (false, d, [])
    else if d.received.size < length then (true, d.setMark length, [])
    else
      match htaken : (d.take length).1 with
      | none => (false, (d.take length).2)
      | some whole =>
        let taken := (d.take length).2
        let sent := taken.1.request (.ofAll whole)
        if sent.1 then
          let next := sent.2.1.setMark headerSize
          have shorter : taken.1.received.size < d.received.size :=
            size_take_lt (Nat.lt_of_lt_of_le (by decide) (Nat.le_of_not_lt hlength)) htaken
          let later := serve next
          (later.1, later.2.1, taken.2 ++ sent.2.2 ++ later.2.2)
        else (false, sent.2.1, taken.2 ++ sent.2.2)
termination_by d.received.size

/-- Answers the call under way, if there is one. A new connection wants the first length. -/
def answer (d : TcpDriver) : Noted TcpDriver :=
  match d.phase with
  | .opening => (d.requestMark headerSize).returned true
  | .receiving =>
    let (keep, served) := serve d
    served.andThen fun d => d.returned keep
  | .drained | .closing => d.returned true
  | _ => (d, [])

/-- What an event does to a driver with the service attached. -/
def step (d : TcpDriver) (e : TcpDriver.Event) : Noted TcpDriver := (d.step e).andThen answer

/-- What a sequence of events does to it. -/
def run (d : TcpDriver) : List TcpDriver.Event → Noted TcpDriver
  | [] => (d, [])
  | e :: es => (step d e).andThen fun d => run d es

end Switchboard.Tcp.Framing
