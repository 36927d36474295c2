import Mathlib.Algebra.Group.Nat.Defs
import Switchboard.Proofs.Tcp.Receiving
import Switchboard.Tcp.Framing

/-!
# Frames and their service

Whatever comes in of a sequence of frames is some whole frames and the front of the next one
(`Tcp.Framing.exists_whole`), and of that front the next frame's length can be read as soon as it
has a header (`Tcp.Framing.wanted_of_front`).

`Tcp.Framing.serve` is a loop over the received bytes.  `Tcp.Framing.serve_eq` says what it does
when it meets some whole frames and a front: each frame is removed and posted, one after the other,
the front stays, and the watermark is what the front wants.  A driver with the service attached does
nothing that a driver could not be told to do (`Tcp.Framing.exists_run`), so the laws of drivers
hold of it.
-/

namespace Switchboard

/-! ### Numbers in octets -/

/-- The last octet of a numeral. -/
lemma Bytes.toNat_concat (b : Bytes) (x : UInt8) :
    Bytes.toNat (b ++ [x]) = Bytes.toNat b * 256 + x.toNat := by
  simp [Bytes.toNat]

/-- A number that has a numeral of a length is read off it. -/
lemma Bytes.toNat_ofNat {n v : Nat} (h : v < 256 ^ n) : Bytes.toNat (Bytes.ofNat n v) = v := by
  induction n generalizing v with
  | zero =>
    have hv : v = 0 := by simpa using h
    simp [hv, Bytes.ofNat, Bytes.toNat]
  | succ n ih =>
    have hfront : v / 256 < 256 ^ n :=
      Nat.div_lt_of_lt_mul (by rw [Nat.mul_comm, ← Nat.pow_succ]; exact h)
    rw [Bytes.ofNat, Bytes.toNat_concat, ih hfront, UInt8.toNat_ofNat']
    omega

namespace Tcp.Framing

open TcpDriver

/-! ### What came in of a sequence of frames -/

/-- How many bytes have to be there for the next frame, going by the front of it. -/
def wanted (part : Bytes) : Nat :=
  if part.length < headerSize then headerSize else Bytes.toNat (part.take headerSize)

/-- The length of a frame is read off its header. -/
lemma IsFrame.toNat_take {f : Bytes} (hf : IsFrame f) :
    Bytes.toNat (f.take headerSize) = f.length := by
  rw [hf.2.2, Bytes.toNat_ofNat]
  simpa [headerSize] using hf.2.1

/-- A frame is not empty. -/
lemma IsFrame.ne_nil {f : Bytes} (hf : IsFrame f) : f ≠ [] := by
  rintro rfl
  simpa [headerSize] using hf.1

/-- The front of a frame wants at least a header and at most that frame, and exactly that frame as
soon as it has the header. -/
lemma wanted_of_front {f part : Bytes} (hf : IsFrame f) (hpart : part <+: f) :
    headerSize ≤ wanted part ∧ wanted part ≤ f.length ∧
      (headerSize ≤ part.length → wanted part = f.length) := by
  unfold wanted
  split
  · rename_i hshort
    exact ⟨le_rfl, hf.1, fun hlong => absurd hlong (by omega)⟩
  · rename_i hlong
    have hheader : part.take headerSize = f.take headerSize := by
      obtain ⟨later, rfl⟩ := hpart
      rw [List.take_append_of_le_length (by omega)]
    rw [hheader, hf.toNat_take]
    exact ⟨hf.1, le_rfl, fun _ => rfl⟩

/-- A part of what comes in that has no whole frame. -/
def Awaited (part : Bytes) (rest : List Bytes) : Prop :=
  part <+: rest.flatten ∧ ∀ next ∈ rest.head?, part.length < next.length

/-- A front of what comes in that is shorter than the first frame is a front of that frame. -/
lemma Awaited.front {part : Bytes} {next : Bytes} {rest : List Bytes}
    (h : Awaited part (next :: rest)) : part <+: next := by
  have hshort : part.length < next.length := h.2 next rfl
  exact List.prefix_of_prefix_length_le h.1 (by simp) hshort.le

/-- What has come in wants a header at least, and more than is there. -/
lemma Awaited.wanted {part : Bytes} {rest : List Bytes} (hrest : ∀ f ∈ rest, IsFrame f)
    (h : Awaited part rest) : headerSize ≤ wanted part ∧ part.length < Framing.wanted part := by
  cases rest with
  | nil =>
    have hnone : part = [] := List.prefix_nil.mp h.1
    subst hnone
    simp [Framing.wanted, headerSize]
  | cons next rest =>
    obtain ⟨hheader, -, hknown⟩ := wanted_of_front (hrest next (by simp)) h.front
    refine ⟨hheader, ?_⟩
    rcases Nat.lt_or_ge part.length headerSize with hshort | hlong
    · exact hshort.trans_le hheader
    · rw [hknown hlong]
      exact h.2 next rfl

/-- Whatever has come in of a sequence of frames is some of them and the front of the next one. -/
lemma exists_whole (frames : List Bytes) (b : Bytes) (h : b <+: frames.flatten) :
    ∃ whole rest part, frames = whole ++ rest ∧ b = whole.flatten ++ part ∧ Awaited part rest := by
  induction frames generalizing b with
  | nil => exact ⟨[], [], b, rfl, rfl, h, by simp⟩
  | cons f frames ih =>
    rcases Nat.lt_or_ge b.length f.length with hshort | hlong
    · exact ⟨[], f :: frames, b, rfl, rfl, h, by simpa using hshort⟩
    · rw [List.flatten_cons] at h
      obtain ⟨later, rfl⟩ := List.prefix_of_prefix_length_le (List.prefix_append _ _) h hlong
      obtain ⟨whole, rest, part, rfl, rfl, hpart⟩ :=
        ih later ((List.prefix_append_right_inj f).mp h)
      exact ⟨f :: whole, rest, part, rfl, by simp, hpart⟩

/-- As long as less than what is wanted has come in, there is no whole frame. -/
lemma Awaited.extend {part bytes : Bytes} {rest : List Bytes} (hrest : ∀ f ∈ rest, IsFrame f)
    (h : Awaited part rest) (hfront : part ++ bytes <+: rest.flatten)
    (hfew : (part ++ bytes).length < Framing.wanted part) : Awaited (part ++ bytes) rest := by
  refine ⟨hfront, fun next hnext => hfew.trans_le ?_⟩
  cases rest with
  | nil => cases hnext
  | cons f rest =>
    obtain rfl : f = next := by simpa using hnext
    exact (wanted_of_front (hrest f (by simp)) h.front).2.1

/-- As long as less than what is wanted has come in, no more than that is wanted. -/
lemma Awaited.wanted_append {part bytes : Bytes} {rest : List Bytes}
    (hrest : ∀ f ∈ rest, IsFrame f) (h : Awaited part rest)
    (hfront : part ++ bytes <+: rest.flatten)
    (hfew : (part ++ bytes).length < Framing.wanted part) :
    Framing.wanted (part ++ bytes) = Framing.wanted part := by
  rcases Nat.lt_or_ge part.length headerSize with hshort | hlong
  · have hheader : Framing.wanted part = headerSize := if_pos hshort
    rw [hheader]
    exact if_pos (hheader ▸ hfew)
  · cases rest with
    | nil => simp [List.prefix_nil.mp h.1, headerSize] at hlong
    | cons f rest =>
      have hf := hrest f (by simp)
      have hmore := (h.extend hrest hfront hfew).front
      rw [(wanted_of_front hf h.front).2.2 hlong,
        (wanted_of_front hf hmore).2.2 (by rw [List.length_append]; omega)]

/-! ### What the service does with it -/

/-- A frame that is sent becomes one chunk. -/
lemma ofAll_of_isFrame {f : Bytes} (hf : IsFrame f) : SendRequest.ofAll f = .chunk f := by
  simp [SendRequest.ofAll, SendRequest.ofPart, SendRequest.ofChunk, hf.ne_nil]

/-- A frame at the front is removed and posted, and a header is waited for. -/
lemma serve_frame {d : TcpDriver} (hphase : d.phase = .receiving)
    (hopen : d.mailbox.isOpen = true) {f later : Bytes} (hf : IsFrame f)
    (hdata : d.received.data = f ++ later) :
    serve d =
      let next : TcpDriver := { d with
        received := { data := later, watermark := headerSize }
        mailbox := { d.mailbox with posted := d.mailbox.posted ++ [.send f] } }
      ((serve next).1, (serve next).2.1,
        [.removed d.id f, .posted d.id f] ++ (serve next).2.2) := by
  have hsize : d.received.size = f.length + later.length := by
    simp [ReceiveBuffer.size, hdata]
  have htwo : headerSize ≤ f.length := hf.1
  have hheader : d.received.copy? headerSize = some (f.take headerSize) := by
    simp [ReceiveBuffer.copy?, hsize, hdata, List.take_append_of_le_length htwo,
      htwo.trans (Nat.le_add_right _ _)]
  have htake : d.take f.length = (some f,
      { d with received := { data := later, watermark := d.received.watermark } },
      [.removed d.id f]) := by
    rw [take_of_le hphase (by omega)]
    simp [ReceiveBuffer.consume, hdata]
  have hlength := hf.toNat_take
  rw [serve]
  simp only [hheader]
  rw [dif_neg (by omega), if_neg (by omega)]
  split
  · rename_i hnone
    simp [hlength, htake] at hnone
  · rename_i taken hsome
    obtain rfl : f = taken := by simpa [hlength, htake] using hsome
    simp [hlength, htake, ofAll_of_isFrame hf, request, Mailbox.post, hopen, setMark, hphase,
      ReceiveBuffer.setWatermark, TcpDriver.id]

/-- Told of some frames and the front of another one, the service removes and posts each of the
frames, leaves the front and waits for what it wants. -/
theorem serve_eq {d : TcpDriver} (hphase : d.phase = .receiving)
    (hopen : d.mailbox.isOpen = true) (hreserved : d.received.reserved = [])
    {whole : List Bytes} (hwhole : ∀ f ∈ whole, IsFrame f) {part : Bytes}
    (hdata : d.received.data = whole.flatten ++ part) (hheader : headerSize ≤ wanted part)
    (hpart : part.length < wanted part) :
    serve d = (true,
      { d with
        received := { data := part, watermark := wanted part }
        mailbox := { d.mailbox with posted := d.mailbox.posted ++ whole.map .send } },
      whole.flatMap fun f => [.removed d.id f, .posted d.id f]) := by
  induction whole generalizing d with
  | nil =>
    obtain rfl : d.received.data = part := by simpa using hdata
    have hreceived (mark : Nat) : d.received.setWatermark mark =
        { data := d.received.data, watermark := mark } := by
      simp [ReceiveBuffer.setWatermark, ← hreserved]
    unfold serve
    by_cases hshort : d.received.data.length < headerSize
    · have hwanted : wanted d.received.data = headerSize := if_pos hshort
      have hnone : d.received.copy? headerSize = none :=
        (ReceiveBuffer.copy?_eq_none_iff _ _).mpr hshort
      simp [hnone, setMark, hphase, hreceived, hwanted]
    · have hwanted : wanted d.received.data = Bytes.toNat (d.received.data.take headerSize) :=
        if_neg hshort
      have hsome : d.received.copy? headerSize = some (d.received.data.take headerSize) :=
        if_pos (Nat.le_of_not_lt hshort)
      have hlength : ¬ Bytes.toNat (d.received.data.take headerSize) < headerSize := by
        rw [← hwanted]
        exact Nat.not_lt.mpr hheader
      have hfew : d.received.size < Bytes.toNat (d.received.data.take headerSize) := hwanted ▸ hpart
      simp [hsome, hlength, hfew, setMark, hphase, hreceived, hwanted]
  | cons f whole ih =>
    have hf : IsFrame f := hwhole f (by simp)
    have hfront : d.received.data = f ++ (whole.flatten ++ part) := by
      rw [hdata, List.flatten_cons, List.append_assoc]
    have hfirst := serve_frame hphase hopen hf hfront
    have hlater := ih (d := { d with
        received := { data := whole.flatten ++ part, watermark := headerSize }
        mailbox := { d.mailbox with posted := d.mailbox.posted ++ [.send f] } })
      hphase hopen rfl (fun g hg => hwhole g (List.mem_cons_of_mem _ hg)) rfl
    simp [hfirst, hlater, TcpDriver.id]

/-! ### A driver with the service is a driver -/

/-- The service does what a driver can be told to do. -/
lemma exists_run_serve (d : TcpDriver) : ∃ fs, (serve d).2 = d.run fs := by
  fun_induction serve d with
  | case1 d hnone =>
    exact ⟨[.setMark headerSize], by simp [TcpDriver.run, TcpDriver.step, Noted.andThen]⟩
  | case2 d => exact ⟨[], rfl⟩
  | case3 d header hsome length =>
    exact ⟨[.setMark length], by simp [TcpDriver.run, TcpDriver.step, Noted.andThen]⟩
  | case4 d header hsome length =>
    exact ⟨[.take length], by simp [TcpDriver.run, TcpDriver.step, Noted.andThen]⟩
  | case5 d header hsome length hlong henough whole htaken taken sent hsent next shorter later ih =>
    obtain ⟨fs, hfs⟩ := ih
    refine ⟨.take length :: .request (.ofAll whole) :: .setMark headerSize :: fs, ?_⟩
    simp [TcpDriver.run, TcpDriver.step, Noted.andThen, later, hfs, next, sent, taken]
  | case6 d header hsome length hlong henough whole htaken taken sent hsent =>
    exact ⟨[.take length, .request (.ofAll whole)],
      by simp [TcpDriver.run, TcpDriver.step, Noted.andThen, sent, taken]⟩

/-- So do its answers. -/
lemma exists_run_answer (d : TcpDriver) : ∃ fs, answer d = d.run fs := by
  unfold answer
  split
  · exact ⟨[.requestMark headerSize, .returned true],
      by simp [TcpDriver.run, TcpDriver.step, Noted.andThen]⟩
  · obtain ⟨fs, hfs⟩ := exists_run_serve d
    refine ⟨fs ++ [.returned (serve d).1], ?_⟩
    rw [run_append, ← hfs]
    simp [TcpDriver.run, TcpDriver.step, Noted.andThen]
  · exact ⟨[.returned true], by simp [TcpDriver.run, TcpDriver.step, Noted.andThen]⟩
  · exact ⟨[.returned true], by simp [TcpDriver.run, TcpDriver.step, Noted.andThen]⟩
  · exact ⟨[], rfl⟩

/-- A run of a driver with the service is a run of the driver, with what the service does in its
place. -/
theorem exists_run (d : TcpDriver) (es : List Event) : ∃ fs, run d es = d.run fs := by
  induction es generalizing d with
  | nil => exact ⟨[], rfl⟩
  | cons e es ih =>
    obtain ⟨answers, hanswers⟩ := exists_run_answer (d.step e).1
    obtain ⟨later, hlater⟩ := ih (step d e).1
    refine ⟨e :: (answers ++ later), ?_⟩
    have hboth := run_append (d.step e).1 answers later
    rw [← hanswers] at hboth
    simp only [step, Noted.andThen] at hlater
    simp [run, TcpDriver.run, step, Noted.andThen, hboth, hlater]

end Tcp.Framing

end Switchboard
