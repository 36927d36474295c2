import Mathlib.Algebra.Ring.Nat
import Mathlib.Tactic.Common
import Switchboard.Buffer.Send
import Switchboard.Proofs.Dialogue

/-!
# Draining a send queue

A send queue shortens its front chunk in place, as often as the socket takes over a part of it.  The
same can be said without touching a chunk: a `SendQueue.Cursor` keeps all chunks that were ever
pushed and points at the first byte that is still to be sent.  Queue and cursor answer every request
alike, and what is ahead of the cursor is what the queue holds (`SendQueue.Points`), so no byte is
lost, doubled or moved by any sequence of requests (`SendQueue.Accounted`).

The second half is about a queue that is written out while more is pushed.  Each write takes over
what the socket likes, but at least a byte if there is one (`SendQueue.Accepts`).  What was taken
over, cut behind each write that the queue says was the last one of its chunk, gives the chunks back
as they were pushed (`SendQueue.cut_written`), and with each write there is less to do
(`SendQueue.work`).
-/

namespace Switchboard.SendQueue

/-! ### Requests -/

/-- What a queue of chunks can be asked to do. -/
inductive Request where
  /-- To append a chunk. -/
  | push (chunk : Bytes)
  /-- To record that so many bytes of the front chunk were accepted. -/
  | advance (n : Nat)
  /-- To give up what is left of the front chunk. -/
  | pop
  /-- To give up everything. -/
  | clear
  deriving DecidableEq

/-- What a queue of chunks answers. -/
inductive Answer where
  /-- Whether the queue was empty, or the front chunk is through. -/
  | told (yes : Bool)
  /-- What was at the front. -/
  | entry (chunk : Option Bytes)
  /-- Nothing. -/
  | done
  deriving DecidableEq

/-- The chunk that is pushed by a request. -/
def Request.pushed? : Request → Option Bytes
  | push chunk => some chunk
  | _ => none

/-- All chunks that are pushed by requests. -/
def pushes (requests : List Request) : List Bytes := requests.filterMap Request.pushed?

/-- Does what a queue is asked to do. -/
def perform (q : SendQueue Bytes) : Request → SendQueue Bytes × Answer
  | .push chunk =>
    let (q, first) := q.append chunk
    (q, .told first)
  | .advance n =>
    let (q, through) := q.advance n
    (q, .told through)
  | .pop => (q.pop, .entry q.front?)
  | .clear => (.empty, .done)

/-! ### A cursor into all that was pushed -/

/-- All chunks that were ever pushed, and the first byte that is still to be sent. -/
structure Cursor where
  /-- The chunks. -/
  pushed : List Bytes := []
  /-- How many of them are through. -/
  chunk : Nat := 0
  /-- How many bytes of the next one are. -/
  offset : Nat := 0

namespace Cursor

/-- The chunk that the cursor points into. -/
def front? (c : Cursor) : Option Bytes := c.pushed[c.chunk]?

/-- Goes on to the next chunk. -/
def next (c : Cursor) : Cursor := { c with chunk := c.chunk + 1, offset := 0 }

/-- The bytes behind the cursor. -/
def behind (c : Cursor) : Bytes :=
  (c.pushed.take c.chunk).flatten ++ (c.front?.getD []).take c.offset

/-- The chunks ahead of the cursor, the first one from the cursor on. -/
def ahead (c : Cursor) : List Bytes := (c.pushed.drop c.chunk).modifyHead (·.drop c.offset)

/-- Does what a queue is asked to do by moving on: within a chunk at most to its end, and past it as
soon as the end is reached. -/
def perform (c : Cursor) : Request → Cursor × Answer
  | .push chunk =>
    ({ c with pushed := c.pushed ++ [chunk] }, .told (c.chunk = c.pushed.length))
  | .advance n =>
    match c.front? with
    | none => (c, .told false)
    | some chunk =>
      let offset := min (c.offset + n) chunk.length
      if offset = chunk.length then (c.next, .told true) else ({ c with offset }, .told false)
  | .pop =>
    match c.front? with
    | none => (c, .entry none)
    | some chunk => (c.next, .entry (some (chunk.drop c.offset)))
  | .clear => ({ c with chunk := c.pushed.length, offset := 0 }, .done)

/-- What is behind and what is ahead make up all that was pushed. -/
lemma behind_append_ahead (c : Cursor) : c.behind ++ c.ahead.flatten = c.pushed.flatten := by
  have hsplit : (c.pushed.take c.chunk).flatten ++ (c.pushed.drop c.chunk).flatten =
      c.pushed.flatten := by
    rw [← List.flatten_append, List.take_append_drop]
  have hfront : c.front? = (c.pushed.drop c.chunk).head? := by
    rw [front?, List.head?_drop]
  rw [behind, ahead, ← hsplit, hfront, List.append_assoc]
  cases c.pushed.drop c.chunk with
  | nil => simp
  | cons chunk later => simp [← List.append_assoc]

/-- Only what is pushed is added. -/
lemma pushed_perform (c : Cursor) (r : Request) :
    (c.perform r).1.pushed = c.pushed ++ r.pushed?.toList := by
  cases r with
  | push chunk => rfl
  | advance n =>
    simp only [perform]
    split
    · exact (List.append_nil _).symm
    · split <;> exact (List.append_nil _).symm
  | pop =>
    simp only [perform]
    split <;> exact (List.append_nil _).symm
  | clear => exact (List.append_nil _).symm

/-- Over a dialogue the chunks that are pushed are added one after the other. -/
lemma pushed_run (c : Cursor) (requests : List Request) :
    (Dialogue.run perform c requests).1.pushed = c.pushed ++ pushes requests := by
  induction requests generalizing c with
  | nil => exact (List.append_nil _).symm
  | cons r rs ih =>
    rw [Dialogue.run_cons, ih, pushed_perform, List.append_assoc, pushes, pushes]
    cases r <;> rfl

end Cursor

/-- A cursor and a queue that stand for each other. -/
inductive Points : Cursor → SendQueue Bytes → Prop where
  /-- Everything is through. -/
  | atEnd (pushed : List Bytes) : Points ⟨pushed, pushed.length, 0⟩ ⟨[]⟩
  /-- A chunk is under way, of which something is left unless there was nothing in it. -/
  | within (gone : List Bytes) (chunk : Bytes) (later : List Bytes) (offset : Nat)
      (inside : offset = 0 ∨ offset < chunk.length) :
      Points ⟨gone ++ chunk :: later, gone.length, offset⟩ ⟨chunk.drop offset :: later⟩

/-- Behind a chunk the next one is under way, untouched. -/
lemma Points.next (gone : List Bytes) (chunk : Bytes) (later : List Bytes) :
    Points ⟨gone ++ chunk :: later, gone.length + 1, 0⟩ ⟨later⟩ := by
  have hlength : (gone ++ [chunk]).length = gone.length + 1 := List.length_append
  cases later with
  | nil =>
    have h := Points.atEnd (gone ++ [chunk])
    rwa [hlength] at h
  | cons chunk' later =>
    have h := Points.within (gone ++ [chunk]) chunk' later 0 (.inl rfl)
    rwa [hlength, List.append_assoc] at h

/-- Whatever they are asked, cursor and queue answer the same and go on standing for each other. -/
lemma simulates_points : Dialogue.Simulates Cursor.perform perform Points := by
  intro c q h r
  cases h with
  | atEnd pushed =>
    have hnone : pushed[pushed.length]? = none := List.getElem?_eq_none (Nat.le_refl _)
    cases r with
    | push chunk =>
      exact ⟨by simp [Cursor.perform, perform, append, isEmpty],
        .within pushed chunk [] 0 (.inl rfl)⟩
    | advance n =>
      simp only [Cursor.perform, Cursor.front?, hnone]
      exact ⟨rfl, .atEnd pushed⟩
    | pop =>
      simp only [Cursor.perform, Cursor.front?, hnone]
      exact ⟨rfl, .atEnd pushed⟩
    | clear => exact ⟨rfl, .atEnd pushed⟩
  | within gone chunk later offset inside =>
    have hfront : (gone ++ chunk :: later)[gone.length]? = some chunk := by simp
    cases r with
    | push new =>
      have hlater : gone ++ chunk :: later ++ [new] = gone ++ chunk :: (later ++ [new]) := by simp
      refine ⟨by simp [Cursor.perform, perform, append, isEmpty], ?_⟩
      simp only [Cursor.perform, hlater]
      exact .within gone chunk (later ++ [new]) offset inside
    | advance n =>
      simp only [Cursor.perform, Cursor.front?, hfront, perform, advance, List.length_drop,
        List.drop_drop]
      by_cases hthrough : chunk.length ≤ offset + n
      · rw [if_pos (Nat.min_eq_right hthrough), if_pos (by omega)]
        exact ⟨rfl, .next gone chunk later⟩
      · have hinside : offset + n < chunk.length := Nat.lt_of_not_le hthrough
        rw [Nat.min_eq_left (Nat.le_of_lt hinside), if_neg (Nat.ne_of_lt hinside),
          if_neg (by omega)]
        exact ⟨rfl, .within gone chunk later (offset + n) (.inr hinside)⟩
    | pop =>
      simp only [Cursor.perform, Cursor.front?, hfront]
      exact ⟨rfl, .next gone chunk later⟩
    | clear => exact ⟨rfl, .atEnd _⟩

/-- What the queue holds is what is ahead of the cursor. -/
lemma Points.entries {c : Cursor} {q : SendQueue Bytes} (h : Points c q) :
    q.entries = c.ahead := by
  cases h with
  | atEnd pushed => simp [Cursor.ahead]
  | within gone chunk later offset inside => simp [Cursor.ahead]

/-- What is unwritten is the rest of the chunk that the cursor points into. -/
lemma Points.unwritten {c : Cursor} {q : SendQueue Bytes} (h : Points c q) :
    q.unwritten = (c.front?.getD []).drop c.offset := by
  cases h with
  | atEnd pushed => simp [Cursor.front?, SendQueue.unwritten, SendQueue.front?]
  | within gone chunk later offset inside =>
    simp [Cursor.front?, SendQueue.unwritten, SendQueue.front?]

/-- With the bytes that are accepted the cursor moves on by as many, and no further than the front
chunk goes. -/
lemma Points.behind_advance {c : Cursor} {q : SendQueue Bytes} (h : Points c q) (n : Nat) :
    (c.perform (.advance n)).1.behind = c.behind ++ q.unwritten.take n := by
  obtain ⟨-, hnext⟩ := simulates_points h (.advance n)
  have hbefore := c.behind_append_ahead
  have hafter := (c.perform (.advance n)).1.behind_append_ahead
  rw [← h.entries] at hbefore
  rw [← hnext.entries, c.pushed_perform] at hafter
  have hsplit : q.unwritten.take n ++ (q.advance n).1.entries.flatten = q.entries.flatten :=
    q.take_append_bytes_advance n
  rw [← hsplit, ← List.append_assoc] at hbefore
  have hpushed : c.pushed ++ (Request.advance n).pushed?.toList = c.pushed := List.append_nil _
  rw [hpushed] at hafter
  exact List.append_cancel_right (hafter.trans hbefore.symm)

/-! ### Any requests -/

/-- What holds of a queue after some requests, with the cursor that was asked the same. -/
structure Accounted (requests : List Request) (q : SendQueue Bytes × List Answer)
    (c : Cursor × List Answer) : Prop where
  /-- The queue has answered as the cursor has. -/
  answers : q.2 = c.2
  /-- The cursor points into all that was pushed. -/
  pushed : c.1.pushed = pushes requests
  /-- The queue holds what is ahead of the cursor. -/
  entries : q.1.entries = c.1.ahead
  /-- What is unwritten is the rest of the front chunk. -/
  unwritten : q.1.unwritten = (c.1.front?.getD []).drop c.1.offset
  /-- What is behind the cursor, with what waits, is all that was pushed. -/
  conserved : c.1.behind ++ q.1.bytes = (pushes requests).flatten
  /-- What waits is counted. -/
  queued : q.1.queuedBytes = (q.1.entries.map List.length).sum ∧
    c.1.behind.length + q.1.queuedBytes = (pushes requests).flatten.length
  /-- Accepting bytes removes as many of the front chunk, or all there are, and leaves the chunks
  behind it alone; it tells that the chunk is through if no byte of it is left. -/
  advances : ∀ n, (c.1.perform (.advance n)).1.behind = c.1.behind ++ q.1.unwritten.take n ∧
    (q.1.entries ≠ [] → (q.1.advance n).1.entries =
      (if (q.1.advance n).2 then [] else [q.1.unwritten.drop n]) ++ q.1.entries.tail) ∧
    ((q.1.advance n).2 = true ↔ q.1.entries ≠ [] ∧ q.1.unwritten.drop n = [])
  /-- Pushing tells whether nothing waited. -/
  pushes : ∀ chunk, (q.1.perform (.push chunk)).2 = .told (decide (q.1.entries = []))

/-- What accepting bytes does to the front chunk. -/
lemma advance_eq (q : SendQueue Bytes) (n : Nat) :
    (q.entries ≠ [] → (q.advance n).1.entries =
        (if (q.advance n).2 then [] else [q.unwritten.drop n]) ++ q.entries.tail) ∧
      ((q.advance n).2 = true ↔ q.entries ≠ [] ∧ q.unwritten.drop n = []) := by
  rcases q with ⟨_ | ⟨chunk, later⟩⟩
  · simp [advance]
  · by_cases hthrough : chunk.length ≤ n
    · simp [advance, hthrough, SendQueue.unwritten, SendQueue.front?]
    · simp [advance, hthrough, SendQueue.unwritten, SendQueue.front?]

/-- After any requests everything that was pushed is accounted for. -/
theorem accounted (requests : List Request) :
    Accounted requests (Dialogue.run perform {} requests)
      (Dialogue.run Cursor.perform {} requests) := by
  have hstart : Points {} {} := .atEnd []
  obtain ⟨hanswers, hpoints⟩ := simulates_points.run hstart requests
  have hpushed : (Dialogue.run Cursor.perform {} requests).1.pushed = pushes requests :=
    Cursor.pushed_run {} requests
  have hconserved := (Dialogue.run Cursor.perform {} requests).1.behind_append_ahead
  rw [← hpoints.entries, hpushed] at hconserved
  constructor
  case answers => exact hanswers.symm
  case pushed => exact hpushed
  case entries => exact hpoints.entries
  case unwritten => exact hpoints.unwritten
  case conserved => exact hconserved
  case queued =>
    rw [queuedBytes_eq_length_bytes]
    exact ⟨List.length_flatten, by rw [← hconserved, List.length_append]; rfl⟩
  case advances => exact fun n => ⟨hpoints.behind_advance n, advance_eq _ n⟩
  case pushes =>
    intro chunk
    have hempty : (Dialogue.run perform {} requests).1.isEmpty =
        decide ((Dialogue.run perform {} requests).1.entries = []) := by
      rw [isEmpty, Bool.eq_iff_iff, List.isEmpty_iff, decide_eq_true_iff]
    rw [← hempty]
    rfl

/-! ### Writing out -/

/-- Whether a request is one of an owner that pushes and writes out: a write takes over at least a
byte of the front chunk, if there is one, and no more than there are. -/
def Accepts (q : SendQueue Bytes) : Request → Prop
  | .push _ => True
  | .advance n => q.entries ≠ [] ∧ n ≤ q.unwritten.length ∧ (q.unwritten ≠ [] → 0 < n)
  | .pop | .clear => False

/-- Whether all requests are such ones. -/
def Writes (q : SendQueue Bytes) : List Request → Prop
  | [] => True
  | r :: rs => q.Accepts r ∧ Writes (q.perform r).1 rs

instance decidableAccepts (q : SendQueue Bytes) : (r : Request) → Decidable (q.Accepts r)
  | .push _ => inferInstanceAs (Decidable True)
  | .advance n => inferInstanceAs
      (Decidable (q.entries ≠ [] ∧ n ≤ q.unwritten.length ∧ (q.unwritten ≠ [] → 0 < n)))
  | .pop => inferInstanceAs (Decidable False)
  | .clear => inferInstanceAs (Decidable False)

instance decidableWrites : (q : SendQueue Bytes) → (rs : List Request) → Decidable (q.Writes rs)
  | _, [] => inferInstanceAs (Decidable True)
  | q, r :: rs =>
    have := decidableWrites (q.perform r).1 rs
    inferInstanceAs (Decidable (q.Accepts r ∧ Writes (q.perform r).1 rs))

/-- What the writes among some requests take over, each with whether its chunk was through then. -/
def written (q : SendQueue Bytes) : List Request → List (Bytes × Bool)
  | [] => []
  | .advance n :: rs => (q.unwritten.take n, (q.advance n).2) :: written (q.advance n).1 rs
  | r :: rs => written (q.perform r).1 rs

/-- Cuts what was taken over behind the writes that brought a chunk to its end; what was taken over
of the chunk that is under way comes last, to which a first part is given. -/
def cut (part : Bytes) : List (Bytes × Bool) → List Bytes × Bytes
  | [] => ([], part)
  | (piece, false) :: ws => cut (part ++ piece) ws
  | (piece, true) :: ws => ((part ++ piece) :: (cut [] ws).1, (cut [] ws).2)

/-- How much there is to do for chunks: a write for each byte, and one for a chunk with none. -/
def effort (chunks : List Bytes) : Nat := (chunks.map fun chunk => max 1 chunk.length).sum

/-- How much there is to do. -/
def work (q : SendQueue Bytes) : Nat := effort q.entries

/-- How many chunks have bytes in them. -/
def filled (chunks : List Bytes) : Nat := chunks.countP (· ≠ [])

/-- How many writes brought a chunk to its end that had bytes in them. -/
def completions (writes : List (Bytes × Bool)) : Nat := writes.countP fun w => w.2 ∧ w.1 ≠ []

/-- A write that is accepted brings the front chunk to its end, of which it takes over what is left,
or leaves some of it. -/
lemma Accepts.advance_cases {chunk : Bytes} {later : List Bytes} {n : Nat}
    (h : Accepts ⟨chunk :: later⟩ (.advance n)) :
    (n = chunk.length ∧ advance ⟨chunk :: later⟩ n = (⟨later⟩, true)) ∨
      (0 < n ∧ n < chunk.length ∧
        advance ⟨chunk :: later⟩ n = (⟨chunk.drop n :: later⟩, false)) := by
  obtain ⟨-, hle, hpos⟩ := h
  change n ≤ chunk.length at hle
  change chunk ≠ [] → 0 < n at hpos
  rcases Nat.eq_or_lt_of_le hle with heq | hlt
  · exact .inl ⟨heq, if_pos (Nat.le_of_eq heq.symm)⟩
  · have hne : chunk ≠ [] := List.ne_nil_of_length_pos (Nat.lt_of_le_of_lt (Nat.zero_le n) hlt)
    exact .inr ⟨hpos hne, hlt, if_neg (Nat.not_le_of_lt hlt)⟩

/-- An owner that pushes and writes out keeps a relation between the queue, what it pushes and what
is taken over if it holds when nothing is asked and is kept by a push, by a write that ends a chunk
and by one that does not.  The requests are told from behind: the relation is that of the requests
still to come. -/
lemma Writes.induction
    {motive : SendQueue Bytes → List Bytes → List (Bytes × Bool) → SendQueue Bytes → Prop}
    (nothing : ∀ q, motive q [] [] q)
    (push : ∀ entries chunk chunks ws last, motive ⟨entries ++ [chunk]⟩ chunks ws last →
      motive ⟨entries⟩ (chunk :: chunks) ws last)
    (ends : ∀ chunk later chunks ws last, motive ⟨later⟩ chunks ws last →
      motive ⟨chunk :: later⟩ chunks ((chunk, true) :: ws) last)
    (goesOn : ∀ n chunk later chunks ws last, 0 < n → n < chunk.length →
      motive ⟨chunk.drop n :: later⟩ chunks ws last →
      motive ⟨chunk :: later⟩ chunks ((chunk.take n, false) :: ws) last)
    {q : SendQueue Bytes} {requests : List Request} (h : q.Writes requests) :
    motive q (pushes requests) (q.written requests) (Dialogue.run perform q requests).1 := by
  induction requests generalizing q with
  | nil => exact nothing q
  | cons r rs ih =>
    obtain ⟨haccepts, hrest⟩ := h
    have hnext := ih hrest
    rw [Dialogue.run_cons]
    cases r with
    | push chunk => exact push q.entries chunk _ _ _ hnext
    | advance n =>
      rcases q with ⟨_ | ⟨chunk, later⟩⟩
      · exact absurd rfl haccepts.1
      · have hpushes : pushes (.advance n :: rs) = pushes rs := rfl
        simp only [perform] at hnext ⊢
        rw [hpushes, written]
        rcases haccepts.advance_cases with ⟨hall, hadvance⟩ | ⟨hpos, hlt, hadvance⟩
        · rw [hadvance] at hnext ⊢
          have htake : (SendQueue.mk (chunk :: later)).unwritten.take n = chunk := by
            rw [hall]
            exact List.take_length
          rw [htake]
          exact ends chunk later _ _ _ hnext
        · rw [hadvance] at hnext ⊢
          exact goesOn n chunk later _ _ _ hpos hlt hnext
    | pop => exact haccepts.elim
    | clear => exact haccepts.elim

/-- What was taken over, with what still waits, is what waited and what is pushed, in order. -/
lemma written_append_bytes {q : SendQueue Bytes} {requests : List Request} (h : q.Writes requests) :
    ((q.written requests).map Prod.fst).flatten ++ (Dialogue.run perform q requests).1.bytes =
      q.bytes ++ (pushes requests).flatten := by
  refine h.induction (motive := fun q chunks ws last =>
    (ws.map Prod.fst).flatten ++ last.bytes = q.bytes ++ chunks.flatten)
    ?nothing ?push ?ends ?goesOn
  case nothing => exact fun q => (List.append_nil _).symm
  case push =>
    intro entries chunk chunks ws last ih
    rw [ih]
    simp [bytes]
  case ends =>
    intro chunk later chunks ws last ih
    rw [List.map_cons, List.flatten_cons, List.append_assoc, ih, ← List.append_assoc]
    rfl
  case goesOn =>
    intro n chunk later chunks ws last _ _ ih
    rw [List.map_cons, List.flatten_cons, List.append_assoc, ih]
    simp only [bytes, List.flatten_cons, ← List.append_assoc, List.take_append_drop]

/-- What was taken over, cut where chunks were through, with what is left of the chunks, gives them
back as they were pushed.  A chunk is under way only while chunks wait. -/
lemma cut_written {q : SendQueue Bytes} {requests : List Request} (h : q.Writes requests)
    {part : Bytes} (hpart : q.entries = [] → part = []) :
    let pieces := cut part (q.written requests)
    let last := (Dialogue.run perform q requests).1
    pieces.1 ++ last.entries.modifyHead (pieces.2 ++ ·) =
        (q.entries ++ pushes requests).modifyHead (part ++ ·) ∧
      (last.entries = [] → pieces.2 = []) := by
  refine h.induction (motive := fun q chunks ws last =>
    ∀ part, (q.entries = [] → part = []) →
      (cut part ws).1 ++ last.entries.modifyHead ((cut part ws).2 ++ ·) =
          (q.entries ++ chunks).modifyHead (part ++ ·) ∧
        (last.entries = [] → (cut part ws).2 = [])) ?nothing ?push ?ends ?goesOn part hpart
  case nothing =>
    intro q part hpart
    rw [List.append_nil]
    exact ⟨rfl, hpart⟩
  case push =>
    intro entries chunk chunks ws last ih part hpart
    have hsplit : entries ++ chunk :: chunks = entries ++ [chunk] ++ chunks := by
      rw [List.append_assoc, List.singleton_append]
    rw [hsplit]
    exact ih part (fun hnil => absurd hnil (by simp))
  case ends =>
    intro chunk later chunks ws last ih part _
    obtain ⟨hwhole, hrest⟩ := ih [] (fun _ => rfl)
    refine ⟨?_, hrest⟩
    have hsame : (later ++ chunks).modifyHead ([] ++ ·) = later ++ chunks :=
      congrFun (List.modifyHead_id) _
    rw [cut, List.cons_append, hwhole, hsame]
    rfl
  case goesOn =>
    intro n chunk later chunks ws last _ _ ih part _
    obtain ⟨hwhole, hrest⟩ := ih (part ++ chunk.take n) (fun hnil => absurd hnil (by simp))
    refine ⟨hwhole.trans ?_, hrest⟩
    simp [List.append_assoc]

/-- The chunks with bytes that were brought to their end, with those that wait, are those that were
pushed. -/
lemma completions_written {q : SendQueue Bytes} {requests : List Request} (h : q.Writes requests) :
    completions (q.written requests) + filled (Dialogue.run perform q requests).1.entries =
      filled q.entries + filled (pushes requests) := by
  refine h.induction (motive := fun q chunks ws last =>
    completions ws + filled last.entries = filled q.entries + filled chunks)
    ?nothing ?push ?ends ?goesOn
  case nothing => exact fun q => Nat.add_comm _ _
  case push =>
    intro entries chunk chunks ws last ih
    rw [ih]
    simp only [filled, List.countP_append, List.countP_cons, List.countP_nil]
    omega
  case ends =>
    intro chunk later chunks ws last ih
    simp only [completions, filled, List.countP_cons] at ih ⊢
    simp only [true_and]
    omega
  case goesOn =>
    intro n chunk later chunks ws last hpos hlt ih
    have hleft : chunk.drop n ≠ [] := by
      rw [Ne, List.drop_eq_nil_iff]
      omega
    have hchunk : chunk ≠ [] := List.ne_nil_of_length_pos (by omega)
    simp only [completions, filled, List.countP_cons] at ih ⊢
    simpa [hleft, hchunk] using ih

/-- With each write there is less to do, and with each push no more than the chunk takes. -/
lemma length_written_add_work {q : SendQueue Bytes} {requests : List Request}
    (h : q.Writes requests) :
    (q.written requests).length + (Dialogue.run perform q requests).1.work ≤
      q.work + effort (pushes requests) := by
  refine h.induction (motive := fun q chunks ws last =>
    ws.length + last.work ≤ q.work + effort chunks) ?nothing ?push ?ends ?goesOn
  case nothing => exact fun q => Nat.le_of_eq (Nat.add_comm _ _)
  case push =>
    intro entries chunk chunks ws last ih
    simp only [work, effort, List.map_append, List.sum_append, List.map_cons, List.sum_cons,
      List.map_nil, List.sum_nil] at ih ⊢
    omega
  case ends =>
    intro chunk later chunks ws last ih
    have hone : 1 ≤ max 1 chunk.length := Nat.le_max_left _ _
    simp only [work, effort, List.map_cons, List.sum_cons, List.length_cons] at ih ⊢
    omega
  case goesOn =>
    intro n chunk later chunks ws last hpos hlt ih
    simp only [work, effort, List.map_cons, List.sum_cons, List.length_cons,
      List.length_drop] at ih ⊢
    omega

/-- What holds of a queue that is written out while chunks are pushed. -/
structure Drains (requests : List Request) (writes : List (Bytes × Bool))
    (q : SendQueue Bytes) : Prop where
  /-- The bytes taken over, with those that wait, are the bytes pushed, in order. -/
  order : (writes.map Prod.fst).flatten ++ q.bytes = (pushes requests).flatten
  /-- Cut where chunks were through, and with what waits, they are the chunks. -/
  whole : (cut [] writes).1 ++ q.entries.modifyHead ((cut [] writes).2 ++ ·) = pushes requests
  /-- A chunk with bytes either waits or was brought to its end by one write with bytes. -/
  told : completions writes + filled q.entries = filled (pushes requests)
  /-- There are no more writes than there was to do for the chunks. -/
  bounded : writes.length + q.work ≤ effort (pushes requests)
  /-- While chunks wait there is a write that is accepted. -/
  goesOn : q.entries ≠ [] → ∃ n, q.Accepts (.advance n)
  /-- Further writes without a push come to an end. -/
  ends : ∀ later, q.Writes later → pushes later = [] → (q.written later).length ≤ q.work
  /-- Once nothing waits the bytes are taken over in order, the chunks are told to be through one by
  one, and those with bytes by as many writes with bytes. -/
  through : q.entries = [] → (writes.map Prod.fst).flatten = (pushes requests).flatten ∧
    cut [] writes = (pushes requests, []) ∧ completions writes = filled (pushes requests)

/-- The queue of an owner that pushes and writes out drains. -/
lemma Writes.drains {requests : List Request} (h : empty.Writes requests) :
    Drains requests (empty.written requests) (Dialogue.run perform empty requests).1 := by
  have horder := written_append_bytes h
  obtain ⟨hwhole, hrest⟩ := @cut_written _ _ h [] fun _ => rfl
  have hsame : (pushes requests).modifyHead ([] ++ ·) = pushes requests :=
    congrFun List.modifyHead_id _
  have htold := completions_written h
  have hbounded := length_written_add_work h
  rw [show filled (empty : SendQueue Bytes).entries = 0 from rfl, Nat.zero_add] at htold
  rw [show (empty : SendQueue Bytes).work = 0 from rfl, Nat.zero_add] at hbounded
  constructor
  case order => exact horder
  case whole => exact hwhole.trans hsame
  case told => exact htold
  case bounded => exact hbounded
  case goesOn =>
    intro hne
    refine ⟨_, hne, Nat.le_refl _, fun hbytes => ?_⟩
    exact List.length_pos_iff.mpr hbytes
  case ends =>
    intro later hlater hpushes
    have hle := length_written_add_work hlater
    rw [hpushes] at hle
    exact Nat.le_trans (Nat.le_add_right _ _) hle
  case through =>
    intro hnil
    have hparts : cut [] (empty.written requests) = (pushes requests, []) := by
      rw [hnil, List.modifyHead_nil, List.append_nil] at hwhole
      exact Prod.ext (hwhole.trans hsame) (hrest hnil)
    rw [bytes, hnil, List.flatten_nil, List.append_nil] at horder
    rw [hnil] at htold
    exact ⟨horder, hparts, htold⟩

/-! ### The queue of byte chunks -/

/-- **A send queue conserves bytes.**  Whatever is pushed, accepted, given up and cleared, in any
order and with chunks of any length, the queue answers and holds what a cursor into everything that
was pushed has ahead of it: accepting bytes takes them from the front chunk alone, and what was gone
through, with what waits, is what was pushed.  If the owner pushes and writes out, with writes that
take over at least a byte and no more than the front chunk has, then the bytes are taken over in the
order of the pushes, each chunk with bytes is told to be through once, and the writing comes to an
end. -/
theorem conserves_bytes (requests : List Request) :
    Accounted requests (Dialogue.run perform {} requests)
        (Dialogue.run Cursor.perform {} requests) ∧
      (empty.Writes requests →
        Drains requests (empty.written requests) (Dialogue.run perform {} requests).1) :=
  ⟨accounted requests, Writes.drains⟩

/-- Three chunks, the second one without bytes and the third pushed while the first is under way. -/
theorem conserves_bytes_in_pieces :
    let requests : List Request := [.push [1, 2, 3], .push [], .advance 2, .push [4], .advance 1,
      .advance 0, .advance 1]
    (empty : SendQueue Bytes).Writes requests ∧
      (empty.written requests).map Prod.snd = [false, true, true, true] ∧
      ((empty.written requests).map Prod.fst).flatten = [1, 2, 3, 4] := by
  intro requests
  have hwrites : empty.Writes requests := by decide
  have hdrains := (conserves_bytes requests).2 hwrites
  exact ⟨hwrites, by decide, (hdrains.through (by decide)).1⟩

end Switchboard.SendQueue
