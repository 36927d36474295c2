import Switchboard.Bytes

/-!
# Requests to send

A service may ask to send the first bytes of what it has. Asking for none is granted without further
ado, asking for more than there are is refused, and everything else becomes one chunk to send.
-/

namespace Switchboard

/-- What becomes of a request to send. -/
inductive SendRequest where
  /-- It is answered at once. -/
  | answered (granted : Bool)
  /-- A chunk that is not empty is to be sent. -/
  | chunk (data : Bytes)
  deriving DecidableEq, Repr

namespace SendRequest

/-- A request to send a chunk. -/
def ofChunk (data : Bytes) : SendRequest := if data.isEmpty then answered true else chunk data

/-- A request to send the first `length` bytes of what there is, if there is anything. -/
def ofPart (data : Option Bytes) (length : Nat) : SendRequest :=
  if length = 0 then answered true
  else
    match data with
    | none => answered false
    | some bytes => if length > bytes.length then answered false else ofChunk (bytes.take length)

/-- A request to send all there is. -/
def ofAll (data : Bytes) : SendRequest := ofPart (some data) data.length

/-- No request leads to an empty chunk. -/
theorem ne_nil_of_ofPart {data : Option Bytes} {length : Nat} {bytes : Bytes}
    (h : ofPart data length = chunk bytes) : bytes ≠ [] := by
  unfold ofPart at h
  split at h
  · cases h
  · split at h
    · cases h
    · split at h
      · cases h
      · unfold ofChunk at h
        split at h
        · cases h
        · rename_i hne
          cases h
          intro he
          exact hne (by simp [he])

/-- A request that a handle can make: for a chunk, or for the first bytes of what there is. -/
inductive IsIssued : SendRequest → Prop where
  /-- For a chunk. -/
  | ofChunk (data : Bytes) : IsIssued (ofChunk data)
  /-- For the first bytes of what there is. -/
  | ofPart (data : Option Bytes) (length : Nat) : IsIssued (ofPart data length)

/-- What handles ask to send is never empty. -/
theorem IsIssued.ne_nil {r : SendRequest} (h : IsIssued r) {bytes : Bytes} (hr : r = chunk bytes) :
    bytes ≠ [] := by
  cases h with
  | ofChunk data =>
    unfold SendRequest.ofChunk at hr
    split at hr
    · cases hr
    · rename_i hsome
      cases hr
      exact fun hnone => hsome (by simp [hnone])
  | ofPart data length => exact ne_nil_of_ofPart hr

end SendRequest

end Switchboard
