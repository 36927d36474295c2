import Switchboard.Encoding.Der

/-!
# Certificates as they are sent

Of a certificate only its outline is read: the signed part, the algorithm it is signed with, and in
the signed part the fields in their order, of which the key of its subject is kept. Extensions must
be well formed; one that is marked critical must be known, and none may occur twice. A trust anchor
may also have the outline of the first version, which has no extensions.
-/

namespace Switchboard.Tls.X509

/-- The reasons for which a certificate is refused. -/
inductive X509Error where
  /-- The bytes do not have the outline of a certificate. -/
  | malformed
  /-- The certificate is of another version. -/
  | version
  /-- The two places that name the algorithm do not agree. -/
  | algorithmMismatch
  /-- An extension occurs twice. -/
  | repeatedExtension
  /-- An unknown extension is critical. -/
  | criticalExtension
  deriving DecidableEq, Repr

/-- Asks for a part of a certificate. -/
def part {α : Type} (o : Option α) (e : X509Error) : Except X509Error α :=
  match o with
  | some a => .ok a
  | none => .error e

/-- The names of the known extensions, by their last byte: use of the key, alternative names, basic
constraints, constraints on names, where to find revocations, and extended use. -/
def knownExtensions : List UInt8 := [15, 17, 19, 30, 31, 37]

/-- What the names of the standard extensions start with. -/
def standardArc : Bytes := [0x55, 0x1d]

/-- The name, the mark as critical, and the content of an extension. -/
def extension? (b : Bytes) : Option (Bytes × Bool × Bytes) := do
  let (name, rest) ← Der.tagged? Der.tagObject b
  let (flag, rest) ← Der.optional? Der.tagBoolean rest
  let critical ← match flag with
    | none => some false
    | some [0xff] => some true
    | some [0x00] => some false
    | some _ => none
  let content ← Der.whole? Der.tagOctetString rest
  return (name, critical, content)

/-- Reads the extensions one by one, with the known ones met so far; at most `fuel` of them. -/
def extensions (seen : List UInt8) : Nat → Bytes → Except X509Error Unit
  | _, [] => .ok ()
  | 0, _ => .error .malformed
  | fuel + 1, b => do
    let (body, rest) ← part (Der.tagged? Der.tagSequence b) .malformed
    let (name, critical, content) ← part (extension? body) .malformed
    let known := knownExtensions.find? fun n => decide (name = standardArc ++ [n])
    match known with
    | none => if critical then .error .criticalExtension else extensions seen fuel rest
    | some n =>
      if n ∈ seen then .error .repeatedExtension
      else if n ≠ 15 ∧ (Der.whole? Der.tagSequence content).isNone then .error .malformed
      else extensions (n :: seen) fuel rest

/-- The fields of the signed part from the serial number on: the subject's key, and what follows. -/
def fields? (b : Bytes) : Option (Bytes × Bytes × Bytes) := do
  let (_, rest) ← Der.tagged? Der.tagInteger b
  let (algorithm, rest) ← Der.tagged? Der.tagSequence rest
  let (_, rest) ← Der.tagged? Der.tagSequence rest
  let (_, rest) ← Der.tagged? Der.tagSequence rest
  let (_, rest) ← Der.tagged? Der.tagSequence rest
  let (key, rest) ← Der.tagged? Der.tagSequence rest
  return (algorithm, key, rest)

/-- The signed part and the algorithm of a certificate. -/
def signed? (certificate : Bytes) : Option (Bytes × Bytes) := do
  let body ← Der.whole? Der.tagSequence certificate
  let (signed, rest) ← Der.tagged? Der.tagSequence body
  let (algorithm, rest) ← Der.tagged? Der.tagSequence rest
  let (_, rest) ← Der.bits? rest
  if rest.isEmpty then some (signed, algorithm) else none

/-- The subject's key of a certificate of the third version. -/
def subjectKey (certificate : Bytes) : Except X509Error Bytes := do
  let (signed, algorithm) ← part (signed? certificate) .malformed
  let (version, rest) ← part (Der.tagged? (Der.tagField 0) signed) .version
  if Der.whole? Der.tagInteger version ≠ some [2] then .error .version
  let (inner, key, rest) ← part (fields? rest) .malformed
  if inner ≠ algorithm then .error .algorithmMismatch
  if rest.isEmpty then return key
  let wrapped ← part (Der.whole? (Der.tagField 3) rest) .malformed
  let list ← part (Der.whole? Der.tagSequence wrapped) .malformed
  extensions [] list.length list
  return key

/-- Whether the bytes have the outline of a certificate of the first version. -/
def isFirstVersion (certificate : Bytes) : Bool :=
  match signed? certificate with
  | some (signed, _) =>
    match fields? signed with
    | some (_, _, rest) => rest.isEmpty
    | none => false
  | none => false

/-- Whether a certificate can serve as a trust anchor. -/
def isAnchor (certificate : Bytes) : Bool :=
  match subjectKey certificate with
  | .ok _ => true
  | .error .version => isFirstVersion certificate
  | .error _ => false

end Switchboard.Tls.X509
