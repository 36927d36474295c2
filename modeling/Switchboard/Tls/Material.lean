import Switchboard.Config.Schema
import Switchboard.Fault.Network
import Switchboard.Files
import Switchboard.Tls.PrivateKey
import Switchboard.Tls.X509

/-!
# Loading certificates

A server presents a chain of certificates and its private key; with trust anchors it also asks its
clients for certificates. A client needs trust anchors, for which its own chain serves if none are
given, and presents its chain if it has a private key too. Texts are read from files or taken as
they are. The first thing that is missing, unreadable or does not fit is reported.
-/

namespace Switchboard.Tls

/-- The things a certificate setting can name. -/
inductive Ingredient where
  /-- The chain of certificates. -/
  | chain
  /-- The private key. -/
  | key
  /-- The trust anchors. -/
  | anchors
  deriving DecidableEq, Repr

/-- The name of an ingredient. -/
def Ingredient.name : Ingredient → String
  | .chain => "certificate"
  | .key => "key"
  | .anchors => "ca"

/-- The reasons for which certificates cannot be loaded. -/
inductive MaterialError where
  /-- No chain is given. -/
  | chainMissing
  /-- No private key is given. -/
  | keyMissing
  /-- A file cannot be read. -/
  | unreadable (what : Ingredient) (path : String) (source : SystemError)
  /-- A file is damaged. -/
  | damaged (what : Ingredient) (source : Pem.PemError)
  /-- A file holds no certificates. -/
  | noCertificates (what : Ingredient)
  /-- The private key is encrypted. -/
  | encryptedKey
  /-- A file holds no private key. -/
  | noKey
  /-- None of the trust anchors can be used. -/
  | noAnchors
  /-- The private key cannot be used. -/
  | unusableKey
  /-- The own certificate cannot be used. -/
  | badCertificate (source : X509.X509Error)
  /-- The private key belongs to another certificate. -/
  | keyMismatch
  deriving DecidableEq, Repr

/-- What a certificate that cannot be used says. -/
def badCertificateMessage : X509.X509Error → String
  | .malformed => "BadEncoding"
  | .version => "Other(OtherError(UnsupportedCertVersion))"
  | .algorithmMismatch => "Other(OtherError(SignatureAlgorithmMismatch))"
  | .repeatedExtension => "Other(OtherError(ExtensionValueInvalid))"
  | .criticalExtension => "Other(OtherError(UnsupportedCriticalExtension))"

/-- What a failed loading says. -/
def MaterialError.message : MaterialError → String
  | chainMissing => "certificate chain is required"
  | keyMissing => "private key is required"
  | unreadable what path e =>
    "failed to read " ++ what.name ++ " file '" ++ path ++ "': " ++ e.message
  | damaged what e => "invalid " ++ what.name ++ " PEM: " ++ e.message
  | noCertificates what => "no certificates found in " ++ what.name
  | encryptedKey => "encrypted private keys are not supported"
  | noKey => "no private key found"
  | noAnchors => "no usable trust anchors"
  | unusableKey => "unexpected error: failed to parse private key as RSA, ECDSA, or EdDSA"
  | badCertificate e => "invalid peer certificate: " ++ badCertificateMessage e
  | keyMismatch => "keys may not be consistent: KeyMismatch"

/-- Whether a failure is that something required is not given at all. -/
def MaterialError.isMissing : MaterialError → Bool
  | chainMissing | keyMissing => true
  | _ => false

/-- The failure as the network layer reports it. -/
def MaterialError.toNetworkError (role : CertificateRole) (e : MaterialError) : NetworkError :=
  .certificate role e.message

/-- The result of a step of loading. -/
abbrev Loading := Except MaterialError

/-- The certificates in the bytes of a file. -/
def certificatesIn (what : Ingredient) (file : Bytes) : Loading (List Bytes) :=
  match Pem.certificates file with
  | .error e => .error (.damaged what e)
  | .ok [] => .error (.noCertificates what)
  | .ok (c :: cs) => .ok (c :: cs)

/-- What a file with an encrypted private key contains. -/
def encryptedMark : Bytes := Bytes.ofAscii "ENCRYPTED PRIVATE KEY"

/-- Whether bytes contain other bytes. -/
def contains (part : Bytes) : Bytes → Bool
  | [] => part.isEmpty
  | x :: rest => part.isPrefixOf (x :: rest) || contains part rest

/-- The private key in the bytes of a file. -/
def keyIn (file : Bytes) : Loading Pem.Section :=
  if contains encryptedMark file then .error .encryptedKey
  else
    match Pem.privateKey? file with
    | .error e => .error (.damaged .key e)
    | .ok none => .error .noKey
    | .ok (some key) => .ok key

namespace Material

variable (files : Files) (c : Certificate)

/-- The bytes that a setting names. -/
def bytesOf (what : Ingredient) (text : String) : Loading Bytes :=
  if c.fromFiles then
    match files.read text with
    | .ok bytes => .ok bytes
    | .error e => .error (.unreadable what text e)
  else .ok (Bytes.ofText text)

/-- The chain of certificates. -/
def chain : Loading (List Bytes) :=
  match c.cert with
  | none => .error .chainMissing
  | some text => do certificatesIn .chain (← bytesOf files c .chain text)

/-- The private key. -/
def key : Loading Pem.Section :=
  match c.key with
  | none => .error .keyMissing
  | some text => do keyIn (← bytesOf files c .key text)

/-- The certificates among those given that can serve as trust anchors. -/
def usable (anchors : List Bytes) : Loading (List Bytes) :=
  match anchors.filter X509.isAnchor with
  | [] => .error .noAnchors
  | a :: as => .ok (a :: as)

/-- The trust anchors that are given. -/
def anchorsIn (text : String) : Loading (List Bytes) := do
  certificatesIn .anchors (← bytesOf files c .anchors text)

/-- Checks that a private key can be used and belongs to the first certificate of a chain. -/
def matching (chain : List Bytes) (key : Pem.Section) : Loading Unit :=
  match PrivateKey.publicKey? key with
  | none => .error .unusableKey
  | some publicKey =>
    match X509.subjectKey (chain.headD []) with
    | .error e => .error (.badCertificate e)
    | .ok subjectKey => if subjectKey = publicKey then .ok () else .error .keyMismatch

end Material

/-- What a server uses for its connections. -/
structure ServerMaterial where
  /-- Its chain of certificates. -/
  chain : List Bytes
  /-- Its private key. -/
  key : Pem.Section
  /-- What its clients' certificates must lead to, if it asks for them. -/
  anchors : Option (List Bytes)
  deriving DecidableEq, Repr

/-- What a client uses for its connections. -/
structure ClientMaterial where
  /-- What its servers' certificates must lead to. -/
  anchors : List Bytes
  /-- The chain and the private key it presents, if it has both. -/
  own : Option (List Bytes × Pem.Section)
  deriving DecidableEq, Repr

/-- Loads what a server uses. -/
def ServerMaterial.load (files : Files) (c : Certificate) : Loading ServerMaterial := do
  let chain ← Material.chain files c
  let key ← Material.key files c
  let anchors ← match c.ca with
    | none => pure none
    | some text => some <$> (Material.anchorsIn files c text >>= Material.usable)
  Material.matching chain key
  return { chain, key, anchors }

/-- Loads what a client uses. -/
def ClientMaterial.load (files : Files) (c : Certificate) : Loading ClientMaterial := do
  let given ← match c.ca with
    | some text => Material.anchorsIn files c text
    | none => Material.chain files c
  let anchors ← Material.usable given
  if c.cert.isSome ∧ c.key.isSome then
    let chain ← Material.chain files c
    let key ← Material.key files c
    Material.matching chain key
    return { anchors, own := some (chain, key) }
  else return { anchors, own := none }

end Switchboard.Tls
