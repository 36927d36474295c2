import Switchboard.Encoding.Base64
import Switchboard.Encoding.Utf8
import Switchboard.Text.Invisible

/-!
# Sections of armoured files

Certificates and keys are kept in text files as sections between a begin line and an end line with
the same label. The lines between hold the content in base 64. Lines outside of sections mean
nothing. A begin line within a section changes the label and keeps the content collected so far.
Sections with a label that is not known are passed over without a look at their content.

A file is read section by section; the first damaged one ends the reading.
-/

namespace Switchboard.Pem

/-- What a section holds. -/
inductive SectionKind where
  | certificate
  | publicKey
  | pkcs1Key
  | pkcs8Key
  | sec1Key
  | revocationList
  | signingRequest
  | echConfig
  deriving DecidableEq, Repr

/-- The labels of the known sections. -/
def labels : List (String × SectionKind) :=
  [("CERTIFICATE", .certificate), ("PUBLIC KEY", .publicKey), ("RSA PRIVATE KEY", .pkcs1Key),
   ("PRIVATE KEY", .pkcs8Key), ("EC PRIVATE KEY", .sec1Key), ("X509 CRL", .revocationList),
   ("CERTIFICATE REQUEST", .signingRequest), ("ECHCONFIG", .echConfig)]

/-- The kind of a section by its label. -/
def kindOf? (label : Bytes) : Option SectionKind :=
  (labels.find? fun (text, _) => decide (Bytes.ofAscii text = label)).map Prod.snd

/-- A known section. -/
structure Section where
  /-- What it holds. -/
  kind : SectionKind
  /-- Its content. -/
  content : Bytes
  deriving DecidableEq, Repr

/-- The reasons for which a file is refused. -/
inductive PemError where
  /-- A begin line does not end in five dashes. -/
  | illegalStart (line : Bytes)
  /-- The file ends within a section. -/
  | missingEnd (label : Bytes)
  /-- The content of a section is no text in base 64. -/
  | content (source : Base64.Base64Error)
  deriving DecidableEq, Repr

/-- What a damaged file says. -/
def PemError.message : PemError → String
  | illegalStart line => "illegal section start: " ++ Text.quoted line.toTextLossy
  | missingEnd label => "section end " ++ Text.quoted label.toTextLossy ++ " missing"
  | content (.invalidCharacter x) => "InvalidCharacter(" ++ Numeral.decimal x.toNat ++ ")"
  | content .prematurePadding => "PrematurePadding"
  | content .invalidTrailingPadding => "InvalidTrailingPadding"

/-! ### Lines -/

/-- Whether a byte ends a line. -/
def endsLine (x : UInt8) : Bool := x = 10 || x = 13

/-- The lines of a file, each with the byte that ends it. -/
def linesOf : Bytes → List Bytes
  | [] => []
  | x :: rest =>
    if endsLine x then [x] :: linesOf rest
    else
      match linesOf rest with
      | [] => [[x]]
      | line :: lines => (x :: line) :: lines

/-- What a begin line starts with. -/
def beginMark : Bytes := Bytes.ofAscii "-----BEGIN "

/-- What an end line starts with. -/
def endMark (label : Bytes) : Bytes := Bytes.ofAscii "-----END " ++ label ++ Bytes.ofAscii "-----"

/-- The end of a line read backwards: how many dashes it has, and what is in front of the first of
them. Blanks and line ends do not count. -/
def trailer (dashes : Nat) (before : Bytes) : Bytes → Nat × Bytes
  | [] => (dashes, before)
  | x :: rest =>
    if x = 45 then trailer (dashes + 1) rest rest
    else if endsLine x || x = 32 then trailer dashes before rest
    else (dashes, before)

/-- The label of a begin line, if the line ends in five dashes. -/
def labelOf? (line : Bytes) : Option Bytes :=
  let (dashes, before) := trailer 0 line.reverse line.reverse
  if dashes = 5 then some (before.reverse.drop beginMark.length) else none

/-! ### Sections -/

/-- Reads on, with the label of the section under way and the content collected so far. The
sections that were read come with the damage that ended the reading, if there is any. -/
def readFrom (label : Option Bytes) (content : Bytes) :
    List Bytes → List Section × Option PemError
  | [] => ([], label.map PemError.missingEnd)
  | line :: lines =>
    if beginMark.isPrefixOf line then
      match labelOf? line with
      | none => ([], some (.illegalStart line))
      | some label => readFrom (some label) content lines
    else
      match label with
      | none => readFrom none content lines
      | some label =>
        if (endMark label).isPrefixOf line then
          match kindOf? label with
          | none => readFrom none [] lines
          | some kind =>
            match Base64.decode content with
            | .error e => ([], some (.content e))
            | .ok bytes =>
              let (sections, damage) := readFrom none [] lines
              (⟨kind, bytes⟩ :: sections, damage)
        else readFrom (some label) (content ++ line) lines

/-- The known sections of a file, up to the first damage. -/
def read (file : Bytes) : List Section × Option PemError := readFrom none [] (linesOf file)

/-- The certificates of a file. -/
def certificates (file : Bytes) : Except PemError (List Bytes) :=
  match read file with
  | (_, some damage) => .error damage
  | (sections, none) =>
    .ok ((sections.filter (·.kind = .certificate)).map Section.content)

/-- Whether a section holds a private key. -/
def SectionKind.isKey : SectionKind → Bool
  | pkcs1Key | pkcs8Key | sec1Key => true
  | _ => false

/-- The first private key of a file; damage behind it does not matter. -/
def privateKey? (file : Bytes) : Except PemError (Option Section) :=
  match read file with
  | (sections, damage) =>
    match sections.find? (·.kind.isKey), damage with
    | some key, _ => .ok (some key)
    | none, some e => .error e
    | none, none => .ok none

end Switchboard.Pem
