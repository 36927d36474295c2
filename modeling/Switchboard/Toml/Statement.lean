import Switchboard.Toml.Quote
import Switchboard.Toml.Scalar

/-!
# Statements

A document is a sequence of statements, one on a line: a header of a table, a header in double
brackets, or a key with its value. Keys are joined by dots. Values in brackets may go over several
lines, values in braces may not. Keys and nested brackets go less than eighty deep.

Readers take the rest of the document and give what they read together with what follows it.
-/

namespace Switchboard.Toml

/-- A line of a document that says something. -/
inductive Statement where
  /-- The header of a table. -/
  | header (path : List String)
  /-- The header of one more table in a list of tables. -/
  | listHeader (path : List String)
  /-- A key and its value. -/
  | assign (path : List String) (value : Node)
  deriving Repr

namespace Statement

/-- Keys and brackets go less deep than this. -/
def depthLimit : Nat := 80

/-- Whether a character is a blank within a line. -/
def isBlank (c : Char) : Bool := c = ' ' || c = '\t'

/-- Leaves blanks within a line out. -/
def skipBlanks (cs : List Char) : List Char := cs.dropWhile isBlank

/-- What follows a line break. -/
def lineBreak? : List Char → Option (List Char)
  | '\n' :: rest => some rest
  | '\r' :: '\n' :: rest => some rest
  | _ => none

/-- Leaves a comment out, up to the end of its line. -/
def skipComment (cs : List Char) : List Char :=
  match cs with
  | '#' :: rest => rest.dropWhile Quote.isPlain
  | _ => cs

/-- What follows the end of a line, blanks and a comment before it included. -/
def lineEnd? (cs : List Char) : Option (List Char) :=
  match skipComment (skipBlanks cs) with
  | [] => some []
  | rest => lineBreak? rest

/-- Leaves blanks, comments and line breaks out; at most `fuel` line breaks. -/
def skipLines : Nat → List Char → List Char
  | 0, cs => skipBlanks cs
  | fuel + 1, cs =>
    let bare := skipBlanks cs
    match lineBreak? (skipComment bare) with
    | some rest => skipLines fuel rest
    | none => bare

/-! ### Keys -/

/-- Whether a character may stand in a key without quotes. -/
def isBareKey (c : Char) : Bool := c.isAlphanum || c = '-' || c = '_'

/-- One part of a key. -/
def keyPart? (cs : List Char) : Option (String × List Char) :=
  match Quote.oneLine? cs with
  | some (text, rest) => some (String.ofList text, rest)
  | none =>
    let text := cs.takeWhile isBareKey
    if text.isEmpty then none else some (String.ofList text, cs.dropWhile isBareKey)

/-- A key of at most `fuel` parts, blanks around it included. -/
def key? : Nat → List Char → Option (List String × List Char)
  | 0, _ => none
  | fuel + 1, cs => do
    let (part, rest) ← keyPart? (skipBlanks cs)
    match skipBlanks rest with
    | '.' :: rest =>
      let (parts, rest) ← key? fuel rest
      return (part :: parts, rest)
    | rest => return ([part], rest)

/-- A key that is not too deep. -/
def path? (cs : List Char) : Option (List String × List Char) := key? (depthLimit - 1) cs

/-! ### Tables in braces -/

/-- Whether a table of a form may still be reached through dotted keys. -/
def TableForm.isOpen (form : TableForm) : Bool := form = .implied || form = .dotted

/-- Changes the table at a path. The tables on the way that do not exist come into being in the
form `made`; `reach` decides for each existing one whether the way may pass through it. -/
def descend (made : TableForm) (reach : TableForm → Bool)
    (change : TableForm → Entries → Option Entries) :
    List String → TableForm → Entries → Option Entries
  | [], form, entries => change form entries
  | k :: ks, _, entries =>
    match entries.get? k with
    | none => do
      let child ← descend made reach change ks made []
      return entries.put k (.table made child)
    | some (.table form child) =>
      if reach form then do
        let child ← descend made reach change ks form child
        return entries.put k (.table form child)
      else none
    | some (.tables items) =>
      match items.getLast? with
      | none => none
      | some last => do
        let last ← descend made reach change ks .headed last
        return entries.put k (.tables (items.dropLast ++ [last]))
    | some _ => none

/-- Gives a key below a table a value: the key must be new, and dotted keys may add only to tables
that dotted keys have made. -/
def assignTo (form : TableForm) (entries : Entries) (path : List String) (value : Node) :
    Option Entries :=
  match path.getLast? with
  | none => none
  | some k =>
    let dotted := decide (path.length > 1)
    let change (form : TableForm) (entries : Entries) : Option Entries :=
      if decide (form = .dotted) != dotted then none
      else if (entries.get? k).isSome then none
      else some (entries.put k value)
    descend .dotted TableForm.isOpen change path.dropLast form entries

/-! ### Values -/

/-- Whether a character belongs to a bare value. -/
def isBareValue (c : Char) : Bool :=
  !(isBlank c || c = '\n' || c = '\r' || c = '#' || c = ',' || c = ']' || c = '\x7d')

/-- A bare value; a blank may stand between a date and a time. -/
def bare? (cs : List Char) : Option (Node × List Char) :=
  let token := cs.takeWhile isBareValue
  let rest := cs.dropWhile isBareValue
  let joined : List Char × List Char :=
    match rest with
    | ' ' :: c :: more =>
      if isBareValue c && Scalar.date? token == some [] then
        (token ++ ' ' :: (c :: more).takeWhile isBareValue, (c :: more).dropWhile isBareValue)
      else (token, rest)
    | _ => (token, rest)
  (Scalar.ofChars? joined.1).map fun value => (value, joined.2)

mutual

/-- A value, `depth` brackets deep. -/
def value? (fuel depth : Nat) (cs : List Char) : Option (Node × List Char) :=
  match fuel with
  | 0 => none
  | fuel + 1 =>
    match cs with
    | '[' :: rest =>
      if depth + 1 ≥ depthLimit then none
      else (items? fuel (depth + 1) rest).map fun (items, rest) => (.array items, rest)
    | '\x7b' :: rest =>
      if depth + 1 ≥ depthLimit then none
      else
        match skipBlanks rest with
        | '\x7d' :: rest => some (.table .inline [], rest)
        | rest =>
          (fields? fuel (depth + 1) [] rest).map
            fun (entries, rest) => (.table .inline entries, rest)
    | '"' :: _ | '\'' :: _ =>
      (Quote.any? cs).map fun (text, rest) => (.string (String.ofList text), rest)
    | _ => bare? cs

/-- The values up to a closing bracket. -/
def items? (fuel depth : Nat) (cs : List Char) : Option (List Node × List Char) :=
  match fuel with
  | 0 => none
  | fuel + 1 =>
    match skipLines cs.length cs with
    | ']' :: rest => some ([], rest)
    | cs => do
      let (item, rest) ← value? fuel depth cs
      match skipLines rest.length rest with
      | ']' :: rest => return ([item], rest)
      | ',' :: rest =>
        let (items, rest) ← items? fuel depth rest
        return (item :: items, rest)
      | _ => none

/-- The keys and values up to a closing brace, added to those before. -/
def fields? (fuel depth : Nat) (before : Entries) (cs : List Char) : Option (Entries × List Char) :=
  match fuel with
  | 0 => none
  | fuel + 1 => do
    let (path, rest) ← path? cs
    match rest with
    | '=' :: rest =>
      let (value, rest) ← value? fuel depth (skipBlanks rest)
      let entries ← assignTo .inline before path value
      match skipBlanks rest with
      | '\x7d' :: rest => return (entries, rest)
      | ',' :: rest => fields? fuel depth entries rest
      | _ => none
    | _ => none

end

/-! ### Lines -/

/-- One statement with the end of its line. -/
def line? (cs : List Char) : Option (Statement × List Char) :=
  match cs with
  | '[' :: '[' :: rest => do
    let (path, rest) ← path? rest
    match rest with
    | ']' :: ']' :: rest => return (.listHeader path, ← lineEnd? rest)
    | _ => none
  | '[' :: rest => do
    let (path, rest) ← path? rest
    match rest with
    | ']' :: rest => return (.header path, ← lineEnd? rest)
    | _ => none
  | _ => do
    let (path, rest) ← path? cs
    match rest with
    | '=' :: rest =>
      let (value, rest) ← value? (2 * rest.length + 2) 0 (skipBlanks rest)
      return (.assign path value, ← lineEnd? rest)
    | _ => none

/-- The statements of at most `fuel` lines. -/
def lines? : Nat → List Char → Option (List Statement)
  | 0, _ => none
  | fuel + 1, cs =>
    match skipBlanks cs with
    | [] => some []
    | '#' :: rest => do lines? fuel (← lineEnd? ('#' :: rest))
    | c :: rest =>
      match lineBreak? (c :: rest) with
      | some rest => lines? fuel rest
      | none => do
        let (statement, rest) ← line? (c :: rest)
        let more ← lines? fuel rest
        return statement :: more

/-- The statements of a document; a byte order mark at its start is left out. -/
def all? (cs : List Char) : Option (List Statement) :=
  let body := match cs with
    | '\ufeff' :: rest => rest
    | _ => cs
  lines? (body.length + 1) body

end Statement

end Switchboard.Toml
