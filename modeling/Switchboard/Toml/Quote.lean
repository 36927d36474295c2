import Switchboard.Text.Numeral

/-!
# Quoted texts of a document

There are four kinds of quotes: double and single ones, each on one line or, tripled, over several.
Escapes are read between double quotes only. Over several lines the first line break is left out,
line breaks count as one character, a backslash at the end of a line swallows the blanks that
follow, and up to two quotes may stand directly before the closing three.

Each reader starts behind the opening quotes and gives the text and what follows the closing ones.
-/

namespace Switchboard.Toml.Quote

/-- Text that was read, and what follows it. -/
abbrev Reading := Option (List Char × List Char)

/-- Puts a character in front of what was read. -/
def also (c : Char) (r : Reading) : Reading := r.map fun (text, rest) => (c :: text, rest)

/-- Whether a character may stand in a quoted text as itself: no control but the tab. -/
def isPlain (c : Char) : Bool := c = '\t' || (c.toNat ≥ 32 && c.toNat ≠ 127)

/-- What a backslash and one more character stand for. -/
def shortEscape? (c : Char) : Option Char :=
  [('b', '\x08'), ('t', '\t'), ('n', '\n'), ('f', '\x0c'), ('r', '\r'), ('"', '"'),
   ('\\', '\\')].lookup c

/-- The character of a hexadecimal number, if there is one. -/
def scalar? (digits : List Char) : Option Char := do
  let n ← Numeral.value? 16 digits
  if n.isValidChar then return Char.ofNat n else none

/-- Between double quotes on one line. -/
def basic : List Char → Reading
  | '"' :: rest => some ([], rest)
  | '\\' :: 'u' :: a :: b :: c :: d :: rest =>
    match scalar? [a, b, c, d] with
    | some x => also x (basic rest)
    | none => none
  | '\\' :: 'U' :: a :: b :: c :: d :: e :: f :: g :: h :: rest =>
    match scalar? [a, b, c, d, e, f, g, h] with
    | some x => also x (basic rest)
    | none => none
  | '\\' :: e :: rest =>
    match shortEscape? e with
    | some x => also x (basic rest)
    | none => none
  | c :: rest => if isPlain c && c ≠ '\\' then also c (basic rest) else none
  | [] => none

/-- Between single quotes on one line. -/
def literal : List Char → Reading
  | '\'' :: rest => some ([], rest)
  | c :: rest => if isPlain c then also c (literal rest) else none
  | [] => none

/-- The one or two quotes that stand before the closing three, and what follows those. -/
def spareQuotes (q : Char) (rest : List Char) : List Char × List Char :=
  match rest with
  | a :: b :: tail =>
    if a = q then if b = q then ([q, q], tail) else ([q], b :: tail) else ([], rest)
  | [a] => if a = q then ([q], []) else ([], rest)
  | [] => ([], [])

/-- Where a reader over several lines stands after a backslash at the end of a line. -/
inductive Fold where
  /-- Not behind such a backslash. -/
  | none
  /-- Before the line break. -/
  | before
  /-- Behind it, skipping blanks. -/
  | behind
  deriving DecidableEq, Repr

/-- Between tripled double quotes. -/
def basicLines (fold : Fold) : List Char → Reading
  | '\r' :: '\n' :: rest =>
    if fold = .none then also '\n' (basicLines .none rest) else basicLines .behind rest
  | '\n' :: rest =>
    if fold = .none then also '\n' (basicLines .none rest) else basicLines .behind rest
  | ' ' :: rest => if fold = .none then also ' ' (basicLines .none rest) else basicLines fold rest
  | '\t' :: rest => if fold = .none then also '\t' (basicLines .none rest) else basicLines fold rest
  | '"' :: '"' :: '"' :: rest =>
    if fold = .before then .none else some (spareQuotes '"' rest)
  | '\\' :: 'u' :: a :: b :: c :: d :: rest =>
    if fold = .before then .none
    else match scalar? [a, b, c, d] with
      | some x => also x (basicLines .none rest)
      | .none => .none
  | '\\' :: 'U' :: a :: b :: c :: d :: e :: f :: g :: h :: rest =>
    if fold = .before then .none
    else match scalar? [a, b, c, d, e, f, g, h] with
      | some x => also x (basicLines .none rest)
      | .none => .none
  | '\\' :: '\n' :: rest => if fold = .before then .none else basicLines .behind rest
  | '\\' :: '\r' :: '\n' :: rest => if fold = .before then .none else basicLines .behind rest
  | '\\' :: e :: rest =>
    if fold = .before then .none
    else if e = ' ' || e = '\t' then basicLines .before rest
    else match shortEscape? e with
      | some x => also x (basicLines .none rest)
      | .none => .none
  | c :: rest =>
    if fold ≠ .before && isPlain c && c ≠ '\\' then also c (basicLines .none rest) else .none
  | [] => .none

/-- Between tripled single quotes. -/
def literalLines : List Char → Reading
  | '\'' :: '\'' :: '\'' :: rest => some (spareQuotes '\'' rest)
  | '\r' :: '\n' :: rest => also '\n' (literalLines rest)
  | c :: rest => if isPlain c || c = '\n' then also c (literalLines rest) else none
  | [] => none

/-- Leaves a line break at the start out. -/
def dropBreak : List Char → List Char
  | '\r' :: '\n' :: rest => rest
  | '\n' :: rest => rest
  | cs => cs

/-- A text on one line, with its opening quote still to come. -/
def oneLine? : List Char → Reading
  | '"' :: rest => basic rest
  | '\'' :: rest => literal rest
  | _ => none

/-- A text in any of the four kinds of quotes. -/
def any? : List Char → Reading
  | '"' :: '"' :: '"' :: rest => basicLines .none (dropBreak rest)
  | '\'' :: '\'' :: '\'' :: rest => literalLines (dropBreak rest)
  | cs => oneLine? cs

end Switchboard.Toml.Quote
