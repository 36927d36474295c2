import Switchboard.Toml.Node

/-!
# Bare values

Numbers, truth values, dates and times are written without quotes. Each is read from its whole text:
everything up to the next blank, comma, comment or closing bracket. Digits may be grouped by single
underscores. Whole numbers have 64 bits; those in base two, eight and sixteen have no sign.
-/

namespace Switchboard.Toml.Scalar

/-- A run of digits with single underscores between them, the underscores left out. -/
def ungroup? (isDigit : Char → Bool) : List Char → Option (List Char)
  | [] => none
  | [c] => if isDigit c then some [c] else none
  | c :: '_' :: rest => if isDigit c then (ungroup? isDigit rest).map (c :: ·) else none
  | c :: rest => if isDigit c then (ungroup? isDigit rest).map (c :: ·) else none

/-- Whether a character is a digit of a base. -/
def isDigitOf (base : Nat) (c : Char) : Bool := (Numeral.digit? base c).isSome

/-- Decimal digits without a leading zero. -/
def wholeDigits? (cs : List Char) : Option (List Char) :=
  if cs.head? = some '0' ∧ cs.length > 1 then none else ungroup? (isDigitOf 10) cs

/-- Whether a text starts with a minus sign, and what follows its sign if it has one. -/
def signed (cs : List Char) : Bool × List Char :=
  match cs with
  | '+' :: rest => (false, rest)
  | '-' :: rest => (true, rest)
  | _ => (false, cs)

/-- A number that fits into 64 bits with a sign. -/
def bounded? (n : Int) : Option Node :=
  if Int64.minValue.toInt ≤ n ∧ n ≤ Int64.maxValue.toInt then some (.integer n) else none

/-- A whole number. -/
def integer? (cs : List Char) : Option Node :=
  let based base digits := do bounded? (← Numeral.value? base (← ungroup? (isDigitOf base) digits))
  match cs with
  | '0' :: 'x' :: digits => based 16 digits
  | '0' :: 'o' :: digits => based 8 digits
  | '0' :: 'b' :: digits => based 2 digits
  | _ => do
    let (negative, digits) := signed cs
    let n ← Numeral.value? 10 (← wholeDigits? digits)
    bounded? (if negative then -(n : Int) else n)

/-- Whether a character starts the exponent of a number. -/
def marksExponent (c : Char) : Bool := c = 'e' || c = 'E'

/-- The exponent behind its mark, 0 if there is no mark. -/
def exponent? : List Char → Option Int
  | [] => some 0
  | _ :: cs => do
    let (negative, digits) := signed cs
    let n ← Numeral.value? 10 (← ungroup? (isDigitOf 10) digits)
    return if negative then -(n : Int) else n

/-- A floating-point number; one that is too large is refused. -/
def float? (cs : List Char) : Option Node := do
  let (negative, body) := signed cs
  if body = ['i', 'n', 'f'] then return .float (.infinite negative)
  if body = ['n', 'a', 'n'] then return .float .nan
  let (mantissa, power) := (body.takeWhile (!marksExponent ·), body.dropWhile (!marksExponent ·))
  let (whole, fraction) := (mantissa.takeWhile (· ≠ '.'), mantissa.dropWhile (· ≠ '.'))
  if fraction.isEmpty ∧ power.isEmpty then none
  let whole ← wholeDigits? whole
  let fraction ← if fraction.isEmpty then some [] else ungroup? (isDigitOf 10) fraction.tail
  let power ← exponent? power
  let digits ← Numeral.value? 10 (whole ++ fraction)
  let value := Binary64.ofDecimal negative digits (power - fraction.length)
  if value = .infinite false then none else return .float value

/-! ### Dates and times -/

/-- A number of exactly `count` digits between two bounds, and what follows it. -/
def field? (count low high : Nat) (cs : List Char) : Option (Nat × List Char) := do
  if cs.length < count then none
  let n ← Numeral.value? 10 (cs.take count)
  if low ≤ n ∧ n ≤ high then return (n, cs.drop count) else none

/-- What follows a given character. -/
def after? (c : Char) : List Char → Option (List Char)
  | d :: rest => if d = c then some rest else none
  | [] => none

/-- How many days a month has. -/
def daysIn (year month : Nat) : Nat :=
  if month = 2 then
    if year % 4 = 0 ∧ (year % 100 ≠ 0 ∨ year % 400 = 0) then 29 else 28
  else if month = 4 ∨ month = 6 ∨ month = 9 ∨ month = 11 then 30
  else 31

/-- What follows a date. -/
def date? (cs : List Char) : Option (List Char) := do
  let (year, cs) ← field? 4 0 9999 cs
  let (month, cs) ← field? 2 1 12 (← after? '-' cs)
  let (_, cs) ← field? 2 1 (daysIn year month) (← after? '-' cs)
  return cs

/-- What follows a time of day, fractions of a second included. -/
def time? (cs : List Char) : Option (List Char) := do
  let (_, cs) ← field? 2 0 23 cs
  let (_, cs) ← field? 2 0 59 (← after? ':' cs)
  let (_, cs) ← field? 2 0 60 (← after? ':' cs)
  match cs with
  | '.' :: rest =>
    if (rest.head?.map Char.isDigit).getD false then return rest.dropWhile Char.isDigit else none
  | _ => return cs

/-- Whether the rest of a time is an offset from universal time, or nothing. -/
def isOffset : List Char → Bool
  | [] => true
  | c :: rest =>
    if c = 'Z' ∨ c = 'z' then rest.isEmpty
    else if c = '+' ∨ c = '-' then
      (do
        let (_, cs) ← field? 2 0 23 rest
        let (_, cs) ← field? 2 0 59 (← after? ':' cs)
        if cs.isEmpty then some () else none).isSome
    else false

/-- Whether a text is a time of day with an optional offset. -/
def isOffsetTime (cs : List Char) : Bool := (time? cs).any isOffset

/-- Whether a character may stand between a date and a time. -/
def joinsTime (c : Char) : Bool := c = 'T' || c = 't' || c = ' '

/-- A date, a time of day, or a date and a time. -/
def datetime? (cs : List Char) : Option Node :=
  let valid : Bool :=
    match date? cs with
    | some [] => true
    | some (c :: rest) => joinsTime c && isOffsetTime rest
    | none => time? cs = some []
  if valid then some (.datetime (String.ofList cs)) else none

/-- The value of a bare text. -/
def ofChars? (cs : List Char) : Option Node :=
  if cs = "true".toList then some (.boolean true)
  else if cs = "false".toList then some (.boolean false)
  else (datetime? cs).orElse fun _ => (float? cs).orElse fun _ => integer? cs

end Switchboard.Toml.Scalar
