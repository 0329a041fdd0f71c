import Folio.Settings.Node
/-!
# Bare values in TOML

A value in TOML that is neither a text, a list nor a table is one run of characters: a truth value,
a number or a date. `Literal.read?` says which value a run writes.
-/

namespace Folio.Settings.Toml

open Text (number)

namespace Literal

/-- A character that a bare value can hold. -/
def isPart (c : Char) : Bool := c.isAlphanum || c = '_' || c = '+' || c = '-' || c = '.' || c = ':'

/-- Digits without the underscores that group them. An underscore stands between two digits. -/
def ungroup? (cs : List Char) : Option (List Char) :=
  let groups := cs.splitOn '_'
  if groups.any (·.isEmpty) then none else some groups.flatten

/-- A whole number of 64 bits with a sign. -/
def integer? (n : Int) : Option Scalar := if Text.fitsSigned64 n then some (.integer n) else none

/-- The whole number that digits write in a base. -/
def inBase? (base : Nat) (cs : List Char) : Option Scalar := do
  integer? (← Text.numberIn? base (← ungroup? cs))

/-- A run without its sign, and whether it is a minus sign. -/
def splitSign : List Char → Bool × List Char
  | '-' :: cs => (true, cs)
  | '+' :: cs => (false, cs)
  | cs => (false, cs)

/-- A number with a sign. -/
def signed (negative : Bool) (n : Nat) : Int := if negative then -n else n

/-- Digits of base ten, which may be grouped. -/
def digits? (cs : List Char) : Option (List Char) := (ungroup? cs).filter (·.all (·.isDigit))

/-- The digits before a point or an exponent; a zero stands first only alone. -/
def whole? (cs : List Char) : Option (List Char) :=
  (digits? cs).filter fun ds => ds.length = 1 || ds.head? ≠ some '0'

/-- The character starts an exponent. -/
def isExponentMark (c : Char) : Bool := c = 'e' || c = 'E'

/-- The number after the mark of an exponent. -/
def exponent? (cs : List Char) : Option Int := do
  let (negative, cs) := splitSign cs
  return signed negative (number (← digits? cs))

/-- A number in base ten, with its digits before and after the point and its exponent. It has to be
finite. -/
def decimal? (cs : List Char) : Option Scalar := do
  let (negative, cs) := splitSign cs
  let mantissa := cs.takeWhile (!isExponentMark ·)
  let after := cs.dropWhile (!isExponentMark ·)
  let whole ← whole? (mantissa.takeWhile (· ≠ '.'))
  match mantissa.dropWhile (· ≠ '.'), after with
  | [], [] => integer? (signed negative (number whole))
  | point, after =>
    let places ← if point.isEmpty then some [] else digits? (point.drop 1)
    let power ← if after.isEmpty then some 0 else exponent? (after.drop 1)
    match Binary64.ofDecimal negative (number (whole ++ places)) (power - places.length) with
    | .infinite _ => none
    | x => some (.float x)

/-! ## Dates and times -/

/-- The number of days of a month. -/
def daysOf (year month : Nat) : Nat :=
  if month = 2 then if year % 4 = 0 && (year % 100 ≠ 0 || year % 400 = 0) then 29 else 28
  else if month ∈ [4, 6, 9, 11] then 30 else 31

/-- Two digits at the start of a run that write a number between two others, with what follows. -/
def pair? (low high : Nat) : List Char → Option (List Char)
  | a :: b :: rest =>
    ((Text.decimal? [a, b]).filter fun n => low ≤ n && n ≤ high).map fun _ => rest
  | _ => none

/-- The part of a run after a character that has to come first. -/
def after? (c : Char) : List Char → Option (List Char)
  | d :: rest => if c = d then some rest else none
  | [] => none

/-- A day of the calendar at the start of a run, and what follows it. -/
def date? (cs : List Char) : Option (List Char × List Char) := do
  let year ← (Text.decimal? (cs.take 4)).filter fun _ => 4 ≤ cs.length
  let rest ← after? '-' (cs.drop 4)
  let month ← Text.decimal? (rest.take 2)
  let rest ← after? '-' (← pair? 1 12 rest)
  let rest ← pair? 1 (daysOf year month) rest
  return (cs.take 10, rest)

/-- A time of day at the start of a run, to the billionth of a second, and what follows it. -/
def time? (cs : List Char) : Option (List Char × List Char) := do
  let rest ← after? ':' (← pair? 0 23 cs)
  let rest ← after? ':' (← pair? 0 59 rest)
  let rest ← pair? 0 60 rest
  match rest with
  | '.' :: rest =>
    let (ds, rest) := Text.splitDigits rest
    let kept := ((ds.take 9).reverse.dropWhile (· = '0')).reverse
    if ds.isEmpty then none
    else some (cs.take 8 ++ (if kept.isEmpty then [] else '.' :: kept), rest)
  | rest => some (cs.take 8, rest)

/-- The distance from universal time that ends a run. -/
def offset? : List Char → Option (List Char)
  | [] => some []
  | [c] => if c = 'z' || c = 'Z' then some ['Z'] else none
  | c :: cs =>
    if c ≠ '+' && c ≠ '-' then none
    else
      match (pair? 0 23 cs).bind (after? ':') |>.bind (pair? 0 59) with
      | some [] => some ((if cs = "00:00".toList then '+' else c) :: cs)
      | _ => none

/-- A date, a time, or both, as text. A space or a small letter may stand between the two. -/
def moment? (cs : List Char) : Option Scalar :=
  let shown (cs : List Char) : Scalar := .text (String.ofList cs)
  match date? cs with
  | some (day, []) => some (shown day)
  | some (day, mark :: rest) =>
    if mark ≠ 'T' && mark ≠ 't' && mark ≠ ' ' then none
    else (time? rest).bind fun (time, rest) => (offset? rest).map fun zone => shown (day ++ 'T' :: time ++ zone)
  | none =>
    match time? cs with
    | some (time, []) => some (shown time)
    | _ => none

/-- The value that a run of characters writes. -/
def read? (cs : List Char) : Option Scalar :=
  match String.ofList cs with
  | "true" => some (.bool true)
  | "false" => some (.bool false)
  | "inf" | "+inf" => some (.float (.infinite false))
  | "-inf" => some (.float (.infinite true))
  | "nan" | "+nan" | "-nan" => some (.float .nan)
  | _ =>
    match cs with
    | '0' :: 'x' :: cs => inBase? 16 cs
    | '0' :: 'o' :: cs => inBase? 8 cs
    | '0' :: 'b' :: cs => inBase? 2 cs
    | cs => (decimal? cs).or (moment? cs)

/-- The run of characters of a bare value at the start of a text, and what follows it. A date and a
time with a space between them are one run. -/
def split (cs : List Char) : List Char × List Char :=
  let run := cs.takeWhile isPart
  match cs.dropWhile isPart with
  | ' ' :: rest =>
    let time := rest.takeWhile isPart
    if (date? run).isSome && run.length = 10 && (time? time).isSome then
      (run ++ ' ' :: time, rest.dropWhile isPart)
    else (run, ' ' :: rest)
  | rest => (run, rest)

end Literal
end Folio.Settings.Toml
