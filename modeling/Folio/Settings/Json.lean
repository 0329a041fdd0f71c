import Folio.Settings.Node
import Folio.Text.Digits
/-!
# Configuration in JSON

Reads the text of a configuration file in JSON. Each step takes characters off the front of the
text; `fuel` bounds the number of steps and is the length of the text, of which every step takes
some. Values may be nested 127 deep.
-/

namespace Folio.Settings.Json

open Text (number splitDigits)

/-- A character of white space. -/
def isBlank (c : Char) : Bool := c = ' ' || c = '\n' || c = '\t' || c = '\r'

/-- A text without the white space at its start. -/
def skip (cs : List Char) : List Char := cs.dropWhile isBlank

/-- The number that four digits in base sixteen write. -/
def hex4 (a b c d : Char) : Option Nat := Text.numberIn? 16 [a, b, c, d]

/-- The character that a pair of surrogates stands for. -/
def pairOf (high low : Nat) : Option Char :=
  if 0xdc00 ≤ low && low ≤ 0xdfff then some (Char.ofNat (0x10000 + (high - 0xd800) * 1024 + (low - 0xdc00)))
  else none

/-- The characters of a text up to its closing quote, and what follows it. -/
def text : (fuel : Nat) → List Char → Option (List Char × List Char)
  | 0, _ => none
  | fuel + 1, cs =>
    let keep (c : Char) (rest : List Char) := (text fuel rest).map fun (s, rest) => (c :: s, rest)
    match cs with
    | [] => none
    | '\x22' :: rest => some ([], rest)
    | '\x5c' :: 'u' :: a :: b :: c :: d :: rest =>
      (hex4 a b c d).bind fun n =>
        if 0xdc00 ≤ n && n ≤ 0xdfff then none
        else if 0xd800 ≤ n && n ≤ 0xdbff then
          match rest with
          | '\x5c' :: 'u' :: a :: b :: c :: d :: rest =>
            ((hex4 a b c d).bind (pairOf n)).bind fun c => keep c rest
          | _ => none
        else keep (Char.ofNat n) rest
    | '\x5c' :: c :: rest =>
      (([('\x22', '\x22'), ('\x5c', '\x5c'), ('/', '/'), ('b', '\x08'), ('f', '\x0c'), ('n', '\n'),
        ('r', '\r'), ('t', '\t')] : List (Char × Char)).lookup c).bind fun c => keep c rest
    | c :: rest => if c.toNat < 0x20 || c = '\x5c' then none else keep c rest

/-- The part of a number after its point, if there is one. -/
def fraction : List Char → Option (List Char × List Char)
  | '.' :: cs =>
    let (ds, rest) := splitDigits cs
    if ds.isEmpty then none else some (ds, rest)
  | cs => some ([], cs)

/-- The exponent of a number, if there is one. -/
def exponent (cs : List Char) : Option (Option Int × List Char) :=
  match cs with
  | [] => some (none, [])
  | e :: rest =>
    if e = 'e' || e = 'E' then
      let (negative, rest) := match rest with
        | '-' :: rest => (true, rest)
        | '+' :: rest => (false, rest)
        | rest => (false, rest)
      let (ds, rest) := splitDigits rest
      if ds.isEmpty then none
      else some (some (if negative then -(number ds : Int) else number ds), rest)
    else some (none, cs)

/-- A number: whole if it has neither point nor exponent, is not a zero with a minus sign and fits
into 64 bits with a sign, and otherwise the floating number nearest to it, which has to be finite. -/
def scalarOfNumber (negative : Bool) (whole places : List Char) (power : Option Int) : Option Scalar :=
  let n := number whole
  let i : Int := if negative then -n else n
  let isWhole := places.isEmpty && power.isNone && !(negative && n = 0)
  if isWhole && Text.fitsSigned64 i then some (.integer i)
  else
    match Binary64.ofDecimal negative (number (whole ++ places)) (power.getD 0 - places.length) with
    | .infinite _ => none
    | x => some (.float x)

/-- A number at the start of a text, and what follows it. -/
def numeral (cs : List Char) : Option (Scalar × List Char) := do
  let (negative, cs) := match cs with
    | '-' :: cs => (true, cs)
    | cs => (false, cs)
  let (whole, cs) := splitDigits cs
  if whole.isEmpty || (1 < whole.length && whole.head? = some '0') then none
  else
    let (places, cs) ← fraction cs
    let (power, cs) ← exponent cs
    return (← scalarOfNumber negative whole places power, cs)

/-- A word at the start of a text, and what follows it. -/
def word (w : String) (value : Scalar) (cs : List Char) : Option (Scalar × List Char) :=
  if w.toList.isPrefixOf cs then some (value, cs.drop w.length) else none

/-- Puts an entry into a table that is read; the last one under a key stays. -/
def addEntry (entries : List (String × Node)) (key : String) (value : Node) : List (String × Node) :=
  entries.filter (·.1 ≠ key) ++ [(key, value)]

mutual

/-- A value at the start of a text without white space, and what follows it. -/
def value (origin : Option String) : (fuel depth : Nat) → List Char → Option (Node × List Char)
  | 0, _, _ => none
  | fuel + 1, depth, cs =>
    let scalar (r : Option (Scalar × List Char)) := r.map fun (s, rest) => (Node.scalar origin s, rest)
    match cs with
    | '\x22' :: rest => (text fuel rest).map fun (s, rest) => (.scalar origin (.text (String.ofList s)), rest)
    | '[' :: rest =>
      if depth = 0 then none
      else
        match skip rest with
        | ']' :: rest => some (.list origin [], rest)
        | rest => (items origin fuel (depth - 1) [] rest).map fun (xs, rest) => (.list origin xs, rest)
    | '\x7b' :: rest =>
      if depth = 0 then none
      else
        match skip rest with
        | '\x7d' :: rest => some (.table origin [], rest)
        | rest => (fields origin fuel (depth - 1) [] rest).map fun (es, rest) => (.table origin es, rest)
    | 't' :: _ => scalar (word "true" (.bool true) cs)
    | 'f' :: _ => scalar (word "false" (.bool false) cs)
    | 'n' :: _ => scalar (word "null" .null cs)
    | _ => scalar (numeral cs)

/-- The items of a list up to its end, after those read already. -/
def items (origin : Option String) :
    (fuel depth : Nat) → List Node → List Char → Option (List Node × List Char)
  | 0, _, _, _ => none
  | fuel + 1, depth, done, cs =>
    match value origin fuel depth (skip cs) with
    | none => none
    | some (x, rest) =>
      match skip rest with
      | ',' :: rest => items origin fuel depth (done ++ [x]) rest
      | ']' :: rest => some (done ++ [x], rest)
      | _ => none

/-- The entries of a table up to its end, after those read already. -/
def fields (origin : Option String) :
    (fuel depth : Nat) → List (String × Node) → List Char → Option (List (String × Node) × List Char)
  | 0, _, _, _ => none
  | fuel + 1, depth, done, cs =>
    match skip cs with
    | '\x22' :: rest =>
      match text fuel rest with
      | none => none
      | some (key, rest) =>
        match skip rest with
        | ':' :: rest =>
          match value origin fuel depth (skip rest) with
          | none => none
          | some (x, rest) =>
            let entries := addEntry done (String.ofList key) x
            match skip rest with
            | ',' :: rest => fields origin fuel depth entries rest
            | '\x7d' :: rest => some (entries, rest)
            | _ => none
        | _ => none
    | _ => none

end

/-- The value that a whole text writes. -/
def parse (origin : Option String) (s : String) : Option Node :=
  match value origin (s.length + 1) 127 (skip s.toList) with
  | some (n, rest) => if (skip rest).isEmpty then some n else none
  | none => none

end Folio.Settings.Json
