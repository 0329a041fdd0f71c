import Folio.Text.Digits
/-!
# Floating numbers of configuration files

A number with a point or an exponent in a configuration file is a binary floating number of 64 bits:
the one nearest to what is written, of two the one with an even mantissa. Where a whole number is
asked for it is rounded, a half away from zero; where a text is asked for it is written with the
fewest digits that read back as the same number, and never with an exponent.
-/

namespace Folio.Settings

/-- A binary floating number; a finite one is `mantissa · 2 ^ exponent` with a sign. -/
inductive Binary64 where
  | nan
  | infinite (negative : Bool)
  | finite (negative : Bool) (mantissa : Nat) (exponent : Int)
  deriving DecidableEq, Repr

namespace Binary64

/-- The least exponent. -/
def minExponent : Int := -1074

/-- The least mantissa that is too great. -/
def mantissaBound : Nat := 0x20000000000000

/-- `x · 2 ^ e` as a quotient. -/
def scale (x : Nat) (e : Int) : Nat × Nat :=
  if 0 ≤ e then (x * Nat.pow 2 e.toNat, 1) else (x, Nat.pow 2 (-e).toNat)

/-- A quotient rounded to the nearest whole number, a half to the even one. -/
def roundEven (num den : Nat) : Nat :=
  let q := num / den
  let r := num % den
  if 2 * r > den || (2 * r == den && q % 2 == 1) then q + 1 else q

/-- The number nearest to a quotient. -/
def ofQuotient (negative : Bool) (num den : Nat) : Binary64 :=
  if num = 0 then finite negative 0 0
  else
    let guess : Int := (Nat.log2 num : Int) - (Nat.log2 den : Int) - 52
    let fits (e : Int) : Bool :=
      let (a, b) := scale num (-e)
      a / (b * den) < mantissaBound
    let least := if fits (guess - 1) then guess - 1 else if fits guess then guess else guess + 1
    let e := max least minExponent
    let (a, b) := scale num (-e)
    let m := roundEven a (b * den)
    let (m, e) := if m = mantissaBound then (m / 2, e + 1) else (m, e)
    if 971 < e then infinite negative else finite negative m e

/-- The number nearest to `digits · 10 ^ exponent`. -/
def ofDecimal (negative : Bool) (digits : Nat) (exponent : Int) : Binary64 :=
  let size : Int := (Nat.toDigits 10 digits).length
  if digits = 0 || size + exponent < -400 then finite negative 0 0
  else if 400 < size + exponent then infinite negative
  else if 0 ≤ exponent then ofQuotient negative (digits * Nat.pow 10 exponent.toNat) 1
  else ofQuotient negative digits (Nat.pow 10 (-exponent).toNat)

/-- The number is zero, of either sign. -/
def isZero : Binary64 → Bool
  | finite _ m _ => m == 0
  | _ => false

/-- The greatest number of 64 bits without sign. -/
def maxWord : Nat := Text.bound64 - 1

/-- The whole number nearest to a number, a half away from zero, or the nearest one of 64 bits. -/
def toWord : Binary64 → Nat
  | nan => 0
  | infinite negative => if negative then 0 else maxWord
  | finite true _ _ => 0
  | finite false m e =>
    let (a, b) := scale m e
    min ((2 * a + b) / (2 * b)) maxWord

/-- The digits and the power of ten of the shortest decimal that reads back as `m · 2 ^ e`, where
`m` is not zero. The decimals that read back lie between the middles to the two neighbours, which
belong to them where `m` is even. -/
def shortest (m : Nat) (e : Int) : Nat × Int :=
  let (unit, den) := scale 1 (e - 2)
  let value := 4 * m * unit
  let low := (if 2 * m = mantissaBound && minExponent < e then 4 * m - 1 else 4 * m - 2) * unit
  let high := (4 * m + 2) * unit
  let isIn (num div : Nat) : Bool :=
    if m % 2 == 0 then low * div ≤ num && num ≤ high * div else low * div < num && num < high * div
  let top : Int := (Nat.toDigits 10 (value / den)).length
  let top := if den ≤ value then top else top - (Nat.toDigits 10 (den / value)).length
  let rec search (tries : Nat) (power : Int) : Nat × Int :=
    let (p, q) := if 0 ≤ power then (Nat.pow 10 power.toNat, 1) else (1, Nat.pow 10 (-power).toNat)
    let below := value * q / (den * p)
    let near (d : Nat) : Bool := isIn (d * p * den) q
    let rest := value * q - below * (den * p)
    match tries with
    | 0 => (below, power)
    | tries + 1 =>
      if near below && near (below + 1) then
        (if 2 * rest ≤ den * p then below else below + 1, power)
      else if 0 < below && near below then (below, power)
      else if near (below + 1) then (below + 1, power)
      else search tries (power - 1)
  search 20 top

/-- A decimal without exponent. -/
def positional (digits : Nat) (power : Int) : String :=
  let cs := Nat.toDigits 10 digits
  if 0 ≤ power then String.ofList (cs ++ List.replicate power.toNat '0')
  else
    let places := (-power).toNat
    let cs := List.replicate (places + 1 - cs.length) '0' ++ cs
    String.ofList (cs.take (cs.length - places) ++ '.' :: cs.drop (cs.length - places))

/-- The number as text. -/
def text : Binary64 → String
  | nan => "NaN"
  | infinite negative => if negative then "-inf" else "inf"
  | finite negative m e =>
    let sign := if negative then "-" else ""
    if m = 0 then sign ++ "0"
    else
      let (digits, power) := shortest m e
      sign ++ positional digits power

end Binary64
end Folio.Settings
