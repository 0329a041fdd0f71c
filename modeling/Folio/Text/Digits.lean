/-!
# Digits

The numbers that digits write. Only the digits of base ten and sixteen in ASCII are digits.
-/

namespace Folio.Text

/-- The value of a digit in base sixteen. -/
def digitValue? (c : Char) : Option Nat :=
  if '0' ≤ c && c ≤ '9' then some (c.toNat - '0'.toNat)
  else if 'a' ≤ c && c ≤ 'f' then some (c.toNat - 'a'.toNat + 10)
  else if 'A' ≤ c && c ≤ 'F' then some (c.toNat - 'A'.toNat + 10)
  else none

/-- The number that digits write in a base, if all are digits of it. -/
def numberIn? (base : Nat) (cs : List Char) : Option Nat :=
  cs.foldlM (fun n c => ((digitValue? c).filter (· < base)).map (n * base + ·)) 0

/-- The number that digits of base ten write. -/
def number (ds : List Char) : Nat := ds.foldl (fun n c => n * 10 + (c.toNat - '0'.toNat)) 0

/-- The number that a text of base ten writes, if it consists of digits and has any. -/
def decimal? (cs : List Char) : Option Nat :=
  if cs.isEmpty || !cs.all (·.isDigit) then none else some (number cs)

/-- A number of base ten with an optional plus sign. -/
def unsigned? (s : String) : Option Nat :=
  match s.toList with
  | '+' :: cs => decimal? cs
  | cs => decimal? cs

/-- The digits of base ten at the start of a text, and what follows them. -/
def splitDigits (cs : List Char) : List Char × List Char :=
  (cs.takeWhile (·.isDigit), cs.dropWhile (·.isDigit))

/-! ## Numbers of a fixed width -/

/-- The least number that 16 bits do not hold. -/
def bound16 : Nat := 0x10000

/-- The least number that 32 bits do not hold. -/
def bound32 : Nat := 0x100000000

/-- The least number that 64 bits do not hold. -/
def bound64 : Nat := 0x10000000000000000

/-- The number fits into 64 bits with a sign. -/
def fitsSigned64 (n : Int) : Bool := -0x8000000000000000 ≤ n && n < 0x8000000000000000

end Folio.Text
