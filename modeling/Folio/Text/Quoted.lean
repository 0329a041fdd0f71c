import Folio.Text.HiddenTable
/-!
# Quoted text

The form in which reports and log records show a text: between double quotes, with an escape for
each character that would end the quotation or that has no shape of its own.
-/

namespace Folio.Text

/-- A character that has no shape of its own. -/
def isHidden (c : Char) : Bool := hiddenRuns.any fun r => r.1 ≤ c.toNat && c.toNat ≤ r.2

/-- The digits of a number in base sixteen, in small letters. -/
def hexDigits (n : Nat) : List Char := Nat.toDigits 16 n

/-- How one character stands inside quotes. -/
def quoteChar (c : Char) : List Char :=
  if c = '\x22' then ['\x5c', '\x22']
  else if c = '\x5c' then ['\x5c', '\x5c']
  else if c = '\n' then ['\x5c', 'n']
  else if c = '\r' then ['\x5c', 'r']
  else if c = '\t' then ['\x5c', 't']
  else if c = Char.ofNat 0 then ['\x5c', '0']
  else if isHidden c then ['\x5c', 'u', '\x7b'] ++ hexDigits c.toNat ++ ['\x7d']
  else [c]

/-- A text in quotes. -/
def quote (s : String) : String :=
  String.ofList ('\x22' :: s.toList.flatMap quoteChar ++ ['\x22'])

/-- A list of texts in quotes, between brackets. -/
def quoteList (xs : List String) : String := "[" ++ ", ".intercalate (xs.map quote) ++ "]"

/-! ## In JSON -/

/-- Four digits in base sixteen. -/
def fourHexDigits (n : Nat) : List Char :=
  let ds := hexDigits n
  List.replicate (4 - ds.length) '0' ++ ds

/-- How one character stands inside the quotes of JSON. -/
def jsonChar (c : Char) : List Char :=
  if c = '\x22' then ['\x5c', '\x22']
  else if c = '\x5c' then ['\x5c', '\x5c']
  else if c = '\n' then ['\x5c', 'n']
  else if c = '\r' then ['\x5c', 'r']
  else if c = '\t' then ['\x5c', 't']
  else if c.toNat = 0x08 then ['\x5c', 'b']
  else if c.toNat = 0x0c then ['\x5c', 'f']
  else if c.toNat < 0x20 then '\x5c' :: 'u' :: fourHexDigits c.toNat
  else [c]

/-- A text in the quotes of JSON. -/
def jsonQuote (s : String) : String :=
  String.ofList ('\x22' :: s.toList.flatMap jsonChar ++ ['\x22'])

end Folio.Text
