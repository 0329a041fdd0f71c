import Folio.Text.Digits
/-!
# Addresses to listen on

An address is a host, given by its number, and a port. A host of four bytes is written with dots,
one of eight words with colons and between brackets; `shown` is the one form in which a host is
written out, with the longest row of zeros left out.
-/

namespace Folio.Settings

/-- A host by its number; a scope tells which of its networks a host of eight words is on. -/
inductive Host where
  | four (bytes : List Nat)
  | six (words : List Nat) (scope : Nat)
  deriving DecidableEq, Repr

/-- An address to listen on. -/
structure Address where
  host : Host
  port : Nat
  deriving DecidableEq, Repr

namespace Host

/-- One of the four bytes, without zeros in front. -/
def byte? (cs : List Char) : Option Nat :=
  if 3 < cs.length || (1 < cs.length && cs.head? = some '0') then none
  else (Text.decimal? cs).filter (· < 256)

/-- The four bytes that a text writes. -/
def bytes? (cs : List Char) : Option (List Nat) :=
  ((cs.splitOn '.').mapM byte?).filter (·.length = 4)

/-- A word of up to four digits in base sixteen. -/
def word? (cs : List Char) : Option Nat :=
  if cs.isEmpty || 4 < cs.length then none else Text.numberIn? 16 cs

/-- The words between colons; the last two can be written as four bytes where `mayEndInBytes`. -/
def words? (mayEndInBytes : Bool) (cs : List Char) : Option (List Nat) :=
  if cs.isEmpty then some []
  else
    let parts := cs.splitOn ':'
    match mayEndInBytes, parts.getLast?.bind bytes? with
    | true, some [a, b, c, d] => (parts.dropLast.mapM word?).map (· ++ [a * 256 + b, c * 256 + d])
    | _, _ => parts.mapM word?

/-- The text before the first pair of colons and the text after it. -/
def splitPair : List Char → Option (List Char × List Char)
  | ':' :: ':' :: cs => some ([], cs)
  | c :: cs => (splitPair cs).map fun (front, back) => (c :: front, back)
  | [] => none

/-- The eight words that a text writes, where a pair of colons stands for one zero or more. -/
def eight? (cs : List Char) : Option (List Nat) :=
  match splitPair cs with
  | none => (words? true cs).filter (·.length = 8)
  | some (front, back) => do
    let front ← words? false front
    let back ← words? true back
    if front.length + back.length ≤ 7 then
      return front ++ List.replicate (8 - front.length - back.length) 0 ++ back
    else none

/-- The scope after a percent sign, if there is one. -/
def scope? : List Char → Option Nat
  | [] => some 0
  | _ :: cs => (Text.decimal? cs).filter (· < Text.bound32)

/-- The host that a text writes. -/
def read? (s : String) : Option Host :=
  match s.toList with
  | '[' :: cs =>
    match cs.getLast? with
    | some ']' => do
      let inner := cs.dropLast
      let words ← eight? (inner.takeWhile (· ≠ '%'))
      let scope ← scope? (inner.dropWhile (· ≠ '%'))
      return six words scope
    | _ => none
  | cs => (bytes? cs).map four

/-- Bytes with dots between them. -/
def dotted (bytes : List Nat) : String := ".".intercalate (bytes.map toString)

/-- A word in base sixteen. -/
def hex (word : Nat) : String := String.ofList (Nat.toDigits 16 word)

/-- Words with colons between them. -/
def colons (words : List Nat) : String := ":".intercalate (words.map hex)

/-- The length of the row of zeros that words start with. -/
def zeros (words : List Nat) : Nat := (words.takeWhile (· = 0)).length

/-- Where the longest row of zeros starts, and its length; of several it is the first one. -/
def longestZeros : List Nat → Nat × Nat
  | [] => (0, 0)
  | w :: ws =>
    let (start, length) := longestZeros ws
    if length ≤ zeros (w :: ws) then (0, zeros (w :: ws)) else (start + 1, length)

/-- Eight words with their longest row of zeros left out, if it is longer than one. Where four bytes
stand behind the mark of such, they are written as bytes. -/
def eightShown (words : List Nat) : String :=
  match words with
  | [0, 0, 0, 0, 0, 0xffff, a, b] => "::ffff:" ++ dotted [a / 256, a % 256, b / 256, b % 256]
  | _ =>
    let (start, length) := longestZeros words
    if 1 < length then colons (words.take start) ++ "::" ++ colons (words.drop (start + length))
    else colons words

/-- The text of a host. -/
def shown : Host → String
  | four bytes => dotted bytes
  | six words scope =>
    "[" ++ eightShown words ++ (if scope = 0 then "" else "%" ++ toString scope) ++ "]"

end Host

/-- The text of an address. -/
def Address.shown (a : Address) : String := a.host.shown ++ ":" ++ toString a.port

end Folio.Settings
