import Folio.Text.Bytes
/-!
# Requests

A request has a method and a target. Only well-formed ones reach the site: a method is a token, and
a target is a path with maybe a query, an absolute address, or an authority alone. `Target.parse`
gives the path of a well-formed target; queries and fragments play no part.
-/

namespace Folio.Http

/-- A character of a token. -/
def isTokenChar (c : Char) : Bool :=
  c.isAlphanum || "!#$%&\x27*+-.^_\x60|~".contains c

/-- A well-formed method. -/
def isMethod (s : String) : Bool := !s.isEmpty && s.toList.all isTokenChar

/-- A character that may stand in a path. Besides those of the standard these are the quote and
braces, and every character beyond ASCII. -/
def isPathChar (c : Char) : Bool :=
  let n := c.toNat
  n == 0x21 || n == 0x22 || (0x24 ≤ n && n ≤ 0x3b) || n == 0x3d || (0x40 ≤ n && n ≤ 0x5f) ||
    (0x61 ≤ n && n ≤ 0x7b) || n == 0x7c || n == 0x7d || 0x7e ≤ n

/-- A character that may stand in a query. -/
def isQueryChar (c : Char) : Bool :=
  let n := c.toNat
  n == 0x21 || (0x24 ≤ n && n ≤ 0x3b) || n == 0x3d || 0x3f ≤ n

/-- A character that may stand in an address as it is. -/
def isAddressChar (c : Char) : Bool :=
  c.isAlphanum || "!#$&\x27()*+,-./:;=?@[]_~".contains c

/-- A character that may stand in a scheme. -/
def isSchemeChar (c : Char) : Bool := c.isAlphanum || "+-.~".contains c

/-- The path of what follows the authority, if path and query are well formed. -/
def pathOf (cs : List Char) : Option (List Char) :=
  let path := cs.takeWhile fun c => c ≠ '?' && c ≠ '#'
  let rest := cs.dropWhile fun c => c ≠ '?' && c ≠ '#'
  let queryOk :=
    match rest with
    | '?' :: query => (query.takeWhile (· ≠ '#')).all isQueryChar
    | _ => true
  if path.all isPathChar && queryOk then some path else none

/-- How far an authority was read: how many colons stand after the last mark that resets their
count, whether brackets were opened and closed, and whether an escape stands outside them. -/
structure AuthorityState where
  colons : Nat
  isOpen : Bool
  isClosed : Bool
  hasEscape : Bool
  afterAt : Bool

/-- One character of an authority read. -/
def AuthorityState.step (s : AuthorityState) (c : Char) : Option AuthorityState :=
  if c = ':' then if s.colons ≥ 8 then none else some { s with colons := s.colons + 1, afterAt := false }
  else if c = '[' then
    if s.hasEscape || s.isOpen then none else some { s with isOpen := true, afterAt := false }
  else if c = ']' then
    if !s.isOpen || s.isClosed then none
    else some { s with isClosed := true, colons := 0, hasEscape := false, afterAt := false }
  else if c = '@' then some { s with colons := 0, hasEscape := false, afterAt := true }
  else if c = '%' then some { s with hasEscape := true, afterAt := false }
  else if isAddressChar c then some { s with afterAt := false }
  else none

/-- The authority at the start of an address and what follows it. -/
def authorityOf (cs : List Char) : Option (List Char × List Char) :=
  let ends := fun c : Char => c == '/' || c == '?' || c == '#'
  let authority := cs.takeWhile (!ends ·)
  (authority.foldlM AuthorityState.step ⟨0, false, false, false, false⟩).bind fun s =>
    if s.isOpen ≠ s.isClosed || s.colons > 1 || s.afterAt || s.hasEscape then none
    else some (authority, cs.dropWhile (!ends ·))

/-- The characters of a scheme before `://` and what follows them, or none where there is no scheme;
a scheme may have 64 characters, or is refused. -/
def schemeOf (cs : List Char) : Option (Option (List Char × List Char)) :=
  let scheme := cs.takeWhile isSchemeChar
  match cs.dropWhile isSchemeChar with
  | ':' :: '/' :: '/' :: rest =>
    if scheme.length > 64 then none else some (some (scheme, rest))
  | _ => some none

/-- A target is at most so many bytes long. -/
def maxTargetLength : Nat := 65534

/-- The path of a well-formed target. -/
def targetPath (target : String) : Option String :=
  if Text.byteLength target > maxTargetLength then none
  else
    match target.toList with
    | [] => none
    | ['*'] => some "*"
    | '/' :: cs => (pathOf ('/' :: cs)).map String.ofList
    | cs =>
      (schemeOf cs).bind fun
        | some (_, rest) =>
          (authorityOf rest).bind fun (authority, rest) =>
            if authority.isEmpty then none
            else
              (pathOf rest).map fun path => if path.isEmpty then "/" else String.ofList path
        | none =>
          (authorityOf cs).bind fun (_, rest) => if rest.isEmpty then some "" else none

/-- The value of a digit in base sixteen. -/
def hexValue (c : UInt8) : Option UInt8 :=
  if 48 ≤ c && c ≤ 57 then some (c - 48)
  else if 65 ≤ c && c ≤ 70 then some (c - 55)
  else if 97 ≤ c && c ≤ 102 then some (c - 87)
  else none

/-- The bytes of a path with its escapes resolved; a percent sign that starts no escape stands for
itself. -/
def unescape : List UInt8 → List UInt8
  | 37 :: a :: b :: rest =>
    match hexValue a, hexValue b with
    | some x, some y => (x * 16 + y) :: unescape rest
    | _, _ => 37 :: unescape (a :: b :: rest)
  | a :: rest => a :: unescape rest
  | [] => []

end Folio.Http
