import Folio.Settings.Toml.Literal
import Folio.Settings.Toml.Tree
/-!
# Configuration in TOML

Reads the text of a configuration file in TOML. Each step takes characters off the front of the
text; `fuel` bounds the number of steps and is the length of the text, of which every step takes
some. Lists and tables in braces may be nested 80 deep. A line break of two characters counts as
one of one character.
-/

namespace Folio.Settings.Toml

/-- A character of white space within a line. -/
def isBlank (c : Char) : Bool := c = ' ' || c = '\t'

/-- A text without the white space at its start. -/
def skipBlanks (cs : List Char) : List Char := cs.dropWhile isBlank

/-- A character that has no place in a document, apart from line breaks. -/
def isControl (c : Char) : Bool := (c.toNat < 0x20 && c ≠ '\t') || c.toNat = 0x7f

/-- The rest of a line that holds white space and a comment at most, if that is what it holds. The
line break stays. -/
def skipComment (cs : List Char) : Option (List Char) :=
  match skipBlanks cs with
  | '#' :: rest =>
    match rest.dropWhile (!isControl ·) with
    | [] => some []
    | c :: rest => if c = '\n' then some (c :: rest) else none
  | rest => some rest

/-- A text without the white space, comments and line breaks at its start. -/
def skipLines : (fuel : Nat) → List Char → Option (List Char)
  | 0, _ => none
  | fuel + 1, cs =>
    match skipComment cs with
    | none => none
    | some ('\n' :: rest) => skipLines fuel rest
    | some rest => some rest

/-! ## Texts -/

/-- The character that so many digits of an escape write, and what follows them. -/
def escaped? (count : Nat) (cs : List Char) : Option (Char × List Char) :=
  match (Text.numberIn? 16 (cs.take count)).filter fun _ => count ≤ cs.length with
  | none => none
  | some n => if n < 0xd800 || (0xe000 ≤ n && n < 0x110000) then some (Char.ofNat n, cs.drop count) else none

/-- The character that a backslash stands for with what follows it. -/
def escape? : List Char → Option (Char × List Char)
  | 'u' :: cs => escaped? 4 cs
  | 'U' :: cs => escaped? 8 cs
  | c :: cs =>
    (([('\x22', '\x22'), ('\x5c', '\x5c'), ('b', '\x08'), ('f', '\x0c'), ('n', '\n'), ('r', '\r'),
      ('t', '\t')] : List (Char × Char)).lookup c).map (·, cs)
  | [] => none

/-- The characters of a text on one line up to its closing quote, and what follows it. -/
def lineText (quote : Char) : (fuel : Nat) → List Char → Option (List Char × List Char)
  | 0, _ => none
  | fuel + 1, cs =>
    let keep (c : Char) (rest : List Char) := (lineText quote fuel rest).map fun (s, rest) => (c :: s, rest)
    match cs with
    | [] => none
    | c :: rest =>
      if c = quote then some ([], rest)
      else if c = '\x5c' && quote = '\x22' then (escape? rest).bind fun (c, rest) => keep c rest
      else if isControl c then none
      else keep c rest

/-- The characters of a text on several lines up to its closing quotes, and what follows them. Up to
two quotes may stand before the closing ones. A backslash at the end of a line takes the white space
after it away. -/
def linesText (quote : Char) : (fuel : Nat) → List Char → Option (List Char × List Char)
  | 0, _ => none
  | fuel + 1, cs =>
    let keep (c : Char) (rest : List Char) := (linesText quote fuel rest).map fun (s, rest) => (c :: s, rest)
    match cs with
    | [] => none
    | c :: rest =>
      let quotes := cs.takeWhile (· = quote)
      if 3 ≤ quotes.length then
        let count := min quotes.length 5
        some (List.replicate (count - 3) quote, cs.drop count)
      else if c = '\x5c' && quote = '\x22' then
        match skipBlanks rest with
        | '\n' :: after => linesText quote fuel (after.dropWhile fun c => isBlank c || c = '\n')
        | _ => (escape? rest).bind fun (c, rest) => keep c rest
      else if isControl c && c ≠ '\n' then none
      else keep c rest

/-- A text at the start of a text, and what follows it. -/
def text (fuel : Nat) (cs : List Char) : Option (List Char × List Char) :=
  match cs with
  | a :: b :: c :: rest =>
    if a = b && b = c then linesText a fuel (if rest.head? = some '\n' then rest.drop 1 else rest)
    else lineText a fuel (b :: c :: rest)
  | a :: rest => lineText a fuel rest
  | [] => none

/-! ## Keys -/

/-- A character of a key without quotes. -/
def isBare (c : Char) : Bool := c.isAlphanum || c = '_' || c = '-'

/-- One part of a key at the start of a text, and what follows it. -/
def keyPart (fuel : Nat) (cs : List Char) : Option (String × List Char) :=
  match cs with
  | [] => none
  | c :: rest =>
    if c = '\x22' || c = '\x27' then (lineText c fuel rest).map fun (s, rest) => (String.ofList s, rest)
    else
      let bare := cs.takeWhile isBare
      if bare.isEmpty then none else some (String.ofList bare, cs.dropWhile isBare)

/-- A key at the start of a text, and what follows it with the white space in between. -/
def key : (fuel : Nat) → List Char → Option (List String × List Char)
  | 0, _ => none
  | fuel + 1, cs =>
    match keyPart fuel (skipBlanks cs) with
    | none => none
    | some (part, rest) =>
      match skipBlanks rest with
      | '.' :: rest => (key fuel rest).map fun (parts, rest) => (part :: parts, rest)
      | rest => some ([part], rest)

/-! ## Values -/

mutual

/-- A value at the start of a text without white space, and what follows it. -/
def value (origin : Option String) : (fuel depth : Nat) → List Char → Option (Node × List Char)
  | 0, _, _ => none
  | fuel + 1, depth, cs =>
    match cs with
    | '[' :: rest =>
      if depth = 0 then none
      else (items origin fuel (depth - 1) [] rest).map fun (xs, rest) => (.list origin xs, rest)
    | '\x7b' :: rest =>
      if depth = 0 then none
      else
        match skipBlanks rest with
        | '\x7d' :: rest => some (.table origin [], rest)
        | rest =>
          (fields origin fuel (depth - 1) [] rest).map fun (es, rest) =>
            (.table origin (Entries.nodes origin es), rest)
    | c :: _ =>
      if c = '\x22' || c = '\x27' then
        (text fuel cs).map fun (s, rest) => (.scalar origin (.text (String.ofList s)), rest)
      else
        let (run, rest) := Literal.split cs
        (Literal.read? run).map fun s => (.scalar origin s, rest)
    | [] => none

/-- The items of a list up to its end, after those read already. -/
def items (origin : Option String) :
    (fuel depth : Nat) → List Node → List Char → Option (List Node × List Char)
  | 0, _, _, _ => none
  | fuel + 1, depth, done, cs =>
    match skipLines (fuel + 1) cs with
    | none => none
    | some (']' :: rest) => some (done, rest)
    | some cs =>
      match value origin fuel depth cs with
      | none => none
      | some (x, rest) =>
        match skipLines (fuel + 1) rest with
        | some (',' :: rest) => items origin fuel depth (done ++ [x]) rest
        | some (']' :: rest) => some (done ++ [x], rest)
        | _ => none

/-- The entries of a table in braces up to its end, after those read already. -/
def fields (origin : Option String) :
    (fuel depth : Nat) → Entries → List Char → Option (Entries × List Char)
  | 0, _, _, _ => none
  | fuel + 1, depth, done, cs =>
    match key fuel cs with
    | some (path, '=' :: rest) =>
      match value origin fuel depth (skipBlanks rest) with
      | none => none
      | some (x, rest) =>
        match done.put? [] path x, skipBlanks rest with
        | some done, ',' :: rest => fields origin fuel depth done rest
        | some done, '\x7d' :: rest => some (done, rest)
        | _, _ => none
    | _ => none

end

/-! ## Documents -/

/-- A document as far as it is read: its tables, and the header of the one that is written now. -/
structure Document where
  entries : Entries
  header : List String

/-- Reads one header or one key with its value at the start of a text. -/
def statement (origin : Option String) (fuel : Nat) (d : Document) (cs : List Char) :
    Option (Document × List Char) :=
  match cs with
  | '[' :: '[' :: rest =>
    match key fuel rest with
    | some (path, ']' :: ']' :: rest) => (d.entries.openNext? path).map fun es => (⟨es, path⟩, rest)
    | _ => none
  | '[' :: rest =>
    match key fuel rest with
    | some (path, ']' :: rest) => (d.entries.open? path).map fun es => (⟨es, path⟩, rest)
    | _ => none
  | cs =>
    match key fuel cs with
    | some (path, '=' :: rest) =>
      match value origin fuel 80 (skipBlanks rest) with
      | some (x, rest) => (d.entries.put? d.header path x).map fun es => (⟨es, d.header⟩, rest)
      | none => none
    | _ => none

/-- Reads a document to its end, a line at a time. -/
def statements (origin : Option String) : (fuel : Nat) → Document → List Char → Option Document
  | 0, _, _ => none
  | fuel + 1, d, cs =>
    match skipLines (fuel + 1) cs with
    | none => none
    | some [] => some d
    | some cs =>
      match statement origin fuel d cs with
      | none => none
      | some (d, rest) =>
        match skipComment rest with
        | some [] => some d
        | some ('\n' :: rest) => statements origin fuel d rest
        | _ => none

/-- A text in which every line break is one character. -/
def joinBreaks : List Char → List Char
  | '\r' :: '\n' :: cs => '\n' :: joinBreaks cs
  | c :: cs => c :: joinBreaks cs
  | [] => []

/-- The table that a whole text writes. -/
def parse (origin : Option String) (s : String) : Option Node :=
  (statements origin (s.length + 2) ⟨[], []⟩ (joinBreaks s.toList)).map fun d =>
    .table origin (Entries.nodes origin d.entries)

end Folio.Settings.Toml
