import Folio.Settings.Node
/-!
# Places in a table of settings

A layer says where its entries go: under a key, or further down, as in `server.port` or
`hosts[-1].name`. An item of a list is counted from its end if the number is negative. What is not
written in this way is a key as it stands.

`Place.put` makes the tables and lists on the way that are not there, and lays a node over what is
at the end of it.
-/

namespace Folio.Settings

/-- A step down from a node. -/
inductive Step where
  | entry (key : String)
  | item (index : Int)
  deriving DecidableEq, Repr

/-- A place in a table: a key, and the steps down from it. -/
structure Place where
  key : String
  steps : List Step
  deriving DecidableEq, Repr

/-- A number of an item: its place from the start of a list, or from the end if it is negative. A
list that is too short gets more items in front, so the place is found in the list that `reach`
gives. -/
def reach (index : Int) (items : List Node) : Nat × List Node :=
  let none : Node := .scalar none .null
  if 0 ≤ index then (index.toNat, items ++ List.replicate (index.toNat + 1 - items.length) none)
  else
    let fromEnd := (-index).toNat
    (items.length - fromEnd, List.replicate (fromEnd - items.length) none ++ items)

namespace Node

/-- The items of a list; anything else has none. -/
def items : Node → List Node
  | list _ items => items
  | _ => []

/-- Where a list was read; anything else makes way for a new list. -/
def listOrigin : Node → Option String
  | list origin _ => origin
  | _ => none

/-- Changes the node at the end of some steps. -/
def alter (change : Node → Node) : List Step → Node → Node
  | [], n => change n
  | .entry key :: steps, n => n.put key (alter change steps ((n.get? key).getD (scalar none .null)))
  | .item index :: steps, n =>
    let (place, items) := reach index n.items
    list n.listOrigin (items.modify place (alter change steps))

end Node

namespace Place

/-- A character of a key in a written place. -/
def isPart (c : Char) : Bool := c.isAlphanum || c = '_' || c = '-'

/-- A text without the white space at its start. -/
def skipBlanks (cs : List Char) : List Char := cs.dropWhile fun c => c = ' ' || c = '\t'

/-- A whole number of 64 bits at the start of a text, and what follows it. -/
def integer? (cs : List Char) : Option (Int × List Char) :=
  let (negative, cs) := match cs with
    | '-' :: cs => (true, cs)
    | cs => (false, cs)
  let (ds, rest) := Text.splitDigits cs
  match Text.decimal? ds with
  | none => none
  | some n =>
    let i : Int := if negative then -n else n
    if Text.fitsSigned64 i then some (i, rest) else none

/-- The steps that a text writes. -/
def steps? : (fuel : Nat) → List Char → Option (List Step)
  | _, [] => some []
  | 0, _ => none
  | fuel + 1, '.' :: cs =>
    let key := cs.takeWhile isPart
    if key.isEmpty then none
    else (steps? fuel (cs.dropWhile isPart)).map (.entry (String.ofList key) :: ·)
  | fuel + 1, '[' :: cs =>
    match integer? (skipBlanks cs) with
    | none => none
    | some (index, rest) =>
      match skipBlanks rest with
      | ']' :: rest => (steps? fuel rest).map (.item index :: ·)
      | _ => none
  | _, _ => none

/-- The place that a text writes, or the key that it is. -/
def read (s : String) : Place :=
  let key := s.toList.takeWhile isPart
  match steps? s.length (s.toList.dropWhile isPart) with
  | some steps => if key.isEmpty then ⟨s, []⟩ else ⟨String.ofList key, steps⟩
  | none => ⟨s, []⟩

/-- Lays a node over what is at a place of a table. -/
def put (p : Place) (value : Node) (n : Node) : Node :=
  n.alter (·.overlay value) (.entry p.key :: p.steps)

end Place
end Folio.Settings
