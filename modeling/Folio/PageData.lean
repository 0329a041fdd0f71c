import Folio.Text.Fold
/-!
# Page data

The values that the pages of one pass share. Keys match by their fold. `get?_set` and `get?_remove`
say what the two updates do to every key.
-/

namespace Folio

/-- A shared value. A number is its decimal digits, `digits · 10 ^ -places`. -/
inductive Value where
  | null
  | bool (b : Bool)
  | number (digits : Int) (places : Nat)
  | text (s : String)
  | list (xs : List Value)
  | table (entries : List (String × Value))
  deriving Inhabited

namespace Value

/-- The text of a value that is one. -/
def text? : Value → Option String
  | text s => some s
  | _ => none

/-- The truth of a value that is one. -/
def bool? : Value → Option Bool
  | bool b => some b
  | _ => none

end Value

/-- The shared values under their folded keys. -/
structure PageData where
  entries : List (String × Value)

namespace PageData

/-- The data without values. -/
def empty : PageData := ⟨[]⟩

/-- The value under a key. -/
def get? (d : PageData) (key : String) : Option Value :=
  (d.entries.find? (·.1 = Text.fold key)).map (·.2)

/-- The text under a key, if the value there is one. -/
def text? (d : PageData) (key : String) : Option String := (d.get? key).bind (·.text?)

/-- There is a value under the key. -/
def contains (d : PageData) (key : String) : Bool := (d.get? key).isSome

/-- The data without a value under the key. -/
def drop (d : PageData) (key : String) : PageData :=
  ⟨d.entries.filter fun e => e.1 ≠ Text.fold key⟩

/-- Puts a value under a key, in place of the one there. -/
def set (d : PageData) (key : String) (value : Value) : PageData :=
  ⟨(Text.fold key, value) :: (d.drop key).entries⟩

/-- Puts the stored form of a value under a key; what has none is stored as null. -/
def setStored (d : PageData) (key : String) (value : Option Value) : PageData :=
  d.set key (value.getD .null)

/-- Takes the value under a key out. -/
def remove (d : PageData) (key : String) : Option Value × PageData := (d.get? key, d.drop key)

theorem get?_drop (d : PageData) (key other : String) :
    (d.drop key).get? other = if Text.fold other = Text.fold key then none else d.get? other := by
  simp only [get?, drop, List.find?_filter]
  split
  · next h => simp [h]
  · next h =>
    congr 1
    congr 1
    funext e
    by_cases he : e.1 = Text.fold other
    · simp [he, h]
    · simp [he]

/-- A key sees the value set last under a key of the same fold. -/
theorem get?_set (d : PageData) (key other : String) (value : Value) :
    (d.set key value).get? other =
      if Text.fold other = Text.fold key then some value else d.get? other := by
  by_cases h : Text.fold key = Text.fold other
  · simp [get?, set, h]
  · have := get?_drop d key other
    rw [if_neg (Ne.symm h)] at this
    rw [if_neg (Ne.symm h), ← this]
    simp [get?, set, h]

/-- A removal leaves the other keys as they were. -/
theorem get?_remove (d : PageData) (key other : String) :
    (d.remove key).2.get? other = if Text.fold other = Text.fold key then none else d.get? other :=
  get?_drop d key other

end PageData
end Folio
