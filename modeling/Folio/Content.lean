import Folio.Text.Bytes
import Folio.Text.Quoted
/-!
# Content

A fragment of output: any bytes, most often markup. Fragments are written as they are.
-/

namespace Folio

/-- A fragment of output. -/
structure Content where
  bytes : List UInt8
  deriving DecidableEq, Repr

namespace Content

/-- The fragment without bytes, which also stands for output that is already written. -/
def empty : Content := ⟨[]⟩

/-- The bytes of a text. -/
def ofText (text : String) : Content := ⟨Text.encode text⟩

/-- The fragment has no bytes. -/
def isEmpty (c : Content) : Bool := c.bytes.isEmpty

/-- The number of bytes. -/
def size (c : Content) : Nat := c.bytes.length

/-- Fragments written one after the other. -/
def concat (cs : List Content) : Content := ⟨cs.flatMap (·.bytes)⟩

/-- The fragment as text, with a replacement character for what is not text. -/
def lossy (c : Content) : String := Text.lossy c.bytes

/-- The fragment as text, if all of it is. -/
def text? (c : Content) : Option String := Text.text? c.bytes

/-- How reports show a fragment. -/
def describe (c : Content) : String := "Content(" ++ Text.quote c.lossy ++ ")"

theorem isEmpty_iff (c : Content) : c.isEmpty = true ↔ c = empty := by
  cases c; simp [isEmpty, empty]

/-- Empty fragments add nothing. -/
theorem concat_filter_isEmpty (cs : List Content) : concat (cs.filter (!·.isEmpty)) = concat cs := by
  induction cs with
  | nil => rfl
  | cons c cs ih =>
    simp only [concat, mk.injEq, List.flatMap_cons] at ih ⊢
    by_cases h : c.isEmpty = true
    · rw [List.filter_cons_of_neg (by simp [h]), ih, (isEmpty_iff c).1 h]
      rfl
    · simp [h, ih]

end Content
end Folio
