import Folio.Text.CaseTable
/-!
# Folding names

Names of sections and keys of page data match when their lower case is the same. `fold` is full
lower-casing: a character becomes the characters of its lower case, and a capital sigma becomes a
final one where it ends a word.

Whether a sigma is final is a question about its neighbours, so `foldFrom` carries the characters
that come before the text it folds.
-/

namespace Folio.Text

/-- Whether a character is a letter with case, or a symbol made of such letters. -/
def isCased (c : Char) : Bool := inRuns casedRuns c.toNat

/-- Whether a character is passed over when a word's cased letters are looked for. -/
def isCaseIgnorable (c : Char) : Bool := inRuns caseIgnorableRuns c.toNat

/-- The capital sigma. -/
def capitalSigma : Char := Char.ofNat 0x3a3

/-- The small sigma inside a word. -/
def smallSigma : Char := Char.ofNat 0x3c3

/-- The small sigma at the end of a word. -/
def finalSigma : Char := Char.ofNat 0x3c2

/-- The capital I with a dot, the one character whose lower case has two characters. -/
def dottedCapitalI : Char := Char.ofNat 0x130

/-- The code point of the lower case of a code point in `caseRuns`, and any other one as it is. -/
def lowerCode (n : Nat) : Nat :=
  match caseRuns.find? (·.holds n) with
  | some r => r.image + (n - r.first)
  | none => n

/-- The lower case of a character on its own. -/
def lower (c : Char) : List Char :=
  if c = dottedCapitalI then ['i', Char.ofNat 0x307] else [Char.ofNat (lowerCode c.toNat)]

/-- The first character that is not passed over is cased. -/
def meetsCased (cs : List Char) : Bool :=
  match cs.dropWhile isCaseIgnorable with
  | [] => false
  | c :: _ => isCased c

/-- A sigma between `before` (nearest character first) and `after` ends a word: a cased letter comes
before it and none comes after it. -/
def endsWord (before after : List Char) : Bool := meetsCased before && !meetsCased after

/-- The lower case of `cs` where the characters `before` (nearest first) come before it. -/
def foldFrom (before : List Char) : List Char → List Char
  | [] => []
  | c :: cs =>
    (if c = capitalSigma then [if endsWord before cs then finalSigma else smallSigma] else lower c) ++
      foldFrom (c :: before) cs

/-- The lower case of a text. -/
def foldChars (cs : List Char) : List Char := foldFrom [] cs

/-- The form of a name that names of the same spelling up to case share. -/
def fold (name : String) : String := String.ofList (foldChars name.toList)

theorem fold_empty : fold "" = "" := rfl

/-- A name that is not empty has a fold that is not empty. -/
theorem fold_eq_empty_iff (name : String) : fold name = "" ↔ name = "" := by
  refine ⟨fun h => ?_, fun h => by rw [h, fold_empty]⟩
  have hchars : foldChars name.toList = [] := by
    have := congrArg String.toList h
    simpa [fold] using this
  cases hn : name.toList with
  | nil => simpa using hn
  | cons c cs =>
    rw [hn, foldChars, foldFrom, List.append_eq_nil_iff] at hchars
    have hnone := hchars.1
    unfold lower at hnone
    split at hnone
    · simp at hnone
    · split at hnone <;> simp at hnone

end Folio.Text
