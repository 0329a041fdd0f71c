import Folio.Error
/-!
# Paths

A path names a page: a slash, then segments with a slash between them. Text that names a page is
read segment by segment against a stack of segments, innermost first (`walk`): an empty segment and
`.` stay, `..` goes up, any other segment goes down. A walk that would go above the root fails.

`normalize` reads the name of a page, where a leading `~` stands for the root. `resolve` reads a
reference as the page at `base` sees it.
-/

namespace Folio.Path

/-- The text between two slashes. -/
abbrev Segment := List Char

/-- The segments of a text: what stands before, between and after its slashes. -/
def segments : List Char → List Segment
  | [] => [[]]
  | c :: cs =>
    if c = '/' then [] :: segments cs
    else
      match segments cs with
      | [] => [[c]]
      | s :: ss => (c :: s) :: ss

/-- A segment that stays where it is. -/
def stays (s : Segment) : Bool := s = [] || s = ['.']

/-- The segment that goes up. -/
def parent : Segment := ['.', '.']

/-- One segment read from a stack, innermost first. -/
def step (stack : List Segment) (s : Segment) : Option (List Segment) :=
  if stays s then some stack
  else if s = parent then
    match stack with
    | [] => none
    | _ :: outer => some outer
  else some (s :: stack)

/-- Segments read one after the other from a stack. -/
def walk (stack : List Segment) (ss : List Segment) : Option (List Segment) := ss.foldlM step stack

/-- The path of segments, outermost first. -/
def spell (ss : List Segment) : List Char := '/' :: List.intercalate ['/'] ss

/-- The path that a text leads to from the root. -/
def collapse (cs : List Char) : Option (List Char) := (walk [] (segments cs)).map (spell ·.reverse)

/-- A text without the mark of the root at its start. -/
def dropRootMark : List Char → List Char
  | '~' :: cs => cs
  | cs => cs

/-- The part of a path before its last slash. -/
def directory (base : List Char) : List Char := (base.reverse.dropWhile (· ≠ '/')).tail.reverse

/-- The text that a reference stands for at a base: a reference that starts at the root is itself,
any other one follows the base's directory. -/
def join (base : List Char) : List Char → List Char
  | '~' :: '/' :: cs => '/' :: cs
  | '/' :: cs => '/' :: cs
  | cs => directory base ++ '/' :: cs

/-- The path under which the page named `path` is registered and looked up. -/
def normalize (path : String) : Except Error String :=
  match collapse (dropRootMark path.toList) with
  | some cs => .ok (String.ofList cs)
  | none => .error (.invalidPath "/" path)

/-- The path that `reference` stands for on the page at `base`. -/
def resolve (base reference : String) : Except Error String :=
  if reference.isEmpty then .error (.invalidPath base reference)
  else
    match collapse (join base.toList reference.toList) with
    | some cs => .ok (String.ofList cs)
    | none => .error (.invalidPath base reference)

/-- A path with a segment that starts with an underscore names a page that only other pages reach. -/
def isPrivate (path : String) : Bool := (segments path.toList).any (·.head? = some '_')

theorem segments_ne_nil (cs : List Char) : segments cs ≠ [] := by
  cases cs with
  | nil => simp [segments]
  | cons c cs =>
    simp only [segments]
    split
    · simp
    · split <;> simp

theorem walk_nil (stack : List Segment) : walk stack [] = some stack := rfl

theorem walk_cons (stack : List Segment) (s : Segment) (ss : List Segment) :
    walk stack (s :: ss) = (step stack s).bind (walk · ss) := by
  simp [walk, List.foldlM_cons]

theorem walk_append (stack : List Segment) (ss ts : List Segment) :
    walk stack (ss ++ ts) = (walk stack ss).bind (walk · ts) := by
  simp [walk, List.foldlM_append]

end Folio.Path
