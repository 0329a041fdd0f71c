import Folio.Path
import Folio.Program
import Folio.Text.Bytes
/-!
# Catalogs

A page has the path it is written under, maybe a reference to its layout, and a program. A catalog
keeps pages under their normalised paths; a path belongs to the first page registered under it.
`keys_register` says what an accepted registration does.
-/

namespace Folio

/-- A page: its path as written, the reference to its layout, and what it does when it runs. -/
structure Page where
  path : String
  layout : Option String
  program : Program (Except Error Unit)

/-- The path of the page's layout, if it has one. -/
def Page.layoutPath (p : Page) : Except Error (Option String) :=
  match p.layout with
  | none => .ok none
  | some reference => (Path.resolve p.path reference).map some

/-- Pages under their normalised paths, in the order of their registration. -/
structure Catalog where
  entries : List (String × Page)

namespace Catalog

/-- The catalog without pages. -/
def empty : Catalog := ⟨[]⟩

/-- The page under a normalised path. -/
def find? (c : Catalog) (key : String) : Option Page := (c.entries.find? (·.1 = key)).map (·.2)

/-- Registers a page under a path that is still free. -/
def register (c : Catalog) (page : Page) : Except Error Catalog :=
  match Path.normalize page.path with
  | .error e => .error e
  | .ok key =>
    match c.find? key with
    | some _ => .error (.duplicatePage key)
    | none => .ok ⟨c.entries ++ [(key, page)]⟩

/-- The page that a path leads to. -/
def get (c : Catalog) (path : String) : Except Error Page :=
  match Path.normalize path with
  | .error e => .error e
  | .ok key =>
    match c.find? key with
    | some page => .ok page
    | none => .error (.pageNotFound key)

/-- A page is registered under the path. -/
def contains (c : Catalog) (path : String) : Bool :=
  match Path.normalize path with
  | .error _ => false
  | .ok key => (c.find? key).isSome

/-- The number of pages. -/
def size (c : Catalog) : Nat := c.entries.length

/-- The catalog has no page. -/
def isEmpty (c : Catalog) : Bool := c.entries.isEmpty

/-- One path comes no later than another in the order of their bytes. -/
def pathLe (a b : String) : Bool := decide (Text.encode a ≤ Text.encode b)

/-- The paths of the pages, in the order of their bytes. -/
def paths (c : Catalog) : List String := (c.entries.map (·.1)).mergeSort pathLe

theorem keys_register {c c' : Catalog} {page : Page} (h : c.register page = .ok c') :
    ∃ key, Path.normalize page.path = .ok key ∧ c.find? key = none ∧
      c'.entries = c.entries ++ [(key, page)] := by
  unfold register at h
  split at h
  · cases h
  · next key hk =>
    split at h
    · cases h
    · next hf => cases h; exact ⟨key, hk, hf, rfl⟩

theorem get_isOk_iff (c : Catalog) (path : String) :
    (∃ page, c.get path = .ok page) ↔ c.contains path = true := by
  unfold get contains
  cases Path.normalize path with
  | error e => simp
  | ok key => dsimp only; cases c.find? key <;> simp

end Catalog
end Folio
