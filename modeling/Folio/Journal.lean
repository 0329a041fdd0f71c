import Folio.Diagnostic
import Folio.Error
/-!
# Journals

A journal is what passes can be seen to do, in order. All that observers report is read from it:
the warnings, the regions, log records, and counts. `diagnostics_append` and `regions_append` say
that these readings go entry by entry.
-/

namespace Folio

/-- The start or end of a region of a template that is written. -/
inductive Region where
  | opened (path : String) (position length : Nat) (isLiteral : Bool)
  | closed (path : String)
  deriving DecidableEq, Repr

/-- One thing that a pass did. -/
inductive Event where
  /-- A page starts to run, at a nesting depth of partials. -/
  | entered (page : String) (depth : Nat)
  /-- A warning is raised. -/
  | warned (diagnostic : Diagnostic)
  /-- A region starts or ends. -/
  | region (region : Region)
  /-- A layout pulls a section that its child defines. -/
  | pulled (name template : String)
  /-- A page without a layout ends with sections that nobody will pull. -/
  | discarded (page : String) (sections : List String)
  /-- A page leaves an entry of its own. -/
  | noted (page text : String)
  /-- A pass ends. -/
  | passed (succeeded : Bool)
  /-- A pass whose output was streamed ends with an error. -/
  | streamFailed (view : String) (error : Error)
  deriving DecidableEq, Repr

/-- What passes did, in order. -/
abbrev Journal := List Event

namespace Journal

/-- The warnings raised. -/
def diagnostics (j : Journal) : List Diagnostic :=
  j.filterMap fun | .warned d => some d | _ => none

/-- The regions written. -/
def regions (j : Journal) : List Region :=
  j.filterMap fun | .region r => some r | _ => none

/-- The entries that pages left themselves, each with its page. -/
def notes (j : Journal) : List (String × String) :=
  j.filterMap fun | .noted page text => some (page, text) | _ => none

/-- The pages that ran, each with its depth. -/
def pages (j : Journal) : List (String × Nat) :=
  j.filterMap fun | .entered page depth => some (page, depth) | _ => none

@[simp] theorem diagnostics_append (j k : Journal) :
    diagnostics (j ++ k) = diagnostics j ++ diagnostics k := by simp [diagnostics]

@[simp] theorem regions_append (j k : Journal) : regions (j ++ k) = regions j ++ regions k := by
  simp [regions]

@[simp] theorem pages_append (j k : Journal) : pages (j ++ k) = pages j ++ pages k := by simp [pages]

end Journal
end Folio
