import Folio.Text.Quoted
/-!
# Diagnostics

Warnings about a layout that left part of its child unused, or pulled a section twice. A warning
never makes a pass fail.
-/

namespace Folio

/-- A warning about the layout at `template`. -/
inductive Diagnostic where
  /-- A section was pulled again. -/
  | sectionAlreadyRendered (template name : String)
  /-- Sections were neither pulled nor set aside. -/
  | sectionsNotRendered (template : String) (names : List String)
  /-- The body was neither pulled nor set aside. -/
  | bodyNotRendered (template : String)
  deriving DecidableEq, Repr

namespace Diagnostic

/-- The path of the layout that the warning is about. -/
def template : Diagnostic → String
  | sectionAlreadyRendered template _ => template
  | sectionsNotRendered template _ => template
  | bodyNotRendered template => template

/-- The label under which warnings of one kind are counted. -/
def kind : Diagnostic → String
  | sectionAlreadyRendered .. => "section_already_rendered"
  | sectionsNotRendered .. => "sections_not_rendered"
  | bodyNotRendered .. => "body_not_rendered"

/-- The wording of a warning. -/
def message : Diagnostic → String
  | sectionAlreadyRendered _ name => "section already rendered: " ++ name
  | sectionsNotRendered _ names => "section(s) not rendered: " ++ ", ".intercalate names
  | bodyNotRendered _ => "body not rendered"

/-- How log records show a warning in full. -/
def describe : Diagnostic → String
  | sectionAlreadyRendered template name =>
    "SectionAlreadyRendered \x7b template_path: " ++ Text.quote template ++ ", name: " ++ Text.quote name ++ " \x7d"
  | sectionsNotRendered template names =>
    "SectionsNotRendered \x7b template_path: " ++ Text.quote template ++ ", names: " ++
      Text.quoteList names ++ " \x7d"
  | bodyNotRendered template => "BodyNotRendered \x7b template_path: " ++ Text.quote template ++ " \x7d"

end Diagnostic

/-- Warnings kept in memory in the order of their emission. -/
structure DiagnosticLog where
  entries : List Diagnostic

namespace DiagnosticLog

/-- The log without warnings. -/
def empty : DiagnosticLog := ⟨[]⟩

/-- Keeps one more warning. -/
def warn (l : DiagnosticLog) (d : Diagnostic) : DiagnosticLog := ⟨l.entries ++ [d]⟩

/-- The warnings kept so far, and a log that starts anew. -/
def take (l : DiagnosticLog) : List Diagnostic × DiagnosticLog := (l.entries, empty)

/-- No warning is kept. -/
def isEmpty (l : DiagnosticLog) : Bool := l.entries.isEmpty

end DiagnosticLog
end Folio
