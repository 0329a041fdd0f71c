import Folio.PageData
import Folio.Section
/-!
# Page programs

A page is a finite program of operations. Each operation has a type of answers, and what the
program does next may depend on the answer, so a program can branch on what it finds and go on
after an operation that fails. `Program.run` runs a program against any handler of its operations.

`Script` is the form in which pages are written: an error that a step returns ends the script,
unless `Script.attempt` catches it. Main statement: `run_bind`, running a program that goes on with
another one is running the two in turn.
-/

namespace Folio

/-- An operation that a page can do while it runs. -/
inductive Op where
  /-- Writes a fragment. -/
  | write (content : Content)
  /-- Writes literal markup of the template, between the two events of its region. -/
  | writeAt (position : Nat) (markup : String)
  /-- Reports the start of a region. -/
  | openRegion (position length : Nat) (isLiteral : Bool)
  /-- Reports the end of a region. -/
  | closeRegion
  /-- Defines a section for the page's own layout. -/
  | define (name : String) (renderer : Renderer)
  /-- Writes the child's body. -/
  | renderBody
  /-- Sets the child's body aside. -/
  | ignoreBody
  /-- Asks whether the child defines a section. -/
  | isSectionDefined (name : String)
  /-- Writes a section of the child. -/
  | renderSection (name : String) (required : Bool)
  /-- Sets a section of the child aside. -/
  | ignoreSection (name : String)
  /-- Renders another page in place. -/
  | renderPartial (reference : String)
  /-- Reads the shared value under a key. -/
  | getData (key : String)
  /-- Puts a shared value under a key. -/
  | setData (key : String) (value : Value)
  /-- Takes the shared value under a key out. -/
  | removeData (key : String)
  /-- Asks how the page runs. -/
  | about
  /-- Leaves an entry in the journal. -/
  | note (text : String)

/-- How a page runs: its path, the view that is rendered, and whether it is a layout there. -/
structure About where
  path : String
  view : String
  isLayout : Bool
  deriving DecidableEq, Repr

/-- The answers to an operation. -/
abbrev Op.Answer : Op → Type
  | write _ | writeAt _ _ | define _ _ | renderBody | ignoreSection _ | renderPartial _ => Except Error Unit
  | openRegion _ _ _ | closeRegion | ignoreBody | setData _ _ | note _ => Unit
  | isSectionDefined _ => Except Error Bool
  | renderSection _ _ => Except Error (Option Content)
  | getData _ | removeData _ => Option Value
  | about => About

/-- A finite program of operations with a result. -/
inductive Program (α : Type) where
  | done (result : α)
  | op (o : Op) (next : o.Answer → Program α)

namespace Program

variable {α β σ : Type}

/-- Goes on with another program. -/
def bind : Program α → (α → Program β) → Program β
  | done a, f => f a
  | op o next, f => op o fun answer => (next answer).bind f

instance : Monad Program where
  pure := done
  bind := bind

/-- Does one operation. -/
def perform (o : Op) : Program o.Answer := op o done

/-- Runs a program from a state, where `handle` does each operation. -/
def run (handle : (o : Op) → σ → o.Answer × σ) : Program α → σ → α × σ
  | done a, s => (a, s)
  | op o next, s => (next (handle o s).1).run handle (handle o s).2

theorem run_bind (handle : (o : Op) → σ → o.Answer × σ) (p : Program α) (f : α → Program β) (s : σ) :
    (p.bind f).run handle s = (f (p.run handle s).1).run handle (p.run handle s).2 := by
  induction p generalizing s with
  | done a => rfl
  | op o next ih => exact ih (handle o s).1 (handle o s).2

end Program

/-- A program whose steps may fail, the first failure being its outcome. -/
abbrev Script (α : Type) := ExceptT Error Program α

namespace Script

variable {α : Type}

/-- The program of a script, which results in its outcome. -/
def program (s : Script α) : Program (Except Error α) := ExceptT.run s

/-- A step that may fail. -/
def step (p : Program (Except Error α)) : Script α := ExceptT.mk p

/-- A step that cannot fail. -/
def always (p : Program α) : Script α := ExceptT.lift p

/-- The outcome of a script, whatever it is. -/
def attempt (s : Script α) : Script (Except Error α) := always s.program

/-- Fails. -/
def fail (e : Error) : Script α := step (.done (.error e))

/-- Goes on where an outcome was a success. -/
def ofExcept (r : Except Error α) : Script α := step (.done r)

/-- Writes a fragment. -/
def write (content : Content) : Script Unit := step (.perform (.write content))

/-- Writes markup. -/
def writeText (markup : String) : Script Unit := write (.ofText markup)

/-- Writes literal markup of the template, with its place there. -/
def writeAt (position : Nat) (markup : String) : Script Unit := step (.perform (.writeAt position markup))

/-- Reports the start of a region. -/
def openRegion (position length : Nat) (isLiteral : Bool) : Script Unit :=
  always (.perform (.openRegion position length isLiteral))

/-- Reports the end of a region. -/
def closeRegion : Script Unit := always (.perform .closeRegion)

/-- Defines a section for the page's own layout. -/
def define (name : String) (renderer : Renderer) : Script Unit := step (.perform (.define name renderer))

/-- Writes the child's body. -/
def renderBody : Script Unit := step (.perform .renderBody)

/-- Sets the child's body aside. -/
def ignoreBody : Script Unit := always (.perform .ignoreBody)

/-- Asks whether the child defines a section. -/
def isSectionDefined (name : String) : Script Bool := step (.perform (.isSectionDefined name))

/-- Writes a section of the child if there is one, and tells whether there is. -/
def renderSection (name : String) : Script (Option Content) := step (.perform (.renderSection name false))

/-- Writes a section that the child has to define. -/
def requireSection (name : String) : Script Content := do
  return (← step (.perform (.renderSection name true))).getD .empty

/-- Sets a section of the child aside. -/
def ignoreSection (name : String) : Script Unit := step (.perform (.ignoreSection name))

/-- Renders another page in place. -/
def renderPartial (reference : String) : Script Unit := step (.perform (.renderPartial reference))

/-- The shared value under a key. -/
def getData (key : String) : Script (Option Value) := always (.perform (.getData key))

/-- Puts a shared value under a key. -/
def setData (key : String) (value : Value) : Script Unit := always (.perform (.setData key value))

/-- Takes the shared value under a key out. -/
def removeData (key : String) : Script (Option Value) := always (.perform (.removeData key))

/-- How the page runs. -/
def about : Script About := always (.perform .about)

/-- Leaves an entry in the journal. -/
def note (text : String) : Script Unit := always (.perform (.note text))

/-- The output of a template that the page renders. -/
def template (t : Template) : Script Content := do
  ofExcept (t.render (← about).path)

end Script
end Folio
