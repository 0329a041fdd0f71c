import Folio.Journal
import Folio.Section
/-!
# Composers

A layout runs on behalf of a child, the page whose output it wraps. Its composer hands out the
child's body and sections, and records what the layout used: a section or body that was rendered
counts as rendered whatever else is said about it, and one set aside counts as ignored until it is
rendered. At the end `unused` reports what is neither.

A page that is nobody's layout has an unbound composer, which refuses every pull. The equations of
`sectionsFor` say in which order the pulls of sections are refused.
-/

namespace Folio

/-- What a page hands to the layout that runs on its behalf. -/
structure Child where
  sections : Registry
  body : Option Content

/-- What became of the child's body. -/
inductive BodyState where
  | pending
  | rendered
  | ignored
  deriving DecidableEq, Repr

/-- What a layout used of its child: keys of sections, and the body. -/
structure Usage where
  rendered : List String
  ignored : List String
  body : BodyState
  deriving DecidableEq, Repr

namespace Usage

/-- Nothing is used yet. -/
def start : Usage := ⟨[], [], .pending⟩

/-- The section under a key is rendered, and no longer ignored. -/
def renderSection (u : Usage) (key : String) : Usage :=
  { u with
    rendered := if key ∈ u.rendered then u.rendered else u.rendered ++ [key]
    ignored := u.ignored.filter (· ≠ key) }

/-- The section under a key is ignored, unless it is rendered. -/
def ignoreSection (u : Usage) (key : String) : Usage :=
  if key ∈ u.rendered ∨ key ∈ u.ignored then u else { u with ignored := u.ignored ++ [key] }

/-- The body is rendered. -/
def renderBody (u : Usage) : Usage := { u with body := .rendered }

/-- The body is ignored, unless it is rendered. -/
def ignoreBody (u : Usage) : Usage :=
  match u.body with
  | .pending => { u with body := .ignored }
  | _ => u

end Usage

/-- The gate between the layout at `template` and its child, while `view` is rendered. `traced` says
whether regions are reported. -/
structure Composer where
  template : String
  view : String
  child : Option Child
  usage : Usage
  traced : Bool

namespace Composer

/-- The composer of a page that is nobody's layout. -/
def unbound (template view : String) (traced : Bool) : Composer :=
  ⟨template, view, none, .start, traced⟩

/-- The composer of a layout that runs on behalf of `child`. -/
def forLayout (template view : String) (child : Child) (traced : Bool) : Composer :=
  { unbound template view traced with child := some child }

/-- The page runs as a layout. -/
def isLayout (c : Composer) : Bool := c.child.isSome

/-- The error of an operation that needs a child. -/
def needsChild (c : Composer) (operation : String) : Error := .invalidState operation c.template

/-- The error of a section that the child does not define. -/
def undefined (c : Composer) (name : String) : Error := .sectionNotDefined name c.template c.view

/-- The child's sections, for an operation that pulls the section `name`. -/
def sectionsFor (c : Composer) (operation name : String) : Except Error Registry :=
  if name.isEmpty then .error (.argument "name")
  else
    match c.child with
    | none => .error (c.needsChild operation)
    | some child => .ok child.sections

/-- The child's body, which counts as rendered from then on. -/
def renderBody (c : Composer) : Except Error Content × Composer :=
  match c.child.bind (·.body) with
  | none => (.error (c.needsChild "render_body"), c)
  | some body => (.ok body, { c with usage := c.usage.renderBody })

/-- Sets the body aside. -/
def ignoreBody (c : Composer) : Composer := { c with usage := c.usage.ignoreBody }

/-- The child defines a section of that name. -/
def isSectionDefined (c : Composer) (name : String) : Except Error Bool :=
  (c.sectionsFor "is_section_defined" name).map (·.has name)

/-- What pulling a section leads to: an empty fragment once the section is written, none if it is
missing and may be; and the composer, the sink and the events after it. -/
structure Pull where
  result : Except Error (Option Content)
  composer : Composer
  sink : Sink
  events : Journal

/-- Writes the section of that name into the sink. The section counts as rendered from the moment
it is called, and a second call is warned about and made. -/
def renderSection (c : Composer) (name : String) (required : Bool) (sink : Sink) : Pull :=
  match c.sectionsFor "render_section" name with
  | .error e => ⟨.error e, c, sink, []⟩
  | .ok sections =>
    let key := Text.fold name
    let warnings : Journal :=
      if key ∈ c.usage.rendered then [.warned (.sectionAlreadyRendered c.template name)] else []
    match sections.render name sink with
    | none => ⟨if required then .error (c.undefined name) else .ok none, c, sink, warnings⟩
    | some (outcome, sink, sections) =>
      let child := c.child.map fun child => { child with sections }
      ⟨outcome.map fun _ => some .empty, { c with child, usage := c.usage.renderSection key }, sink,
        warnings ++ [.pulled name c.template]⟩

/-- Sets the section of that name aside. -/
def ignoreSection (c : Composer) (name : String) : Except Error Unit × Composer :=
  match c.sectionsFor "ignore_section" name with
  | .error e => (.error e, c)
  | .ok sections =>
    if sections.has name then (.ok (), { c with usage := c.usage.ignoreSection (Text.fold name) })
    else (.error (c.undefined name), c)

/-- The names of sections that were neither rendered nor ignored. -/
def unusedNames (c : Composer) (sections : Registry) : List String :=
  sections.names.filter fun name =>
    Text.fold name ∉ c.usage.rendered ∧ Text.fold name ∉ c.usage.ignored

/-- What the layout left unused: sections if the child defines any, and otherwise its body. -/
def unused (c : Composer) : List Diagnostic :=
  match c.child with
  | none => []
  | some child =>
    if child.sections.isEmpty then
      if child.body.isSome ∧ c.usage.body = .pending then [.bodyNotRendered c.template] else []
    else
      match c.unusedNames child.sections with
      | [] => []
      | names => [.sectionsNotRendered c.template names]

/-- The events of a region that starts. -/
def openRegion (c : Composer) (position length : Nat) (isLiteral : Bool) : Journal :=
  if c.traced then [.region (.opened c.template position length isLiteral)] else []

/-- The events of a region that ends. -/
def closeRegion (c : Composer) : Journal :=
  if c.traced then [.region (.closed c.template)] else []

variable {c : Composer}

theorem sectionsFor_unnamed (c : Composer) (operation : String) {name : String} (h : name = "") :
    c.sectionsFor operation name = .error (.argument "name") := by
  simp [sectionsFor, h]

theorem sectionsFor_of_child {sections : Registry} {body : Option Content} (h : c.child = some ⟨sections, body⟩)
    (operation name : String) :
    c.sectionsFor operation name = if name = "" then .error (.argument "name") else .ok sections := by
  simp [sectionsFor, h]

theorem sectionsFor_of_no_child (h : c.child = none) (operation name : String) :
    c.sectionsFor operation name = .error (if name = "" then .argument "name" else c.needsChild operation) := by
  by_cases hn : name = "" <;> simp [sectionsFor, h, hn]

end Composer
end Folio
