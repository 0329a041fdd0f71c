import Folio.Error
import Folio.Sink
import Folio.Text.Fold
import Folio.Text.Markup
/-!
# Sections

A page defines named sections for its layout; a layout pulls them when it wants them. A section is
a renderer: what it writes is decided only when it is pulled, and may differ from call to call.
Names match by their fold, and keep their spelling for messages. A registry keeps an index of the folds
beside its sections, and with it the proof that the two agree.

`find?_eq` says that a look-up through the index is a search through the sections; `names_define` and
`keys_define` say what an accepted definition does to a registry; `names_countCall` says that a call
leaves its names as they are.
-/

namespace Folio

/-! ## What a renderer does -/

/-- What one call of a renderer does: writes in order, told after each whether the sink took it,
and an outcome. -/
inductive Writer where
  | done (outcome : Except Error Unit)
  | write (content : Content) (next : Bool → Writer)

namespace Writer

/-- The sink after the writes, and the outcome. -/
def run : Writer → Sink → Except Error Unit × Sink
  | done outcome, sink => (outcome, sink)
  | write content next, sink => (next (sink.write content).1).run (sink.write content).2

/-- Writes a fragment and goes on; a write that is not taken is the outcome. -/
def put (content : Content) (rest : Writer) : Writer :=
  write content fun taken => if taken then rest else done (.error .sinkClosed)

/-- Writes fragments one after the other. -/
def putAll (contents : List Content) (rest : Writer) : Writer := contents.foldr put rest

end Writer

/-- A template filled in: its text, or none if one of the values in it has no text. -/
abbrev Template := Option String

/-- The output of a template that the page at `path` renders. -/
def Template.render (path : String) : Template → Except Error Content
  | some text => .ok (.ofText text)
  | none => .error (.page path "an error occurred when formatting an argument")

/-- A deferred producer of output: what its call number `n` does, counted from one. -/
abbrev Renderer := Nat → Writer

namespace Renderer

/-- A fragment renders itself, in one write. -/
def ofContent (content : Content) : Renderer := fun _ => .put content (.done (.ok ()))

/-- A template rendered on behalf of the page at `path`: its text in one write, or the page's
failure with no write at all. -/
def ofTemplate (path : String) (template : Template) : Renderer := fun _ =>
  match template.render path with
  | .ok content => .put content (.done (.ok ()))
  | .error e => .done (.error e)

end Renderer

/-! ## Registries -/

/-- A defined section: its name as spelled, its renderer, and how often it was called. -/
structure Section where
  name : String
  renderer : Renderer
  calls : Nat

/-- The key under which a section is found. -/
def Section.key (s : Section) : String := Text.fold s.name

/-- The sections that a page hands to its layout, in the order of their definition, and the place of
the first one under each key. -/
structure Registry where
  sections : List Section
  index : String → Option Nat
  indexed : ∀ key, index key = (sections.map (·.key)).idxOf? key

namespace Registry

/-- The registry without sections. -/
def empty : Registry := ⟨[], fun _ => none, fun _ => rfl⟩

/-- The registry of sections that are indexed afresh. -/
def ofSections (sections : List Section) : Registry :=
  ⟨sections, (sections.map (·.key)).idxOf?, fun _ => rfl⟩

/-- The names of the sections, as spelled when they were defined. -/
def names (r : Registry) : List String := r.sections.map (·.name)

/-- The keys of the sections. -/
def keys (r : Registry) : List String := r.sections.map (·.key)

/-- The number of sections. -/
def size (r : Registry) : Nat := r.sections.length

/-- The registry has no section. -/
def isEmpty (r : Registry) : Bool := r.sections.isEmpty

/-- The index has a place for a name. -/
def has (r : Registry) (name : String) : Bool := (r.index (Text.fold name)).isSome

/-- The section at the place that the index has for a name. -/
def find? (r : Registry) (name : String) : Option Section := (r.index (Text.fold name)).bind (r.sections[·]?)

/-- The registry with one more section at the end, and its place in the index. -/
def add (r : Registry) (s : Section) (new : ¬ r.has s.name) : Registry where
  sections := r.sections ++ [s]
  index key := if key = s.key then some r.size else r.index key
  indexed key := by
    have hnone : (r.sections.map (·.key)).idxOf? s.key = none := by
      rw [← r.indexed]
      simpa [has, Section.key] using new
    rw [List.map_append, List.idxOf?, List.findIdx?_append]
    change _ = ((r.sections.map (·.key)).idxOf? key).or _
    by_cases hk : key = s.key
    · subst hk
      simp [hnone, size]
    · rw [if_neg hk, r.indexed]
      simp [Ne.symm hk]

/-- Defines a section under a new name. -/
def define (r : Registry) (name : String) (renderer : Renderer) : Except Error Registry :=
  if name.isEmpty then .error (.argument "name")
  else if h : r.has name then .error (.conflict name)
  else .ok (r.add ⟨name, renderer, 0⟩ h)

/-- The registry in which the sections under a key are called once more. -/
def countCall (r : Registry) (key : String) : Registry where
  sections := r.sections.map fun s => if s.key = key then { s with calls := s.calls + 1 } else s
  index := r.index
  indexed other := by
    rw [r.indexed, List.map_map]
    refine congrArg (List.idxOf? other) (List.map_congr_left fun s _ => ?_)
    simp only [Function.comp]
    split <;> rfl

/-- Calls the renderer of the section of that name: the outcome, the sink after its writes, and the
registry with the call counted; none if no section has the name. -/
def render (r : Registry) (name : String) (sink : Sink) : Option (Except Error Unit × Sink × Registry) :=
  (r.find? name).map fun s =>
    let ran := (s.renderer (s.calls + 1)).run sink
    (ran.1, ran.2, r.countCall s.key)

/-- How reports show a registry. -/
def describe (r : Registry) : String :=
  "SectionRegistry \x7b sections: " ++ Text.quoteList r.names ++ " \x7d"

@[simp] theorem sections_add (r : Registry) (s : Section) (new : ¬ r.has s.name) :
    (r.add s new).sections = r.sections ++ [s] := rfl

/-- A registry is what its sections are, indexed afresh. -/
theorem ofSections_sections (r : Registry) : ofSections r.sections = r := by
  obtain ⟨sections, index, indexed⟩ := r
  obtain rfl : (sections.map (·.key)).idxOf? = index := (funext indexed).symm
  rfl

theorem ext_sections {r r' : Registry} (h : r.sections = r'.sections) : r = r' := by
  rw [← ofSections_sections r, h, ofSections_sections]

theorem names_countCall (r : Registry) (key : String) : (r.countCall key).names = r.names := by
  simp only [names, countCall, List.map_map]
  refine List.map_congr_left fun s _ => ?_
  simp only [Function.comp]
  split <;> rfl

theorem keys_eq (r : Registry) : r.keys = r.names.map Text.fold := by
  simp [keys, names, Section.key, Function.comp_def]

theorem has_iff (r : Registry) (name : String) : r.has name = true ↔ Text.fold name ∈ r.keys := by
  rw [has, r.indexed, List.isSome_idxOf?, keys]

/-- What the index says of a name is what a search through the sections finds. -/
theorem find?_eq (r : Registry) (name : String) : r.find? name = r.sections.find? (·.key = Text.fold name) := by
  rw [find?, r.indexed, List.find?_eq_bind_findIdx?_getElem?, List.idxOf?, List.findIdx?_map]
  rfl

theorem isSome_find? (r : Registry) (name : String) : (r.find? name).isSome = r.has name := by
  rw [Bool.eq_iff_iff, has_iff, find?_eq]
  simp [keys]

theorem find?_eq_none_iff (r : Registry) (name : String) : r.find? name = none ↔ ¬ r.has name = true := by
  rw [← isSome_find?]
  simp

theorem define_eq_ok_iff {r r' : Registry} {name : String} {renderer : Renderer} :
    r.define name renderer = .ok r' ↔
      name.isEmpty = false ∧ ∃ new : ¬ r.has name = true, r' = r.add ⟨name, renderer, 0⟩ new := by
  unfold define
  by_cases hn : name.isEmpty = true
  · simp [hn]
  · by_cases hd : r.has name = true
    · simp [hn, hd]
    · simp [hn, hd, eq_comm]

theorem define_eq_error_iff {r : Registry} {name : String} {renderer : Renderer} {e : Error} :
    r.define name renderer = .error e ↔
      name = "" ∧ e = .argument "name" ∨ name ≠ "" ∧ r.has name = true ∧ e = .conflict name := by
  by_cases hn : name = ""
  · have hdefine : r.define name renderer = .error (.argument "name") := by simp [define, hn]
    rw [hdefine]
    constructor
    · rintro ⟨⟩
      exact .inl ⟨hn, rfl⟩
    · rintro (⟨-, rfl⟩ | ⟨hne, -⟩)
      · rfl
      · exact absurd hn hne
  · by_cases hd : r.has name = true
    · have hdefine : r.define name renderer = .error (.conflict name) := by simp [define, hn, hd]
      rw [hdefine]
      constructor
      · rintro ⟨⟩
        exact .inr ⟨hn, hd, rfl⟩
      · rintro (⟨hempty, -⟩ | ⟨-, -, rfl⟩)
        · exact absurd hempty hn
        · rfl
    · simp [define, hn, hd]

/-- A definition that is accepted adds its name at the end. -/
theorem names_define {r r' : Registry} {name : String} {renderer : Renderer}
    (h : r.define name renderer = .ok r') : r'.names = r.names ++ [name] := by
  obtain ⟨-, new, rfl⟩ := define_eq_ok_iff.1 h
  simp [names]

/-- A definition that is accepted adds a key that was not there. -/
theorem keys_define {r r' : Registry} {name : String} {renderer : Renderer}
    (h : r.define name renderer = .ok r') :
    r'.keys = r.keys ++ [Text.fold name] ∧ Text.fold name ∉ r.keys := by
  obtain ⟨-, new, -⟩ := define_eq_ok_iff.1 h
  exact ⟨by simp [keys_eq, names_define h], fun hm => new ((r.has_iff name).2 hm)⟩

end Registry
end Folio
