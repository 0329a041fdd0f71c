import Folio.Pass
/-!
# The renderers of a page

What holds of all renderers that a page can get at, those of its child's sections and those that it
defines itself, holds of them whatever the page does: an operation only counts calls of the former and
adds one that it defines to the latter.
-/

namespace Folio

variable {P : Renderer → Prop}

/-- All renderers of a registry have a property. -/
def Registry.All (P : Renderer → Prop) (r : Registry) : Prop := ∀ s ∈ r.sections, P s.renderer

/-- All renderers of the child, if there is one, have a property. -/
def Composer.All (P : Renderer → Prop) (c : Composer) : Prop := ∀ child, c.child = some child → child.sections.All P

namespace Registry
variable {r : Registry}

theorem all_empty : empty.All P := fun _ h => nomatch h

theorem All.find? (h : r.All P) {name : String} {s : Section} (hs : r.find? name = some s) : P s.renderer := by
  rw [find?_eq] at hs
  exact h s (List.mem_of_find?_eq_some hs)

theorem All.countCall (h : r.All P) (key : String) : (r.countCall key).All P := by
  intro s hs
  obtain ⟨section_, hsection, rfl⟩ := List.mem_map.1 hs
  split <;> exact h section_ hsection

theorem All.define (h : r.All P) {name : String} {renderer : Renderer} (hrenderer : P renderer) {r' : Registry}
    (hr : r.define name renderer = .ok r') : r'.All P := by
  obtain ⟨-, new, rfl⟩ := define_eq_ok_iff.1 hr
  intro s hs
  rcases List.mem_append.1 hs with hs | hs
  · exact h s hs
  · obtain rfl := List.mem_singleton.1 hs
    exact hrenderer

end Registry

namespace Composer
variable {c : Composer}

theorem All.sectionsFor (h : c.All P) {operation name : String} {sections : Registry}
    (hs : c.sectionsFor operation name = .ok sections) : sections.All P := by
  unfold Composer.sectionsFor at hs
  split at hs
  · cases hs
  · split at hs
    · cases hs
    · next child hchild => cases hs; exact h child hchild

theorem all_forPage {child : Option Child} (h : ∀ c, child = some c → c.sections.All P) (page : Page) (view : String)
    (traced : Bool) : (forPage page view child traced).All P := by
  cases child with
  | none => exact fun _ hc => nomatch hc
  | some child => rintro _ ⟨⟩; exact h child rfl

/-- A pull only counts the call of a renderer. -/
theorem All.renderSection (h : c.All P) (name : String) (required : Bool) (sink : Sink) :
    (c.renderSection name required sink).composer.All P := by
  unfold Composer.renderSection
  cases hs : c.sectionsFor "render_section" name with
  | error e => exact h
  | ok sections =>
    simp only [Registry.render]
    cases sections.find? name with
    | none => exact h
    | some s =>
      intro child hchild
      obtain ⟨before, -, rfl⟩ := Option.map_eq_some_iff.1 hchild
      exact (h.sectionsFor hs).countCall s.key

end Composer

namespace Frame
variable {f : Frame}

theorem all_composer (h : f.composer.All P) (path : String) (partials : PartialRenderer) (o : Op) :
    (perform path partials o f).2.composer.All P := by
  cases o with
  | renderSection name required => exact h.renderSection name required f.stage.sink
  | define | renderPartial => simp only [perform]; split <;> exact h
  | renderBody =>
    simp only [perform, Composer.renderBody]
    cases f.composer.child.bind (·.body) <;> exact h
  | ignoreSection name =>
    simp only [perform, Composer.ignoreSection]
    split
    · exact h
    · split <;> exact h
  | _ => exact h

theorem all_sections (h : f.sections.All P) {o : Op} (ho : ∀ name renderer, o = .define name renderer → P renderer)
    (path : String) (partials : PartialRenderer) : (perform path partials o f).2.sections.All P := by
  cases o with
  | define name renderer =>
    simp only [perform]
    cases hd : f.sections.define name renderer with
    | error e => exact h
    | ok sections => exact h.define (ho name renderer rfl) hd
  | renderPartial | renderBody => simp only [perform]; split <;> exact h
  | _ => exact h

end Frame
end Folio
