import Folio.Proofs.Limit
import Folio.Proofs.Replies
/-!
# Where pages run

A page that runs in a pass has its place there: the chain of some view, at some depth of partials. The
view is the one that the pass is for, or the target of the partial that the page around is waiting for.
Along the layouts of that chain one gets from the view's page to the page that runs, and the composer of
the page is made for this place: it has the path of the page, the view of the chain, and a child exactly
if other pages of the chain ran before.

`Placed` is this much of a state. Every step keeps it (`placed_step`), so it holds in every state that a
pass comes by (`placed_of_reaches`).
-/

namespace Folio

/-! ## Operations of pages as calls to their composers -/

/-- The call that an operation makes to the composer of its page. -/
def Op.call? (sink : Sink) : Op → Option Composer.Call
  | .renderBody => some .renderBody
  | .ignoreBody => some .ignoreBody
  | .isSectionDefined name => some (.isSectionDefined name)
  | .renderSection name required => some (.renderSection name required sink)
  | .ignoreSection name => some (.ignoreSection name)
  | _ => none

/-- An operation does to the composer what its call does, if it makes one. -/
theorem Frame.composer_perform (path : String) (partials : PartialRenderer) (o : Op) (f : Frame) :
    (perform path partials o f).2.composer =
      (o.call? f.stage.sink).elim f.composer fun call => (f.composer.call call).1 := by
  cases o with
  | define | renderPartial => simp only [perform]; split <;> rfl
  | renderBody =>
    simp only [perform, Op.call?, Option.elim_some, Composer.call]
    generalize f.composer.renderBody = rendered
    obtain ⟨answer, composer⟩ := rendered
    cases answer <;> rfl
  | _ => rfl

namespace Composer

/-- The composer is made for a page at `template` in the chain of `view`, as one that has a child or has
none, with regions reported or not. -/
structure MadeFor (template view : String) (isLayout traced : Bool) (c : Composer) : Prop where
  template : c.template = template
  view : c.view = view
  isLayout : c.isLayout = isLayout
  traced : c.traced = traced

theorem madeFor_forPage (page : Page) (view : String) (child : Option Child) (traced : Bool) :
    MadeFor page.path view child.isSome traced (forPage page view child traced) := by
  cases child <;> exact ⟨rfl, rfl, rfl, rfl⟩

variable {template view : String} {isLayout traced : Bool} {c : Composer}

theorem traced_call (c : Composer) (call : Call) : (c.call call).1.traced = c.traced := by
  cases call with
  | renderBody => simp only [Composer.call, Composer.renderBody]; split <;> rfl
  | renderSection name required sink =>
    simp only [Composer.call, Composer.renderSection]
    split
    · rfl
    · split <;> rfl
  | ignoreSection name =>
    simp only [Composer.call, Composer.ignoreSection]
    split
    · rfl
    · split <;> rfl
  | _ => rfl

theorem MadeFor.call (h : MadeFor template view isLayout traced c) (call : Call) :
    MadeFor template view isLayout traced (c.call call).1 := by
  obtain ⟨htemplate, hview⟩ := c.paths_call call
  refine ⟨htemplate.trans h.template, hview.trans h.view, ?_, (c.traced_call call).trans h.traced⟩
  rw [← h.isLayout, Composer.isLayout, c.child_call call, Option.isSome_map]
  rfl

end Composer

/-- Whatever a page does, its composer stays made for it. -/
theorem Frame.madeFor_perform {template view : String} {isLayout traced : Bool} {f : Frame}
    (h : f.composer.MadeFor template view isLayout traced) (path : String) (partials : PartialRenderer) (o : Op) :
    (perform path partials o f).2.composer.MadeFor template view isLayout traced := by
  rw [composer_perform]
  cases o.call? f.stage.sink with
  | none => exact h
  | some call => exact h.call call

/-! ## Places in a pass -/

theorem Catalog.Leads.snoc {c : Catalog} {first page next : Page} {pages : List Page} {target : String}
    (h : c.Leads first pages page) (hl : page.layoutPath = .ok (some target)) (hf : c.find? target = some next) :
    c.Leads first (pages ++ [page]) next := by
  induction h with
  | here =>
    obtain ⟨reference, hl, hr⟩ := layoutPath_eq_some.1 hl
    exact .link hl hr hf .here
  | link hl' hr' hf' _ ih => exact .link hl' hr' hf' (ih hl)

namespace Engine

/-- The view whose chain runs while pages wait: the target of the partial that the innermost of them
renders, or, where none waits, the view at `path`, which the pass is for. -/
def Asked (engine : Engine) (start : Machine) (path : String) : List Host → String → Prop
  | [], view => Path.normalize path = .ok view
  | host :: hosts, view => ∃ frame reference,
    engine.Reaches start ⟨.run host.turn host.wrap frame (.op (.renderPartial reference) host.next), hosts⟩ ∧
      Path.resolve host.turn.page.path reference = .ok view

/-- A page has its place in a pass while others wait: in the chain of the view asked for, one level
deeper than they are, and as a layout if other pages come before it in that chain. -/
structure Place (engine : Engine) (start : Machine) (path : String) (hosts : List Host) (t : Turn) (isLayout : Bool) :
    Prop where
  depth : t.depth = hosts.length
  view : engine.Asked start path hosts t.view
  chain : ∃ first pages, engine.catalog.find? t.view = some first ∧ engine.catalog.Leads first pages t.page ∧
    (isLayout = true ↔ pages ≠ [])

/-- A page runs in its place, with a composer made for it, and in a buffer if a layout follows. -/
structure Runs (engine : Engine) (start : Machine) (path : String) (hosts : List Host) (t : Turn) (wrap : Option Wrap)
    (c : Composer) : Prop where
  place : engine.Place start path hosts t c.isLayout
  composer : c.MadeFor t.page.path t.view c.isLayout engine.options.traceRegions
  wrap : ∀ w, wrap = some w → t.page.layoutPath = .ok (some w.layout)

/-- What is done next is done in its place. -/
def ControlPlaced (engine : Engine) (start : Machine) (path : String) (hosts : List Host) : Control → Prop
  | .enter depth target _ =>
    depth = hosts.length ∧ ∀ view, Path.normalize target = .ok view → engine.Asked start path hosts view
  | .turn t child _ => engine.Place start path hosts t child.isSome
  | .count t layout child _ =>
    engine.Place start path hosts t child.isSome ∧ t.page.layoutPath = .ok (some layout)
  | .run t wrap frame _ => engine.Runs start path hosts t wrap frame.composer
  | .leave _ _ => True

/-- The pages that wait do so in their places. -/
inductive HostsPlaced (engine : Engine) (start : Machine) (path : String) : List Host → Prop
  | nil : HostsPlaced engine start path []
  | cons {host hosts} : engine.Runs start path hosts host.turn host.wrap host.composer →
      HostsPlaced engine start path hosts → HostsPlaced engine start path (host :: hosts)

/-- All pages in a state are in their places. -/
structure Placed (engine : Engine) (start : Machine) (path : String) (s : Machine) : Prop where
  control : engine.ControlPlaced start path s.hosts s.control
  hosts : engine.HostsPlaced start path s.hosts

variable {engine : Engine} {start : Machine} {path : String} {hosts : List Host} {t : Turn} {child : Option Child}

theorem Place.runs (h : engine.Place start path hosts t child.isSome) {wrap : Option Wrap}
    (hwrap : ∀ w, wrap = some w → t.page.layoutPath = .ok (some w.layout)) (stage : Stage) :
    engine.Runs start path hosts t wrap (engine.startFrame t child stage).composer := by
  have hmade := Composer.madeFor_forPage t.page t.view child engine.options.traceRegions
  refine ⟨?_, ?_, hwrap⟩
  · simp only [startFrame, Page.start, hmade.isLayout]
    exact h
  · exact ⟨hmade.template, hmade.view, rfl, hmade.traced⟩

theorem Runs.perform {wrap : Option Wrap} {frame : Frame} (h : engine.Runs start path hosts t wrap frame.composer)
    (partials : PartialRenderer) (o : Op) :
    engine.Runs start path hosts t wrap (Frame.perform t.page.path partials o frame).2.composer := by
  have hmade := Frame.madeFor_perform h.composer t.page.path partials o
  refine ⟨?_, ⟨hmade.template, hmade.view, rfl, hmade.traced⟩, h.wrap⟩
  rw [hmade.isLayout]
  exact h.place

/-- Each step leaves all pages in their places. -/
theorem placed_step {s t : Machine} (hr : engine.Reaches start s) (h : engine.Placed start path s)
    (hstep : engine.step s = some t) : engine.Placed start path t := by
  obtain ⟨hcontrol, hhosts⟩ := h
  cases move_of_step hstep with
  | @opened depth target view page stage hosts hv hd hg =>
    obtain ⟨hdepth, hasked⟩ := hcontrol
    have hf := Catalog.find?_of_get (Path.normalize_normalize hv) hg
    exact ⟨⟨hdepth, hasked view hv, page, [], hf, .here, by simp⟩, hhosts⟩
  | last hl => exact ⟨hcontrol.runs (by simp) _, hhosts⟩
  | counted hl => exact ⟨⟨⟨hcontrol.depth, hcontrol.view, hcontrol.chain⟩, hl⟩, hhosts⟩
  | inner hm =>
    obtain ⟨hplace, hl⟩ := hcontrol
    exact ⟨hplace.runs (by rintro _ ⟨⟩; exact hl) _, hhosts⟩
  | unresolved hp => exact ⟨hcontrol, hhosts⟩
  | @descended t wrap frame reference next target hosts hp =>
    refine ⟨⟨by rw [hcontrol.place.depth]; rfl, fun view hv => ?_⟩, .cons hcontrol hhosts⟩
    obtain rfl : target = view := by simpa [Path.normalize_resolve hp] using hv
    exact ⟨frame, reference, hr, hp⟩
  | performed ho => exact ⟨hcontrol.perform _ _, hhosts⟩
  | @followed t wrap frame page hosts hg =>
    obtain ⟨first, pages, hfirst, hleads, -⟩ := hcontrol.place.chain
    have hl := hcontrol.wrap wrap rfl
    obtain ⟨reference, -, hresolve⟩ := Catalog.layoutPath_eq_some.1 hl
    have hf := Catalog.find?_of_get (Path.normalize_resolve hresolve) hg
    exact ⟨⟨hcontrol.place.depth, hcontrol.place.view, first, _, hfirst, hleads.snoc hl hf, by simp⟩, hhosts⟩
  | returned =>
    cases hhosts with
    | cons hhost hhosts => exact ⟨hhost, hhosts⟩
  | strayed | nested | missing | unled | exceeded | failed | concluded | unfollowed => exact ⟨trivial, hhosts⟩

/-- In every state of a pass, all pages are in their places. -/
theorem placed_of_reaches {stage : Stage} {s : Machine} (h : engine.Reaches ⟨.enter 0 path stage, []⟩ s) :
    engine.Placed ⟨.enter 0 path stage, []⟩ path s := by
  induction h with
  | refl => exact ⟨⟨rfl, fun view hv => hv⟩, .nil⟩
  | tail hr hstep ih => exact placed_step hr ih hstep

end Engine
end Folio
