import Folio.Proofs.Trimming
/-!
# Partials and their hosts

A page that renders a partial goes on with its own sections and its own child as it had them, with
whatever it used of the child so far; of its stage, the sink and the journal are only added to. The
partial gets nothing of the page either: its first page is nobody's layout, and each of its pulls is
refused. Nor is a page without a layout asked for its sections by anybody, in partials or outside.
`partials_isolated` puts these together.
-/

namespace Folio

/-- A pull is answered with the error of a page that has no child; an empty name is refused first. -/
def Step.Refused (path : String) : Step → Prop
  | ⟨.renderBody, answer⟩ => answer = .error (.invalidState "render_body" path)
  | ⟨.isSectionDefined name, answer⟩ =>
    answer = .error (if name.isEmpty then .argument "name" else .invalidState "is_section_defined" path)
  | ⟨.renderSection name _, answer⟩ =>
    answer = .error (if name.isEmpty then .argument "name" else .invalidState "render_section" path)
  | ⟨.ignoreSection name, answer⟩ =>
    answer = .error (if name.isEmpty then .argument "name" else .invalidState "ignore_section" path)
  | _ => True

/-- The composer of the page at a path has no child. -/
structure Composer.Unbound (path : String) (c : Composer) : Prop where
  child : c.child = none
  template : c.template = path

theorem Composer.Unbound.sectionsFor {path : String} {c : Composer} (h : c.Unbound path) (operation name : String) :
    c.sectionsFor operation name =
      .error (if name.isEmpty then .argument "name" else .invalidState operation path) := by
  rw [Composer.sectionsFor_of_no_child h.child, needsChild, h.template]
  simp

/-- A page without a child gets none while it runs, and its pulls are refused. -/
theorem Frame.refused_perform {path : String} {f : Frame} (h : f.composer.Unbound path) (partials : PartialRenderer)
    (o : Op) :
    Step.Refused path ⟨o, (perform path partials o f).1⟩ ∧ (perform path partials o f).2.composer.Unbound path := by
  cases o with
  | renderBody =>
    have hbody : f.composer.renderBody = (.error (.invalidState "render_body" path), f.composer) := by
      simp [Composer.renderBody, Composer.needsChild, h.child, h.template]
    simp only [perform, hbody]
    exact ⟨rfl, h⟩
  | isSectionDefined name =>
    simp only [perform, Composer.isSectionDefined, h.sectionsFor]
    exact ⟨rfl, h⟩
  | renderSection name required =>
    simp only [perform, Composer.renderSection, h.sectionsFor]
    exact ⟨rfl, h⟩
  | ignoreSection name =>
    simp only [perform, Composer.ignoreSection, h.sectionsFor]
    exact ⟨rfl, h⟩
  | define name renderer =>
    refine ⟨trivial, ?_⟩
    simp only [perform]
    split <;> exact h
  | renderPartial reference =>
    refine ⟨trivial, ?_⟩
    simp only [perform]
    split <;> exact h
  | ignoreBody => exact ⟨trivial, h.child, h.template⟩
  | _ => exact ⟨trivial, h⟩

theorem Program.refused_steps {α : Type} {path : String} (partials : PartialRenderer) (p : Program α) :
    ∀ f : Frame, f.composer.Unbound path → ∀ s ∈ p.steps (Frame.perform path partials) f, s.Refused path := by
  induction p with
  | done a => intro f _ s hs; cases hs
  | op o next ih =>
    intro f h
    obtain ⟨hrefused, hafter⟩ := Frame.refused_perform h partials o
    exact List.forall_mem_cons.2 ⟨hrefused, ih _ _ hafter⟩

namespace Engine

variable (engine : Engine)

/-- Of its host's stage, a partial adds to the sink and to the journal and may change the data. -/
theorem perform_partial (path : String) (depth : Nat) (reference : String) (frame : Frame) :
    ∃ outcome made data events,
      Frame.perform path (engine.renderAtDepth depth) (.renderPartial reference) frame =
        (outcome, { frame with
          stage := ⟨frame.stage.sink.after made, data, frame.stage.journal ++ events⟩ }) := by
  simp only [Frame.perform]
  cases Path.resolve path reference with
  | error e => exact ⟨.error e, [], frame.stage.data, [], by simp⟩
  | ok target =>
    obtain ⟨made, hsink⟩ := engine.sink_renderAtDepth depth target frame.stage
    have hjournal := engine.journal_renderAtDepth depth target frame.stage
    refine ⟨(engine.renderAtDepth depth target frame.stage).1, made,
      (engine.renderAtDepth depth target frame.stage).2.data, engine.record depth target frame.stage, ?_⟩
    rw [← hsink, ← hjournal]

/-- The machine does a partial as `Frame.perform` does. -/
theorem reaches_after_partial (t : Turn) (wrap : Option Wrap) (frame : Frame) (reference : String)
    (next : Except Error Unit → Program (Except Error Unit)) (hosts : List Host) :
    engine.Reaches ⟨.run t wrap frame (.op (.renderPartial reference) next), hosts⟩
      (let (outcome, frame) :=
        Frame.perform t.page.path (engine.renderAtDepth (t.depth + 1)) (.renderPartial reference) frame
       ⟨.run t wrap frame (next outcome), hosts⟩) := by
  simp only [Frame.perform]
  cases hr : Path.resolve t.page.path reference with
  | error e => exact .single (engine.step_partial_unresolved hr wrap frame next hosts)
  | ok target =>
    have hrendered := engine.renderAtDepth_returns (t.depth + 1) target frame.stage
      (⟨t, wrap, frame.composer, frame.sections, next⟩ :: hosts)
    exact .head (engine.step_partial hr wrap frame next hosts) (hrendered.tail rfl)

/-- The first page of a partial starts without a child and without sections, while its host waits. -/
theorem reaches_partial_start {t : Turn} {reference target : String} {first : Page} {layout : Option String}
    (hr : Path.resolve t.page.path reference = .ok target) (hf : engine.catalog.find? target = some first)
    (hd : t.depth < engine.options.maxLayoutDepth) (hl : first.layoutPath = .ok layout) (wrap : Option Wrap)
    (frame : Frame) (next : Except Error Unit → Program (Except Error Unit)) (hosts : List Host) :
    ∃ turn wrap' start, engine.Reaches ⟨.run t wrap frame (.op (.renderPartial reference) next), hosts⟩
        ⟨.run turn wrap' start first.program, ⟨t, wrap, frame.composer, frame.sections, next⟩ :: hosts⟩ ∧
      turn.page = first ∧ turn.depth = t.depth + 1 ∧ start.sections = .empty ∧
      start.composer = .unbound first.path target engine.options.traceRegions := by
  have hv := Path.normalize_resolve hr
  have hg : engine.catalog.get target = .ok first := by rw [engine.catalog.get_of_normalized hv, hf]
  have hturn := engine.openView_of_get hv hd hg frame.stage
  have henter : engine.Reaches ⟨.run t wrap frame (.op (.renderPartial reference) next), hosts⟩
      ⟨.turn ⟨t.depth + 1, target, 0, first⟩ none frame.stage,
        ⟨t, wrap, frame.composer, frame.sections, next⟩ :: hosts⟩ := by
    rw [← hturn]
    exact .head (engine.step_partial hr wrap frame next hosts) (.single rfl)
  cases layout with
  | none => exact ⟨_, _, _, henter.trans (reaches_last _ hl none frame.stage), rfl, rfl, rfl, rfl⟩
  | some layout =>
    have hm : 0 < engine.options.maxLayoutDepth := Nat.zero_lt_of_lt hd
    exact ⟨_, _, _, henter.trans (reaches_inner _ hl hm none frame.stage), rfl, rfl, rfl, rfl⟩

/-- Partials are isolated from their hosts. Wherever a page renders one, it goes on with its own
sections and composer as they were, and with a stage that was added to. The first page of a partial
has no child, whatever its host has, so all its pulls are refused. And nobody sees the sections of a
page without a layout: a pass in which such pages define all they ask for has the same output, result,
data, warnings and regions where some of these definitions are gone. -/
theorem partials_isolated :
    (∀ (t : Turn) wrap frame reference next hosts, ∃ outcome made data events,
      let after : Frame := { frame with
        stage := ⟨frame.stage.sink.after made, data, frame.stage.journal ++ events⟩ }
      Frame.perform t.page.path (engine.renderAtDepth (t.depth + 1)) (.renderPartial reference) frame =
        (outcome, after) ∧
      after.stage.sink.writes = frame.stage.sink.writes ++ Offer.written made ∧
      engine.Reaches ⟨.run t wrap frame (.op (.renderPartial reference) next), hosts⟩
        ⟨.run t wrap after (next outcome), hosts⟩) ∧
    (∀ (t : Turn) reference target first layout, Path.resolve t.page.path reference = .ok target →
      engine.catalog.find? target = some first → t.depth < engine.options.maxLayoutDepth →
      first.layoutPath = .ok layout → ∀ wrap frame next hosts, ∃ turn wrap' start,
        engine.Reaches ⟨.run t wrap frame (.op (.renderPartial reference) next), hosts⟩
          ⟨.run turn wrap' start first.program, ⟨t, wrap, frame.composer, frame.sections, next⟩ :: hosts⟩ ∧
        turn.page = first ∧ turn.depth = t.depth + 1 ∧ start.sections = .empty ∧
        start.composer = .unbound first.path target engine.options.traceRegions ∧
        ∀ s ∈ first.program.steps (Frame.perform first.path (engine.renderAtDepth (turn.depth + 1))) start,
          s.Refused first.path) ∧
    ∀ engine', engine.Trims engine' → ∀ path sink data,
      engine.DefinesFreely ⟨.enter 0 path ⟨sink, data, []⟩, []⟩ →
      let pass := engine.renderWithData path sink data
      let pass' := engine'.renderWithData path sink data
      pass'.sink = pass.sink ∧ pass'.result = pass.result ∧
        pass'.journal.diagnostics = pass.journal.diagnostics ∧ pass'.journal.regions = pass.journal.regions := by
  refine ⟨fun t wrap frame reference next hosts => ?_, ?_, ?_⟩
  · obtain ⟨outcome, made, data, events, h⟩ := engine.perform_partial t.page.path (t.depth + 1) reference frame
    have hreach := engine.reaches_after_partial t wrap frame reference next hosts
    rw [h] at hreach
    exact ⟨outcome, made, data, events, h, frame.stage.sink.writes_after made, hreach⟩
  · intro t reference target first layout hr hf hd hl wrap frame next hosts
    obtain ⟨turn, wrap', start, hreach, hpage, hdepth, hsections, hcomposer⟩ :=
      engine.reaches_partial_start hr hf hd hl wrap frame next hosts
    have hunbound : start.composer.Unbound first.path := by rw [hcomposer]; exact ⟨rfl, rfl⟩
    exact ⟨turn, wrap', start, hreach, hpage, hdepth, hsections, hcomposer,
      first.program.refused_steps _ start hunbound⟩
  · intro engine' h path sink data hfree
    obtain ⟨hresult, hsink, hdata, hjournal⟩ := renderAtDepth_trims h hfree
    simp only [renderWithData_eq]
    refine ⟨hsink, by rw [hresult, hdata], ?_, ?_⟩
    · rw [← Journal.diagnostics_kept, Journal.kept_append, hjournal, hresult, ← Journal.kept_append,
        Journal.diagnostics_kept]
    · rw [← Journal.regions_kept, Journal.kept_append, hjournal, hresult, ← Journal.kept_append,
        Journal.regions_kept]

end Engine

/-! ## A page with a card -/

namespace Demo

/-- A page that defines a section of its own and renders a card, whatever comes of it. -/
def deskPage : Page where
  path := "/desk"
  layout := none
  program := .op (.define "Aside" (.ofContent .empty)) fun _ => .op (.renderPartial "card") fun _ => .done (.ok ())

/-- The page without its section. -/
def bareDeskPage : Page := { deskPage with program := .op (.renderPartial "card") fun _ => .done (.ok ()) }

/-- A card that asks for a section of its host and defines one of its own. -/
def cardPage : Page where
  path := "/card"
  layout := none
  program := .op (.isSectionDefined "Aside") fun _ =>
    .op (.write (.ofText "card")) fun _ => .op (.define "Aside" (.ofContent .empty)) fun _ => .done (.ok ())

def desk : Engine := ⟨⟨[("/desk", deskPage), ("/card", cardPage)]⟩, ⟨2, true, 1⟩⟩

def bareDesk : Engine := ⟨⟨[("/desk", bareDeskPage), ("/card", cardPage)]⟩, ⟨2, true, 1⟩⟩

theorem desk_trims : desk.Trims bareDesk := by
  refine ⟨.cons ⟨rfl, rfl, rfl, ?_⟩ (.cons ⟨rfl, rfl, rfl, ?_⟩ .nil), rfl⟩
  · exact .define rfl (.op fun _ => .done _)
  · exact .op fun _ => .op fun _ => .op fun _ => .done _

end Demo

/-- A card that asks for a section of the page around it is refused, and the pass over the page is the
same without that section. -/
theorem Engine.partials_isolated_desk :
    let start : Machine := ⟨.enter 0 "/desk" ⟨.buffer, .empty, []⟩, []⟩
    Demo.desk.Trims Demo.bareDesk ∧ Demo.desk.DefinesFreely start ∧
      (Demo.bareDesk.renderWithData "/desk" .buffer .empty).sink =
        (Demo.desk.renderWithData "/desk" .buffer .empty).sink ∧
      ∀ frame next, ∃ turn wrap begun,
        Demo.desk.Reaches ⟨.run ⟨0, "/desk", 0, Demo.deskPage⟩ none frame (.op (.renderPartial "card") next), []⟩
          ⟨.run turn wrap begun Demo.cardPage.program,
            [⟨⟨0, "/desk", 0, Demo.deskPage⟩, none, frame.composer, frame.sections, next⟩]⟩ ∧
        begun.composer = .unbound "/card" "/card" true := by
  intro start
  have hfree : Demo.desk.DefinesFreely start := definesFreely_of_checks 20 (by decide +kernel)
  obtain ⟨-, hstart, htwo⟩ := Demo.desk.partials_isolated
  obtain ⟨hsink, -⟩ := htwo Demo.bareDesk Demo.desk_trims "/desk" .buffer .empty hfree
  refine ⟨Demo.desk_trims, hfree, hsink, fun frame next => ?_⟩
  obtain ⟨turn, wrap, begun, hreach, -, -, -, hcomposer, -⟩ := hstart ⟨0, "/desk", 0, Demo.deskPage⟩ "card" "/card"
    Demo.cardPage none (by decide +kernel) rfl (by decide) rfl none frame next []
  exact ⟨turn, wrap, begun, hreach, hcomposer⟩

end Folio
