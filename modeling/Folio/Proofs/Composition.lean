import Folio.Proofs.Chain
/-!
# Rendering composes the chain

The composition of a chain, said without a loop: each page but the last runs into a fresh buffer
and hands the sections it defined itself, and what it wrote, to the page after it; the first page
runs on nobody's behalf, and the last one writes into the sink of the pass. Each page is taken by
itself (`Page.ran`), from an empty journal, and the journal of the pass is these journals in order.

`renderAtDepth_eq_composed` says that every pass is such a composition, partials included.
`renderAtDepth_of_chain` says it for a chain that ends within the limit.
-/

namespace Folio

/-! ## Pages by themselves -/

/-- What a page that ran by itself leaves: how it ended, the sections that it defined itself, the
sink and the data after it, and what it did. -/
structure Ran where
  outcome : Except Error Unit
  sections : List Section
  sink : Sink
  data : PageData
  events : Journal

/-- What the page hands to its layout: it has no body if it wrote no bytes. -/
def Ran.child (r : Ran) : Child :=
  ⟨.ofSections r.sections, if r.sink.output = .empty then none else some r.sink.output⟩

/-- A page runs by itself, from no sections and an empty journal. The report on what it left unused
of its child comes after everything else that it did. -/
def Page.ran (page : Page) (composer : Composer) (partials : PartialRenderer) (depth : Nat) (sink : Sink)
    (data : PageData) : Ran :=
  let start : Frame := ⟨composer, .empty, ⟨sink, data, []⟩⟩
  let (outcome, frame) := page.program.run (Frame.perform page.path partials) start
  let report : Journal :=
    match outcome with
    | .error _ => []
    | .ok () => frame.composer.unused.map .warned
  { outcome
    sections := (page.program.steps (Frame.perform page.path partials) start).filterMap Step.section?
    sink := frame.stage.sink
    data := frame.stage.data
    events := .entered page.path depth :: (frame.stage.journal ++ report) }

/-- A page run in a pass is the page run by itself, after what was done before. -/
theorem Page.execute_eq_ran {partials : PartialRenderer} (hp : partials.Blind) (page : Page) (composer : Composer)
    (depth : Nat) (stage : Stage) :
    page.execute composer partials depth stage =
      let ran := page.ran composer partials depth stage.sink stage.data
      (ran.outcome.map fun _ => .ofSections ran.sections, ⟨ran.sink, ran.data, stage.journal ++ ran.events⟩) := by
  have hstart : (⟨composer, .empty, stage.report [.entered page.path depth]⟩ : Frame) =
      Frame.behind (stage.journal ++ [.entered page.path depth]) ⟨composer, .empty, stage.sink, stage.data, []⟩ := by
    simp [Frame.behind, Stage.behind, Stage.report]
  have hrun := Program.run_hom _ (Frame.perform_behind hp page.path (stage.journal ++ [.entered page.path depth]))
    page.program ⟨composer, .empty, stage.sink, stage.data, []⟩
  have hsections := Frame.run_sections page.path partials page.program ⟨composer, .empty, stage.sink, stage.data, []⟩
  simp only [execute, ran, hstart, hrun]
  generalize page.program.run (Frame.perform page.path partials) _ = run at hsections ⊢
  obtain ⟨outcome, frame⟩ := run
  rw [show Registry.empty.sections = [] from rfl, List.nil_append] at hsections
  cases outcome with
  | error e => simp [Except.map, Frame.behind, Stage.behind]
  | ok a => simp [Except.map, Frame.behind, Stage.behind, Stage.report, ← hsections, Registry.ofSections_sections]

/-! ## Compositions -/

namespace Engine

/-- The composition of a chain over a stage: `inner` are the pages still to run into buffers, and
`last` the page after them, or the error that stands in its place. -/
def compose (engine : Engine) (view : String) (partials : PartialRenderer) (depth : Nat) :
    (child : Option Child) → (inner : List Page) → (last : Except Error Page) → Stage → Except Error Unit × Stage
  | _, [], .error e, stage => (.error e, stage)
  | child, [], .ok last, stage =>
    let ran := last.ran (Composer.forPage last view child engine.options.traceRegions) partials depth stage.sink
      stage.data
    match ran.outcome with
    | .error e => (.error e, ⟨ran.sink, ran.data, stage.journal ++ ran.events⟩)
    | .ok () => (.ok (), ⟨ran.sink, ran.data, stage.journal ++ ran.events ++ last.leftover (.ofSections ran.sections)⟩)
  | child, page :: inner, last, stage =>
    let ran := page.ran (Composer.forPage page view child engine.options.traceRegions) partials depth .buffer
      stage.data
    let after : Stage := ⟨stage.sink, ran.data, stage.journal ++ ran.events⟩
    match ran.outcome with
    | .error e => (.error e, after)
    | .ok () => engine.compose view partials depth (some ran.child) inner last after

/-- The composition of the chain of a view, where `levels` levels of nesting may still be entered. -/
def composedWithin (engine : Engine) : (levels : Nat) → (path : String) → Stage → Except Error Unit × Stage
  | levels, path, stage =>
    match Path.normalize path with
    | .error e => (.error e, stage)
    | .ok view =>
      match levels with
      | 0 => (.error (engine.tooDeep view), stage)
      | levels + 1 =>
        match engine.catalog.find? view with
        | none => (.error (.pageNotFound view), stage)
        | some page =>
          let route := engine.route view engine.options.maxLayoutDepth page
          engine.compose view (engine.composedWithin levels) (engine.options.maxLayoutDepth - levels) none
            route.inner route.last stage

/-- The composition of the chain of a view at a depth of nesting. -/
def composed (engine : Engine) (depth : Nat) : PartialRenderer :=
  engine.composedWithin (engine.options.maxLayoutDepth + 1 - depth)

variable (engine : Engine)

theorem childOf_eq_child (ran : Ran) : childOf (.ofSections ran.sections) ran.sink.output = ran.child := by
  simp only [childOf, Ran.child, Content.isEmpty_iff]

/-- The two phases of a pass, one after the other, are the composition of its chain. -/
theorem compose_eq {partials : PartialRenderer} (hp : partials.Blind) (view : String) (depth : Nat)
    (last : Except Error Page) (inner : List Page) : ∀ (child : Option Child) (stage : Stage),
      engine.compose view partials depth child inner last stage =
        let (outcome, shared) := engine.lead view partials depth inner child stage.shared
        match outcome, last with
        | .error e, _ => (.error e, shared.on stage.sink)
        | .ok _, .error e => (.error e, shared.on stage.sink)
        | .ok child, .ok last =>
          last.conclude (Composer.forPage last view child engine.options.traceRegions) partials depth
            (shared.on stage.sink) := by
  induction inner with
  | nil =>
    intro child stage
    cases last with
    | error e => rfl
    | ok last =>
      simp only [compose, lead, Page.conclude, last.execute_eq_ran hp, Stage.shared_on]
      generalize last.ran _ partials depth stage.sink stage.data = ran
      obtain ⟨outcome, sections, sink, data, events⟩ := ran
      cases outcome <;> rfl
  | cons page inner ih =>
    intro child stage
    have hbuffer : (stage.shared.on .buffer).sink = .buffer ∧ (stage.shared.on .buffer).data = stage.data := ⟨rfl, rfl⟩
    simp only [compose, lead, page.execute_eq_ran hp, hbuffer]
    generalize page.ran _ partials depth .buffer stage.data = ran
    cases hran : ran.outcome with
    | error e => rfl
    | ok a =>
      simp only [Except.map, childOf_eq_child]
      exact ih _ _

/-- Every pass is the composition of its view's chain, and so is every partial in it. -/
theorem renderAtDepth_eq_composed : ∀ depth, engine.renderAtDepth depth = engine.composed depth := by
  refine engine.renderAtDepth_induction fun depth ih => ?_
  funext path stage
  rw [renderAtDepth_eq, approach, composed]
  by_cases hd : engine.options.maxLayoutDepth < depth
  · have hz : engine.options.maxLayoutDepth + 1 - depth = 0 := by omega
    rw [hz, composedWithin]
    cases Path.normalize path <;> simp [hd]
  · have hs : engine.options.maxLayoutDepth + 1 - depth = engine.options.maxLayoutDepth - depth + 1 := by omega
    have hdepth : engine.options.maxLayoutDepth - (engine.options.maxLayoutDepth - depth) = depth := by omega
    have hpartials : engine.composedWithin (engine.options.maxLayoutDepth - depth) =
        engine.renderAtDepth (depth + 1) := by
      rw [ih (by omega), composed, Nat.add_sub_add_right]
    -- Partials are rendered at the next depth, where passes are compositions already.
    rw [hs, composedWithin]
    cases hv : Path.normalize path with
    | error e => rfl
    | ok view =>
      simp only [hd, if_false, engine.catalog.get_of_normalized (Path.normalize_normalize hv)]
      cases engine.catalog.find? view with
      | none => rfl
      | some page =>
        simp only [hdepth, hpartials, engine.compose_eq (engine.renderAtDepth_blind (depth + 1))]
        generalize engine.lead view (engine.renderAtDepth (depth + 1)) depth _ none stage.shared = led
        obtain ⟨outcome, shared⟩ := led
        cases outcome with
        | error e => rfl
        | ok child => cases (engine.route view engine.options.maxLayoutDepth page).last <;> rfl

/-- A view whose chain ends within the limit is rendered by composing the pages of that chain, from
the view's page to the page without a layout. -/
theorem renderAtDepth_of_chain {depth : Nat} {path view : String} {first last : Page} {inner : List Page}
    (hd : depth ≤ engine.options.maxLayoutDepth) (hv : Path.normalize path = .ok view)
    (hf : engine.catalog.find? view = some first) (hc : engine.catalog.Chain first inner last)
    (hk : inner.length ≤ engine.options.maxLayoutDepth) (stage : Stage) :
    engine.renderAtDepth depth path stage =
      engine.compose view (engine.composed (depth + 1)) depth none inner (.ok last) stage := by
  have hroute : engine.route view engine.options.maxLayoutDepth first = ⟨inner, .ok last⟩ :=
    engine.catalog.route_of_chain _ hc _ hk
  have hget : engine.catalog.get view = .ok first := by
    rw [engine.catalog.get_of_normalized (Path.normalize_normalize hv), hf]
  rw [renderAtDepth_eq, ← renderAtDepth_eq_composed, engine.compose_eq (engine.renderAtDepth_blind (depth + 1))]
  simp only [approach, hv, hget, hroute, Nat.not_lt.2 hd, if_false]
  generalize engine.lead view (engine.renderAtDepth (depth + 1)) depth inner none stage.shared = led
  obtain ⟨outcome, shared⟩ := led
  cases outcome <;> rfl

/-- The home page of the demo site is composed of its own output, the frame of content pages and the
outermost document. -/
theorem renderAtDepth_homePage :
    Demo.site.Chain Demo.homePage [Demo.homePage, Demo.siteLayout] Demo.rootLayout ∧
      ∀ stage, renderAtDepth ⟨Demo.site, .standard⟩ 0 "~/index" stage =
        compose ⟨Demo.site, .standard⟩ "/index" (composed ⟨Demo.site, .standard⟩ 1) 0 none
          [Demo.homePage, Demo.siteLayout] (.ok Demo.rootLayout) stage :=
  ⟨Demo.chain_homePage, renderAtDepth_of_chain ⟨Demo.site, .standard⟩ (by decide) (by rfl) (by rfl)
    Demo.chain_homePage (by decide)⟩

end Engine
end Folio
