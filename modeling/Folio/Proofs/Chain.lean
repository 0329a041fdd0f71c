import Folio.Demo
import Folio.Proofs.Canonical
import Folio.Proofs.Steps
/-!
# Chains of layouts

The chain of a view is settled by the catalog alone: `route` lists the pages that run into buffers
of their own and names the page that ends the chain, or the error found in its place. A pass over
the view is then two phases. `lead` runs the listed pages, each on behalf of the one before; it is
not given the sink of the pass. `conclude` runs the last page into that sink.

`renderAtDepth_eq` says that rendering is these two phases, `approach` and `conclude`. Whatever is
proved of rendering later starts there and goes by `renderAtDepth_induction`, from the deepest
level of partials outwards.
-/

namespace Folio

/-! ## Routes -/

/-- The way a chain goes: the pages that have a layout, in order, and the page without one that it
ends at, or the error it ends with instead. -/
structure Route where
  inner : List Page
  last : Except Error Page

namespace Catalog

/-- The route from a page where `links` more layouts may follow, and where the chain goes on after
them ends with the error `tooLong`. -/
def route (c : Catalog) (tooLong : Error) : (links : Nat) → Page → Route
  | links, page =>
    match page.layoutPath with
    | .error e => ⟨[], .error e⟩
    | .ok none => ⟨[], .ok page⟩
    | .ok (some layout) =>
      match links with
      | 0 => ⟨[], .error tooLong⟩
      | links + 1 =>
        match c.get layout with
        | .error e => ⟨[page], .error e⟩
        | .ok next =>
          let rest := c.route tooLong links next
          ⟨page :: rest.inner, rest.last⟩

/-- The chain of a page: `inner` starts with it and has, after each page, the one registered under
the path of its layout; the chain ends at `last`, which has no layout. -/
inductive Chain (c : Catalog) : Page → List Page → Page → Prop
  | last {page} : page.layout = none → Chain c page [] page
  | link {page next last inner reference target} : page.layout = some reference →
      Path.resolve page.path reference = .ok target → c.find? target = some next → Chain c next inner last →
      Chain c page (page :: inner) last

/-- The chain of a page is cyclic: it goes on among the same pages for ever. -/
def Cyclic (c : Catalog) (first : Page) : Prop :=
  ∃ cycle : Page → Prop, cycle first ∧ ∀ page, cycle page → ∃ reference target next,
    page.layout = some reference ∧ Path.resolve page.path reference = .ok target ∧ c.find? target = some next ∧
      cycle next

theorem layoutPath_eq_none {page : Page} : page.layoutPath = .ok none ↔ page.layout = none := by
  unfold Page.layoutPath
  cases page.layout with
  | none => simp
  | some reference => cases hr : Path.resolve page.path reference <;> simp [Except.map, hr]

theorem layoutPath_eq_some {page : Page} {target : String} :
    page.layoutPath = .ok (some target) ↔
      ∃ reference, page.layout = some reference ∧ Path.resolve page.path reference = .ok target := by
  unfold Page.layoutPath
  cases page.layout with
  | none => simp
  | some reference => cases hr : Path.resolve page.path reference <;> simp [Except.map, hr]

variable (c : Catalog)

/-- A page found through its layout's path is the one registered there. -/
theorem get_layoutPath {page : Page} {layout : String} (h : page.layoutPath = .ok (some layout)) :
    c.get layout = match c.find? layout with
      | some next => .ok next
      | none => .error (.pageNotFound layout) := by
  obtain ⟨reference, -, hr⟩ := layoutPath_eq_some.1 h
  exact c.get_of_normalized (Path.normalize_resolve hr)

theorem Chain.layout_last {c : Catalog} {page last : Page} {inner : List Page} (h : c.Chain page inner last) :
    last.layout = none := by
  induction h with
  | last hn => exact hn
  | link _ _ _ _ ih => exact ih

/-- A page has at most one layout. -/
theorem next_unique {c : Catalog} {page next next' : Page} {reference reference' target target' : String}
    (hl : page.layout = some reference) (hr : Path.resolve page.path reference = .ok target)
    (hf : c.find? target = some next) (hl' : page.layout = some reference')
    (hr' : Path.resolve page.path reference' = .ok target') (hf' : c.find? target' = some next') : next = next' := by
  obtain rfl := Option.some.inj (hl.symm.trans hl')
  obtain rfl := Except.ok.inj (hr.symm.trans hr')
  exact Option.some.inj (hf.symm.trans hf')

theorem Cyclic.not_chain {c : Catalog} {page last : Page} {inner : List Page} (h : c.Cyclic page) :
    ¬ c.Chain page inner last := by
  obtain ⟨cycle, hpage, hcycle⟩ := h
  intro hc
  induction hc with
  | last hn =>
    obtain ⟨reference, target, next, hl, -⟩ := hcycle _ hpage
    simp [hn] at hl
  | link hl hr hf _ ih =>
    obtain ⟨reference, target, next, hl', hr', hf', hnext⟩ := hcycle _ hpage
    obtain rfl := next_unique hl hr hf hl' hr' hf'
    exact ih hnext

/-- The route of a page is complete when its chain ends within the links that it may have. -/
theorem route_of_chain (tooLong : Error) {page last : Page} {inner : List Page} (h : c.Chain page inner last) :
    ∀ links, inner.length ≤ links → c.route tooLong links page = ⟨inner, .ok last⟩ := by
  induction h with
  | last hn =>
    intro links _
    rw [route, layoutPath_eq_none.2 hn]
  | link hl hr hf _ ih =>
    intro links hlen
    obtain _ | links := links
    · simp at hlen
    · have hp := layoutPath_eq_some.2 ⟨_, hl, hr⟩
      rw [route, hp]
      simp only [c.get_layoutPath hp, hf, ih links (by simpa using hlen)]

/-- A complete route is a chain. -/
theorem chain_of_route (tooLong : Error) {last : Page} :
    ∀ (links : Nat) (page : Page) (inner : List Page), c.route tooLong links page = ⟨inner, .ok last⟩ →
      c.Chain page inner last ∧ inner.length ≤ links := by
  intro links
  -- Pages without a layout end the route whatever `links` is, so it is split only where one has a layout.
  induction links using Nat.strongRecOn with
  | ind links ih =>
    intro page inner h
    rw [route] at h
    split at h
    · simp at h
    · next hp =>
      simp only [Route.mk.injEq, Except.ok.injEq] at h
      obtain ⟨rfl, rfl⟩ := h
      exact ⟨.last (layoutPath_eq_none.1 hp), by simp⟩
    · next layout hp =>
      obtain _ | links := links
      · simp at h
      · simp only [c.get_layoutPath hp] at h
        cases hf : c.find? layout with
        | none => simp [hf] at h
        | some next =>
          simp only [hf, Route.mk.injEq] at h
          obtain ⟨rfl, hlast⟩ := h
          obtain ⟨hc, hlen⟩ := ih links (by omega) next _ (by rw [← hlast])
          obtain ⟨reference, hl, hr⟩ := layoutPath_eq_some.1 hp
          exact ⟨.link hl hr hf hc, by simpa using hlen⟩

end Catalog

/-- The catalog of the demo site with all its pages registered. -/
def Demo.site : Catalog := ⟨Demo.pages.map fun page => (page.path, page)⟩

theorem Demo.catalog_eq : Demo.catalog = .ok Demo.site := rfl

/-- The home page runs first, then the frame of content pages, and the outermost document last. -/
theorem Demo.chain_homePage : Demo.site.Chain homePage [homePage, siteLayout] rootLayout :=
  .link rfl rfl rfl (.link rfl rfl rfl (.last rfl))

/-! ## The two phases of a pass -/

/-- What the pages of a pass share apart from the sink: the data and the journal. -/
structure Shared where
  data : PageData
  journal : Journal

def Shared.on (s : Shared) (sink : Sink) : Stage := ⟨sink, s.data, s.journal⟩

def Stage.shared (s : Stage) : Shared := ⟨s.data, s.journal⟩

@[simp] theorem Stage.shared_on (s : Stage) : s.shared.on s.sink = s := rfl

@[simp] theorem Shared.on_shared (s : Shared) (sink : Sink) : (s.on sink).shared = s := rfl

/-- Runs the page that ends a chain. -/
def Page.conclude (page : Page) (composer : Composer) (partials : PartialRenderer) (depth : Nat)
    (stage : Stage) : Except Error Unit × Stage :=
  let (outcome, after) := page.execute composer partials depth stage
  match outcome with
  | .error e => (.error e, after)
  | .ok sections => (.ok (), after.report (page.leftover sections))

/-- How far a pass got before the last page of its chain: the view, that page, and what the page
before it hands to it. -/
structure Arrival where
  view : String
  last : Page
  child : Option Child

namespace Engine

/-- Runs pages one after the other, each into a buffer of its own and on behalf of the one before:
what the last of them hands on. -/
def lead (engine : Engine) (view : String) (partials : PartialRenderer) (depth : Nat) :
    List Page → Option Child → Shared → Except Error (Option Child) × Shared
  | [], child, shared => (.ok child, shared)
  | page :: inner, child, shared =>
    let composer := Composer.forPage page view child engine.options.traceRegions
    let (outcome, after) := page.execute composer partials depth (shared.on .buffer)
    match outcome with
    | .error e => (.error e, after.shared)
    | .ok sections =>
      engine.lead view partials depth inner (some (childOf sections after.sink.output)) after.shared

/-- The error of a view whose chain or nesting goes beyond the limit. -/
def tooDeep (engine : Engine) (view : String) : Error := .layoutDepthExceeded view engine.options.maxLayoutDepth

def route (engine : Engine) (view : String) (links : Nat) (page : Page) : Route :=
  engine.catalog.route (engine.tooDeep view) links page

/-- The first phase of a pass: everything up to the start of the last page. -/
def approach (engine : Engine) (depth : Nat) (path : String) (shared : Shared) : Except Error Arrival × Shared :=
  match Path.normalize path with
  | .error e => (.error e, shared)
  | .ok view =>
    if engine.options.maxLayoutDepth < depth then (.error (engine.tooDeep view), shared)
    else
      match engine.catalog.get view with
      | .error e => (.error e, shared)
      | .ok page =>
        let route := engine.route view engine.options.maxLayoutDepth page
        let (outcome, shared) := engine.lead view (engine.renderAtDepth (depth + 1)) depth route.inner none shared
        (outcome.bind fun child => route.last.map fun last => ⟨view, last, child⟩, shared)

/-- The second phase of a pass: the last page, into the sink of the pass. -/
def conclude (engine : Engine) (depth : Nat) (a : Arrival) (stage : Stage) : Except Error Unit × Stage :=
  a.last.conclude (Composer.forPage a.last a.view a.child engine.options.traceRegions)
    (engine.renderAtDepth (depth + 1)) depth stage

variable (engine : Engine)

theorem chain_eq (view : String) (partials : PartialRenderer) (depth : Nat) :
    ∀ (links : Nat) (page : Page) (child : Option Child) (stage : Stage),
      engine.chain view partials depth links page child stage =
        let route := engine.route view links page
        let (outcome, shared) := engine.lead view partials depth route.inner child stage.shared
        match outcome, route.last with
        | .error e, _ => (.error e, shared.on stage.sink)
        | .ok _, .error e => (.error e, shared.on stage.sink)
        | .ok child, .ok last =>
          last.conclude (Composer.forPage last view child engine.options.traceRegions) partials depth
            (shared.on stage.sink) := by
  intro links
  induction links with
  | zero =>
    intro page child stage
    rw [chain, route, Catalog.route]
    cases page.layoutPath with
    | error e => rfl
    | ok layout => cases layout <;> rfl
  | succ links ih =>
    intro page child stage
    rw [chain, route, Catalog.route]
    cases page.layoutPath with
    | error e => rfl
    | ok layout =>
      cases layout with
      | none => rfl
      | some layout =>
        have hstage : { stage with sink := .buffer } = stage.shared.on .buffer := rfl
        simp only [hstage]
        -- The page runs the same on both sides; what comes after it depends on its outcome first.
        cases engine.catalog.get layout with
        | error e =>
          simp only [lead]
          generalize page.execute _ partials depth (stage.shared.on .buffer) = ran
          obtain ⟨outcome, after⟩ := ran
          cases outcome <;> rfl
        | ok next =>
          simp only [lead]
          generalize page.execute _ partials depth (stage.shared.on .buffer) = ran
          obtain ⟨outcome, after⟩ := ran
          cases outcome with
          | error e => rfl
          | ok sections => exact ih _ _ _

/-- Rendering a view at a depth runs the chain of its page, with partials one level deeper. -/
theorem renderAtDepth_eq_chain (depth : Nat) (path : String) (stage : Stage) :
    engine.renderAtDepth depth path stage =
      match Path.normalize path with
      | .error e => (.error e, stage)
      | .ok view =>
        if engine.options.maxLayoutDepth < depth then (.error (engine.tooDeep view), stage)
        else
          match engine.catalog.get view with
          | .error e => (.error e, stage)
          | .ok page =>
            engine.chain view (engine.renderAtDepth (depth + 1)) depth engine.options.maxLayoutDepth page none
              stage := by
  unfold renderAtDepth
  by_cases hd : engine.options.maxLayoutDepth < depth
  · have hz : engine.options.maxLayoutDepth + 1 - depth = 0 := by omega
    rw [hz, renderWithin]
    cases Path.normalize path <;> simp [hd, tooDeep]
  · have hs : engine.options.maxLayoutDepth + 1 - depth = engine.options.maxLayoutDepth - depth + 1 := by omega
    have hl : engine.options.maxLayoutDepth + 1 - (depth + 1) = engine.options.maxLayoutDepth - depth := by omega
    have hdepth : engine.options.maxLayoutDepth - (engine.options.maxLayoutDepth - depth) = depth := by omega
    -- At a depth within the limit one more level may be entered than at the next depth.
    have hpartials : engine.renderWithin (engine.options.maxLayoutDepth - depth) =
        engine.renderAtDepth (depth + 1) := by
      funext target stage
      rw [renderAtDepth, hl]
    rw [hs, renderWithin]
    simp only [hd, if_false, hdepth, hpartials]
    rfl

/-- A pass is its approach, and then the last page of the chain into the sink of the pass. -/
theorem renderAtDepth_eq (depth : Nat) (path : String) (stage : Stage) :
    engine.renderAtDepth depth path stage =
      match engine.approach depth path stage.shared with
      | (.error e, shared) => (.error e, shared.on stage.sink)
      | (.ok a, shared) => engine.conclude depth a (shared.on stage.sink) := by
  rw [renderAtDepth_eq_chain, approach]
  cases Path.normalize path with
  | error e => rfl
  | ok view =>
    by_cases hd : engine.options.maxLayoutDepth < depth
    · simp [hd]
    · simp only [hd, if_false]
      cases engine.catalog.get view with
      | error e => rfl
      | ok page =>
        simp only [chain_eq]
        generalize engine.lead view (engine.renderAtDepth (depth + 1)) depth _ none stage.shared = led
        obtain ⟨outcome, shared⟩ := led
        cases outcome with
        | error e => rfl
        | ok child => cases (engine.route view engine.options.maxLayoutDepth page).last <;> rfl

/-- A last page is reached only at a depth within the limit. -/
theorem depth_le_of_approach {depth : Nat} {path : String} {shared after : Shared} {a : Arrival}
    (h : engine.approach depth path shared = (.ok a, after)) : depth ≤ engine.options.maxLayoutDepth := by
  unfold approach at h
  split at h
  · simp at h
  · split at h
    · simp at h
    · omega

/-- What holds at a depth when it holds one level deeper, if that level can be entered, holds at
every depth. -/
theorem renderAtDepth_induction {motive : Nat → Prop}
    (step : ∀ depth, (depth ≤ engine.options.maxLayoutDepth → motive (depth + 1)) → motive depth) :
    ∀ depth, motive depth := by
  have main : ∀ n depth, engine.options.maxLayoutDepth + 1 - depth = n → motive depth := by
    intro n
    induction n with
    | zero => intro depth h; exact step depth fun hd => by omega
    | succ n ih => intro depth h; exact step depth fun _ => ih (depth + 1) (by omega)
  exact fun depth => main _ depth rfl

/-! ## Passes do not look at the journal -/

end Engine

/-- What pages share, with entries in front of the journal. -/
def Shared.behind (j : Journal) (s : Shared) : Shared := { s with journal := j ++ s.journal }

theorem Page.conclude_behind {partials : PartialRenderer} (hp : partials.Blind) (page : Page) (composer : Composer)
    (depth : Nat) (j : Journal) (stage : Stage) :
    page.conclude composer partials depth (stage.behind j) =
      Prod.map id (Stage.behind j) (page.conclude composer partials depth stage) := by
  simp only [conclude, page.execute_behind hp]
  generalize page.execute composer partials depth stage = ran
  obtain ⟨outcome, after⟩ := ran
  cases outcome <;> simp

namespace Engine
variable (engine : Engine)

theorem lead_behind {partials : PartialRenderer} (hp : partials.Blind) (view : String) (depth : Nat) (j : Journal)
    (inner : List Page) : ∀ (child : Option Child) (shared : Shared),
      engine.lead view partials depth inner child (shared.behind j) =
        Prod.map id (Shared.behind j) (engine.lead view partials depth inner child shared) := by
  induction inner with
  | nil => intro child shared; rfl
  | cons page inner ih =>
    intro child shared
    have hon : (shared.behind j).on .buffer = (shared.on .buffer).behind j := rfl
    simp only [lead, hon, page.execute_behind hp]
    generalize page.execute _ partials depth (shared.on .buffer) = ran
    obtain ⟨outcome, after⟩ := ran
    cases outcome with
    | error e => rfl
    | ok sections => exact ih (some (childOf sections after.sink.output)) after.shared

theorem approach_behind {depth : Nat}
    (hp : depth ≤ engine.options.maxLayoutDepth → PartialRenderer.Blind (engine.renderAtDepth (depth + 1)))
    (path : String) (j : Journal) (shared : Shared) :
    engine.approach depth path (shared.behind j) =
      Prod.map id (Shared.behind j) (engine.approach depth path shared) := by
  unfold approach
  cases Path.normalize path with
  | error e => rfl
  | ok view =>
    by_cases hd : engine.options.maxLayoutDepth < depth
    · simp [hd]
    · simp only [hd, if_false]
      cases engine.catalog.get view with
      | error e => rfl
      | ok page => simp only [engine.lead_behind (hp (by omega))]; rfl

/-- Rendering at any depth goes on without a look at the journal. -/
theorem renderAtDepth_blind : ∀ depth, PartialRenderer.Blind (engine.renderAtDepth depth) := by
  refine engine.renderAtDepth_induction fun depth ih j path stage => ?_
  have hshared : (stage.behind j).shared = stage.shared.behind j := rfl
  rw [renderAtDepth_eq, renderAtDepth_eq, hshared, engine.approach_behind ih]
  generalize ha : engine.approach depth path stage.shared = approached
  obtain ⟨outcome, shared⟩ := approached
  cases outcome with
  | error e => rfl
  | ok a =>
    have hd : depth ≤ engine.options.maxLayoutDepth := engine.depth_le_of_approach ha
    exact a.last.conclude_behind (ih hd) _ depth j (shared.on stage.sink)

/-- What rendering a view adds to the journal. -/
def record (depth : Nat) (path : String) (stage : Stage) : Journal :=
  (engine.renderAtDepth depth path { stage with journal := [] }).2.journal

theorem journal_renderAtDepth (depth : Nat) (path : String) (stage : Stage) :
    (engine.renderAtDepth depth path stage).2.journal = stage.journal ++ engine.record depth path stage := by
  have h := engine.renderAtDepth_blind depth stage.journal path { stage with journal := [] }
  rw [← Stage.eq_behind] at h
  rw [h]
  rfl

end Engine
end Folio
