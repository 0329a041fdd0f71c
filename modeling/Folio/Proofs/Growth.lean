import Folio.Proofs.Moves
import Folio.Proofs.Registration
import Folio.Proofs.Streaming
/-!
# Catalogs that grow

A pass looks up the page of every view that it is asked for, and the layout of every page that has one
and succeeds. `lookup?` names the look-up of a step. As long as each of them finds a page, a catalog with
more pages answers it alike, so the steps are the same (`step_grows`) and with them the whole pass.

A look-up that finds nothing is another matter, even if the page that made it goes on: a page registered
later may be found there.
-/

namespace Folio

/-! ## Catalogs with more pages -/

namespace Catalog

/-- Every page of the catalog is under the same path in the other one. -/
def Grows (c c' : Catalog) : Prop := ∀ key page, c.find? key = some page → c'.find? key = some page

variable {c c' c'' : Catalog} {path : String} {page : Page}

/-- Where no path is there twice, no entry of the catalog is missing in the other one. -/
theorem grows_iff_subset (h : c.keys.Nodup) (h' : c'.keys.Nodup) : c.Grows c' ↔ c.entries ⊆ c'.entries := by
  simp only [Grows, find?_eq_some_iff h, find?_eq_some_iff h', List.subset_def, Prod.forall]

theorem Grows.trans (h : c.Grows c') (h' : c'.Grows c'') : c.Grows c'' :=
  fun key page hf => h' key page (h key page hf)

theorem grows_register (h : c.register page = .ok c') : c.Grows c' := by
  intro key other hf
  obtain ⟨new, -, -, hentries⟩ := keys_register h
  obtain ⟨e, he, rfl⟩ := Option.map_eq_some_iff.1 hf
  rw [find?, hentries, List.find?_append, he]
  rfl

/-- Pages that are registered are added to those that are there. -/
theorem grows_registered (pages : List Page) : ∀ {c}, pages.foldlM register c = .ok c' → c.Grows c' := by
  induction pages with
  | nil =>
    rintro c ⟨⟩
    exact fun _ _ => id
  | cons page pages ih =>
    intro c h
    rw [List.foldlM_cons] at h
    cases hr : c.register page with
    | error e => simp [hr, bind, Except.bind] at h
    | ok next => exact (grows_register hr).trans (ih (by simpa [hr, bind, Except.bind] using h))

theorem Grows.get (h : c.Grows c') (hg : c.get path = .ok page) : c'.get path = .ok page := by
  unfold Catalog.get at hg ⊢
  cases hv : Path.normalize path with
  | error e => simp [hv] at hg
  | ok key =>
    simp only [hv] at hg ⊢
    cases hf : c.find? key with
    | none => simp [hf] at hg
    | some found =>
      obtain rfl : found = page := by simpa [hf] using hg
      simp only [h key found hf]

theorem Grows.contains (h : c.Grows c') (hc : c.contains path = true) : c'.contains path = true := by
  obtain ⟨page, hg⟩ := (c.get_isOk_iff path).2 hc
  exact (c'.get_isOk_iff path).1 ⟨page, h.get hg⟩

end Catalog

/-! ## Look-ups of a pass -/

namespace Engine

/-- The path that the next step looks up, if it looks one up. -/
def lookup? (engine : Engine) (s : Machine) : Option String :=
  match s.control with
  | .enter depth path _ => if engine.options.maxLayoutDepth < depth then none else (Path.normalize path).toOption
  | .run _ (some wrap) _ (.done (.ok ())) => some wrap.layout
  | _ => none

/-- From a state on, every look-up finds a page. -/
def FindsAll (engine : Engine) (start : Machine) : Prop :=
  ∀ s path, engine.Reaches start s → engine.lookup? s = some path → engine.catalog.contains path = true

theorem findsAll_of_checks {engine : Engine} {start : Machine} (n : Nat)
    (h : engine.checks (fun s => (engine.lookup? s).all engine.catalog.contains) n start = true) :
    engine.FindsAll start := by
  intro s path hr hs
  have hcheck := engine.check_of_reaches _ hr n h
  rwa [hs] at hcheck

theorem eq_leave_of_step_none {engine : Engine} {s : Machine} (h : engine.step s = none) :
    ∃ outcome stage, s = ⟨.leave outcome stage, []⟩ := by
  obtain ⟨control, hosts⟩ := s
  cases control with
  | leave outcome stage =>
    cases hosts with
    | nil => exact ⟨outcome, stage, rfl⟩
    | cons host hosts => cases h
  | run t wrap frame rest =>
    cases rest with
    | done outcome => cases h
    | op o next =>
      cases o with
      | renderPartial reference => simp only [step] at h; split at h <;> cases h
      | _ => cases h
  | enter | turn | count => cases h

variable {c c' : Catalog} {options : Options} {start : Machine}

/-- A step is the same over a catalog with more pages, if its look-up finds a page. -/
theorem step_grows (hgrows : c.Grows c') {s : Machine}
    (hfinds : ∀ path, lookup? ⟨c, options⟩ s = some path → c.contains path = true) :
    step ⟨c', options⟩ s = step ⟨c, options⟩ s := by
  have hfound {path : String} {e : Error} (hlookup : lookup? ⟨c, options⟩ s = some path) : c.get path ≠ .error e := by
    intro hg
    obtain ⟨page, hok⟩ := (c.get_isOk_iff path).2 (hfinds path hlookup)
    rw [hok] at hg
    cases hg
  cases hs : step ⟨c, options⟩ s with
  | none =>
    obtain ⟨outcome, stage, rfl⟩ := eq_leave_of_step_none hs
    rfl
  | some t =>
    refine Move.step ?_
    cases move_of_step hs with
    | missing hv hd hg => exact absurd hg (hfound (by simp [lookup?, hv, hd, Except.toOption]))
    | unfollowed hg => exact absurd hg (hfound rfl)
    | opened hv hd hg => exact .opened hv hd (hgrows.get hg)
    | followed hg => exact .followed (hgrows.get hg)
    -- No other move looks a page up.
    | strayed hv => exact .strayed hv
    | nested hv hd => exact .nested hv hd
    | unled hl => exact .unled hl
    | last hl => exact .last hl
    | counted hl => exact .counted hl
    | exceeded hm => exact .exceeded hm
    | inner hm => exact .inner hm
    | unresolved hr => exact .unresolved hr
    | descended hr => exact .descended hr
    | performed ho => exact .performed ho
    | failed => exact .failed
    | concluded => exact .concluded
    | returned => exact .returned

/-- Machines whose steps agree on the states that one of them reaches go the same way. -/
theorem reaches_congr {engine engine' : Engine}
    (h : ∀ s, engine.Reaches start s → engine'.step s = engine.step s) (s : Machine) :
    engine'.Reaches start s ↔ engine.Reaches start s := by
  constructor
  · intro hr
    induction hr with
    | refl => exact .refl
    | tail _ hstep ih => exact ih.tail ((h _ ih).symm.trans hstep)
  · intro hr
    induction hr with
    | refl => exact .refl
    | tail hr hstep ih => exact ih.tail ((h _ hr).trans hstep)

theorem reaches_grows (hgrows : c.Grows c') (hfinds : FindsAll ⟨c, options⟩ start) (s : Machine) :
    Reaches ⟨c', options⟩ start s ↔ Reaches ⟨c, options⟩ start s :=
  reaches_congr (fun s hr => step_grows hgrows fun path => hfinds s path hr) s

theorem renderAtDepth_grows (hgrows : c.Grows c') {depth : Nat} {path : String} {stage : Stage}
    (hfinds : FindsAll ⟨c, options⟩ ⟨.enter depth path stage, []⟩) :
    renderAtDepth ⟨c', options⟩ depth path stage = renderAtDepth ⟨c, options⟩ depth path stage :=
  renderAtDepth_eq_of_reaches _
    ((reaches_grows hgrows hfinds _).2 (renderAtDepth_returns ⟨c, options⟩ depth path stage []))

theorem renderWithData_grows (hgrows : c.Grows c') {path : String} {sink : Sink} {data : PageData}
    (hfinds : FindsAll ⟨c, options⟩ ⟨.enter 0 path ⟨sink, data, []⟩, []⟩) :
    renderWithData ⟨c', options⟩ path sink data = renderWithData ⟨c, options⟩ path sink data := by
  rw [renderWithData_eq, renderWithData_eq, renderAtDepth_grows hgrows hfinds]

/-- What a stream is asked for is found in both catalogs, or is no path. -/
theorem streamedView_grows (hgrows : c.Grows c') {path : String} {stage : Stage}
    (hfinds : FindsAll ⟨c, options⟩ ⟨.enter 0 path stage, []⟩) :
    streamedView ⟨c', options⟩ path = streamedView ⟨c, options⟩ path := by
  unfold streamedView
  cases hv : Path.normalize path with
  | error e => rfl
  | ok view =>
    have hc : c.contains view = true := hfinds _ view .refl (by simp [lookup?, hv, Except.toOption])
    simp only [hc, hgrows.contains hc]

/-- Pages that are registered later do not disturb a pass whose look-ups all find a page. Over a catalog
with more pages it comes by the same states, and is the same in its result, data, sink and journal; and
a view is streamed, or refused, as before. -/
theorem passes_undisturbed (hgrows : c.Grows c') (options : Options) (path : String) :
    let engine : Engine := ⟨c, options⟩
    let engine' : Engine := ⟨c', options⟩
    let start (sink : Sink) (data : PageData) : Machine := ⟨.enter 0 path ⟨sink, data, []⟩, []⟩
    (∀ sink data, engine.FindsAll (start sink data) →
      (∀ s, engine'.Reaches (start sink data) s ↔ engine.Reaches (start sink data) s) ∧
      engine'.renderWithData path sink data = engine.renderWithData path sink data) ∧
    (engine.FindsAll (start .buffer .empty) →
      engine'.renderToContent path = engine.renderToContent path ∧
      engine'.streamedView path = engine.streamedView path ∧
      engine'.renderStream path = engine.renderStream path ∧
      ∀ view, engine.streamedView path = .ok view → 0 < options.streamBufferChunks →
        ∃ chunks journal outcome, engine.renderStream path = .ok (chunks, journal) ∧
          (engine.streaming view).Delivers chunks outcome ∧ (engine'.streaming view).Delivers chunks outcome) ∧
    (engine.FindsAll (start .unread .empty) → engine'.renderUnread path = engine.renderUnread path) := by
  intro engine engine' start
  refine ⟨fun sink data hfinds => ⟨reaches_grows hgrows hfinds, renderWithData_grows hgrows hfinds⟩, ?_, ?_⟩
  · intro hfinds
    have hpass : engine'.renderWithData path .buffer .empty = engine.renderWithData path .buffer .empty :=
      renderWithData_grows hgrows hfinds
    have hview : engine'.streamedView path = engine.streamedView path := streamedView_grows hgrows hfinds
    refine ⟨?_, hview, ?_, ?_⟩
    · simp only [renderToContent, render, hpass]
    · cases h : engine.streamedView path with
      | error e => simp only [renderStream, hview, h, Except.map]
      | ok view =>
        have hv := (engine.streamedView_eq_ok h).1
        simp only [renderStream, hview, h, Except.map, render, renderWithData_normalized _ hv, hpass]
        rfl
    · intro view h hroom
      have hv := (engine.streamedView_eq_ok h).1
      have hdelivers' := engine'.streaming_delivers hroom hv
      rw [hpass] at hdelivers'
      exact ⟨_, _, _, engine.renderStream_of_streamed hroom h, engine.streaming_delivers hroom hv, hdelivers'⟩
  · intro hfinds
    have hview : engine'.streamedView path = engine.streamedView path := streamedView_grows hgrows hfinds
    have hpass : engine'.renderWithData path .unread .empty = engine.renderWithData path .unread .empty :=
      renderWithData_grows hgrows hfinds
    cases h : engine.streamedView path with
    | error e => simp only [renderUnread, hview, h, Except.map]
    | ok view =>
      have hv := (engine.streamedView_eq_ok h).1
      simp only [renderUnread, hview, h, Except.map, render, renderWithData_normalized _ hv, hpass]

end Engine

namespace Demo

/-- A listing with an item, on a board. -/
def listingPage : Page where
  path := "/listing"
  layout := some "_board"
  program := Script.program do
    Script.writeText "listing: "
    Script.renderPartial "_item"

def boardPage : Page where
  path := "/_board"
  layout := none
  program := Script.program do
    Script.renderBody
    Script.writeText "."

def itemPage : Page where
  path := "/_item"
  layout := none
  program := Script.program (Script.writeText "item")

/-- A board with a banner, if there is one. -/
def festivePage : Page where
  path := "/festive"
  layout := none
  program := Script.program (discard <| Script.attempt (Script.renderPartial "_banner"))

def bannerPage : Page where
  path := "/_banner"
  layout := none
  program := Script.program (Script.writeText "banner")

def board : Catalog :=
  ⟨[("/listing", listingPage), ("/_board", boardPage), ("/_item", itemPage), ("/festive", festivePage)]⟩

end Demo

/-- The listing is the same once a banner is registered: its pages do not look for one. -/
theorem Engine.passes_undisturbed_listing :
    let engine : Engine := ⟨Demo.board, .standard⟩
    let start (sink : Sink) : Machine := ⟨.enter 0 "/listing" ⟨sink, .empty, []⟩, []⟩
    ∃ later, [Demo.bannerPage].foldlM Catalog.register Demo.board = .ok later ∧
      engine.FindsAll (start (.limited 1)) ∧ engine.FindsAll (start .buffer) ∧ engine.FindsAll (start .unread) ∧
      renderWithData ⟨later, .standard⟩ "/listing" (.limited 1) .empty =
        engine.renderWithData "/listing" (.limited 1) .empty ∧
      renderStream ⟨later, .standard⟩ "/listing" = engine.renderStream "/listing" ∧
      (∃ chunks outcome, (engine.streaming "/listing").Delivers chunks outcome ∧
        (streaming ⟨later, .standard⟩ "/listing").Delivers chunks outcome) ∧
      renderUnread ⟨later, .standard⟩ "/listing" = engine.renderUnread "/listing" := by
  intro engine start
  have hregister : [Demo.bannerPage].foldlM Catalog.register Demo.board =
      .ok ⟨Demo.board.entries ++ [("/_banner", Demo.bannerPage)]⟩ := by rfl
  have hlimited : engine.FindsAll (start (.limited 1)) := findsAll_of_checks 20 (by decide +kernel)
  have hbuffer : engine.FindsAll (start .buffer) := findsAll_of_checks 20 (by decide +kernel)
  have hunread : engine.FindsAll (start .unread) := findsAll_of_checks 20 (by decide +kernel)
  have hview : engine.streamedView "/listing" = .ok "/listing" := by rfl
  obtain ⟨hpass, hstream, hgone⟩ := passes_undisturbed (Catalog.grows_registered _ hregister) .standard "/listing"
  obtain ⟨-, -, hchunks, hdelivers⟩ := hstream hbuffer
  obtain ⟨chunks, -, outcome, -, hdelivers⟩ := hdelivers "/listing" hview (by decide)
  exact ⟨_, hregister, hlimited, hbuffer, hunread, (hpass _ _ hlimited).2, hchunks, ⟨chunks, outcome, hdelivers⟩,
    hgone hunread⟩

namespace Demo

/-- A page that goes on without a banner is not the same once there is one. -/
example : (Engine.renderWithData ⟨board, .standard⟩ "/festive" .buffer .empty).sink.output = .ofText "" ∧
    (Engine.renderWithData ⟨⟨board.entries ++ [("/_banner", bannerPage)]⟩, .standard⟩ "/festive" .buffer
      .empty).sink.output = .ofText "banner" := by decide +kernel

end Demo
end Folio
