import Folio.Proofs.Limit
/-!
# Sections that nobody pulls

A page without a layout defines sections for nobody. A pass stays the same to every observer when
definitions are taken out of such pages, provided that none of them failed: the journal only loses
entries on sections that were discarded.

The two passes are compared step by step. `Machine.Trims` relates their states, `trims_step` says
that each step of the first pass is matched by the second, in one step or, where the definition is
gone, in none; so they end alike (`renderAtDepth_trims`).
-/

namespace Folio

/-! ## Catalogs with fewer definitions -/

/-- The second program is the first one without some of its definitions, where these are accepted;
with `free` false it is the first one. -/
inductive Program.Trims {α : Type} (free : Bool) : Program α → Program α → Prop
  | done (a : α) : Trims free (.done a) (.done a)
  | op {o : Op} {next next' : o.Answer → Program α} :
      (∀ answer, Trims free (next answer) (next' answer)) → Trims free (.op o next) (.op o next')
  | define {name : String} {renderer : Renderer} {next : Except Error Unit → Program α} {rest : Program α} :
      free = true → Trims free (next (.ok ())) rest → Trims free (.op (.define name renderer) next) rest

/-- The second page is the first one without some of its definitions, if it has no layout. -/
structure Page.Trims (page page' : Page) : Prop where
  path : page'.path = page.path
  layout : page'.layout = page.layout
  program : page.program.Trims page.layout.isNone page'.program

/-- The pages without a layout have lost some of their definitions. -/
def Catalog.Trims (c c' : Catalog) : Prop :=
  List.Forall₂ (fun entry entry' => entry'.1 = entry.1 ∧ entry.2.Trims entry'.2) c.entries c'.entries

/-- What the first registry has, in the second or in both: with `free` true the second may have less. -/
def Registry.Trims (free : Bool) (r r' : Registry) : Prop :=
  if free then ∀ name, r'.has name = true → r.has name = true else r' = r

theorem Page.Trims.layoutPath {page page' : Page} (h : page.Trims page') : page'.layoutPath = page.layoutPath := by
  unfold Page.layoutPath
  rw [h.layout, h.path]

theorem Catalog.Trims.find? {c c' : Catalog} (h : c.Trims c') (key : String) :
    (c.find? key = none ∧ c'.find? key = none) ∨
      ∃ page page', c.find? key = some page ∧ c'.find? key = some page' ∧ page.Trims page' := by
  obtain ⟨entries⟩ := c
  obtain ⟨entries'⟩ := c'
  simp only [Catalog.Trims] at h
  induction h with
  | nil => exact .inl ⟨rfl, rfl⟩
  | @cons entry entry' _ _ hentry _ ih =>
    by_cases hkey : entry.1 = key
    · exact .inr ⟨entry.2, entry'.2, by simp [Catalog.find?, hkey], by simp [Catalog.find?, hentry.1, hkey],
        hentry.2⟩
    · simpa [Catalog.find?, hentry.1, hkey] using ih

theorem Catalog.Trims.get {c c' : Catalog} (h : c.Trims c') (path : String) :
    (∃ e, c.get path = .error e ∧ c'.get path = .error e) ∨
      ∃ page page', c.get path = .ok page ∧ c'.get path = .ok page' ∧ page.Trims page' := by
  unfold Catalog.get
  cases Path.normalize path with
  | error e => exact .inl ⟨e, rfl, rfl⟩
  | ok key =>
    rcases h.find? key with ⟨hf, hf'⟩ | ⟨page, page', hf, hf', hpage⟩
    · exact .inl ⟨.pageNotFound key, by simp only [hf], by simp only [hf']⟩
    · exact .inr ⟨page, page', by simp only [hf], by simp only [hf'], hpage⟩

/-! ## Stages alike -/

/-- The journal without the entries on sections that were discarded. -/
def Journal.kept (j : Journal) : Journal := j.filter fun | .discarded _ _ => false | _ => true

@[simp] theorem Journal.kept_append (j k : Journal) : kept (j ++ k) = kept j ++ kept k := List.filter_append ..

theorem Journal.diagnostics_kept (j : Journal) : j.kept.diagnostics = j.diagnostics := by
  induction j with
  | nil => rfl
  | cons event j ih => cases event <;> simp_all [kept, diagnostics]

theorem Journal.regions_kept (j : Journal) : j.kept.regions = j.regions := by
  induction j with
  | nil => rfl
  | cons event j ih => cases event <;> simp_all [kept, regions]

theorem Page.kept_leftover (page : Page) (sections : Registry) : (page.leftover sections).kept = [] := by
  unfold leftover; split <;> rfl

/-- The stages are the same but for entries on discarded sections. -/
structure Stage.Alike (s s' : Stage) : Prop where
  sink : s'.sink = s.sink
  data : s'.data = s.data
  journal : s'.journal.kept = s.journal.kept

theorem Stage.Alike.report {s s' : Stage} (h : s.Alike s') (events : Journal) :
    (s.report events).Alike (s'.report events) :=
  ⟨h.sink, h.data, by simp [Stage.report, h.journal]⟩

theorem Stage.Alike.withSink {s s' : Stage} (h : s.Alike s') (sink : Sink) :
    Stage.Alike { s with sink } { s' with sink } :=
  ⟨rfl, h.data, h.journal⟩

theorem Stage.Alike.unwrap {s s' : Stage} (h : s.Alike s') (wrap : Option Wrap) :
    (s.unwrap wrap).Alike (s'.unwrap wrap) := by
  cases wrap with
  | none => exact h
  | some wrap => exact h.withSink wrap.sink

/-- The frames are the same but for sections and discarded sections. -/
structure Frame.Alike (free : Bool) (f f' : Frame) : Prop where
  composer : f'.composer = f.composer
  sections : f.sections.Trims free f'.sections
  stage : f.stage.Alike f'.stage

theorem Registry.has_add (r : Registry) (s : Section) (new : ¬ r.has s.name) (name : String) :
    (r.add s new).has name = (r.has name || decide (Text.fold name = s.key)) := by
  simp only [has, add]
  by_cases h : Text.fold name = s.key <;> simp [h]

/-- A definition is answered alike, if it is accepted wherever definitions may be gone. -/
theorem Registry.Trims.define {free : Bool} {r r' : Registry} (h : r.Trims free r') {name : String}
    {renderer : Renderer} (hok : free = true → ∃ defined, r.define name renderer = .ok defined) :
    (∃ e, r.define name renderer = .error e ∧ r'.define name renderer = .error e) ∨
      ∃ s s', r.define name renderer = .ok s ∧ r'.define name renderer = .ok s' ∧ s.Trims free s' := by
  cases free with
  | false =>
    obtain rfl : r' = r := h
    cases r'.define name renderer with
    | error e => exact .inl ⟨e, rfl, rfl⟩
    | ok s => exact .inr ⟨s, s, rfl, rfl, rfl⟩
  | true =>
    obtain ⟨s, hs⟩ := hok rfl
    obtain ⟨hn, hd, rfl⟩ := define_eq_ok_iff.1 hs
    have hd' : ¬ r'.has name = true := fun hr => hd (h name hr)
    refine .inr ⟨_, _, hs, define_eq_ok_iff.2 ⟨hn, hd', rfl⟩, fun other => ?_⟩
    simp only [has_add, Bool.or_eq_true]
    exact Or.imp_left (h other)

/-- A definition that only the first page makes leaves the registries as they were to each other. -/
theorem Registry.Trims.define_first {r r' s : Registry} (h : r.Trims true r') {name : String} {renderer : Renderer}
    (hs : r.define name renderer = .ok s) : s.Trims true r' := by
  obtain ⟨-, new, rfl⟩ := define_eq_ok_iff.1 hs
  intro other hother
  rw [has_add, h other hother, Bool.true_or]

/-- Apart from partials, a page does the same in frames alike, if its definitions are accepted wherever
some may be gone. -/
theorem Frame.Alike.perform {free : Bool} {f f' : Frame} (h : f.Alike free f') {o : Op} (ho : o.isPartial = false)
    (hok : ∀ name renderer, o = .define name renderer → free = true →
      ∃ defined, f.sections.define name renderer = .ok defined)
    (path : String) (partials : PartialRenderer) :
    (Frame.perform path partials o f').1 = (Frame.perform path partials o f).1 ∧
      (Frame.perform path partials o f).2.Alike free (Frame.perform path partials o f').2 := by
  obtain ⟨composer, sections, sink, data, journal⟩ := f
  obtain ⟨composer', sections', sink', data', journal'⟩ := f'
  obtain ⟨rfl, hsections, rfl, rfl, hjournal⟩ := h
  cases o with
  | renderPartial reference => simp [Op.isPartial] at ho
  | define name renderer =>
    rcases Registry.Trims.define hsections (hok name renderer rfl) with ⟨e, hd, hd'⟩ | ⟨s, s', hd, hd', hs⟩ <;>
      simp only at hd hd' <;> simp only [Frame.perform, hd, hd', true_and]
    · exact ⟨rfl, hsections, rfl, rfl, hjournal⟩
    · exact ⟨rfl, hs, rfl, rfl, hjournal⟩
  | renderBody =>
    simp only [Frame.perform]
    split <;> exact ⟨rfl, rfl, hsections, rfl, rfl, hjournal⟩
  | writeAt | openRegion | closeRegion | renderSection | note =>
    refine ⟨rfl, rfl, hsections, rfl, rfl, ?_⟩
    simp only [Frame.perform, Stage.report, Stage.write, Journal.kept_append]
    simp only at hjournal
    rw [hjournal]
  | _ => exact ⟨rfl, rfl, hsections, rfl, rfl, hjournal⟩

theorem Frame.Alike.finished {free : Bool} {f f' : Frame} (h : f.Alike free f') : f.finished.Alike f'.finished := by
  rw [Frame.finished, Frame.finished, h.composer]
  exact h.stage.report _

/-! ## States of the two passes -/

/-- What is done next is the same but for definitions in pages without a layout. -/
inductive Control.Trims : Control → Control → Prop
  | enter {depth : Nat} {path : String} {stage stage' : Stage} :
      stage.Alike stage' → Trims (.enter depth path stage) (.enter depth path stage')
  | turn {t : Turn} {page' : Page} {child : Option Child} {stage stage' : Stage} : t.page.Trims page' →
      stage.Alike stage' → Trims (.turn t child stage) (.turn { t with page := page' } child stage')
  | count {t : Turn} {page' : Page} {layout : String} {child : Option Child} {stage stage' : Stage} :
      t.page.layout.isNone = false → t.page.Trims page' → stage.Alike stage' →
      Trims (.count t layout child stage) (.count { t with page := page' } layout child stage')
  | run {t : Turn} {page' : Page} {wrap : Option Wrap} {frame frame' : Frame}
      {rest rest' : Program (Except Error Unit)} : (wrap.isSome → t.page.layout.isNone = false) →
      t.page.Trims page' → frame.Alike t.page.layout.isNone frame' → rest.Trims t.page.layout.isNone rest' →
      Trims (.run t wrap frame rest) (.run { t with page := page' } wrap frame' rest')
  | leave {outcome : Except Error Unit} {stage stage' : Stage} :
      stage.Alike stage' → Trims (.leave outcome stage) (.leave outcome stage')

/-- A page waits for the same partial, with the same left to do but for definitions. -/
inductive Host.Trims : Host → Host → Prop
  | intro {t : Turn} {page' : Page} {wrap : Option Wrap} {composer : Composer} {sections sections' : Registry}
      {next next' : Except Error Unit → Program (Except Error Unit)} : (wrap.isSome → t.page.layout.isNone = false) →
      t.page.Trims page' → sections.Trims t.page.layout.isNone sections' →
      (∀ outcome, (next outcome).Trims t.page.layout.isNone (next' outcome)) →
      Trims ⟨t, wrap, composer, sections, next⟩ ⟨{ t with page := page' }, wrap, composer, sections', next'⟩

structure Machine.Trims (s s' : Machine) : Prop where
  control : s.control.Trims s'.control
  hosts : List.Forall₂ Host.Trims s.hosts s'.hosts

/-- A page without a layout that is about to define a section can. -/
def Control.definesFreely : Control → Bool
  | .run t _ frame (.op (.define name renderer) _) =>
    t.page.layout.isSome || (frame.sections.define name renderer).isOk
  | _ => true

namespace Engine

/-- The second engine has the catalog of the first one, less some definitions of pages without a layout. -/
structure Trims (engine engine' : Engine) : Prop where
  catalog : engine.catalog.Trims engine'.catalog
  options : engine'.options = engine.options

/-- No definition fails that a page without a layout makes. -/
def DefinesFreely (engine : Engine) (start : Machine) : Prop :=
  ∀ t wrap frame name renderer next hosts,
    engine.Reaches start ⟨.run t wrap frame (.op (.define name renderer) next), hosts⟩ → t.page.layout = none →
      ∃ sections, frame.sections.define name renderer = .ok sections

/-- Whether definitions fail is settled by running the machine. -/
theorem definesFreely_of_checks {engine : Engine} {start : Machine} (n : Nat)
    (h : engine.checks (fun s => s.control.definesFreely) n start = true) : engine.DefinesFreely start := by
  intro t wrap frame name renderer next hosts hr hnone
  have hcheck := engine.check_of_reaches _ hr n h
  simp only [Control.definesFreely, hnone, Option.isSome_none, Bool.false_or] at hcheck
  cases hd : frame.sections.define name renderer with
  | error e => simp [hd, Except.isOk, Except.toBool] at hcheck
  | ok sections => exact ⟨sections, rfl⟩

/-! ## The two passes, step by step -/

section Moves
variable {engine engine' : Engine} (h : engine.Trims engine') {stage stage' : Stage}

section Stages
variable (hstage : stage.Alike stage')
include h hstage

theorem trims_openView (depth : Nat) (path : String) :
    (engine.openView depth path stage).Trims (engine'.openView depth path stage') := by
  simp only [openView, tooDeep, h.options]
  cases Path.normalize path with
  | error e => exact .leave hstage
  | ok view =>
    by_cases hd : engine.options.maxLayoutDepth < depth
    · simp only [hd, if_true]; exact .leave hstage
    · simp only [hd, if_false]
      rcases h.catalog.get view with ⟨e, hg, hg'⟩ | ⟨page, page', hg, hg', hpage⟩ <;> simp only [hg, hg']
      · exact .leave hstage
      · exact .turn (t := ⟨depth, view, 0, page⟩) hpage hstage

variable {t : Turn} {page' : Page} (hpage : t.page.Trims page')
include hpage

theorem trims_startFrame (child : Option Child) :
    (engine.startFrame t child stage).Alike t.page.layout.isNone
      (engine'.startFrame { t with page := page' } child stage') := by
  refine ⟨?_, ?_, ?_⟩
  · simp only [startFrame, Page.start, Composer.forPage, hpage.path, h.options]
  · unfold Registry.Trims
    split
    · exact fun _ hname => hname
    · rfl
  · simp only [startFrame, Page.start, hpage.path]
    exact hstage.report _

theorem trims_takeTurn (child : Option Child) :
    (engine.takeTurn t child stage).Trims (engine'.takeTurn { t with page := page' } child stage') := by
  simp only [takeTurn, hpage.layoutPath]
  cases hl : t.page.layoutPath with
  | error e => exact .leave hstage
  | ok layout =>
    cases layout with
    | none => exact .run (by simp) hpage (trims_startFrame h hstage hpage child) hpage.program
    | some layout =>
      obtain ⟨reference, href, -⟩ := Catalog.layoutPath_eq_some.1 hl
      exact .count (t := { t with layouts := t.layouts + 1 }) (by simp [href]) hpage hstage

theorem trims_holdCount (hlayout : t.page.layout.isNone = false) (layout : String) (child : Option Child) :
    (engine.holdCount t layout child stage).Trims
      (engine'.holdCount { t with page := page' } layout child stage') := by
  simp only [holdCount, tooDeep, h.options, hstage.sink]
  split
  · exact .leave hstage
  · exact .run (fun _ => hlayout) hpage (trims_startFrame h (hstage.withSink .buffer) hpage child) hpage.program

end Stages

include h in
/-- A page whose sections its layout gets has all of them; what the others have is not handed on. -/
theorem trims_endPage {t : Turn} {page' : Page} {wrap : Option Wrap}
    (hwrap : wrap.isSome → t.page.layout.isNone = false) {frame frame' : Frame}
    (hframe : frame.Alike t.page.layout.isNone frame') (outcome : Except Error Unit) :
    (engine.endPage t wrap frame outcome).Trims (engine'.endPage { t with page := page' } wrap frame' outcome) := by
  cases outcome with
  | error e => exact .leave (hframe.stage.unwrap wrap)
  | ok u =>
    cases wrap with
    | none =>
      refine .leave ⟨hframe.finished.sink, hframe.finished.data, ?_⟩
      simp only [Stage.report, Journal.kept_append, Page.kept_leftover, hframe.finished.journal]
    | some wrap =>
      -- A layout follows, so no definition of the page is gone.
      have hsections : frame'.sections = frame.sections := by
        simpa [Registry.Trims, hwrap rfl] using hframe.sections
      simp only [endPage, hsections, hframe.stage.sink]
      rcases h.catalog.get wrap.layout with ⟨e, hg, hg'⟩ | ⟨next, next', hg, hg', hnext⟩ <;> simp only [hg, hg']
      · exact .leave (hframe.finished.withSink wrap.sink)
      · exact .turn (t := { t with page := next }) hnext (hframe.finished.withSink wrap.sink)

end Moves

variable {engine engine' : Engine} (h : engine.Trims engine')

include h

/-- Each step is matched where definitions are gone, that of such a definition in no step at all. -/
theorem trims_step {start s s' t : Machine} (hfree : engine.DefinesFreely start) (hr : engine.Reaches start s)
    (hs : s.Trims s') (hstep : engine.step s = some t) : ∃ t', engine'.Reaches s' t' ∧ t.Trims t' := by
  obtain ⟨control, hosts⟩ := s
  obtain ⟨control', hosts'⟩ := s'
  obtain ⟨hcontrol, hhosts⟩ := hs
  simp only at hcontrol hhosts
  cases hcontrol with
  | enter hstage => cases hstep; exact ⟨_, .single rfl, trims_openView h hstage _ _, hhosts⟩
  | turn hpage hstage => cases hstep; exact ⟨_, .single rfl, trims_takeTurn h hstage hpage _, hhosts⟩
  | count hlayout hpage hstage =>
    cases hstep; exact ⟨_, .single rfl, trims_holdCount h hstage hpage hlayout _ _, hhosts⟩
  | @run turn page' wrap frame frame' rest rest' hwrap hpage hframe hrest =>
    cases hrest with
    | done outcome => cases hstep; exact ⟨_, .single rfl, trims_endPage h hwrap hframe outcome, hhosts⟩
    | @op o next next' hnext =>
      by_cases ho : o.isPartial = true
      · cases o with
        | renderPartial reference =>
          cases hp : Path.resolve turn.page.path reference with
          | error e =>
            rw [engine.step_partial_unresolved hp] at hstep
            cases hstep
            refine ⟨_, .single (engine'.step_partial_unresolved (hpage.path ▸ hp) _ _ _ _), ?_, hhosts⟩
            exact .run hwrap hpage hframe (hnext _)
          | ok target =>
            rw [engine.step_partial hp] at hstep
            cases hstep
            refine ⟨_, .single (engine'.step_partial (hpage.path ▸ hp) _ _ _ _), .enter hframe.stage, ?_⟩
            rw [hframe.composer]
            exact .cons (.intro hwrap hpage hframe.sections hnext) hhosts
        | _ => simp [Op.isPartial] at ho
      · rw [Bool.not_eq_true] at ho
        have hdone := hframe.perform ho (fun name renderer ho hnone => by
          subst ho
          exact hfree _ _ _ _ _ _ _ hr (Option.isNone_iff_eq_none.1 hnone)) turn.page.path
          fun _ stage => (.ok (), stage)
        obtain rfl := Option.some.inj ((engine.step_op ho _ _ _ _ _).symm.trans hstep)
        refine ⟨_, .single (engine'.step_op ho _ _ _ _ _), ?_, hhosts⟩
        rw [hpage.path, hdone.1]
        exact .run hwrap hpage hdone.2 (hnext _)
    -- Only the first machine makes this step: the second one has no definition here.
    | @define name renderer next _ hnone hnext =>
      obtain ⟨sections, hd⟩ := hfree _ _ _ _ _ _ _ hr (Option.isNone_iff_eq_none.1 hnone)
      rw [engine.step_op rfl] at hstep
      simp only [Frame.perform, hd] at hstep
      cases hstep
      refine ⟨_, .refl, .run hwrap hpage ⟨hframe.composer, ?_, hframe.stage⟩ hnext, hhosts⟩
      have hsections := hframe.sections
      rw [hnone] at hsections ⊢
      exact hsections.define_first hd
  | leave hstage =>
    cases hhosts with
    | nil => cases hstep
    | cons hhost hhosts =>
      cases hstep
      obtain ⟨hwrap, hpage, hsections, hnext⟩ := hhost
      exact ⟨_, .single rfl, .run hwrap hpage ⟨rfl, hsections, hstage⟩ (hnext _), hhosts⟩

/-- A pass in which no page without a layout fails to define a section goes the same way where such
definitions are gone. -/
theorem renderAtDepth_trims {depth : Nat} {path : String} {stage : Stage}
    (hfree : engine.DefinesFreely ⟨.enter depth path stage, []⟩) :
    (engine'.renderAtDepth depth path stage).1 = (engine.renderAtDepth depth path stage).1 ∧
      (engine.renderAtDepth depth path stage).2.Alike (engine'.renderAtDepth depth path stage).2 := by
  have hstart : Machine.Trims ⟨.enter depth path stage, []⟩ ⟨.enter depth path stage, []⟩ :=
    ⟨.enter ⟨rfl, rfl, rfl⟩, .nil⟩
  obtain ⟨⟨control, hosts⟩, hreach, hcontrol, hhosts⟩ := simulation
    (fun s s' t hr hs hstep => trims_step h hfree hr hs hstep) hstart (engine.renderAtDepth_returns depth path stage [])
  cases hhosts
  cases hcontrol with
  | leave hstage =>
    rw [engine'.renderAtDepth_eq_of_reaches hreach]
    exact ⟨rfl, hstage⟩

end Engine
end Folio
