import Folio.Proofs.Machine
import Folio.Proofs.Usage
/-!
# Scripts on a page

What a script does on a page whose sink is a buffer, said of each of its operations in turn: which text is
written, which section is defined or pulled, which datum is put. The equations rewrite from left to right,
so the run of a page on any data is worked out by them, and `Page.Gives` keeps what comes of it.

A layout is given sections that are texts. `Composer.unused_of_used` says that nothing is left of them once
each is pulled or set aside.
-/

namespace Folio

/-! ## Texts -/

/-- The stage whose sink is a buffer that holds texts. -/
def Stage.buffered (texts : List String) (data : PageData) (journal : Journal) : Stage :=
  ⟨Sink.buffer.after (Offer.allTaken (texts.map .ofText)), data, journal⟩

namespace Stage
variable (texts : List String) (data : PageData) (journal : Journal)

@[simp] theorem write_buffered (text : String) :
    (buffered texts data journal).write (.ofText text) = (.ok (), .buffered (texts ++ [text]) data journal) := by
  simp [write, buffered, Offer.allTaken]

@[simp] theorem report_buffered (events : Journal) :
    (buffered texts data journal).report events = .buffered texts data (journal ++ events) := rfl

theorem output_buffered : (buffered texts data journal).sink.output = .ofText (String.join texts) := by
  simp only [Sink.output, buffered, Sink.writes_taking]
  induction texts with
  | nil => rfl
  | cons text texts ih =>
    simp only [Content.concat, Content.ofText, Content.mk.injEq, List.map_cons, List.flatMap_cons] at ih ⊢
    rw [ih]
    simp [Text.encode, String.join_cons]

end Stage

namespace Section

/-- A section that writes a text. -/
def ofText (name text : String) : Section := ⟨name, .ofContent (.ofText text), 0⟩

/-- The section after one more call. -/
def called (s : Section) : Section := { s with calls := s.calls + 1 }

@[simp] theorem key_ofText (name text : String) : (ofText name text).key = Text.fold name := rfl

@[simp] theorem key_called (s : Section) : s.called.key = s.key := rfl

end Section

namespace Registry
variable (ss : List Section)

theorem define_ofSections {name : String} (hname : name ≠ "") (hnew : Text.fold name ∉ ss.map (·.key))
    (text : String) :
    (ofSections ss).define name (.ofContent (.ofText text)) = .ok (ofSections (ss ++ [.ofText name text])) := by
  have hhas : ¬ (ofSections ss).has name = true := fun h => hnew ((has_iff _ _).1 h)
  exact define_eq_ok_iff.2 ⟨by simpa using hname, hhas, ext_sections rfl⟩

@[simp] theorem find?_ofSections (name : String) :
    (ofSections ss).find? name = ss.find? (·.key = Text.fold name) := find?_eq _ name

@[simp] theorem has_ofSections (name : String) : (ofSections ss).has name = ss.any (·.key = Text.fold name) := by
  rw [← isSome_find?, find?_ofSections, List.isSome_find?]

@[simp] theorem countCall_ofSections (key : String) :
    (ofSections ss).countCall key = ofSections (ss.map fun s => if s.key = key then s.called else s) :=
  ext_sections rfl

end Registry

/-! ## Composers -/

@[simp] theorem Usage.rendered_renderBody (u : Usage) : u.renderBody.rendered = u.rendered := rfl

namespace Composer
variable {template view : String} {usage : Usage} {traced : Bool}

@[simp] theorem forPage_none (page : Page) :
    forPage page view none traced = ⟨page.path, view, none, ⟨[], [], .pending⟩, traced⟩ := rfl

@[simp] theorem forPage_some (page : Page) (child : Child) :
    forPage page view (some child) traced = ⟨page.path, view, some child, ⟨[], [], .pending⟩, traced⟩ := rfl

@[simp] theorem unused_unbound : unused ⟨template, view, none, usage, traced⟩ = [] := rfl

/-- A layout leaves nothing unused where it renders or ignores every section of its child. -/
@[simp] theorem unused_of_used {ss : List Section} {body : Option Content} (hss : ss ≠ [])
    (h : ∀ s ∈ ss, s.key ∈ usage.rendered ∨ s.key ∈ usage.ignored) :
    unused ⟨template, view, some ⟨.ofSections ss, body⟩, usage, traced⟩ = [] := by
  have hnames :
      unusedNames ⟨template, view, some ⟨.ofSections ss, body⟩, usage, traced⟩ (.ofSections ss) = [] := by
    simp only [unusedNames, List.filter_eq_nil_iff, Registry.names, List.mem_map]
    rintro name ⟨s, hs, rfl⟩
    simpa [or_iff_not_imp_left, Section.key] using h s hs
  have hempty : (Registry.ofSections ss).isEmpty = false := by
    simpa [Registry.isEmpty, Registry.ofSections] using hss
  simp [unused, hempty, hnames]

end Composer

/-! ## Operations -/

namespace Script
variable {α β : Type}

/-- What a script comes to as a part of the page at `path`. -/
def on (s : Script α) (path : String) (partials : PartialRenderer) (f : Frame) : Except Error α × Frame :=
  s.program.run (Frame.perform path partials) f

@[simp] theorem step_program (s : Script α) : step s.program = s := rfl

variable (path : String) (partials : PartialRenderer)

@[simp] theorem on_pure (a : α) (f : Frame) : (pure a : Script α).on path partials f = (.ok a, f) := rfl

@[simp] theorem on_bind (s : Script α) (g : α → Script β) (f : Frame) :
    (s >>= g).on path partials f =
      match s.on path partials f with
      | (.ok a, f') => (g a).on path partials f'
      | (.error e, f') => (.error e, f') := by
  have hrun : (s >>= g).on path partials f =
      (ExceptT.bindCont g (s.on path partials f).1).run (Frame.perform path partials) (s.on path partials f).2 :=
    Program.run_bind _ _ _ _
  rw [hrun]
  rcases s.on path partials f with ⟨_ | a, f'⟩ <;> rfl

@[simp] theorem on_discard (s : Script α) (f : Frame) :
    (discard s).on path partials f =
      match s.on path partials f with
      | (.ok _, f') => (.ok (), f')
      | (.error e, f') => (.error e, f') :=
  on_bind path partials s (fun _ => pure ()) f

/-- A script of one operation does what the page does at this operation. -/
theorem on_perform {o : Op} {f : Frame} {r : o.Answer × Frame} (h : Frame.perform path partials o f = r) :
    (Program.perform o).run (Frame.perform path partials) f = r := h

variable {composer : Composer} {sections : Registry} {texts : List String} {data : PageData} {journal : Journal}

@[simp] theorem on_writeText (text : String) :
    (writeText text).on path partials ⟨composer, sections, .buffered texts data journal⟩ =
      (.ok (), ⟨composer, sections, .buffered (texts ++ [text]) data journal⟩) :=
  on_perform path partials (o := .write (.ofText text)) (by simp [Frame.perform])

@[simp] theorem on_writeAt (position : Nat) (text : String) :
    (writeAt position text).on path partials ⟨composer, sections, .buffered texts data journal⟩ =
      (.ok (), ⟨composer, sections, .buffered (texts ++ [text]) data
        (journal ++ composer.openRegion position (Text.byteLength text) true ++ composer.closeRegion)⟩) :=
  on_perform path partials (o := .writeAt position text) (by simp [Frame.perform])

@[simp] theorem on_getData (key : String) :
    (getData key).on path partials ⟨composer, sections, .buffered texts data journal⟩ =
      (.ok (data.get? key), ⟨composer, sections, .buffered texts data journal⟩) := rfl

@[simp] theorem on_setData (key : String) (value : Value) :
    (setData key value).on path partials ⟨composer, sections, .buffered texts data journal⟩ =
      (.ok (), ⟨composer, sections, .buffered texts (data.set key value) journal⟩) := rfl

@[simp] theorem on_define {ss : List Section} {name : String} (hname : name ≠ "")
    (hnew : Text.fold name ∉ ss.map (·.key)) (text : String) (stage : Stage) :
    (define name (.ofContent (.ofText text))).on path partials ⟨composer, .ofSections ss, stage⟩ =
      (.ok (), ⟨composer, .ofSections (ss ++ [.ofText name text]), stage⟩) :=
  on_perform path partials (o := .define name (.ofContent (.ofText text)))
    (by simp only [Frame.perform, Registry.define_ofSections ss hname hnew])

theorem on_renderPartial {reference target : String} (htarget : Path.resolve path reference = .ok target)
    {stage after : Stage} (h : partials target stage = (.ok (), after)) :
    (renderPartial reference).on path partials ⟨composer, sections, stage⟩ =
      (.ok (), ⟨composer, sections, after⟩) :=
  on_perform path partials (o := .renderPartial reference) (by simp only [Frame.perform, htarget, h])

/-! The operations of a layout. -/

variable {template view : String} {r : Registry} {body : Option Content} {usage : Usage} {traced : Bool}

@[simp] theorem on_renderBody (text : String) :
    renderBody.on path partials
        ⟨⟨template, view, some ⟨r, some (.ofText text)⟩, usage, traced⟩, sections,
          .buffered texts data journal⟩ =
      (.ok (), ⟨⟨template, view, some ⟨r, some (.ofText text)⟩, usage.renderBody, traced⟩, sections,
        .buffered (texts ++ [text]) data journal⟩) :=
  on_perform path partials (o := .renderBody) (by simp [Frame.perform, Composer.renderBody])

@[simp] theorem on_ignoreBody (stage : Stage) :
    ignoreBody.on path partials ⟨⟨template, view, some ⟨r, body⟩, usage, traced⟩, sections, stage⟩ =
      (.ok (), ⟨⟨template, view, some ⟨r, body⟩, usage.ignoreBody, traced⟩, sections, stage⟩) := rfl

@[simp] theorem on_isSectionDefined {name : String} (hname : name ≠ "") (stage : Stage) :
    (isSectionDefined name).on path partials
        ⟨⟨template, view, some ⟨r, body⟩, usage, traced⟩, sections, stage⟩ =
      (.ok (r.has name), ⟨⟨template, view, some ⟨r, body⟩, usage, traced⟩, sections, stage⟩) :=
  on_perform path partials (o := .isSectionDefined name)
    (by simp [Frame.perform, Composer.isSectionDefined, Composer.sectionsFor, hname, Except.map])

@[simp] theorem on_ignoreSection {name : String} (hname : name ≠ "") (hhas : r.has name = true) (stage : Stage) :
    (ignoreSection name).on path partials
        ⟨⟨template, view, some ⟨r, body⟩, usage, traced⟩, sections, stage⟩ =
      (.ok (), ⟨⟨template, view, some ⟨r, body⟩, usage.ignoreSection (Text.fold name), traced⟩, sections,
        stage⟩) :=
  on_perform path partials (o := .ignoreSection name)
    (by simp [Frame.perform, Composer.ignoreSection, Composer.sectionsFor, hname, hhas])

/-- A section that is pulled for the first time writes its text. -/
theorem on_pull_found (defined text : String) {name : String} (hname : name ≠ "")
    (hfound : r.find? name = some (.ofText defined text)) (hfresh : Text.fold name ∉ usage.rendered)
    (required : Bool) :
    (step (.perform (.renderSection name required))).on path partials
        ⟨⟨template, view, some ⟨r, body⟩, usage, traced⟩, sections, .buffered texts data journal⟩ =
      (.ok (some .empty),
        ⟨⟨template, view, some ⟨r.countCall (Text.fold defined), body⟩, usage.renderSection (Text.fold name),
          traced⟩, sections, .buffered (texts ++ [text]) data (journal ++ [.pulled name template])⟩) := by
  have hpull := Composer.renderSection_found (c := ⟨template, view, some ⟨r, body⟩, usage, traced⟩) rfl hname
    hfound required (Stage.buffered texts data journal).sink
  refine on_perform path partials (o := .renderSection name required) ?_
  simp only [Frame.perform, hpull, hfresh, if_false]
  simp [Section.ofText, Section.key, Renderer.ofContent, Writer.put, Writer.run, Stage.buffered, Offer.allTaken,
    Stage.report, Except.map]

@[simp] theorem on_pull_missing {name : String} (hname : name ≠ "") (hmissing : r.find? name = none)
    (hfresh : Text.fold name ∉ usage.rendered) :
    (step (.perform (.renderSection name false))).on path partials
        ⟨⟨template, view, some ⟨r, body⟩, usage, traced⟩, sections, .buffered texts data journal⟩ =
      (.ok none,
        ⟨⟨template, view, some ⟨r, body⟩, usage, traced⟩, sections, .buffered texts data journal⟩) := by
  have hpull := Composer.renderSection_missing (c := ⟨template, view, some ⟨r, body⟩, usage, traced⟩) rfl hname
    hmissing false (Stage.buffered texts data journal).sink
  refine on_perform path partials (o := .renderSection name false) ?_
  simp only [Frame.perform, hpull, hfresh, if_false]
  simp [Stage.buffered, Stage.report]

end Script

/-! ## Pages -/

namespace Page
variable {page : Page} {composer : Composer} {partials : PartialRenderer} {depth : Nat} {texts : List String}
  {data : PageData} {journal : Journal}

theorem execute_eq_on :
    page.execute composer partials depth (.buffered texts data journal) =
      match (Script.step page.program).on page.path partials
        ⟨composer, .ofSections [], .buffered texts data (journal ++ [.entered page.path depth])⟩ with
      | (.error e, f) => (.error e, f.stage)
      | (.ok (), f) => (.ok f.sections, f.stage.report (f.composer.unused.map .warned)) := by
  have hfinish : page.finish composer partials depth (.buffered texts data journal) =
      (Script.step page.program).on page.path partials
        ⟨composer, .ofSections [], .buffered texts data (journal ++ [.entered page.path depth])⟩ := rfl
  rw [execute_eq_finish, hfinish]
  rcases (Script.step page.program).on page.path partials _ with ⟨_ | _, f⟩ <;> rfl

/-- The page runs to its end on some data, with nothing written yet: it defines sections, writes texts,
leaves the data as they are `after` it, and warns of nothing. -/
def Gives (page : Page) (composer : Composer) (partials : PartialRenderer) (data : PageData)
    (sections : List Section) (texts : List String) (after : PageData) : Prop :=
  ∀ journal, ∃ events, Journal.diagnostics events = [] ∧
    page.execute composer partials 0 (.buffered [] data journal) =
      (.ok (.ofSections sections), .buffered texts after (journal ++ events))

end Page

/-! ## Views -/

/-- The pass ends well, writes a document, and warns of nothing. -/
structure Pass.Clean (pass : Pass) (document : String) : Prop where
  succeeds : ∃ data, pass.result = .ok data
  output : pass.sink.output = .ofText document
  quiet : pass.journal.diagnostics = []

/-- The body that a page hands on when it has written texts. -/
def bodyOf (texts : List String) : Option Content :=
  if String.join texts = "" then none else some (.ofText (String.join texts))

theorem bodyOf_cons {text : String} (h : text ≠ "") (texts : List String) :
    bodyOf (text :: texts) = some (.ofText (String.join (text :: texts))) := by
  have hjoin : String.join (text :: texts) ≠ "" := by simp [String.join_cons, h]
  rw [bodyOf, if_neg hjoin]

namespace Engine

theorem childOf_buffered (sections : Registry) (texts : List String) (data : PageData) (journal : Journal) :
    childOf sections (Stage.buffered texts data journal).sink.output = ⟨sections, bodyOf texts⟩ := by
  have hempty : (Content.ofText (String.join texts)).isEmpty = true ↔ String.join texts = "" := by
    rw [Content.isEmpty_iff]
    refine ⟨fun h => Text.encode_injective (congrArg Content.bytes h), fun h => ?_⟩
    rw [h]
    rfl
  simp [childOf, bodyOf, Stage.output_buffered, hempty]

variable (engine : Engine)

/-- A view whose chain ends within the limit is its pages in order, and then the page without a layout. -/
theorem renderAtDepth_eq_lead {depth : Nat} {path view : String} {first last : Page} {inner : List Page}
    (hd : depth ≤ engine.options.maxLayoutDepth) (hv : Path.normalize path = .ok view)
    (hf : engine.catalog.find? view = some first) (hc : engine.catalog.Chain first inner last)
    (hk : inner.length ≤ engine.options.maxLayoutDepth) (stage : Stage) :
    engine.renderAtDepth depth path stage =
      match engine.lead view (engine.renderAtDepth (depth + 1)) depth inner none stage.shared with
      | (.error e, shared) => (.error e, shared.on stage.sink)
      | (.ok child, shared) =>
        last.conclude (Composer.forPage last view child engine.options.traceRegions)
          (engine.renderAtDepth (depth + 1)) depth (shared.on stage.sink) := by
  have hroute : engine.route view engine.options.maxLayoutDepth first = ⟨inner, .ok last⟩ :=
    engine.catalog.route_of_chain _ hc _ hk
  have hget : engine.catalog.get view = .ok first := by
    rw [engine.catalog.get_of_normalized (Path.normalize_normalize hv), hf]
  rw [renderAtDepth_eq]
  simp only [approach, hv, hget, hroute, Nat.not_lt.2 hd, if_false]
  rcases engine.lead view (engine.renderAtDepth (depth + 1)) depth inner none stage.shared with ⟨_ | _, _⟩ <;>
    rfl

variable {partials : PartialRenderer} {view : String} {child : Option Child} {page : Page}
  {sections : List Section} {texts : List String} {data after : PageData} {journal : Journal}

/-- What a page gives is what its layout runs on behalf of. -/
theorem lead_of_gives (inner : List Page)
    (h : page.Gives (.forPage page view child engine.options.traceRegions) partials data sections texts after)
    (journal : Journal) :
    ∃ events, Journal.diagnostics events = [] ∧
      engine.lead view partials 0 (page :: inner) child ⟨data, journal⟩ =
        engine.lead view partials 0 inner (some ⟨.ofSections sections, bodyOf texts⟩)
          ⟨after, journal ++ events⟩ := by
  obtain ⟨events, hquiet, hexecute⟩ := h journal
  have hbuffer : (⟨data, journal⟩ : Shared).on .buffer = .buffered [] data journal := rfl
  refine ⟨events, hquiet, ?_⟩
  simp only [lead, hbuffer, hexecute, childOf_buffered]
  rfl

/-- A pass is clean when the pages up to the last one warn of nothing and the last one gives the document. -/
theorem clean_of_gives {inner : List Page} {first last : Page} {final : PageData} {document : String}
    (hv : Path.normalize view = .ok view) (hf : engine.catalog.find? view = some first)
    (hc : engine.catalog.Chain first inner last) (hk : inner.length ≤ engine.options.maxLayoutDepth)
    (hlead : engine.lead view (engine.renderAtDepth 1) 0 inner none ⟨data, []⟩ = (.ok child, ⟨after, journal⟩))
    (hquiet : journal.diagnostics = [])
    (hlast : last.Gives (.forPage last view child engine.options.traceRegions) (engine.renderAtDepth 1) after []
      texts final) (hdocument : String.join texts = document) :
    (engine.renderWithData view .buffer data).Clean document := by
  subst hdocument
  obtain ⟨events, hevents, hexecute⟩ := hlast journal
  have hleftover : last.leftover (.ofSections []) = [] := rfl
  have hconclude : last.conclude (.forPage last view child engine.options.traceRegions) (engine.renderAtDepth 1)
      0 (.buffered [] after journal) = (.ok (), .buffered texts final (journal ++ events)) := by
    simp [Page.conclude, hexecute, hleftover]
  have hshared : (⟨.buffer, data, []⟩ : Stage).shared = ⟨data, []⟩ := rfl
  have hrender : engine.renderAtDepth 0 view ⟨.buffer, data, []⟩ =
      (.ok (), .buffered texts final (journal ++ events)) := by
    rw [engine.renderAtDepth_eq_lead (Nat.zero_le _) hv hf hc hk]
    simp only [hshared, Nat.zero_add, hlead]
    exact hconclude
  have hpassed (succeeded : Bool) : Journal.diagnostics [.passed succeeded] = [] := rfl
  rw [renderWithData_eq, hrender]
  refine ⟨⟨final, rfl⟩, Stage.output_buffered texts final (journal ++ events), ?_⟩
  simp [Stage.buffered, hquiet, hevents, hpassed]

end Engine
end Folio
