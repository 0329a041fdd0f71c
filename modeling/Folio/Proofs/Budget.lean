import Folio.Proofs.Isolation
/-!
# The depth budget

The depth of a pass and its limit are looked at in two places, where a view is asked for and where a
layout is counted. A pass that neither of them ends is the same pass at any smaller depth and under
any larger limit.

`Machine.deeper` is a state of the machine some levels further down. As long as the limit ends no
view there, the machine goes there as it does here (`step_deeper`), so the two passes end alike
(`renderAtDepth_deeper`). `budget_transparent` says what this means for passes and for partials.
-/

namespace Folio

/-! ## States further down -/

def Event.deeper (k : Nat) : Event → Event
  | .entered page depth => .entered page (depth + k)
  | event => event

def Journal.deeper (k : Nat) (j : Journal) : Journal := j.map (Event.deeper k)

/-- The stage `k` levels further down, where `j` was done before. -/
def Stage.deeper (k : Nat) (j : Journal) (s : Stage) : Stage := { s with journal := j ++ s.journal.deeper k }

def Frame.deeper (k : Nat) (j : Journal) (f : Frame) : Frame := { f with stage := f.stage.deeper k j }

def Turn.deeper (k : Nat) (t : Turn) : Turn := { t with depth := t.depth + k }

@[simp] theorem Turn.page_deeper (k : Nat) (t : Turn) : (t.deeper k).page = t.page := rfl

def Host.deeper (k : Nat) (h : Host) : Host := { h with turn := h.turn.deeper k }

def Control.deeper (k : Nat) (j : Journal) : Control → Control
  | .enter depth path stage => .enter (depth + k) path (stage.deeper k j)
  | .turn t child stage => .turn (t.deeper k) child (stage.deeper k j)
  | .count t layout child stage => .count (t.deeper k) layout child (stage.deeper k j)
  | .run t wrap frame rest => .run (t.deeper k) wrap (frame.deeper k j) rest
  | .leave outcome stage => .leave outcome (stage.deeper k j)

def Machine.deeper (k : Nat) (j : Journal) (s : Machine) : Machine :=
  ⟨s.control.deeper k j, s.hosts.map (Host.deeper k)⟩

namespace Journal

@[simp] theorem deeper_append (k : Nat) (i j : Journal) : deeper k (i ++ j) = deeper k i ++ deeper k j :=
  List.map_append

theorem deeper_of_no_pages (k : Nat) {j : Journal} (h : j.pages = []) : j.deeper k = j := by
  induction j with
  | nil => rfl
  | cons event j ih =>
    cases event with
    | entered page depth => simp [pages] at h
    | _ => exact congrArg _ (ih h)

theorem diagnostics_deeper (k : Nat) (j : Journal) : (j.deeper k).diagnostics = j.diagnostics := by
  induction j with
  | nil => rfl
  | cons event j ih => cases event <;> simp_all [deeper, Event.deeper, diagnostics]

theorem regions_deeper (k : Nat) (j : Journal) : (j.deeper k).regions = j.regions := by
  induction j with
  | nil => rfl
  | cons event j ih => cases event <;> simp_all [deeper, Event.deeper, regions]

end Journal

section Pages
variable (k : Nat) (j : Journal)

theorem Stage.report_deeper (s : Stage) {events : Journal} (h : events.pages = []) :
    (s.deeper k j).report events = (s.report events).deeper k j := by
  simp [report, deeper, Journal.deeper_of_no_pages k h]

theorem Stage.deeper_zero (s : Stage) : s.deeper 0 [] = s := by
  have hevent : Event.deeper 0 = id := by funext event; cases event <;> rfl
  simp [deeper, Journal.deeper, hevent]

theorem Stage.unwrap_deeper (wrap : Option Wrap) (s : Stage) :
    (s.deeper k j).unwrap wrap = (s.unwrap wrap).deeper k j := by
  cases wrap <;> rfl

theorem Frame.finished_deeper (f : Frame) : (f.deeper k j).finished = f.finished.deeper k j :=
  f.stage.report_deeper k j (Journal.pages_warned f.composer.unused)

theorem Frame.deeper_behind (i : Journal) {f : Frame} (h : f.stage.journal.pages = []) :
    (f.behind i).deeper k j = f.behind (j ++ i.deeper k) := by
  simp [Frame.deeper, Frame.behind, Stage.deeper, Stage.behind, Journal.deeper_of_no_pages k h]

/-- Apart from partials, a page does the same further down. -/
theorem Frame.perform_deeper {partials : PartialRenderer} (hp : partials.Blind) {o : Op} (ho : o.isPartial = false)
    (path : String) (f : Frame) :
    perform path partials o (f.deeper k j) = Prod.map id (Frame.deeper k j) (perform path partials o f) := by
  obtain ⟨composer, sections, sink, data, journal⟩ := f
  -- What the page does on an empty journal enters no page, so it is the same at both depths.
  let start : Frame := ⟨composer, sections, sink, data, []⟩
  have hstart : Frame.mk composer sections ⟨sink, data, journal⟩ = start.behind journal := by
    simp [start, Frame.behind, Stage.behind]
  have hpages : (perform path partials o start).2.stage.journal.pages = [] := pages_perform ho path partials start
  rw [hstart, deeper_behind k j journal rfl, perform_behind hp, perform_behind hp]
  exact Prod.ext rfl (deeper_behind k j journal hpages).symm

end Pages

/-! ## Limits -/

/-- A view ends because of the limit. -/
def Control.isExceeded : Control → Bool
  | .leave (.error (.layoutDepthExceeded _ _)) _ => true
  | _ => false

namespace Engine

/-- The engine with another limit. -/
def withLimit (engine : Engine) (limit : Nat) : Engine :=
  { engine with options := { engine.options with maxLayoutDepth := limit } }

/-- The step from a state ends a view because of the limit. -/
def exceeds (engine : Engine) (s : Machine) : Bool :=
  match s.control with
  | .enter depth path stage => (engine.openView depth path stage).isExceeded
  | .count t layout child stage => (engine.holdCount t layout child stage).isExceeded
  | _ => false

/-- The limit ends no view in the run from a state, whatever pages make of the errors of partials. -/
def NeverExceeds (engine : Engine) (start : Machine) : Prop := ∀ s, engine.Reaches start s → engine.exceeds s = false

theorem neverExceeds_of_checks {engine : Engine} {start : Machine} (n : Nat)
    (h : engine.checks (fun s => !engine.exceeds s) n start = true) : engine.NeverExceeds start := by
  intro s hr
  simpa using engine.check_of_reaches _ hr n h

/-! ## Runs further down -/

section Moves
variable (engine : Engine) (limit limit' k : Nat) (j : Journal)

theorem startFrame_deeper (t : Turn) (child : Option Child) (stage : Stage) :
    (engine.withLimit limit).startFrame (t.deeper k) child (stage.deeper k j) =
      ((engine.withLimit limit').startFrame t child stage).deeper k j := by
  simp only [startFrame, Page.start, Frame.deeper, Stage.report, Stage.deeper, Journal.deeper_append,
    List.append_assoc]
  rfl

theorem takeTurn_deeper (t : Turn) (child : Option Child) (stage : Stage) :
    (engine.withLimit limit).takeTurn (t.deeper k) child (stage.deeper k j) =
      ((engine.withLimit limit').takeTurn t child stage).deeper k j := by
  simp only [takeTurn, engine.startFrame_deeper limit limit' k j, Turn.page_deeper]
  cases t.page.layoutPath with
  | error e => rfl
  | ok layout => cases layout <;> rfl

theorem endPage_deeper (t : Turn) (wrap : Option Wrap) (frame : Frame) (outcome : Except Error Unit) :
    (engine.withLimit limit).endPage (t.deeper k) wrap (frame.deeper k j) outcome =
      ((engine.withLimit limit').endPage t wrap frame outcome).deeper k j := by
  cases outcome with
  | error e => exact congrArg _ (frame.stage.unwrap_deeper k j wrap)
  | ok u =>
    cases wrap with
    | none =>
      simp only [endPage, frame.finished_deeper k j]
      exact congrArg _ (frame.finished.report_deeper k j (Page.pages_leftover t.page frame.sections))
    | some wrap =>
      simp only [endPage, frame.finished_deeper k j, withLimit]
      cases engine.catalog.get wrap.layout <;> rfl

variable {limit limit' k j} (hlimit : limit ≤ limit')
include hlimit

theorem openView_deeper {depth : Nat} {path : String} {stage : Stage}
    (h : ((engine.withLimit limit).openView (depth + k) path (stage.deeper k j)).isExceeded = false) :
    (engine.withLimit limit).openView (depth + k) path (stage.deeper k j) =
      ((engine.withLimit limit').openView depth path stage).deeper k j := by
  simp only [openView, withLimit] at h ⊢
  cases hv : Path.normalize path with
  | error e => rfl
  | ok view =>
    by_cases hd : limit < depth + k
    · simp [hv, hd, tooDeep, Control.isExceeded] at h
    · have hd' : ¬ limit' < depth := by omega
      simp only [hd, hd', if_false]
      cases engine.catalog.get view <;> rfl

theorem holdCount_deeper {t : Turn} {layout : String} {child : Option Child} {stage : Stage}
    (h : ((engine.withLimit limit).holdCount (t.deeper k) layout child (stage.deeper k j)).isExceeded = false) :
    (engine.withLimit limit).holdCount (t.deeper k) layout child (stage.deeper k j) =
      ((engine.withLimit limit').holdCount t layout child stage).deeper k j := by
  by_cases hm : limit < t.layouts
  · simp [holdCount, withLimit, Turn.deeper, tooDeep, Control.isExceeded, hm] at h
  · have hm' : t.layouts ≤ limit' := by omega
    have hstart := engine.startFrame_deeper limit limit' k j t child { stage with sink := .buffer }
    rw [holdCount_within (engine.withLimit limit') hm',
      holdCount_within (engine.withLimit limit) (t := t.deeper k) (Nat.not_lt.1 hm)]
    exact congrArg (fun frame => Control.run (t.deeper k) (some ⟨layout, stage.sink⟩) frame t.page.program) hstart

/-- As long as the limit ends no view further down, the machine does the same there. -/
theorem step_deeper {s t : Machine}
    (h : (engine.withLimit limit).exceeds (s.deeper k j) = false) (hstep : (engine.withLimit limit').step s = some t) :
    (engine.withLimit limit).step (s.deeper k j) = some (t.deeper k j) := by
  obtain ⟨control, hosts⟩ := s
  cases control with
  | enter depth path stage =>
    cases hstep
    exact congrArg (fun control => some (Machine.mk control _)) (engine.openView_deeper hlimit h)
  | turn turn child stage =>
    cases hstep
    exact congrArg (fun control => some (Machine.mk control _)) (engine.takeTurn_deeper _ _ _ _ turn child stage)
  | count turn layout child stage =>
    cases hstep
    exact congrArg (fun control => some (Machine.mk control _)) (engine.holdCount_deeper hlimit h)
  | run turn wrap frame rest =>
    cases rest with
    | done outcome =>
      cases hstep
      have hend := engine.endPage_deeper limit limit' k j turn wrap frame outcome
      exact congrArg (fun control => some (Machine.mk control _)) hend
    | op o next =>
      by_cases ho : o.isPartial = true
      · cases o with
        | renderPartial reference =>
          cases hp : Path.resolve turn.page.path reference with
          | error e =>
            rw [step_partial_unresolved _ hp] at hstep
            cases hstep
            exact step_partial_unresolved _ (t := turn.deeper k) hp _ _ _ _
          | ok target =>
            rw [step_partial _ hp] at hstep
            cases hstep
            have hstep' := step_partial (engine.withLimit limit) (t := turn.deeper k) hp wrap (frame.deeper k j) next
              (hosts.map (Host.deeper k))
            rw [show (turn.deeper k).depth + 1 = turn.depth + 1 + k by simp only [Turn.deeper]; omega] at hstep'
            exact hstep'
        | _ => simp [Op.isPartial] at ho
      · rw [Bool.not_eq_true] at ho
        have hblind : PartialRenderer.Blind fun _ stage => (.ok (), stage) := fun _ _ _ => rfl
        have hperform := Frame.perform_deeper k j hblind ho turn.page.path frame
        obtain rfl := Option.some.inj ((step_op _ ho _ _ _ _ _).symm.trans hstep)
        refine (step_op _ ho (turn.deeper k) wrap (frame.deeper k j) next (hosts.map (Host.deeper k))).trans ?_
        simp only [Turn.deeper, hperform]
        rfl
  | leave outcome stage =>
    cases hosts with
    | nil => cases hstep
    | cons host hosts => cases hstep; rfl

theorem reaches_deeper {start s : Machine} (h : (engine.withLimit limit).NeverExceeds (start.deeper k j))
    (hr : (engine.withLimit limit').Reaches start s) :
    (engine.withLimit limit).Reaches (start.deeper k j) (s.deeper k j) := by
  induction hr with
  | refl => exact .refl
  | tail _ hstep ih => exact ih.tail (engine.step_deeper hlimit (h _ ih) hstep)

/-- A pass that the limit ends nowhere is the same pass further up and under a larger limit. -/
theorem renderAtDepth_deeper {depth : Nat} {path : String} {stage : Stage}
    (h : (engine.withLimit limit).NeverExceeds ⟨.enter (depth + k) path (stage.deeper k j), []⟩) :
    (engine.withLimit limit).renderAtDepth (depth + k) path (stage.deeper k j) =
      Prod.map id (Stage.deeper k j) ((engine.withLimit limit').renderAtDepth depth path stage) := by
  have hreturns := (engine.withLimit limit').renderAtDepth_returns depth path stage []
  have hstart : Machine.mk (.enter (depth + k) path (stage.deeper k j)) [] =
      Machine.deeper k j ⟨.enter depth path stage, []⟩ := rfl
  rw [hstart] at h
  exact renderAtDepth_eq_of_reaches _ (engine.reaches_deeper hlimit h hreturns)

end Moves

/-! ## Partials by themselves -/

section Hosts
variable {engine : Engine} (hosts : List Host)

/-- The machine does not look at the pages that wait. -/
theorem step_above {s t : Machine} (h : engine.step s = some t) :
    engine.step ⟨s.control, s.hosts ++ hosts⟩ = some ⟨t.control, t.hosts ++ hosts⟩ := by
  obtain ⟨control, inner⟩ := s
  cases control with
  | run turn wrap frame rest =>
    cases rest with
    | done outcome => cases h; rfl
    | op o next =>
      cases o with
      | renderPartial reference =>
        simp only [step] at h ⊢
        split at h
        · cases h; rfl
        · cases h; rfl
      | _ => cases h; rfl
  | leave outcome stage =>
    cases inner with
    | nil => cases h
    | cons host inner => cases h; rfl
  | _ => cases h; rfl

theorem reaches_above {s t : Machine} (h : engine.Reaches s t) :
    engine.Reaches ⟨s.control, s.hosts ++ hosts⟩ ⟨t.control, t.hosts ++ hosts⟩ := by
  induction h with
  | refl => exact .refl
  | tail _ hstep ih => exact ih.tail (step_above hosts hstep)

theorem NeverExceeds.alone {control : Control} (h : engine.NeverExceeds ⟨control, hosts⟩) :
    engine.NeverExceeds ⟨control, []⟩ :=
  fun s hr => h ⟨s.control, s.hosts ++ hosts⟩ (reaches_above hosts hr)

theorem NeverExceeds.of_reaches {s t : Machine} (h : engine.NeverExceeds s) (hr : engine.Reaches s t) :
    engine.NeverExceeds t :=
  fun _ hr' => h _ (hr.trans hr')

end Hosts
end Engine

/-! ## Passes and partials -/

/-- Two runs end alike: they have the same outcome, sink and data, and raise the same warnings and
regions. -/
structure EndsAlike (run run' : Except Error Unit × Stage) : Prop where
  outcome : run'.1 = run.1
  sink : run'.2.sink = run.2.sink
  data : run'.2.data = run.2.data
  diagnostics : run'.2.journal.diagnostics = run.2.journal.diagnostics
  regions : run'.2.journal.regions = run.2.journal.regions

namespace Engine
variable (engine : Engine) {limit limit' : Nat} (hlimit : limit ≤ limit')
include hlimit

/-- A run that the limit ends nowhere, in terms of a run higher up and on an empty journal. -/
theorem renderAtDepth_higher {depth depth' : Nat} (hdepth : depth' ≤ depth) {path : String} {stage : Stage}
    (h : (engine.withLimit limit).NeverExceeds ⟨.enter depth path stage, []⟩) :
    (engine.withLimit limit).renderAtDepth depth path stage =
      Prod.map id (Stage.deeper (depth - depth') stage.journal)
        ((engine.withLimit limit').renderAtDepth depth' path { stage with journal := [] }) := by
  obtain ⟨k, rfl⟩ := Nat.exists_eq_add_of_le hdepth
  have hstage : Stage.deeper k stage.journal { stage with journal := [] } = stage := by
    simp [Stage.deeper, Journal.deeper]
  rw [Nat.add_sub_cancel_left]
  rw [← hstage] at h
  have hdeeper := engine.renderAtDepth_deeper hlimit h
  rwa [hstage] at hdeeper

theorem endsAlike_of_neverExceeds {depth depth' : Nat} (hdepth : depth' ≤ depth) {path : String} {stage : Stage}
    (h : (engine.withLimit limit).NeverExceeds ⟨.enter depth path stage, []⟩) :
    EndsAlike ((engine.withLimit limit).renderAtDepth depth path stage)
      ((engine.withLimit limit').renderAtDepth depth' path stage) := by
  have hblind := (engine.withLimit limit').renderAtDepth_blind depth' stage.journal path { stage with journal := [] }
  rw [← Stage.eq_behind] at hblind
  rw [engine.renderAtDepth_higher hlimit hdepth h, hblind]
  exact ⟨rfl, rfl, rfl, by simp [Stage.behind, Stage.deeper, Journal.diagnostics_deeper],
    by simp [Stage.behind, Stage.deeper, Journal.regions_deeper]⟩

theorem renderWithData_of_neverExceeds {path : String} {sink : Sink} {data : PageData}
    (h : (engine.withLimit limit).NeverExceeds ⟨.enter 0 path ⟨sink, data, []⟩, []⟩) :
    (engine.withLimit limit').renderWithData path sink data =
      (engine.withLimit limit).renderWithData path sink data := by
  have hhigher := engine.renderAtDepth_higher hlimit (Nat.le_refl 0) h
  simp only [Nat.sub_self, Prod.map, Stage.deeper_zero, id] at hhigher
  rw [renderWithData_eq, renderWithData_eq, hhigher]

omit hlimit

/-- A partial that the limit ends nowhere does to the stage of its host what a pass over its view does. -/
theorem perform_partial_eq {depth : Nat} {path reference target : String} {frame : Frame}
    (hr : Path.resolve path reference = .ok target)
    (h : engine.NeverExceeds ⟨.enter (depth + 1) target frame.stage, []⟩) :
    let pass := engine.renderAtDepth 0 target { frame.stage with journal := [] }
    Frame.perform path (engine.renderAtDepth (depth + 1)) (.renderPartial reference) frame =
      (pass.1, { frame with stage := pass.2.deeper (depth + 1) frame.stage.journal }) := by
  intro pass
  have hpartial : engine.renderAtDepth (depth + 1) target frame.stage = _ :=
    engine.renderAtDepth_higher (Nat.le_refl engine.options.maxLayoutDepth) (Nat.zero_le (depth + 1)) h
  simp only [Frame.perform, hr, hpartial]
  rfl

/-- A sink that takes every write gets the writes of a pass after those it has. -/
theorem renderAtDepth_taking {sink : Sink} (htakes : ∀ before content, sink.takes before content = true) (depth : Nat)
    (path : String) (shared : Shared) :
    let pass := engine.renderAtDepth depth path (shared.on .buffer)
    engine.renderAtDepth depth path (shared.on sink) =
      (pass.1, pass.2.shared.on (sink.after (Offer.allTaken pass.2.sink.writes))) := by
  have hrun := (engine.dialogue depth path shared).run_taking sink htakes
  simp only [engine.renderAtDepth_on depth path shared, Dialogue.onStage, Dialogue.run_buffer, hrun]
  simp [Shared.on, Stage.shared]

/-- The depth budget is transparent. A run that the limit ends nowhere, not even in a partial whose error
is caught, ends alike at every smaller depth and under every larger limit; so a larger limit leaves a pass
as it is. A partial in such a run does to its host what a pass over its target does with the same sink
and data, and what it writes into a sink that takes everything is what that pass writes into a buffer. -/
theorem budget_transparent :
    (∀ limit limit' depth depth' path stage, limit ≤ limit' → depth' ≤ depth →
      (engine.withLimit limit).NeverExceeds ⟨.enter depth path stage, []⟩ →
      EndsAlike ((engine.withLimit limit).renderAtDepth depth path stage)
        ((engine.withLimit limit').renderAtDepth depth' path stage)) ∧
    (∀ limit limit' path sink data, limit ≤ limit' →
      (engine.withLimit limit).NeverExceeds ⟨.enter 0 path ⟨sink, data, []⟩, []⟩ →
      (engine.withLimit limit').renderWithData path sink data =
        (engine.withLimit limit).renderWithData path sink data) ∧
    ∀ (start : Machine) (t : Turn) wrap frame reference target next hosts, engine.NeverExceeds start →
      engine.Reaches start ⟨.run t wrap frame (.op (.renderPartial reference) next), hosts⟩ →
      Path.resolve t.page.path reference = .ok target →
      let host := Frame.perform t.page.path (engine.renderAtDepth (t.depth + 1)) (.renderPartial reference) frame
      let pass := engine.renderAtDepth 0 target ⟨frame.stage.sink, frame.stage.data, []⟩
      let buffered := engine.renderWithData target .buffer frame.stage.data
      host.1 = pass.1 ∧ host.2.composer = frame.composer ∧ host.2.sections = frame.sections ∧
        host.2.stage.sink = pass.2.sink ∧ host.2.stage.data = pass.2.data ∧
        host.2.stage.journal.diagnostics = frame.stage.journal.diagnostics ++ pass.2.journal.diagnostics ∧
        host.2.stage.journal.regions = frame.stage.journal.regions ++ pass.2.journal.regions ∧
        ((∀ before content, frame.stage.sink.takes before content = true) →
          host.2.stage.sink.writes = frame.stage.sink.writes ++ buffered.sink.writes ∧
            buffered.result = host.1.map fun _ => host.2.stage.data) := by
  refine ⟨fun limit limit' depth depth' path stage hlimit hdepth h => engine.endsAlike_of_neverExceeds hlimit hdepth h,
    fun limit limit' path sink data hlimit h => engine.renderWithData_of_neverExceeds hlimit h, ?_⟩
  intro start t wrap frame reference target next hosts hstart hreach hr host pass buffered
  have hentered := hreach.tail (engine.step_partial hr wrap frame next hosts)
  have hhost : host = _ := engine.perform_partial_eq hr ((hstart.of_reaches hentered).alone _)
  rw [hhost]
  refine ⟨rfl, rfl, rfl, rfl, rfl, ?_, ?_, fun htakes => ?_⟩
  · simp [Stage.deeper, Journal.diagnostics_deeper, pass]
  · simp [Stage.deeper, Journal.regions_deeper, pass]
  · have htaking := engine.renderAtDepth_taking htakes 0 target ⟨frame.stage.data, []⟩
    have hbuffered : buffered = _ := engine.renderWithData_eq target .buffer frame.stage.data
    simp only [Shared.on] at htaking
    rw [hbuffered]
    simp only [htaking]
    refine ⟨?_, rfl⟩
    simp [Stage.deeper]

end Engine

/-! ## A clip on a notice -/

namespace Demo

/-- A notice with a clip on it, whether the clip holds or not. -/
def noticePage : Page where
  path := "/notice"
  layout := some "board"
  program := .op (.write (.ofText "notice")) fun _ => .op (.renderPartial "clip") fun _ => .done (.ok ())

def clipPage : Page where
  path := "/clip"
  layout := some "pin"
  program := .op (.setData "clipped" (.bool true)) fun _ => .op (.write (.ofText "clip")) .done

/-- The layout of notices and of clips. -/
def framePage (path : String) : Page where
  path
  layout := none
  program := .op .renderBody .done

/-- The engine of these pages. A limit of one is just enough for a notice. -/
def notices : Engine :=
  ⟨⟨[("/notice", noticePage), ("/clip", clipPage), ("/board", framePage "/board"), ("/pin", framePage "/pin")]⟩,
    ⟨1, true, 1⟩⟩

end Demo

/-- A notice at the depth of one and with a limit of two ends as at the depth of zero and with a limit of
five. With the limit of one nothing is changed by a larger one, and the clip writes what a pass over it
writes. -/
theorem Engine.budget_transparent_notices :
    let stage : Stage := ⟨.buffer, .empty, []⟩
    let notice : Turn := ⟨0, "/notice", 1, Demo.noticePage⟩
    (Demo.notices.withLimit 2).NeverExceeds ⟨.enter 1 "/notice" stage, []⟩ ∧
      EndsAlike ((Demo.notices.withLimit 2).renderAtDepth 1 "/notice" stage)
        ((Demo.notices.withLimit 5).renderAtDepth 0 "/notice" stage) ∧
      (Demo.notices.withLimit 1).NeverExceeds ⟨.enter 0 "/notice" stage, []⟩ ∧
      (Demo.notices.withLimit 5).renderWithData "/notice" .buffer .empty =
        (Demo.notices.withLimit 1).renderWithData "/notice" .buffer .empty ∧
      ∃ frame : Frame, frame.stage.sink = Sink.buffer.after (Offer.allTaken [.ofText "notice"]) ∧
        let host := Frame.perform notice.page.path (Demo.notices.renderAtDepth (notice.depth + 1))
          (.renderPartial "clip") frame
        host.2.stage.sink.writes =
          [.ofText "notice"] ++ (Demo.notices.renderWithData "/clip" .buffer .empty).sink.writes := by
  intro stage notice
  have hdeep : (Demo.notices.withLimit 2).NeverExceeds ⟨.enter 1 "/notice" stage, []⟩ :=
    neverExceeds_of_checks 30 (by decide +kernel)
  have htight : (Demo.notices.withLimit 1).NeverExceeds ⟨.enter 0 "/notice" stage, []⟩ :=
    neverExceeds_of_checks 30 (by decide +kernel)
  have hopen : Demo.notices.step ⟨.enter 0 "/notice" stage, []⟩ =
      some ⟨.turn ⟨0, "/notice", 0, Demo.noticePage⟩ none stage, []⟩ :=
    congrArg (fun control => some (Machine.mk control [])) (Demo.notices.openView_of_get (by decide) (by decide) rfl _)
  have hlayout : Demo.noticePage.layoutPath = .ok (some "/board") := by decide +kernel
  have hrun : Demo.notices.Reaches ⟨.enter 0 "/notice" stage, []⟩ _ :=
    .head hopen (reaches_inner [] hlayout (by decide) none stage)
  have hwrite := Demo.notices.step_op (o := .write (.ofText "notice")) rfl notice (some ⟨"/board", .buffer⟩)
    (Demo.notices.startFrame notice none stage) (fun _ => .op (.renderPartial "clip") fun _ => .done (.ok ())) []
  obtain ⟨frame, hsink, hdata, hreach⟩ : ∃ frame : Frame,
      frame.stage.sink = Sink.buffer.after (Offer.allTaken [.ofText "notice"]) ∧ frame.stage.data = .empty ∧
      Demo.notices.Reaches ⟨.enter 0 "/notice" stage, []⟩
        ⟨.run notice (some ⟨"/board", .buffer⟩) frame (.op (.renderPartial "clip") fun _ => .done (.ok ())), []⟩ :=
    ⟨(Frame.perform _ _ _ (Demo.notices.startFrame notice none stage)).2, rfl, rfl, hrun.tail hwrite⟩
  obtain ⟨hends, hpass, hpartial⟩ := Demo.notices.budget_transparent
  obtain ⟨-, -, -, -, -, -, -, hwrites⟩ :=
    hpartial _ notice _ frame "clip" "/clip" _ _ htight hreach (by decide +kernel)
  obtain ⟨hwrites, -⟩ := hwrites fun _ _ => by rw [hsink]; rfl
  rw [hdata, hsink] at hwrites
  exact ⟨hdeep, hends 2 5 1 0 "/notice" stage (by decide) (by decide) hdeep, htight,
    hpass 1 5 "/notice" .buffer .empty (by decide) htight, frame, hsink, hwrites⟩

end Folio
