import Folio.Log
import Folio.Proofs.Regions
/-!
# Passes and who watches them

Regions are reported only if the engine traces them. Without them a pass is the same: `muted` leaves the
regions out of a state of the machine, and the machine that does not trace goes from muted state to muted
state as the other one goes (`muted_step`).

Warnings and regions are handed on when they come up, to whoever watches. A `Watch` is what two watchers
make of them, and a `Watched` run is a run of the machine with what they have made of it so far; they get
the warnings and the regions of the journal, one by one and in order (`watched_iff`).
-/

namespace Folio

/-! ## Without regions -/

/-- The journal without its regions. -/
def Journal.muted (j : Journal) : Journal := j.filter fun | .region _ => false | _ => true

def Composer.muted (c : Composer) : Composer := { c with traced := false }

def Stage.muted (stage : Stage) : Stage := { stage with journal := stage.journal.muted }

def Frame.muted (f : Frame) : Frame := ⟨f.composer.muted, f.sections, f.stage.muted⟩

def Host.muted (host : Host) : Host := { host with composer := host.composer.muted }

def Control.muted : Control → Control
  | .enter depth path stage => .enter depth path stage.muted
  | .turn t child stage => .turn t child stage.muted
  | .count t layout child stage => .count t layout child stage.muted
  | .run t wrap frame rest => .run t wrap frame.muted rest
  | .leave outcome stage => .leave outcome stage.muted

/-- The state without regions, reported or to be reported. -/
def Machine.muted (s : Machine) : Machine := ⟨s.control.muted, s.hosts.map Host.muted⟩

/-- The engine that traces regions, or does not. -/
def Engine.tracing (engine : Engine) (on : Bool) : Engine :=
  { engine with options := { engine.options with traceRegions := on } }

namespace Journal

@[simp] theorem muted_append (j k : Journal) : muted (j ++ k) = muted j ++ muted k := List.filter_append ..

theorem regions_muted (j : Journal) : j.muted.regions = [] := by
  simp [muted, regions, List.filterMap_eq_nil_iff]
  rintro (_ | _) <;> simp

theorem diagnostics_muted (j : Journal) : j.muted.diagnostics = j.diagnostics := by
  rw [muted, diagnostics, List.filterMap_filter]
  refine List.filterMap_congr fun e _ => ?_
  cases e <;> rfl

theorem muted_of_regions_eq_nil {j : Journal} (h : j.regions = []) : j.muted = j := by
  refine List.filter_eq_self.2 fun e he => ?_
  cases e with
  | region r => simpa using List.filterMap_eq_nil_iff.1 h _ he
  | _ => rfl

end Journal

namespace Composer
variable (c : Composer)

theorem muted_openRegion (position length : Nat) (isLiteral : Bool) :
    (c.openRegion position length isLiteral).muted = [] := by
  unfold openRegion; split <;> rfl

theorem muted_closeRegion : c.closeRegion.muted = [] := by
  unfold closeRegion; split <;> rfl

theorem renderSection_muted (name : String) (required : Bool) (sink : Sink) :
    c.muted.renderSection name required sink =
      { c.renderSection name required sink with composer := (c.renderSection name required sink).composer.muted } := by
  have hsections : c.muted.sectionsFor "render_section" name = c.sectionsFor "render_section" name := rfl
  simp only [renderSection, hsections]
  cases c.sectionsFor "render_section" name with
  | error e => rfl
  | ok sections =>
    dsimp only
    cases sections.render name sink <;> rfl

theorem renderBody_muted : c.muted.renderBody = (c.renderBody.1, c.renderBody.2.muted) := by
  have hchild : c.muted.child = c.child := rfl
  simp only [renderBody, hchild]
  cases c.child.bind (·.body) <;> rfl

theorem ignoreSection_muted (name : String) :
    c.muted.ignoreSection name = ((c.ignoreSection name).1, (c.ignoreSection name).2.muted) := by
  have hsections : c.muted.sectionsFor "ignore_section" name = c.sectionsFor "ignore_section" name := rfl
  simp only [ignoreSection, hsections]
  cases c.sectionsFor "ignore_section" name with
  | error e => rfl
  | ok sections => dsimp only; split <;> rfl

end Composer

namespace Stage
variable (stage : Stage)

theorem muted_report (events : Journal) : (stage.report events).muted = stage.muted.report events.muted := by
  simp [report, muted]

theorem muted_inj {stage stage' : Stage} : stage.muted = stage'.muted ↔
    stage.sink = stage'.sink ∧ stage.data = stage'.data ∧ stage.journal.muted = stage'.journal.muted := by
  simp only [muted, Stage.mk.injEq]

theorem muted_write (content : Content) : (stage.write content).2.muted = (stage.muted.write content).2 := rfl

end Stage

/-- An operation does the same on a muted page, and reports the same but for regions. -/
theorem Frame.perform_muted {o : Op} (ho : o.isPartial = false) (path : String) (partials : PartialRenderer)
    (f : Frame) : perform path partials o f.muted =
      ((perform path partials o f).1, (perform path partials o f).2.muted) := by
  cases o with
  | renderPartial reference => simp [Op.isPartial] at ho
  | writeAt position markup =>
    simp only [perform, muted, Stage.muted_report, Stage.muted_write, Composer.muted_openRegion,
      Composer.muted_closeRegion]
    rfl
  | openRegion position length isLiteral =>
    simp only [perform, muted, Stage.muted_report, Composer.muted_openRegion]
    rfl
  | closeRegion =>
    simp only [perform, muted, Stage.muted_report, Composer.muted_closeRegion]
    rfl
  | define name renderer => simp only [perform, muted]; split <;> rfl
  | renderBody =>
    simp only [perform, muted, Composer.renderBody_muted]
    generalize f.composer.renderBody = rendered
    obtain ⟨answer, composer⟩ := rendered
    cases answer <;> rfl
  | renderSection name required =>
    have hsilent := Journal.muted_of_regions_eq_nil (f.composer.regions_renderSection name required f.stage.sink)
    simp only [perform, muted, Stage.muted_report, Composer.renderSection_muted, hsilent]
    rfl
  | ignoreSection name =>
    simp only [perform, muted, Composer.ignoreSection_muted]
  | note text =>
    simp only [perform, muted, Stage.muted_report]
    rfl
  | _ => rfl

theorem Frame.muted_finished (f : Frame) : f.muted.finished = f.finished.muted := by
  have hsilent := Journal.muted_of_regions_eq_nil (Journal.regions_warned f.composer.unused)
  simp only [finished, Stage.muted_report, hsilent]
  rfl

theorem Stage.muted_unwrap (wrap : Option Wrap) (stage : Stage) :
    stage.muted.unwrap wrap = (stage.unwrap wrap).muted := by
  cases wrap <;> rfl

namespace Engine

/-! ## Passes without regions -/

section Tracing
variable {engine : Engine}

theorem startFrame_muted (engine : Engine) (t : Turn) (child : Option Child) (stage : Stage) :
    (engine.tracing false).startFrame t child stage.muted = (engine.startFrame t child stage).muted := by
  simp only [startFrame, Page.start, Frame.muted, Stage.muted_report]
  cases child <;> rfl

/-- The machine that does not trace regions goes from muted state to muted state. -/
theorem muted_step {s t : Machine} (h : engine.step s = some t) :
    (engine.tracing false).step s.muted = some t.muted := by
  refine Move.step ?_
  cases move_of_step h with
  | strayed hv => exact .strayed hv
  | nested hv hd => exact .nested hv hd
  | missing hv hd hg => exact .missing hv hd hg
  | opened hv hd hg => exact .opened hv hd hg
  | unled hl => exact .unled hl
  | @last t child stage hosts hl =>
    simp only [Machine.muted, Control.muted, ← startFrame_muted]
    exact .last hl
  | counted hl => exact .counted hl
  | exceeded hm => exact .exceeded hm
  | inner hm =>
    simp only [Machine.muted, Control.muted, ← startFrame_muted]
    exact .inner hm
  | unresolved hr => exact .unresolved hr
  | descended hr => exact .descended hr
  | @performed t wrap frame o next hosts ho =>
    have hmove : (engine.tracing false).Move ⟨.run t wrap frame.muted (.op o next), hosts.map Host.muted⟩ _ :=
      .performed ho
    rw [Frame.perform_muted ho] at hmove
    exact hmove
  | failed =>
    simp only [Machine.muted, Control.muted, ← Stage.muted_unwrap]
    exact .failed
  | @concluded t frame hosts =>
    have hsilent := Journal.muted_of_regions_eq_nil (t.page.regions_leftover frame.sections)
    simp only [Machine.muted, Control.muted, Stage.muted_report, ← Frame.muted_finished, hsilent]
    exact .concluded
  | @unfollowed t wrap frame e hosts hg =>
    have hmove : (engine.tracing false).Move
      ⟨.run t (some wrap) frame.muted (.done (.ok ())), hosts.map Host.muted⟩ _ := .unfollowed hg
    rw [Frame.muted_finished] at hmove
    exact hmove
  | @followed t wrap frame page hosts hg =>
    have hmove : (engine.tracing false).Move
      ⟨.run t (some wrap) frame.muted (.done (.ok ())), hosts.map Host.muted⟩ _ := .followed hg
    rw [Frame.muted_finished] at hmove
    exact hmove
  | returned => exact .returned

theorem reaches_muted {s t : Machine} (h : engine.Reaches s t) : (engine.tracing false).Reaches s.muted t.muted := by
  induction h with
  | refl => exact .refl
  | tail _ hstep ih => exact ih.tail (muted_step hstep)

/-- Without regions, a view is rendered alike. -/
theorem renderAtDepth_muted (engine : Engine) (depth : Nat) (path : String) (stage : Stage) :
    (engine.tracing false).renderAtDepth depth path stage.muted =
      ((engine.renderAtDepth depth path stage).1, (engine.renderAtDepth depth path stage).2.muted) := by
  exact renderAtDepth_eq_of_reaches _ (reaches_muted (engine.renderAtDepth_returns depth path stage []))

/-- Whether regions are traced makes no difference to how a view is rendered, but for the regions. -/
theorem renderAtDepth_tracing (engine : Engine) (on : Bool) (depth : Nat) (path : String) (stage : Stage) :
    ((engine.tracing on).renderAtDepth depth path stage).1 =
        ((engine.tracing false).renderAtDepth depth path stage).1 ∧
      ((engine.tracing on).renderAtDepth depth path stage).2.muted =
        ((engine.tracing false).renderAtDepth depth path stage).2.muted := by
  have hon := (engine.tracing on).renderAtDepth_muted depth path stage
  have hoff := (engine.tracing false).renderAtDepth_muted depth path stage
  exact Prod.ext_iff.1 (hon.symm.trans hoff)

/-- A pass that does not trace regions reports none. -/
theorem regions_of_untraced (engine : Engine) (depth : Nat) (path : String) (sink : Sink) (data : PageData) :
    ((engine.tracing false).renderAtDepth depth path ⟨sink, data, []⟩).2.journal.regions = [] := by
  have h : (engine.tracing false).renderAtDepth depth path ⟨sink, data, []⟩ = (_, Stage.muted _) :=
    (engine.tracing false).renderAtDepth_muted depth path ⟨sink, data, []⟩
  rw [h]
  exact Journal.regions_muted _

end Tracing

end Engine

/-! ## Watchers -/

/-- What two watchers make of what they are handed: one of warnings, and one of regions. -/
structure Watch (σ τ : Type) where
  warn : σ → Diagnostic → σ
  trace : τ → Region → τ

namespace Watch
variable {σ τ : Type}

/-- What the watchers make of an event. -/
def hear (w : Watch σ τ) (seen : σ × τ) : Event → σ × τ
  | .warned d => (w.warn seen.1 d, seen.2)
  | .region r => (seen.1, w.trace seen.2 r)
  | _ => seen

/-- The watchers that keep what they are handed. -/
def collector : Watch DiagnosticLog (List Region) := ⟨DiagnosticLog.warn, fun regions r => regions ++ [r]⟩

/-- The watchers of the log: what it is handed becomes records, and warnings are counted. -/
def log : Watch (List Record × List Metric) (List Record) where
  warn seen d := (seen.1 ++ (Event.warned d).records .log, seen.2 ++ (Event.warned d).metrics .log)
  trace records r := records ++ (Event.region r).records .log

/-- Each watcher hears of its own events only. -/
theorem foldl_hear (w : Watch σ τ) (j : Journal) (seen : σ × τ) :
    j.foldl w.hear seen = (j.diagnostics.foldl w.warn seen.1, j.regions.foldl w.trace seen.2) := by
  induction j generalizing seen with
  | nil => rfl
  | cons e j ih =>
    rw [List.foldl_cons, ih]
    cases e <;> rfl

theorem foldl_collector (ds : List Diagnostic) (kept : DiagnosticLog) :
    (ds.foldl collector.warn kept).entries = kept.entries ++ ds := by
  induction ds generalizing kept with
  | nil => simp
  | cons d ds ih => rw [List.foldl_cons, ih]; simp [collector, DiagnosticLog.warn]

theorem foldl_log (ds : List Diagnostic) (seen : List Record × List Metric) :
    ds.foldl log.warn seen =
      (seen.1 ++ ds.map Diagnostic.record, seen.2 ++ ds.map fun d => .diagnostic d.kind) := by
  induction ds generalizing seen with
  | nil => simp
  | cons d ds ih => rw [List.foldl_cons, ih]; simp [log, Event.records, Event.metrics]

end Watch

theorem Journal.count_metrics (j : Journal) (kind : String) :
    (j.metrics .log).count (.diagnostic kind) = j.diagnostics.countP (·.kind = kind) := by
  induction j with
  | nil => rfl
  | cons e j ih =>
    rw [metrics, List.flatMap_cons, List.count_append, ← metrics, ih]
    cases e with
    | warned d => simp [Event.metrics, diagnostics, List.countP_cons, List.count_cons, Nat.add_comm]
    | _ => simp [Event.metrics, diagnostics]

namespace Engine
variable {σ τ : Type}

/-- One step of the machine while it is watched: what comes up in it is handed on. -/
def stepWatched (engine : Engine) (w : Watch σ τ) : Machine × σ × τ → Option (Machine × σ × τ)
  | (s, seen) => (engine.step s).map fun t => (t, (engine.emits s).foldl w.hear seen)

/-- The machine gets from one state to another while it is watched. -/
abbrev Watched (engine : Engine) (w : Watch σ τ) : Machine × σ × τ → Machine × σ × τ → Prop :=
  Relation.ReflTransGen fun s t => engine.stepWatched w s = some t

/-- A watched run is a run, and the watchers have heard of what the journal holds. -/
theorem watched_iff (engine : Engine) (w : Watch σ τ) {start : Machine} (hstart : start.journal = []) (seen : σ × τ)
    (s : Machine) (heard : σ × τ) :
    engine.Watched w (start, seen) (s, heard) ↔ engine.Reaches start s ∧ heard = s.journal.foldl w.hear seen := by
  constructor
  · generalize hx : (s, heard) = x
    intro h
    induction h generalizing s heard with
    | refl =>
      cases hx
      exact ⟨.refl, by rw [hstart]; rfl⟩
    | @tail x y _ hstep ih =>
      cases hx
      obtain ⟨before, heard'⟩ := x
      obtain ⟨hr, rfl⟩ := ih before heard' rfl
      obtain ⟨t, ht, heq⟩ := Option.map_eq_some_iff.1 hstep
      cases heq
      exact ⟨hr.tail ht, by rw [journal_step ht, List.foldl_append]⟩
  · rintro ⟨hr, rfl⟩
    induction hr with
    | refl => rw [hstart]; exact .refl
    | @tail s t _ hstep ih =>
      refine ih.tail ?_
      rw [journal_step hstep, List.foldl_append]
      simp only [stepWatched, hstep, Option.map_some]

/-- Whoever watches a pass does not disturb it. It has the same result and makes the same writes, and the
same but regions comes up, whether regions are traced or not; and if not, there are none. Whatever two
watchers make of what they are handed, the pass ends as without them; one is handed its warnings, in
order, and the other one its regions. So the log counts of each kind as many warnings as a collector of
warnings keeps of it, whether or not either of them traces regions. -/
theorem watching_transparent (engine : Engine) (path : String) (sink : Sink) (data : PageData) :
    let start : Machine := ⟨.enter 0 path ⟨sink, data, []⟩, []⟩
    let pass (on : Bool) := (engine.tracing on).renderWithData path sink data
    (∀ on, (pass on).result = (pass false).result ∧ (pass on).sink = (pass false).sink ∧
      (pass on).journal.muted = (pass false).journal.muted ∧
      (pass on).journal.diagnostics = (pass false).journal.diagnostics) ∧
    (pass false).journal.regions = [] ∧
    (∀ (σ τ : Type) (w : Watch σ τ) on seen outcome stage heard,
      (engine.tracing on).Watched w (start, seen) (⟨.leave outcome stage, []⟩, heard) ↔
        (engine.tracing on).renderAtDepth 0 path ⟨sink, data, []⟩ = (outcome, stage) ∧
          heard =
            ((pass on).journal.diagnostics.foldl w.warn seen.1, (pass on).journal.regions.foldl w.trace seen.2)) ∧
    ∀ on on' kind,
      let kept := ((pass on).journal.diagnostics.foldl Watch.collector.warn .empty).entries
      let logged := (pass on').journal.diagnostics.foldl Watch.log.warn ([], [])
      kept = (pass on).journal.diagnostics ∧ logged.1 = kept.map Diagnostic.record ∧
        logged.2.count (.diagnostic kind) = kept.countP (·.kind = kind) ∧
        ((pass on').journal.metrics .log).count (.diagnostic kind) = kept.countP (·.kind = kind) := by
  intro start pass
  have hpass (on : Bool) : pass on = _ := (engine.tracing on).renderWithData_eq path sink data
  have hsame (on : Bool) : (pass on).result = (pass false).result ∧ (pass on).sink = (pass false).sink ∧
      (pass on).journal.muted = (pass false).journal.muted := by
    obtain ⟨houtcome, hstage⟩ := engine.renderAtDepth_tracing on 0 path ⟨sink, data, []⟩
    obtain ⟨hsink, hdata, hjournal⟩ := Stage.muted_inj.1 hstage
    rw [hpass on, hpass false]
    simp only [houtcome, hsink, hdata, Journal.muted_append, hjournal, and_self]
  have hwarned (on : Bool) : (pass on).journal.diagnostics = (pass false).journal.diagnostics := by
    rw [← Journal.diagnostics_muted, (hsame on).2.2, Journal.diagnostics_muted]
  refine ⟨fun on => ⟨(hsame on).1, (hsame on).2.1, (hsame on).2.2, hwarned on⟩, ?_, ?_, ?_⟩
  · rw [hpass false, Journal.regions_append, engine.regions_of_untraced]
    rfl
  · intro σ τ w on seen outcome stage heard
    have hevents : (pass on).journal.diagnostics =
          ((engine.tracing on).renderAtDepth 0 path ⟨sink, data, []⟩).2.journal.diagnostics ∧
        (pass on).journal.regions = ((engine.tracing on).renderAtDepth 0 path ⟨sink, data, []⟩).2.journal.regions := by
      rw [hpass on, Journal.diagnostics_append, Journal.regions_append]
      exact ⟨List.append_nil _, List.append_nil _⟩
    rw [watched_iff _ _ rfl, Watch.foldl_hear, hevents.1, hevents.2]
    constructor
    · rintro ⟨hr, rfl⟩
      have hends := (engine.tracing on).renderAtDepth_eq_of_reaches hr
      exact ⟨hends, by rw [hends]; rfl⟩
    · rintro ⟨hends, rfl⟩
      have hr := (engine.tracing on).renderAtDepth_returns 0 path ⟨sink, data, []⟩ []
      rw [hends] at hr ⊢
      exact ⟨hr, rfl⟩
  · intro on on' kind kept logged
    have hkept : kept = (pass on).journal.diagnostics := Watch.foldl_collector _ _
    have hwarnings : (pass on').journal.diagnostics = kept := by rw [hkept, hwarned on', hwarned on]
    have hlogged : logged = (kept.map Diagnostic.record, kept.map fun d => .diagnostic d.kind) := by
      simp only [logged, Watch.foldl_log, hwarnings, List.nil_append]
    refine ⟨hkept, by rw [hlogged], ?_, by rw [Journal.count_metrics, hwarnings]⟩
    rw [hlogged, List.count_eq_countP, List.countP_map]
    refine List.countP_congr fun d _ => ?_
    simp

end Engine
end Folio
