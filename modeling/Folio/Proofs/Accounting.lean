import Folio.Engine
import Folio.Log
import Folio.Proofs.Regions
/-!
# Passes are counted once

A view is asked for in four ways, and each call makes at most one pass. When the pass ends it is counted by
its outcome, and the time that it took is sampled. No step of a pass counts a pass: layouts, partials and
failures that a page catches are part of the one pass (`counted_of_reaches`). So along any calls the counts
grow by the passes that these make (`passes_counted`).
-/

namespace Folio

/-- The metric is about whole passes. -/
def Metric.OfPass : Metric → Prop
  | .pass _ | .duration => True
  | .diagnostic _ => False

/-- How often a metric is counted for a journal. -/
def Journal.counted (watcher : Watcher) (j : Journal) (m : Metric) : Nat := (j.metrics watcher).count m

variable {watcher : Watcher} {m : Metric}

@[simp] theorem Journal.counted_append (j k : Journal) :
    counted watcher (j ++ k) m = counted watcher j m + counted watcher k m := by
  simp [counted, metrics]

theorem Journal.counted_nil : counted watcher [] m = 0 := rfl

/-- The event is neither the end of a pass nor what is said of it afterwards. -/
def Event.Inside : Event → Prop
  | .passed _ | .streamFailed _ _ => False
  | _ => True

/-- Only the end of a pass is counted for passes. -/
theorem Journal.counted_of_inside (hm : m.OfPass) {j : Journal} (h : ∀ e ∈ j, e.Inside) : j.counted watcher m = 0 := by
  refine List.count_eq_zero.2 fun hmem => ?_
  obtain ⟨e, he, hme⟩ := List.mem_flatMap.1 hmem
  cases e with
  | passed => exact h _ he
  | warned d =>
    simp only [Event.metrics] at hme
    split at hme
    · obtain rfl := List.mem_singleton.1 hme
      exact hm
    · cases hme
  | _ => cases hme

/-- The ends of passes are counted by their outcomes, and sampled one by one. -/
theorem Journal.counted_passed (watcher : Watcher) (ended : List Bool) :
    (∀ succeeded, counted watcher (ended.map .passed) (.pass succeeded) = ended.count succeeded) ∧
      counted watcher (ended.map .passed) .duration = ended.length := by
  induction ended with
  | nil => exact ⟨fun _ => rfl, rfl⟩
  | cons b ended ih =>
    have hsplit (m : Metric) : counted watcher ((b :: ended).map .passed) m =
        counted watcher (ended.map .passed) m + [Metric.pass b, .duration].count m := by
      rw [List.map_cons, ← List.singleton_append, counted_append, Nat.add_comm]
      rfl
    refine ⟨fun succeeded => ?_, ?_⟩
    · rw [hsplit, ih.1]
      cases b <;> cases succeeded <;> simp
    · rw [hsplit, ih.2, List.length_cons]
      rfl

/-! ## What a pass reports before its end -/

theorem Composer.inside_renderSection (c : Composer) (name : String) (required : Bool) (sink : Sink) :
    ∀ e ∈ (c.renderSection name required sink).events, e.Inside := by
  have hwarnings : ∀ e ∈ (if Text.fold name ∈ c.usage.rendered then
      [Event.warned (.sectionAlreadyRendered c.template name)] else []), e.Inside := by
    intro e he
    split at he
    · obtain rfl := List.mem_singleton.1 he; trivial
    · cases he
  unfold renderSection
  split
  · exact fun e he => nomatch he
  · dsimp only
    split
    · exact hwarnings
    · intro e he
      rcases List.mem_append.1 he with he | he
      · exact hwarnings e he
      · obtain rfl := List.mem_singleton.1 he; trivial

theorem Frame.inside_emits (path : String) (f : Frame) (o : Op) : ∀ e ∈ f.emits path o, e.Inside := by
  have hopen (position length : Nat) (isLiteral : Bool) :
      ∀ e ∈ f.composer.openRegion position length isLiteral, e.Inside := by
    intro e he
    unfold Composer.openRegion at he
    split at he
    · obtain rfl := List.mem_singleton.1 he; trivial
    · cases he
  have hclose : ∀ e ∈ f.composer.closeRegion, e.Inside := by
    intro e he
    unfold Composer.closeRegion at he
    split at he
    · obtain rfl := List.mem_singleton.1 he; trivial
    · cases he
  cases o with
  | writeAt position markup => exact List.forall_mem_append.2 ⟨hopen _ _ _, hclose⟩
  | openRegion position length isLiteral => exact hopen _ _ _
  | closeRegion => exact hclose
  | renderSection name required => exact f.composer.inside_renderSection name required f.stage.sink
  | note text =>
    intro e he
    obtain rfl := List.mem_singleton.1 he; trivial
  | _ => exact fun e he => nomatch he

theorem Page.inside_leftover (page : Page) (sections : Registry) : ∀ e ∈ page.leftover sections, e.Inside := by
  intro e he
  unfold leftover at he
  split at he
  · cases he
  · obtain rfl := List.mem_singleton.1 he; trivial

namespace Engine
variable {engine : Engine}

/-- No step ends a pass. -/
theorem inside_emits (s : Machine) : ∀ e ∈ engine.emits s, e.Inside := by
  intro e he
  unfold emits at he
  split at he
  · split at he
    · obtain rfl := List.mem_singleton.1 he; trivial
    · cases he
  · split at he
    · cases he
    · obtain rfl := List.mem_singleton.1 he; trivial
  · exact Frame.inside_emits _ _ _ e he
  · rcases List.mem_append.1 he with he | he
    · obtain ⟨d, -, rfl⟩ := List.mem_map.1 he; trivial
    · split at he
      · exact Page.inside_leftover _ _ e he
      · cases he
  · cases he

theorem inside_of_reaches {s t : Machine} (hs : ∀ e ∈ s.journal, e.Inside) (h : engine.Reaches s t) :
    ∀ e ∈ t.journal, e.Inside := by
  induction h with
  | refl => exact hs
  | @tail t u _ hstep ih =>
    rw [journal_step hstep]
    exact List.forall_mem_append.2 ⟨ih, inside_emits t⟩

/-- Whatever a pass comes by, no pass is counted before it ends. -/
theorem counted_of_reaches (watcher : Watcher) (hm : m.OfPass) {s t : Machine} (h : engine.Reaches s t) :
    t.journal.counted watcher m = s.journal.counted watcher m := by
  induction h with
  | refl => rfl
  | @tail t u _ hstep ih =>
    rw [journal_step hstep, Journal.counted_append, Journal.counted_of_inside hm (inside_emits t), ih, Nat.add_zero]

/-! ## Calls -/

/-- A way to ask for a view. A stream is read to its end. -/
inductive Call where
  | render (path : String) (sink : Sink)
  | renderWithData (path : String) (sink : Sink) (data : PageData)
  | renderToContent (path : String)
  | renderStream (path : String)

variable (engine)

/-- What a call reports. A stream that is refused reports nothing. -/
def journalOf : Call → Journal
  | .render path sink => (engine.render path sink).journal
  | .renderWithData path sink data => (engine.renderWithData path sink data).journal
  | .renderToContent path => (engine.renderToContent path).2
  | .renderStream path =>
    match engine.renderStream path with
    | .ok (_, journal) => journal
    | .error _ => []

/-- Whether the pass of a call ends well. A stream that is refused makes no pass, and one that is not makes
its pass behind the caller's back. -/
def outcome? : Call → Option Bool
  | .render path sink => some (engine.render path sink).result.isOk
  | .renderWithData path sink data => some (engine.renderWithData path sink data).result.isOk
  | .renderToContent path => some (engine.renderToContent path).1.isOk
  | .renderStream path =>
    match engine.streamedView path with
    | .ok view => some (engine.render view .buffer).result.isOk
    | .error _ => none

/-- What calls report, one after the other. -/
def journalOfAll (calls : List Call) : Journal := calls.flatMap engine.journalOf

variable {engine}

/-- A pass is counted when it ends, and only then. -/
theorem counted_renderWithData (hm : m.OfPass) (path : String) (sink : Sink) (data : PageData) :
    let pass := engine.renderWithData path sink data
    pass.journal.counted watcher m = Journal.counted watcher [.passed pass.result.isOk] m := by
  have hinner := counted_of_reaches watcher hm (engine.renderAtDepth_returns 0 path ⟨sink, data, []⟩ [])
  simp only [Machine.journal, Control.stage, Journal.counted_nil] at hinner
  rw [renderWithData_eq]
  dsimp only
  rw [Journal.counted_append, hinner, Nat.zero_add]
  cases (engine.renderAtDepth 0 path ⟨sink, data, []⟩).1 <;> rfl

/-- A failure that the log is told of counts for nothing more. -/
theorem counted_streamJournal (view : String) (pass : Pass) :
    (streamJournal view pass).counted watcher m = pass.journal.counted watcher m := by
  unfold streamJournal
  split
  · rfl
  · rw [Journal.counted_append]; rfl

/-- A call counts for its pass, if it makes one. -/
theorem counted_journalOf (hm : m.OfPass) (call : Call) :
    (engine.journalOf call).counted watcher m =
      Journal.counted watcher ((engine.outcome? call).toList.map .passed) m := by
  cases call with
  | render path sink => exact counted_renderWithData hm path sink .empty
  | renderWithData path sink data => exact counted_renderWithData hm path sink data
  | renderToContent path =>
    refine (counted_renderWithData hm path .buffer .empty).trans ?_
    simp only [outcome?, renderToContent, render]
    cases (engine.renderWithData path .buffer .empty).result <;> rfl
  | renderStream path =>
    simp only [journalOf, outcome?, renderStream]
    cases engine.streamedView path with
    | error e => rfl
    | ok view => exact (counted_streamJournal view _).trans (counted_renderWithData hm view .buffer .empty)

/-- The journal of a streamed pass: what happens in it, its end, and maybe what the log is told of it. -/
theorem journalOf_stream {path view : String} (h : engine.streamedView path = .ok view) :
    ∃ inner : Journal, (∀ e ∈ inner, e.Inside) ∧
      engine.journalOf (.renderStream path) = inner ++
        (match (engine.render view .buffer).result with
          | .ok _ => [.passed true]
          | .error e => [.passed false, .streamFailed view e]) := by
  refine ⟨(engine.renderAtDepth 0 view ⟨.buffer, .empty, []⟩).2.journal, ?_, ?_⟩
  · have hstart : ∀ e ∈ Machine.journal ⟨.enter 0 view ⟨.buffer, .empty, []⟩, []⟩, e.Inside := List.forall_mem_nil _
    exact inside_of_reaches hstart (engine.renderAtDepth_returns 0 view ⟨.buffer, .empty, []⟩ [])
  · simp only [journalOf, renderStream, h, Except.map, streamJournal, render, renderWithData_eq]
    cases (engine.renderAtDepth 0 view ⟨.buffer, .empty, []⟩).1 with
    | ok u => rfl
    | error e => exact List.append_assoc ..

/-- The log is told of a failure exactly if the pass of a stream fails. -/
theorem streamFailed_iff {path view : String} (h : engine.streamedView path = .ok view) :
    (∃ failed e, .streamFailed failed e ∈ engine.journalOf (.renderStream path)) ↔
      engine.outcome? (.renderStream path) = some false := by
  obtain ⟨inner, hinner, hjournal⟩ := journalOf_stream h
  have hnone (failed e) : .streamFailed failed e ∉ inner := fun he => hinner _ he
  simp only [hjournal, List.mem_append, hnone, false_or, outcome?, h]
  cases (engine.render view .buffer).result <;> simp [Except.isOk, Except.toBool]

theorem counted_journalOfAll (hm : m.OfPass) (calls : List Call) :
    (engine.journalOfAll calls).counted watcher m =
      Journal.counted watcher ((calls.filterMap engine.outcome?).map .passed) m := by
  induction calls with
  | nil => rfl
  | cons call calls ih =>
    have hcons : engine.journalOfAll (call :: calls) = engine.journalOf call ++ engine.journalOfAll calls := rfl
    have hended : (call :: calls).filterMap engine.outcome? =
        (engine.outcome? call).toList ++ calls.filterMap engine.outcome? := by
      rw [List.filterMap_cons]
      cases engine.outcome? call <;> rfl
    rw [hcons, Journal.counted_append, counted_journalOf hm, ih, hended, List.map_append, Journal.counted_append]

/-- Passes are counted once. Along any calls the count of each outcome grows by the passes that end so, and
one sample of time is taken for each pass. A stream that is refused makes no pass and counts for nothing;
one that is not makes one pass, which fails exactly if the log is told so. While a pass runs nothing is
counted, whatever layouts and partials run in it and whatever becomes of them. -/
theorem passes_counted (engine : Engine) (watcher : Watcher) (earlier calls : List Call) :
    let counted (calls : List Call) := (engine.journalOfAll calls).counted watcher
    let ended := calls.filterMap engine.outcome?
    (counted (earlier ++ calls) (.pass true) = counted earlier (.pass true) + ended.count true ∧
      counted (earlier ++ calls) (.pass false) = counted earlier (.pass false) + ended.count false ∧
      counted (earlier ++ calls) .duration = counted earlier .duration + ended.length) ∧
    (∀ path e, engine.renderStream path = .error e →
      engine.outcome? (.renderStream path) = none ∧ engine.journalOf (.renderStream path) = []) ∧
    (∀ path chunks journal, engine.renderStream path = .ok (chunks, journal) →
      ∃ succeeded, engine.outcome? (.renderStream path) = some succeeded ∧
        (succeeded = false ↔ ∃ view e, .streamFailed view e ∈ journal) ∧
        journal.counted watcher (.pass succeeded) = 1 ∧ journal.counted watcher (.pass !succeeded) = 0 ∧
        journal.counted watcher .duration = 1) ∧
    ∀ s t m, engine.Reaches s t → m.OfPass → t.journal.counted watcher m = s.journal.counted watcher m := by
  intro counted ended
  obtain ⟨hpasses, hduration⟩ := Journal.counted_passed watcher ended
  have hgrows (m : Metric) (hm : m.OfPass) :
      counted (earlier ++ calls) m = counted earlier m + Journal.counted watcher (ended.map .passed) m := by
    have happend : engine.journalOfAll (earlier ++ calls) = engine.journalOfAll earlier ++ engine.journalOfAll calls :=
      List.flatMap_append ..
    simp only [counted]
    rw [happend, Journal.counted_append, counted_journalOfAll hm calls]
  refine ⟨⟨?_, ?_, ?_⟩, ?_, ?_, fun s t m hr hm => counted_of_reaches watcher hm hr⟩
  · rw [hgrows (.pass true) trivial, hpasses]
  · rw [hgrows (.pass false) trivial, hpasses]
  · rw [hgrows .duration trivial, hduration]
  · intro path e he
    have hview : engine.streamedView path = .error e := by
      unfold renderStream at he
      cases hv : engine.streamedView path with
      | error e' => rw [hv] at he; cases he; rfl
      | ok view => rw [hv] at he; cases he
    simp only [outcome?, journalOf, hview, he, and_self]
  · intro path chunks journal hok
    have hjournal : engine.journalOf (.renderStream path) = journal := by simp only [journalOf, hok]
    unfold renderStream at hok
    cases hv : engine.streamedView path with
    | error e => rw [hv] at hok; cases hok
    | ok view =>
      have houtcome : engine.outcome? (.renderStream path) = some (engine.render view .buffer).result.isOk := by
        simp only [outcome?, hv]
      have hcounted (m : Metric) (hm : m.OfPass) : journal.counted watcher m =
          Journal.counted watcher ([(engine.render view .buffer).result.isOk].map .passed) m := by
        rw [← hjournal, counted_journalOf hm, houtcome]
        rfl
      obtain ⟨hone, htime⟩ := Journal.counted_passed watcher [(engine.render view .buffer).result.isOk]
      refine ⟨_, houtcome, ?_, ?_, ?_, ?_⟩
      · rw [← hjournal, streamFailed_iff hv, houtcome, Option.some_inj]
      · rw [hcounted (.pass _) trivial, hone, List.count_singleton_self]
      · rw [hcounted (.pass _) trivial, hone]
        cases (engine.render view .buffer).result.isOk <;> rfl
      · rw [hcounted .duration trivial, htime]
        rfl

/-- A page that goes on without its row, the row as a stream that fails midway, and a stream that is refused. -/
theorem passes_counted_tables :
    let calls : List Call := [.render "/table" .buffer, .renderStream "/_row", .renderStream "/missing"]
    let counted := (Demo.tables.journalOfAll calls).counted .log
    let start : Machine := ⟨.enter 1 "/_row" ⟨.buffer, .empty, []⟩, []⟩
    (counted (.pass true) = 1 ∧ counted (.pass false) = 1 ∧ counted .duration = 2) ∧
      (Demo.tables.renderStream "/missing" = .error (.pageNotFound "/missing") ∧
        Demo.tables.journalOf (.renderStream "/missing") = []) ∧
      (∃ chunks journal, Demo.tables.renderStream "/_row" = .ok (chunks, journal) ∧
        ∃ view e, .streamFailed view e ∈ journal) ∧
      ∃ s, Demo.tables.Reaches start s ∧ s.journal.counted .log .duration = 0 := by
  intro calls counted start
  have hended : calls.filterMap Demo.tables.outcome? = [true, false] := by decide +kernel
  obtain ⟨⟨hok, herror, htime⟩, hrefused, hstreamed, hinside⟩ := Demo.tables.passes_counted .log [] calls
  simp only [hended, List.nil_append] at hok herror htime
  have hmissing : Demo.tables.renderStream "/missing" = .error (.pageNotFound "/missing") := by decide +kernel
  have hrow : ∃ chunks journal, Demo.tables.renderStream "/_row" = .ok (chunks, journal) := ⟨_, _, rfl⟩
  obtain ⟨chunks, journal, hrow⟩ := hrow
  obtain ⟨succeeded, houtcome, hfailed, -⟩ := hstreamed _ _ _ hrow
  have hfalse : Demo.tables.outcome? (.renderStream "/_row") = some false := by decide +kernel
  obtain rfl : succeeded = false := Option.some_inj.1 (houtcome.symm.trans hfalse)
  have hreach := Demo.tables.renderAtDepth_returns 1 "/_row" ⟨.buffer, .empty, []⟩ []
  exact ⟨⟨hok, herror, htime⟩, ⟨hmissing, (hrefused _ _ hmissing).2⟩, ⟨chunks, journal, hrow, hfailed.1 rfl⟩,
    _, hreach, hinside _ _ .duration hreach trivial⟩

end Engine
end Folio
