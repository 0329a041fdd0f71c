import Mathlib.Logic.Relation
import Folio.Engine
import Folio.Proofs.Chain
/-!
# Passes as runs of a machine

The machine renders a view one step at a time. It takes up the pages of a chain in turn and counts
their layouts, it does one operation of the page that runs, and while a partial is rendered it keeps
the page that waits for it. Its two counters, the depth of nesting and the layouts of a chain, go up
from zero; nothing says in advance how often it steps.

`renderAtDepth_returns` says that the machine comes to an end on every view, with what
`renderAtDepth` results in. What happens anywhere in a pass, on any level of it, is said of the
states that the machine reaches.
-/

namespace Folio

open Relation (ReflTransGen)

/-! ## States -/

/-- A page's turn in a chain: the depth and the view of the chain, the layouts counted so far, and
the page. -/
structure Turn where
  depth : Nat
  view : String
  layouts : Nat
  page : Page

/-- What waits for a page that has a layout: the path of the layout, and the sink of the chain, in
whose place the page has a buffer. -/
structure Wrap where
  layout : String
  sink : Sink

/-- What the machine does next. -/
inductive Control where
  /-- A view is asked for. -/
  | enter (depth : Nat) (path : String) (stage : Stage)
  /-- A page's turn starts. -/
  | turn (t : Turn) (child : Option Child) (stage : Stage)
  /-- The page's layout is counted, and not yet held against the limit. -/
  | count (t : Turn) (layout : String) (child : Option Child) (stage : Stage)
  /-- A page runs. -/
  | run (t : Turn) (wrap : Option Wrap) (frame : Frame) (rest : Program (Except Error Unit))
  /-- The rendering of a view ends. -/
  | leave (outcome : Except Error Unit) (stage : Stage)

/-- A page that waits for a partial. -/
structure Host where
  turn : Turn
  wrap : Option Wrap
  composer : Composer
  sections : Registry
  next : Except Error Unit → Program (Except Error Unit)

/-- A state: what is done next, and the pages that wait for it, innermost first. -/
structure Machine where
  control : Control
  hosts : List Host

/-- The values of the counters of a turn. -/
def Turn.counters (t : Turn) : List Nat := [t.depth, t.layouts]

/-- The values of all counters in a state. -/
def Machine.counters (s : Machine) : List Nat :=
  (match s.control with
    | .enter depth _ _ => [depth]
    | .turn t _ _ | .count t _ _ _ | .run t _ _ _ => t.counters
    | .leave _ _ => []) ++ s.hosts.flatMap (·.turn.counters)

/-- The stage with which a chain goes on after a page. -/
def Stage.unwrap (wrap : Option Wrap) (stage : Stage) : Stage :=
  match wrap with
  | none => stage
  | some wrap => { stage with sink := wrap.sink }

/-- What a page that succeeds leaves: its report on what it did not use comes last. -/
def Frame.finished (frame : Frame) : Stage := frame.stage.report (frame.composer.unused.map .warned)

/-- The frame in which a page starts. -/
def Page.start (page : Page) (composer : Composer) (depth : Nat) (stage : Stage) : Frame :=
  ⟨composer, .empty, stage.report [.entered page.path depth]⟩

namespace Engine

/-- The frame in which the page whose turn it is starts. -/
def startFrame (engine : Engine) (t : Turn) (child : Option Child) (stage : Stage) : Frame :=
  t.page.start (Composer.forPage t.page t.view child engine.options.traceRegions) t.depth stage

/-- What comes of asking for a view: the turn of its page, or the error that it is refused with. -/
def openView (engine : Engine) (depth : Nat) (path : String) (stage : Stage) : Control :=
  match Path.normalize path with
  | .error e => .leave (.error e) stage
  | .ok view =>
    if engine.options.maxLayoutDepth < depth then .leave (.error (engine.tooDeep view)) stage
    else
      match engine.catalog.get view with
      | .error e => .leave (.error e) stage
      | .ok page => .turn ⟨depth, view, 0, page⟩ none stage

/-- What comes at a page's turn: its run, or the count of its layout. -/
def takeTurn (engine : Engine) (t : Turn) (child : Option Child) (stage : Stage) : Control :=
  match t.page.layoutPath with
  | .error e => .leave (.error e) stage
  | .ok none => .run t none (engine.startFrame t child stage) t.page.program
  | .ok (some layout) => .count { t with layouts := t.layouts + 1 } layout child stage

/-- Holds the layouts counted against the limit; within it the page runs into a buffer. -/
def holdCount (engine : Engine) (t : Turn) (layout : String) (child : Option Child) (stage : Stage) : Control :=
  if engine.options.maxLayoutDepth < t.layouts then .leave (.error (engine.tooDeep t.view)) stage
  else .run t (some ⟨layout, stage.sink⟩) (engine.startFrame t child { stage with sink := .buffer }) t.page.program

/-- What comes after a page: the turn of its layout, or the end of the view. -/
def endPage (engine : Engine) (t : Turn) (wrap : Option Wrap) (frame : Frame) : Except Error Unit → Control
  | .error e => .leave (.error e) (frame.stage.unwrap wrap)
  | .ok () =>
    match wrap with
    | none => .leave (.ok ()) (frame.finished.report (t.page.leftover frame.sections))
    | some wrap =>
      let stage := { frame.finished with sink := wrap.sink }
      match engine.catalog.get wrap.layout with
      | .error e => .leave (.error e) stage
      | .ok page => .turn { t with page } (some (childOf frame.sections frame.stage.sink.output)) stage

/-- One step of the machine; none where a view is rendered and no page waits for it. -/
def step (engine : Engine) : Machine → Option Machine
  | ⟨.enter depth path stage, hosts⟩ => some ⟨engine.openView depth path stage, hosts⟩
  | ⟨.turn t child stage, hosts⟩ => some ⟨engine.takeTurn t child stage, hosts⟩
  | ⟨.count t layout child stage, hosts⟩ => some ⟨engine.holdCount t layout child stage, hosts⟩
  | ⟨.run t wrap frame (.op (.renderPartial reference) next), hosts⟩ =>
    match Path.resolve t.page.path reference with
    | .error e => some ⟨.run t wrap frame (next (.error e)), hosts⟩
    | .ok target =>
      some ⟨.enter (t.depth + 1) target frame.stage, ⟨t, wrap, frame.composer, frame.sections, next⟩ :: hosts⟩
  | ⟨.run t wrap frame (.op o next), hosts⟩ =>
    let (answer, frame) := Frame.perform t.page.path (fun _ stage => (.ok (), stage)) o frame
    some ⟨.run t wrap frame (next answer), hosts⟩
  | ⟨.run t wrap frame (.done outcome), hosts⟩ => some ⟨engine.endPage t wrap frame outcome, hosts⟩
  | ⟨.leave outcome stage, host :: hosts⟩ =>
    some ⟨.run host.turn host.wrap ⟨host.composer, host.sections, stage⟩ (host.next outcome), hosts⟩
  | ⟨.leave _ _, []⟩ => none

/-- The machine gets from one state to another in some number of steps. -/
abbrev Reaches (engine : Engine) : Machine → Machine → Prop := ReflTransGen fun s t => engine.step s = some t

/-- Every view asked for at a depth is rendered in finitely many steps, as `renderAtDepth` renders it,
and the pages that wait are the same after it as before. -/
def Returns (engine : Engine) (depth : Nat) : Prop :=
  ∀ path stage hosts, engine.Reaches ⟨.enter depth path stage, hosts⟩
    ⟨.leave (engine.renderAtDepth depth path stage).1 (engine.renderAtDepth depth path stage).2, hosts⟩

end Engine

/-- Mapping what succeeds makes and changes no error. -/
theorem eq_error_of_map {α β : Type} {x : Except Error α} {f : α → β} {e : Error} (h : x.map f = .error e) :
    x = .error e := by
  cases x with
  | error e' => cases h; rfl
  | ok a => cases h

/-! ## Pages -/

/-- How a page's program ends: its outcome, and the frame after it. -/
def Page.finish (page : Page) (composer : Composer) (partials : PartialRenderer) (depth : Nat) (stage : Stage) :
    Except Error Unit × Frame :=
  page.program.run (Frame.perform page.path partials) (page.start composer depth stage)

theorem Page.execute_eq_finish (page : Page) (composer : Composer) (partials : PartialRenderer) (depth : Nat)
    (stage : Stage) :
    page.execute composer partials depth stage =
      let (outcome, frame) := page.finish composer partials depth stage
      match outcome with
      | .error e => (.error e, frame.stage)
      | .ok () => (.ok frame.sections, frame.finished) :=
  rfl

namespace Engine

section Moves
variable (engine : Engine)

theorem openView_of_get {depth : Nat} {path view : String} {page : Page} (hv : Path.normalize path = .ok view)
    (hd : depth ≤ engine.options.maxLayoutDepth) (hg : engine.catalog.get view = .ok page) (stage : Stage) :
    engine.openView depth path stage = .turn ⟨depth, view, 0, page⟩ none stage := by
  simp only [openView, hv, Nat.not_lt.2 hd, if_false, hg]

theorem takeTurn_last {t : Turn} (hl : t.page.layoutPath = .ok none) (child : Option Child) (stage : Stage) :
    engine.takeTurn t child stage = .run t none (engine.startFrame t child stage) t.page.program := by
  simp only [takeTurn, hl]

theorem takeTurn_inner {t : Turn} {layout : String} (hl : t.page.layoutPath = .ok (some layout))
    (child : Option Child) (stage : Stage) :
    engine.takeTurn t child stage = .count { t with layouts := t.layouts + 1 } layout child stage := by
  simp only [takeTurn, hl]

theorem holdCount_within {t : Turn} (hm : t.layouts ≤ engine.options.maxLayoutDepth) (layout : String)
    (child : Option Child) (stage : Stage) :
    engine.holdCount t layout child stage =
      .run t (some ⟨layout, stage.sink⟩) (engine.startFrame t child { stage with sink := .buffer })
        t.page.program := by
  simp only [holdCount, Nat.not_lt.2 hm, if_false]

theorem holdCount_beyond {t : Turn} (hm : engine.options.maxLayoutDepth < t.layouts) (layout : String)
    (child : Option Child) (stage : Stage) :
    engine.holdCount t layout child stage = .leave (.error (engine.tooDeep t.view)) stage := by
  simp only [holdCount, hm, if_true]

theorem endPage_inner {wrap : Wrap} {page : Page} (hg : engine.catalog.get wrap.layout = .ok page) (t : Turn)
    (frame : Frame) :
    engine.endPage t (some wrap) frame (.ok ()) =
      .turn { t with page } (some (childOf frame.sections frame.stage.sink.output))
        { frame.finished with sink := wrap.sink } := by
  simp only [endPage, hg]

theorem step_partial {t : Turn} {reference target : String} (hr : Path.resolve t.page.path reference = .ok target)
    (wrap : Option Wrap) (frame : Frame) (next : Except Error Unit → Program (Except Error Unit))
    (hosts : List Host) :
    engine.step ⟨.run t wrap frame (.op (.renderPartial reference) next), hosts⟩ =
      some ⟨.enter (t.depth + 1) target frame.stage,
        ⟨t, wrap, frame.composer, frame.sections, next⟩ :: hosts⟩ := by
  simp only [step, hr]

theorem step_partial_unresolved {t : Turn} {reference : String} {e : Error}
    (hr : Path.resolve t.page.path reference = .error e) (wrap : Option Wrap) (frame : Frame)
    (next : Except Error Unit → Program (Except Error Unit)) (hosts : List Host) :
    engine.step ⟨.run t wrap frame (.op (.renderPartial reference) next), hosts⟩ =
      some ⟨.run t wrap frame (next (.error e)), hosts⟩ := by
  simp only [step, hr]

end Moves

variable {engine : Engine} (hosts : List Host)

/-- A page's program runs to its end, with every partial in it. -/
theorem reaches_done {t : Turn} (hp : engine.Returns (t.depth + 1)) (wrap : Option Wrap)
    (p : Program (Except Error Unit)) : ∀ frame, engine.Reaches ⟨.run t wrap frame p, hosts⟩
      (let (outcome, frame) := p.run (Frame.perform t.page.path (engine.renderAtDepth (t.depth + 1))) frame
       ⟨.run t wrap frame (.done outcome), hosts⟩) := by
  induction p with
  | done outcome => intro frame; exact .refl
  | op o next ih =>
    intro frame
    cases o with
    | renderPartial reference =>
      simp only [Program.run, Frame.perform]
      cases hr : Path.resolve t.page.path reference with
      | error e => exact .head (engine.step_partial_unresolved hr wrap frame next hosts) (ih (.error e) frame)
      | ok target =>
        have hrendered := hp target frame.stage (⟨t, wrap, frame.composer, frame.sections, next⟩ :: hosts)
        exact .head (engine.step_partial hr wrap frame next hosts) (hrendered.trans (.head rfl (ih _ _)))
    -- No other operation renders a partial, so the machine does it as the page does.
    | _ => exact .head rfl (ih _ _)

theorem reaches_last {t : Turn} (hl : t.page.layoutPath = .ok none) (child : Option Child) (stage : Stage) :
    engine.Reaches ⟨.turn t child stage, hosts⟩
      ⟨.run t none (engine.startFrame t child stage) t.page.program, hosts⟩ := by
  rw [← engine.takeTurn_last hl]
  exact .single rfl

theorem reaches_inner {t : Turn} {layout : String} (hl : t.page.layoutPath = .ok (some layout))
    (hm : t.layouts < engine.options.maxLayoutDepth) (child : Option Child) (stage : Stage) :
    engine.Reaches ⟨.turn t child stage, hosts⟩
      ⟨.run { t with layouts := t.layouts + 1 } (some ⟨layout, stage.sink⟩)
        (engine.startFrame t child { stage with sink := .buffer }) t.page.program, hosts⟩ := by
  have hcount := engine.holdCount_within (t := { t with layouts := t.layouts + 1 }) hm layout child stage
  refine .tail (.single (b := ⟨.count { t with layouts := t.layouts + 1 } layout child stage, hosts⟩) ?_) ?_
  · rw [← engine.takeTurn_inner hl]; rfl
  · exact congrArg (fun control => some (Machine.mk control hosts)) hcount

/-- The layout that is one too many ends the view, and its page does not run. -/
theorem reaches_beyond {t : Turn} {layout : String} (hl : t.page.layoutPath = .ok (some layout))
    (hm : engine.options.maxLayoutDepth ≤ t.layouts) (child : Option Child) (stage : Stage) :
    engine.Reaches ⟨.turn t child stage, hosts⟩ ⟨.leave (.error (engine.tooDeep t.view)) stage, hosts⟩ := by
  have hcount := engine.holdCount_beyond (t := { t with layouts := t.layouts + 1 }) (Nat.lt_succ_of_le hm) layout
    child stage
  refine .tail (.single (b := ⟨.count { t with layouts := t.layouts + 1 } layout child stage, hosts⟩) ?_) ?_
  · rw [← engine.takeTurn_inner hl]; rfl
  · exact congrArg (fun control => some (Machine.mk control hosts)) hcount

/-- A page with a layout runs to the end of its program, within the limit. -/
theorem inner_reaches_done {t : Turn} {layout : String} (hp : engine.Returns (t.depth + 1))
    (hl : t.page.layoutPath = .ok (some layout)) (hm : t.layouts < engine.options.maxLayoutDepth)
    (child : Option Child) (stage : Stage) :
    engine.Reaches ⟨.turn t child stage, hosts⟩
      (let (outcome, frame) := t.page.finish
        (Composer.forPage t.page t.view child engine.options.traceRegions) (engine.renderAtDepth (t.depth + 1))
        t.depth { stage with sink := .buffer }
       ⟨.run { t with layouts := t.layouts + 1 } (some ⟨layout, stage.sink⟩) frame (.done outcome), hosts⟩) :=
  (reaches_inner hosts hl hm child stage).trans
    (reaches_done hosts (t := { t with layouts := t.layouts + 1 }) hp _ _ _)

/-- The page that ends a chain runs to its end. -/
theorem conclude_returns {t : Turn} (hp : engine.Returns (t.depth + 1)) (hl : t.page.layoutPath = .ok none)
    (child : Option Child) (stage : Stage) :
    engine.Reaches ⟨.turn t child stage, hosts⟩
      (let (outcome, after) := t.page.conclude (Composer.forPage t.page t.view child engine.options.traceRegions)
        (engine.renderAtDepth (t.depth + 1)) t.depth stage
       ⟨.leave outcome after, hosts⟩) := by
  have hdone := (reaches_last hosts hl child stage).trans (reaches_done hosts hp none t.page.program _)
  refine hdone.tail ?_
  simp only [Page.conclude, Page.execute_eq_finish, Page.finish, startFrame]
  generalize Program.run _ t.page.program _ = ran
  obtain ⟨outcome, frame⟩ := ran
  cases outcome <;> rfl

/-- After a page with a layout comes the turn of the layout. -/
theorem reaches_next (wrap : Wrap) {page : Page} (hg : engine.catalog.get wrap.layout = .ok page) (t : Turn)
    (frame : Frame) :
    engine.Reaches ⟨.run t (some wrap) frame (.done (.ok ())), hosts⟩
      ⟨.turn { t with page } (some (childOf frame.sections frame.stage.sink.output))
        { frame.finished with sink := wrap.sink }, hosts⟩ := by
  rw [← engine.endPage_inner hg]
  exact .single rfl

end Engine

/-! ## Chains and views -/

namespace Engine

variable (engine : Engine)

/-- A chain is run to its end; the layouts that may follow and those counted make up the limit. -/
theorem chain_returns {depth : Nat} (hp : engine.Returns (depth + 1)) (view : String) (hosts : List Host) :
    ∀ (links layouts : Nat) (page : Page) (child : Option Child) (stage : Stage),
      links + layouts = engine.options.maxLayoutDepth →
      engine.Reaches ⟨.turn ⟨depth, view, layouts, page⟩ child stage, hosts⟩
        (let (outcome, after) := engine.chain view (engine.renderAtDepth (depth + 1)) depth links page child stage
         ⟨.leave outcome after, hosts⟩) := by
  intro links
  -- The machine counts layouts up where `chain` counts links down, so their sum stays the limit.
  induction links using Nat.strongRecOn with
  | ind links ih =>
    intro layouts page child stage hm
    rw [chain]
    cases hl : page.layoutPath with
    | error e => exact .single (by simp only [step, takeTurn, hl])
    | ok layout =>
      cases layout with
      | none => exact conclude_returns hosts (t := ⟨depth, view, layouts, page⟩) hp hl child stage
      | some layout =>
        cases links with
        | zero => exact reaches_beyond hosts (t := ⟨depth, view, layouts, page⟩) hl (by simp only; omega) child stage
        | succ links =>
          have hdone := inner_reaches_done hosts (t := ⟨depth, view, layouts, page⟩) hp hl
            (show layouts < _ by omega) child stage
          refine hdone.trans ?_
          simp only [Page.execute_eq_finish]
          generalize page.finish _ _ depth { stage with sink := .buffer } = ran
          obtain ⟨outcome, frame⟩ := ran
          cases outcome with
          | error e => exact .single rfl
          | ok u =>
            simp only
            cases hg : engine.catalog.get layout with
            | error e => exact .single (by simp only [step, endPage, hg])
            | ok next =>
              have hnext := reaches_next hosts ⟨layout, stage.sink⟩ hg ⟨depth, view, layouts + 1, page⟩ frame
              exact hnext.trans (ih links (by omega) (layouts + 1) next _ _ (by omega))

/-- The machine renders every view at every depth. -/
theorem renderAtDepth_returns : ∀ depth, engine.Returns depth := by
  refine engine.renderAtDepth_induction fun depth ih path stage hosts => ?_
  rw [renderAtDepth_eq_chain]
  cases hv : Path.normalize path with
  | error e => exact .single (by simp only [step, openView, hv])
  | ok view =>
    by_cases hd : engine.options.maxLayoutDepth < depth
    · simp only [hd, if_true]
      exact .single (by simp only [step, openView, hv, hd, if_true])
    · simp only [hd, if_false]
      cases hg : engine.catalog.get view with
      | error e => exact .single (by simp only [step, openView, hv, hd, if_false, hg])
      | ok page =>
        have hchain := engine.chain_returns (ih (by omega)) view hosts _ 0 page none stage rfl
        rw [← engine.openView_of_get hv (by omega) hg stage] at hchain
        exact .head rfl hchain

/-- The machine stops after finitely many steps from a state, and does so with an outcome and a stage. -/
structure Halts (start : Machine) (outcome : Except Error Unit) (stage : Stage) : Prop where
  stops : Acc (fun t s => engine.step s = some t) start
  ends : engine.Reaches start ⟨.leave outcome stage, []⟩

/-- A machine that can get to a state where it has no step gets there. -/
theorem acc_of_reaches {s t : Machine} (h : engine.Reaches s t) (ht : engine.step t = none) :
    Acc (fun t s => engine.step s = some t) s := by
  induction h using ReflTransGen.head_induction_on with
  | refl => exact .intro _ fun u hu => by simp [ht] at hu
  | head hstep _ ih =>
    refine .intro _ fun u hu => ?_
    obtain rfl := Option.some.inj (hstep.symm.trans hu)
    exact ih

/-- A pass halts, with what `renderAtDepth` results in. -/
theorem renderAtDepth_halts (depth : Nat) (path : String) (stage : Stage) :
    engine.Halts ⟨.enter depth path stage, []⟩ (engine.renderAtDepth depth path stage).1
      (engine.renderAtDepth depth path stage).2 :=
  have hends := engine.renderAtDepth_returns depth path stage []
  ⟨engine.acc_of_reaches hends rfl, hends⟩

/-- Where the machine leaves a view is what rendering it results in. -/
theorem renderAtDepth_eq_of_reaches {depth : Nat} {path : String} {stage after : Stage}
    {outcome : Except Error Unit}
    (h : engine.Reaches ⟨.enter depth path stage, []⟩ ⟨.leave outcome after, []⟩) :
    engine.renderAtDepth depth path stage = (outcome, after) := by
  have hunique : Relator.RightUnique fun s t => engine.step s = some t :=
    fun s t u ht hu => Option.some.inj (ht.symm.trans hu)
  have hends := engine.renderAtDepth_returns depth path stage []
  -- Neither end has a step, so each gets to the other in none.
  rcases ReflTransGen.total_of_right_unique hunique h hends with hr | hr <;>
    rcases ReflTransGen.cases_head hr with heq | ⟨_, hstep, -⟩
  · simp only [Machine.mk.injEq, Control.leave.injEq, and_true] at heq
    exact Prod.ext heq.1.symm heq.2.symm
  · simp [step] at hstep
  · simp only [Machine.mk.injEq, Control.leave.injEq, and_true] at heq
    exact Prod.ext heq.1 heq.2
  · simp [step] at hstep

/-- A run is matched by another machine, if each of its steps is. The states that it comes by can be
assumed to be reached. -/
theorem simulation {engine engine' : Engine} {related : Machine → Machine → Prop} {start start' : Machine}
    (hstep : ∀ s s' t, engine.Reaches start s → related s s' → engine.step s = some t →
      ∃ t', engine'.Reaches s' t' ∧ related t t')
    (hstart : related start start') {s : Machine} (h : engine.Reaches start s) :
    ∃ s', engine'.Reaches start' s' ∧ related s s' := by
  induction h with
  | refl => exact ⟨start', .refl, hstart⟩
  | tail hr hs ih =>
    obtain ⟨s', hr', hrelated⟩ := ih
    obtain ⟨t', hr'', hrelated'⟩ := hstep _ s' _ hr hrelated hs
    exact ⟨t', hr'.trans hr'', hrelated'⟩

/-- A pass with data is what rendering its view at depth zero results in, on an empty journal. -/
theorem renderWithData_eq (path : String) (sink : Sink) (data : PageData) :
    engine.renderWithData path sink data =
      let (outcome, stage) := engine.renderAtDepth 0 path ⟨sink, data, []⟩
      ⟨outcome.map fun _ => stage.data, stage.sink, stage.journal ++ [.passed outcome.isOk]⟩ := by
  simp only [renderWithData]
  cases (engine.renderAtDepth 0 path ⟨sink, data, []⟩).1 <;> rfl

/-- All states of a run of at most `n` states pass a check. -/
def checks (check : Machine → Bool) : (n : Nat) → Machine → Bool
  | 0, _ => false
  | n + 1, s =>
    check s && match engine.step s with
      | none => true
      | some t => checks check n t

theorem check_of_reaches (check : Machine → Bool) {s t : Machine} (h : engine.Reaches s t) :
    ∀ n, engine.checks check n s = true → check t = true := by
  induction h using ReflTransGen.head_induction_on with
  | refl =>
    intro n hn
    cases n with
    | zero => simp [checks] at hn
    | succ n => exact (Bool.and_eq_true_iff.1 hn).1
  | head hstep _ ih =>
    intro n hn
    cases n with
    | zero => simp [checks] at hn
    | succ n =>
      simp only [checks, hstep, Bool.and_eq_true] at hn
      exact ih n hn.2

end Engine
end Folio
