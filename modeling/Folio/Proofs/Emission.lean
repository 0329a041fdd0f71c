import Folio.Proofs.SharedData
import Folio.Proofs.Work
/-!
# What each step reports

A step of the machine adds entries to the journal and takes none back. `emits` names the entries that
the next step adds, by what the step does; `journal_step` says that it adds these and no others. The
warnings and the regions of a pass are then those that its steps emit, in the order of the steps.

`Collects` is a run of the machine together with what is read from each state that it steps from.
-/

namespace Folio

/-- The events of an operation other than a partial. -/
def Frame.emits (path : String) (f : Frame) : Op → Journal
  | .writeAt position markup =>
    f.composer.openRegion position (Text.byteLength markup) true ++ f.composer.closeRegion
  | .openRegion position length isLiteral => f.composer.openRegion position length isLiteral
  | .closeRegion => f.composer.closeRegion
  | .renderSection name required => (f.composer.renderSection name required f.stage.sink).events
  | .note text => [.noted path text]
  | _ => []

theorem Frame.journal_perform {o : Op} (ho : o.isPartial = false) (path : String) (partials : PartialRenderer)
    (f : Frame) : (perform path partials o f).2.stage.journal = f.stage.journal ++ f.emits path o := by
  cases o with
  | renderPartial reference => simp [Op.isPartial] at ho
  | writeAt position markup => simp [perform, emits, Stage.write, Stage.report]
  | define name renderer => simp only [perform]; split <;> simp [emits]
  | renderBody => simp only [perform]; split <;> simp [emits, Stage.write]
  | _ => simp [perform, emits, Stage.write, Stage.report]

/-- The journal at the time. -/
def Machine.journal (s : Machine) : Journal := s.control.stage.journal

@[simp] theorem Stage.journal_unwrap (wrap : Option Wrap) (stage : Stage) :
    (stage.unwrap wrap).journal = stage.journal := by
  cases wrap <;> rfl

namespace Engine

/-- The events of the next step. -/
def emits (engine : Engine) (s : Machine) : Journal :=
  match s.control with
  | .turn t _ _ =>
    match t.page.layoutPath with
    | .ok none => [.entered t.page.path t.depth]
    | _ => []
  | .count t _ _ _ => if engine.options.maxLayoutDepth < t.layouts then [] else [.entered t.page.path t.depth]
  | .run t _ frame (.op o _) => frame.emits t.page.path o
  | .run t wrap frame (.done (.ok ())) =>
    frame.composer.unused.map .warned ++ if wrap.isNone then t.page.leftover frame.sections else []
  | _ => []

variable {engine : Engine}

/-- A step adds to the journal what it emits. -/
theorem journal_step {s t : Machine} (h : engine.step s = some t) : t.journal = s.journal ++ engine.emits s := by
  cases move_of_step h with
  | unled hl => simp [Machine.journal, Control.stage, emits, hl]
  | last hl => simp [Machine.journal, Control.stage, emits, hl, startFrame, Page.start, Stage.report]
  | counted hl => simp [Machine.journal, Control.stage, emits, hl]
  | exceeded hm => simp [Machine.journal, Control.stage, emits, hm]
  | inner hm => simp [Machine.journal, Control.stage, emits, Nat.not_lt.2 hm, startFrame, Page.start, Stage.report]
  | performed ho => exact Frame.journal_perform ho _ _ _
  | concluded => simp [Machine.journal, Control.stage, emits, Frame.finished, Stage.report]
  | unfollowed | followed => simp [Machine.journal, Control.stage, emits, Frame.finished, Stage.report]
  | _ => simp [Machine.journal, Control.stage, emits, Frame.emits]

/-! ## Runs with what is read on the way -/

/-- The runs of the machine: the state after the steps so far, and what `read` gives for the states that
they were made from, in order. -/
inductive Collects {α : Type} (engine : Engine) (read : Machine → List α) (start : Machine) : Machine → List α → Prop
  | start : Collects engine read start start []
  | step {s t as} : Collects engine read start s as → engine.step s = some t →
      Collects engine read start t (as ++ read s)

variable {α : Type} {read : Machine → List α} {start s : Machine} {as : List α}

theorem collects_of_reaches (read : Machine → List α) (h : engine.Reaches start s) :
    ∃ as, engine.Collects read start s as := by
  induction h with
  | refl => exact ⟨[], .start⟩
  | tail _ hstep ih =>
    obtain ⟨as, has⟩ := ih
    exact ⟨_, has.step hstep⟩

theorem Collects.reaches (h : engine.Collects read start s as) : engine.Reaches start s := by
  induction h with
  | start => exact .refl
  | step _ hstep ih => exact ih.tail hstep

end Engine
end Folio
