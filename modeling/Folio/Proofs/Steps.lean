import Folio.Pass
/-!
# What a page does, step by step

A page's run is a list of steps, each an operation with the answer it got. `run_sections` reads the
sections that a page hands on from its own steps: those whose definition was accepted, in order. A
partial is one step of its host, so what the partial defines is not among them.

The journal is only ever written to. A run on a journal with entries in front does the same and
leaves these entries where they are (`execute_behind`); `Blind` says this of a way to render
partials.
-/

namespace Folio

/-- An operation that a page did, and the answer to it. -/
structure Step where
  op : Op
  answer : op.Answer

/-- The section that a step defines, if it is a definition that was accepted. -/
def Step.section? : Step → Option Section
  | ⟨.define name renderer, .ok ()⟩ => some ⟨name, renderer, 0⟩
  | _ => none

/-! ## Runs -/

namespace Program
variable {α σ τ : Type}

/-- The steps of a run, in order. -/
def steps (handle : (o : Op) → σ → o.Answer × σ) : Program α → σ → List Step
  | done _, _ => []
  | op o next, s => ⟨o, (handle o s).1⟩ :: (next (handle o s).1).steps handle (handle o s).2

/-- A map of states that every operation respects is respected by every run. -/
theorem run_hom {handle : (o : Op) → σ → o.Answer × σ} {handle' : (o : Op) → τ → o.Answer × τ} (m : σ → τ)
    (h : ∀ o s, handle' o (m s) = Prod.map id m (handle o s)) (p : Program α) :
    ∀ s, p.run handle' (m s) = Prod.map id m (p.run handle s) := by
  induction p with
  | done a => intro s; rfl
  | op o next ih =>
    intro s
    simp only [run, h]
    exact ih _ _

end Program

/-! ## The sections of a page -/

namespace Frame

theorem perform_sections (path : String) (partials : PartialRenderer) (o : Op) (f : Frame) :
    (perform path partials o f).2.sections.sections =
      f.sections.sections ++ (Step.section? ⟨o, (perform path partials o f).1⟩).toList := by
  cases o with
  | define name renderer =>
    simp only [perform, Registry.define]
    by_cases hn : name.isEmpty = true
    · simp [hn, Step.section?]
    · by_cases hd : f.sections.has name = true <;> simp [hn, hd, Step.section?]
  | renderBody => simp only [perform]; split <;> simp [Step.section?]
  | renderPartial reference => simp only [perform]; split <;> simp [Step.section?]
  | _ => simp [perform, Step.section?]

/-- The sections of a page are those that its own steps define, after those it has already. -/
theorem run_sections {α : Type} (path : String) (partials : PartialRenderer) (p : Program α) :
    ∀ f : Frame, (p.run (perform path partials) f).2.sections.sections =
      f.sections.sections ++ (p.steps (perform path partials) f).filterMap Step.section? := by
  induction p with
  | done a => intro f; simp [Program.run, Program.steps]
  | op o next ih =>
    intro f
    simp only [Program.run, Program.steps]
    rw [ih, perform_sections, List.append_assoc, List.filterMap_cons]
    cases Step.section? ⟨o, (perform path partials o f).1⟩ <;> rfl

end Frame

/-! ## The journal -/

/-- The stage with entries in front of its journal. -/
def Stage.behind (j : Journal) (s : Stage) : Stage := { s with journal := j ++ s.journal }

/-- The frame with entries in front of its journal. -/
def Frame.behind (j : Journal) (f : Frame) : Frame := { f with stage := f.stage.behind j }

theorem Stage.eq_behind (s : Stage) : s = Stage.behind s.journal { s with journal := [] } := by simp [Stage.behind]

/-- Partials are rendered without a look at the journal. -/
def PartialRenderer.Blind (partials : PartialRenderer) : Prop :=
  ∀ j target stage, partials target (stage.behind j) = Prod.map id (Stage.behind j) (partials target stage)

@[simp] theorem Stage.report_behind (s : Stage) (j events : Journal) :
    (s.behind j).report events = (s.report events).behind j := by
  simp [Stage.behind, Stage.report]

@[simp] theorem Stage.write_behind (s : Stage) (j : Journal) (content : Content) :
    (s.behind j).write content = Prod.map id (Stage.behind j) (s.write content) := rfl

theorem Frame.perform_behind {partials : PartialRenderer} (hp : partials.Blind) (path : String) (j : Journal)
    (o : Op) (f : Frame) :
    perform path partials o (f.behind j) = Prod.map id (Frame.behind j) (perform path partials o f) := by
  cases o with
  | writeAt position markup => simp [perform, Frame.behind, Prod.map]
  | define name renderer => simp only [perform, Frame.behind]; split <;> rfl
  | renderBody => simp only [perform, Frame.behind]; split <;> rfl
  | renderPartial reference =>
    simp only [perform, Frame.behind]
    split
    · rfl
    · rw [hp]; rfl
  | openRegion | closeRegion | renderSection | note => simp [perform, Frame.behind, Stage.behind, Stage.report]
  | _ => rfl

/-- A run only adds to the journal. -/
theorem Program.journal_run {α : Type} {partials : PartialRenderer} (hp : partials.Blind) (path : String)
    (p : Program α) (f : Frame) : f.stage.journal <+: (p.run (Frame.perform path partials) f).2.stage.journal := by
  have hbehind : f = Frame.behind f.stage.journal { f with stage := { f.stage with journal := [] } } := by
    rw [Frame.behind, ← Stage.eq_behind]
  rw [hbehind, p.run_hom (Frame.behind _) (Frame.perform_behind hp path _)]
  simp [Frame.behind, Stage.behind]

/-- A page runs without a look at the journal. -/
theorem Page.execute_behind {partials : PartialRenderer} (hp : partials.Blind) (page : Page) (composer : Composer)
    (depth : Nat) (j : Journal) (stage : Stage) :
    page.execute composer partials depth (stage.behind j) =
      Prod.map id (Stage.behind j) (page.execute composer partials depth stage) := by
  have hrun := Program.run_hom (Frame.behind j) (Frame.perform_behind hp page.path j) page.program
    ⟨composer, .empty, stage.report [.entered page.path depth]⟩
  simp only [Frame.behind] at hrun
  simp only [execute, Stage.report_behind, hrun]
  split <;> simp_all [Frame.behind]

end Folio
