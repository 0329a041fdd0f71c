import Folio.Proofs.Chain
/-!
# Passes as dialogues with a sink

All that a pass does to the sink it is given is to offer writes and to go on by the answers. A
`Dialogue` is this much of it: a tree of offers, with one branch for each answer. `dialogue` is the
pass in this form and `renderAtDepth_on` says that it is the same pass over every sink. So what
holds of dialogues holds of passes: a sink is only added to (`run_extends`), and a buffer gets the
offers on the branch where all are taken (`run_buffer`).
-/

namespace Folio

/-- A computation that meets a sink: it offers a write and goes on by the answer, until it has a
result. -/
inductive Dialogue (α : Type) where
  | done (result : α)
  | offer (content : Content) (next : Bool → Dialogue α)

namespace Dialogue
variable {α β : Type}

def bind : Dialogue α → (α → Dialogue β) → Dialogue β
  | done a, f => f a
  | offer content next, f => offer content fun taken => (next taken).bind f

def map (f : α → β) (d : Dialogue α) : Dialogue β := d.bind fun a => done (f a)

/-- The result of a dialogue with a sink, and the sink after it. -/
def run : Dialogue α → Sink → α × Sink
  | done a, sink => (a, sink)
  | offer content next, sink => (next (sink.write content).1).run (sink.write content).2

theorem run_offer {sink after : Sink} {content : Content} {taken : Bool} (h : sink.write content = (taken, after))
    (next : Bool → Dialogue α) : (offer content next).run sink = (next taken).run after := by
  rw [run, h]

/-- The offers of a dialogue as long as all of them are taken. -/
def offers : Dialogue α → List Content
  | done _ => []
  | offer content next => content :: (next true).offers

/-- The result of a dialogue all of whose offers are taken. -/
def result : Dialogue α → α
  | done a => a
  | offer _ next => (next true).result

/-- What a renderer does, as a dialogue. -/
def ofWriter : Writer → Dialogue (Except Error Unit)
  | .done outcome => done outcome
  | .write content next => offer content fun taken => ofWriter (next taken)

theorem run_bind (d : Dialogue α) (f : α → Dialogue β) :
    ∀ sink, (d.bind f).run sink = (f (d.run sink).1).run (d.run sink).2 := by
  induction d with
  | done a => intro sink; rfl
  | offer content next ih => intro sink; exact ih (sink.write content).1 (sink.write content).2

@[simp] theorem run_map (d : Dialogue α) (f : α → β) (sink : Sink) :
    (d.map f).run sink = (f (d.run sink).1, (d.run sink).2) := by
  rw [map, run_bind]; rfl

@[simp] theorem run_ofWriter (w : Writer) : ∀ sink, (ofWriter w).run sink = w.run sink := by
  induction w with
  | done outcome => intro sink; rfl
  | write content next ih => intro sink; exact ih (sink.write content).1 (sink.write content).2

/-- A dialogue leaves a sink that answers by the same rule and was made more offers. -/
theorem run_extends (d : Dialogue α) : ∀ sink : Sink, ∃ made, (d.run sink).2 = sink.after made := by
  induction d with
  | done a => intro sink; exact ⟨[], sink.after_nil.symm⟩
  | offer content next ih =>
    intro sink
    obtain ⟨made, h⟩ := ih (sink.write content).1 (sink.write content).2
    refine ⟨⟨content, (sink.write content).1⟩ :: made, ?_⟩
    rw [run, h]
    exact sink.after_after _ _

/-- A sink that takes every write takes the offers of the dialogue. -/
theorem run_taking (d : Dialogue α) : ∀ sink : Sink, (∀ before content, sink.takes before content = true) →
    d.run sink = (d.result, sink.after (Offer.allTaken d.offers)) := by
  induction d with
  | done a => intro sink _; simp [run, result, offers, Offer.allTaken]
  | offer content next ih =>
    intro sink htakes
    have hwrite : sink.write content = (true, sink.after [⟨content, true⟩]) := by
      simp only [Sink.write, htakes]
    rw [run_offer hwrite, ih true (sink.after _) htakes, Sink.after_after]
    rfl

theorem run_buffer (d : Dialogue α) : d.run .buffer = (d.result, Sink.buffer.after (Offer.allTaken d.offers)) :=
  d.run_taking .buffer fun _ _ => rfl

end Dialogue

/-! ## Pages -/

/-- A frame without its sink. -/
structure Desk where
  composer : Composer
  sections : Registry
  shared : Shared

def Desk.on (d : Desk) (sink : Sink) : Frame := ⟨d.composer, d.sections, d.shared.on sink⟩

def Frame.desk (f : Frame) : Desk := ⟨f.composer, f.sections, f.stage.shared⟩

def Shared.report (s : Shared) (events : Journal) : Shared := { s with journal := s.journal ++ events }

def Dialogue.onStage {α : Type} (d : Dialogue (α × Shared)) (sink : Sink) : α × Stage :=
  ((d.run sink).1.1, (d.run sink).1.2.on (d.run sink).2)

def Dialogue.onFrame {α : Type} (d : Dialogue (α × Desk)) (sink : Sink) : α × Frame :=
  ((d.run sink).1.1, (d.run sink).1.2.on (d.run sink).2)

theorem Dialogue.onFrame_buffer {α : Type} (d : Dialogue (α × Desk)) :
    d.onFrame .buffer = (d.result.1, d.result.2.on (Sink.buffer.after (Offer.allTaken d.offers))) := by
  simp only [onFrame, run_buffer]

/-- How a partial is rendered, as a dialogue with the sink of its host. -/
abbrev PartialDialogue := String → Shared → Dialogue (Except Error Unit × Shared)

/-- The answer of a page's write to whether the sink took it. -/
def writeAnswer (taken : Bool) : Except Error Unit := if taken then .ok () else .error .sinkClosed

/-- What the renderer does that a pull of the section calls, if the pull gets that far. -/
def Composer.called? (c : Composer) (name : String) : Option Writer :=
  match c.sectionsFor "render_section" name with
  | .error _ => none
  | .ok sections => (sections.find? name).map fun s => s.renderer (s.calls + 1)

namespace Desk

/-- What an operation does that offers no write. -/
def quiet (path : String) (o : Op) (d : Desk) : o.Answer × Desk :=
  Prod.map id Frame.desk (Frame.perform path (fun _ stage => (.ok (), stage)) o (d.on .buffer))

/-- What an operation of a page at `path` does, as a dialogue. What a pull does apart from the
writes of the renderer it calls is the same whatever the sink. -/
def perform (path : String) (partials : PartialDialogue) : (o : Op) → Desk → Dialogue (o.Answer × Desk)
  | .write content, d => .offer content fun taken => .done (writeAnswer taken, d)
  | .writeAt position markup, d =>
    let shared := (d.shared.report (d.composer.openRegion position (Text.byteLength markup) true)).report
      d.composer.closeRegion
    .offer (.ofText markup) fun taken => .done (writeAnswer taken, { d with shared })
  | .renderBody, d =>
    match d.composer.renderBody with
    | (.error e, composer) => .done (.error e, { d with composer })
    | (.ok body, composer) => .offer body fun taken => .done (writeAnswer taken, { d with composer })
  | .renderSection name required, d =>
    -- Over a buffer the renderer may answer otherwise than here, so its own outcome replaces that answer.
    let (answer, after) := quiet path (.renderSection name required) d
    match d.composer.called? name with
    | none => .done (answer, after)
    | some writer => (Dialogue.ofWriter writer).map fun outcome => (outcome.map fun _ => some .empty, after)
  | .renderPartial reference, d =>
    match Path.resolve path reference with
    | .error e => .done (.error e, d)
    | .ok target => (partials target d.shared).map fun (answer, shared) => (answer, { d with shared })
  | o, d => .done (quiet path o d)

end Desk

/-- The dialogues are what the renderer of partials does. -/
def PartialRenderer.Speaks (partials : PartialRenderer) (dialogues : PartialDialogue) : Prop :=
  ∀ target shared sink, partials target (shared.on sink) = (dialogues target shared).onStage sink

theorem Composer.renderSection_called (c : Composer) (name : String) (required : Bool) (sink : Sink) :
    c.renderSection name required sink =
      let quiet := c.renderSection name required .buffer
      match c.called? name with
      | none => { quiet with sink }
      | some writer =>
        { quiet with result := (writer.run sink).1.map fun _ => some .empty, sink := (writer.run sink).2 } := by
  unfold renderSection called?
  cases c.sectionsFor "render_section" name with
  | error e => rfl
  | ok sections =>
    simp only [Registry.render]
    cases sections.find? name <;> rfl

theorem Desk.perform_on {partials : PartialRenderer} {dialogues : PartialDialogue} (hp : partials.Speaks dialogues)
    (path : String) (o : Op) (d : Desk) (sink : Sink) :
    Frame.perform path partials o (d.on sink) = (d.perform path dialogues o).onFrame sink := by
  cases o with
  | define name renderer =>
    simp only [Desk.perform, quiet, Frame.perform, Desk.on]
    cases d.sections.define name renderer <;> rfl
  | renderBody =>
    simp only [Desk.perform, Frame.perform, Desk.on]
    generalize d.composer.renderBody = rendered
    obtain ⟨answer, composer⟩ := rendered
    cases answer <;> rfl
  | renderSection name required =>
    simp only [Desk.perform, quiet, Frame.perform, Desk.on, Shared.on]
    rw [Composer.renderSection_called]
    cases d.composer.called? name with
    | none => rfl
    | some writer => simp [Dialogue.onFrame, Frame.desk, Desk.on, Shared.on, Stage.shared, Stage.report]
  | renderPartial reference =>
    simp only [Desk.perform, Frame.perform, Desk.on]
    cases Path.resolve path reference with
    | error e => rfl
    | ok target => simp only [hp target]; simp [Dialogue.onFrame, Dialogue.onStage, Desk.on]
  | _ => rfl

/-- A program as a dialogue, where `handle` does each operation. -/
def Program.dialogue {α σ : Type} (handle : (o : Op) → σ → Dialogue (o.Answer × σ)) : Program α → σ → Dialogue (α × σ)
  | done a, s => .done (a, s)
  | op o next, s => (handle o s).bind fun (answer, s) => (next answer).dialogue handle s

theorem Program.run_on {α : Type} {partials : PartialRenderer} {dialogues : PartialDialogue}
    (hp : partials.Speaks dialogues) (path : String) (p : Program α) : ∀ (d : Desk) (sink : Sink),
      p.run (Frame.perform path partials) (d.on sink) =
        (p.dialogue (fun o d => d.perform path dialogues o) d).onFrame sink := by
  induction p with
  | done a => intro d sink; rfl
  | op o next ih =>
    intro d sink
    simp only [run, d.perform_on hp]
    exact (ih _ _ _).trans (by simp only [dialogue, Dialogue.onFrame, Dialogue.run_bind])

def Page.dialogue (page : Page) (composer : Composer) (partials : PartialDialogue) (depth : Nat) (shared : Shared) :
    Dialogue (Except Error Unit × Shared) :=
  let start : Desk := ⟨composer, .empty, shared.report [.entered page.path depth]⟩
  (page.program.dialogue (fun o d => d.perform page.path partials o) start).map fun (outcome, desk) =>
    match outcome with
    | .error e => (.error e, desk.shared)
    | .ok () => (.ok (), (desk.shared.report (desk.composer.unused.map .warned)).report (page.leftover desk.sections))

theorem Page.conclude_on {partials : PartialRenderer} {dialogues : PartialDialogue} (hp : partials.Speaks dialogues)
    (page : Page) (composer : Composer) (depth : Nat) (shared : Shared) (sink : Sink) :
    page.conclude composer partials depth (shared.on sink) =
      (page.dialogue composer dialogues depth shared).onStage sink := by
  have hrun := page.program.run_on hp page.path ⟨composer, .empty, shared.report [.entered page.path depth]⟩ sink
  have hstart : (⟨composer, .empty, (shared.on sink).report [.entered page.path depth]⟩ : Frame) =
      Desk.on ⟨composer, .empty, shared.report [.entered page.path depth]⟩ sink := rfl
  simp only [conclude, execute, hstart, hrun, dialogue, Dialogue.onStage, Dialogue.run_map, Dialogue.onFrame]
  generalize Dialogue.run _ sink = ran
  obtain ⟨⟨outcome, desk⟩, after⟩ := ran
  cases outcome <;> rfl

/-! ## Passes -/

namespace Engine

/-- A pass as a dialogue. Up to the last page of the chain it offers nothing. -/
def dialogue (engine : Engine) (depth : Nat) (path : String) (shared : Shared) :
    Dialogue (Except Error Unit × Shared) :=
  match h : engine.approach depth path shared with
  | (.error e, shared) => .done (.error e, shared)
  | (.ok a, shared) =>
    have := engine.depth_le_of_approach h
    a.last.dialogue (Composer.forPage a.last a.view a.child engine.options.traceRegions)
      (fun target shared => engine.dialogue (depth + 1) target shared) depth shared
termination_by engine.options.maxLayoutDepth + 1 - depth

variable (engine : Engine)

theorem dialogue_of_error {depth : Nat} {path : String} {shared after : Shared} {e : Error}
    (h : engine.approach depth path shared = (.error e, after)) :
    engine.dialogue depth path shared = .done (.error e, after) := by
  rw [dialogue]
  split <;> simp_all

theorem dialogue_of_arrival {depth : Nat} {path : String} {shared after : Shared} {a : Arrival}
    (h : engine.approach depth path shared = (.ok a, after)) :
    engine.dialogue depth path shared =
      a.last.dialogue (Composer.forPage a.last a.view a.child engine.options.traceRegions)
        (engine.dialogue (depth + 1)) depth after := by
  rw [dialogue]
  split <;> simp_all

/-- A pass is the same pass over every sink. -/
theorem renderAtDepth_on : ∀ depth,
    PartialRenderer.Speaks (engine.renderAtDepth depth) (engine.dialogue depth) := by
  refine engine.renderAtDepth_induction fun depth ih path shared sink => ?_
  have hshared : (shared.on sink).shared = shared := rfl
  have hsink : (shared.on sink).sink = sink := rfl
  rw [renderAtDepth_eq, hshared, hsink]
  split
  · next e after h => rw [engine.dialogue_of_error h]; rfl
  · next a after h =>
    rw [engine.dialogue_of_arrival h]
    exact a.last.conclude_on (ih (engine.depth_le_of_approach h)) _ depth after sink

theorem sink_renderAtDepth (depth : Nat) (path : String) (stage : Stage) :
    ∃ made, (engine.renderAtDepth depth path stage).2.sink = stage.sink.after made := by
  have hon := engine.renderAtDepth_on depth path stage.shared stage.sink
  rw [Stage.shared_on] at hon
  rw [hon]
  exact (engine.dialogue depth path stage.shared).run_extends stage.sink

end Engine
end Folio
