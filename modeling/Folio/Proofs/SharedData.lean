import Mathlib.Data.List.Induction
import Folio.Demo
import Folio.Proofs.Moves
/-!
# Data that pages share

There is one store of data in a pass. Each step of the machine leaves it as it is, or does to it the one
update that the page running asks for (`data_step`), so the store in any state is the first one after all
updates on the way (`data_of_updates`): those of content pages, layouts and partials, in the order of
their execution, and whatever became of the pages that made them. What a key holds is then what the last
update under a key of its fold left (`get?_updated`). `data_shared` says this of every read.
-/

namespace Folio

/-- A change to the shared data: the key, and the value put there, or none if the value there is taken out. -/
structure Update where
  key : String
  value : Option Value

/-- The change that an operation makes to the shared data. -/
def Op.update? : Op → Option Update
  | .setData key value => some ⟨key, some value⟩
  | .removeData key => some ⟨key, none⟩
  | _ => none

namespace PageData

def update (d : PageData) (u : Update) : PageData :=
  match u.value with
  | some value => d.set u.key value
  | none => d.drop u.key

/-- What a key holds after updates: what the last one under a key of its fold left there, or what it held
before them. -/
def holds (d : PageData) (us : List Update) (key : String) : Option Value :=
  match us.reverse.find? fun u => Text.fold u.key = Text.fold key with
  | some u => u.value
  | none => d.get? key

theorem get?_update (d : PageData) (u : Update) (key : String) :
    (d.update u).get? key = if Text.fold key = Text.fold u.key then u.value else d.get? key := by
  unfold update
  cases hv : u.value with
  | some value => exact d.get?_set u.key key value
  | none => exact d.get?_remove u.key key

theorem get?_updated (d : PageData) (us : List Update) (key : String) :
    (us.foldl update d).get? key = d.holds us key := by
  induction us using List.reverseRecOn with
  | nil => rfl
  | append_singleton us u ih =>
    rw [List.foldl_append, List.foldl_cons, List.foldl_nil, get?_update, ih, holds, holds, List.reverse_append,
      List.reverse_singleton, List.singleton_append, List.find?_cons]
    by_cases h : Text.fold u.key = Text.fold key
    · simp [h]
    · simp [h, Ne.symm h]

end PageData

/-! ## One step -/

/-- The stage at the time. -/
def Control.stage : Control → Stage
  | .enter _ _ stage | .turn _ _ stage | .count _ _ _ stage | .leave _ stage => stage
  | .run _ _ frame _ => frame.stage

namespace Machine

/-- The shared data at the time. -/
def data (s : Machine) : PageData := s.control.stage.data

/-- The change to the shared data that the next step makes. -/
def update? (s : Machine) : Option Update :=
  match s.control with
  | .run _ _ _ (.op o _) => o.update?
  | _ => none

end Machine

theorem Frame.data_perform {o : Op} (ho : o.isPartial = false) (path : String) (partials : PartialRenderer)
    (f : Frame) : (perform path partials o f).2.stage.data = o.update?.toList.foldl PageData.update f.stage.data := by
  cases o with
  | renderPartial reference => simp [Op.isPartial] at ho
  | define name renderer => simp only [perform]; split <;> rfl
  | renderBody => simp only [perform]; split <;> rfl
  | _ => rfl

namespace Engine
variable {engine : Engine}

/-- The pages have the data in common, so a step updates it only by the operation that it does. -/
theorem data_step {s t : Machine} (h : engine.step s = some t) :
    t.data = s.update?.toList.foldl PageData.update s.data := by
  cases move_of_step h with
  | performed ho => exact Frame.data_perform ho _ _ _
  | @failed t wrap frame e hosts => cases wrap <;> rfl
  | _ => rfl

/-! ## Whole passes -/

/-- The runs of the machine: the state after the steps so far, and the updates that they made, in order. -/
inductive Updates (engine : Engine) (start : Machine) : Machine → List Update → Prop
  | start : Updates engine start start []
  | step {s t us} : Updates engine start s us → engine.step s = some t →
      Updates engine start t (us ++ s.update?.toList)

variable {start s : Machine} {us : List Update}

theorem updates_of_reaches (h : engine.Reaches start s) : ∃ us, engine.Updates start s us := by
  induction h with
  | refl => exact ⟨[], .start⟩
  | tail _ hstep ih =>
    obtain ⟨us, hus⟩ := ih
    exact ⟨_, hus.step hstep⟩

theorem reaches_of_updates (h : engine.Updates start s us) : engine.Reaches start s := by
  induction h with
  | start => exact .refl
  | step _ hstep ih => exact ih.tail hstep

theorem data_of_updates (h : engine.Updates start s us) : s.data = us.foldl PageData.update start.data := by
  induction h with
  | start => rfl
  | step _ hstep ih => rw [data_step hstep, ih, List.foldl_append]

/-- The data of a pass is one store, changed by updates. In every state that the pass comes by, each key
holds what the last update under a key of its fold left there, and what it held at first where there was
none; so a page that reads a key, or takes its value out, goes on with that value. A pass ends, and if it
succeeds it returns the store after all its updates. -/
theorem data_shared (engine : Engine) (path : String) (sink : Sink) (data : PageData) :
    let start : Machine := ⟨.enter 0 path ⟨sink, data, []⟩, []⟩
    (∀ (d : PageData) key value stored, d.set key value = d.update ⟨key, some value⟩ ∧
      d.setStored key stored = d.update ⟨key, some (stored.getD .null)⟩ ∧
      d.remove key = (d.get? key, d.update ⟨key, none⟩)) ∧
    (∀ s, engine.Reaches start s ↔ ∃ us, engine.Updates start s us) ∧
    (∀ s us, engine.Updates start s us →
      (∀ key, s.data.get? key = data.holds us key ∧ s.data.text? key = (data.holds us key).bind (·.text?) ∧
        s.data.contains key = (data.holds us key).isSome) ∧
      ∀ t wrap frame key next hosts,
        (s = ⟨.run t wrap frame (.op (.getData key) next), hosts⟩ →
          engine.step s = some ⟨.run t wrap frame (next (data.holds us key)), hosts⟩) ∧
        (s = ⟨.run t wrap frame (.op (.removeData key) next), hosts⟩ → ∃ after,
          engine.step s = some ⟨.run t wrap after (next (data.holds us key)), hosts⟩)) ∧
    (∃ outcome stage us, engine.Updates start ⟨.leave outcome stage, []⟩ us) ∧
    ∀ outcome stage us, engine.Updates start ⟨.leave outcome stage, []⟩ us →
      (engine.renderWithData path sink data).result = outcome.map fun _ => us.foldl PageData.update data := by
  intro start
  have hheld {s : Machine} {us : List Update} (h : engine.Updates start s us) (key : String) :
      s.data.get? key = data.holds us key := by
    rw [data_of_updates h]
    exact data.get?_updated us key
  refine ⟨fun d key value stored => ⟨rfl, rfl, rfl⟩, ?_, ?_, ?_, ?_⟩
  · exact fun s => ⟨updates_of_reaches, fun ⟨_, h⟩ => reaches_of_updates h⟩
  · intro s us h
    refine ⟨fun key => ⟨hheld h key, ?_, ?_⟩, ?_⟩
    · rw [PageData.text?, hheld h]
    · rw [PageData.contains, hheld h]
    · intro t wrap frame key next hosts
      constructor
      · rintro rfl
        rw [← hheld h]
        rfl
      · rintro rfl
        rw [← hheld h]
        exact ⟨_, rfl⟩
  · obtain ⟨us, hus⟩ := updates_of_reaches (engine.renderAtDepth_returns 0 path ⟨sink, data, []⟩ [])
    exact ⟨_, _, us, hus⟩
  · intro outcome stage us h
    have hdata : stage.data = us.foldl PageData.update data := data_of_updates h
    rw [renderWithData_eq, engine.renderAtDepth_eq_of_reaches (reaches_of_updates h), ← hdata]

end Engine

namespace Demo

/-- A page that sets a title and renders a teaser, whatever comes of it. -/
def frontPage : Page where
  path := "/front"
  layout := none
  program := Script.program do
    Script.setData "Title" (.text "Front")
    discard <| Script.attempt (Script.renderPartial "teaser")
    Script.writeText (textOr (← Script.getData "title") "none")

/-- A teaser that sets the title under another spelling, and fails. -/
def teaserPage : Page where
  path := "/teaser"
  layout := none
  program := Script.program do
    Script.setData "TITLE" (.text "Teaser")
    Script.fail (.page "/teaser" "no text")

def front : Engine := ⟨⟨[("/front", frontPage), ("/teaser", teaserPage)]⟩, ⟨2, false, 1⟩⟩

/-- What a partial set stays, though the partial failed. -/
example : (front.renderWithData "/front" .buffer .empty).sink.output = .ofText "Teaser" := by decide +kernel

end Demo
end Folio
