import Folio.Proofs.Emission
import Folio.Proofs.Placement
/-!
# Regions come in pairs

Literal markup of a template is written between the start and the end of its region, and the end is
reported whether the sink took the write or not. So where pages report regions in no other way, the
regions of a pass are such pairs, one for each literal that was written, in the order of the writes
(`regions_paired`). It does not matter on which level of the pass a literal is written, or what becomes
of the page that writes it.
-/

namespace Folio

/-! ## Programs with operations of a kind only -/

/-- Whatever the answers are, the program does only operations of a kind. -/
def Program.Only {α : Type} (kind : Op → Prop) : Program α → Prop
  | .done _ => True
  | .op o next => kind o ∧ ∀ answer, (next answer).Only kind

theorem Program.Only.bind {α β : Type} {kind : Op → Prop} {p : Program α} (hp : p.Only kind) {f : α → Program β}
    (hf : ∀ a, (f a).Only kind) : (p.bind f).Only kind := by
  induction p with
  | done a => exact hf a
  | op o next ih => exact ⟨hp.1, fun answer => ih answer (hp.2 answer)⟩

theorem Script.only_bind {α β : Type} {kind : Op → Prop} {s : Script α} (hs : s.program.Only kind) {f : α → Script β}
    (hf : ∀ a, (f a).program.Only kind) : (s >>= f).program.Only kind := by
  refine hs.bind (f := ExceptT.bindCont f) fun outcome => ?_
  cases outcome with
  | ok a => exact hf a
  | error e => trivial

/-- What is still to run of pages does only operations of a kind. -/
def Control.Only (kind : Op → Prop) : Control → Prop
  | .turn t _ _ | .count t _ _ _ => t.page.program.Only kind
  | .run _ _ _ rest => rest.Only kind
  | .enter _ _ _ | .leave _ _ => True

structure Machine.Only (kind : Op → Prop) (s : Machine) : Prop where
  control : s.control.Only kind
  hosts : ∀ host ∈ s.hosts, ∀ outcome, (host.next outcome).Only kind

namespace Engine

/-- The pages of the catalog do only operations of a kind. -/
def Only (engine : Engine) (kind : Op → Prop) : Prop := ∀ page, engine.Registered page → page.program.Only kind

/-- From a state on, pages do only operations of a kind. -/
def Does (engine : Engine) (kind : Op → Prop) (start : Machine) : Prop :=
  ∀ t wrap frame o next hosts, engine.Reaches start ⟨.run t wrap frame (.op o next), hosts⟩ → kind o

variable {engine : Engine} {kind : Op → Prop}

theorem only_step (h : engine.Only kind) {s t : Machine} (hs : s.Only kind) (hstep : engine.step s = some t) :
    t.Only kind := by
  obtain ⟨hcontrol, hhosts⟩ := hs
  cases move_of_step hstep with
  | opened hv hd hg => exact ⟨h _ (engine.registered_of_get hg), hhosts⟩
  | followed hg => exact ⟨h _ (engine.registered_of_get hg), hhosts⟩
  | last | counted | inner => exact ⟨hcontrol, hhosts⟩
  | unresolved | performed => exact ⟨hcontrol.2 _, hhosts⟩
  | descended hr => exact ⟨trivial, List.forall_mem_cons.2 ⟨hcontrol.2, hhosts⟩⟩
  | returned =>
    obtain ⟨hhost, hhosts⟩ := List.forall_mem_cons.1 hhosts
    exact ⟨hhost _, hhosts⟩
  | _ => exact ⟨trivial, hhosts⟩

/-- Where the pages of a catalog do only operations of a kind, so do its passes. -/
theorem does_of_only (h : engine.Only kind) (depth : Nat) (path : String) (stage : Stage) :
    engine.Does kind ⟨.enter depth path stage, []⟩ := by
  intro t wrap frame o next hosts hr
  have honly {s : Machine} (hs : engine.Reaches ⟨.enter depth path stage, []⟩ s) : s.Only kind := by
    induction hs with
    | refl => exact ⟨trivial, by simp⟩
    | tail _ hstep ih => exact only_step h ih hstep
  exact (honly hr).control.1

end Engine

/-! ## Literals -/

/-- A literal that a page writes: the path of the page, its position in the template, and the markup. -/
structure Literal where
  path : String
  position : Nat
  markup : String
  deriving DecidableEq, Repr

/-- The region of a literal, from its start to its end. -/
def Literal.region (l : Literal) : List Region :=
  [.opened l.path l.position (Text.byteLength l.markup) true, .closed l.path]

/-- The literal that the next step writes, if it writes one. -/
def Machine.literal? (s : Machine) : Option Literal :=
  match s.control with
  | .run t _ _ (.op (.writeAt position markup) _) => some ⟨t.page.path, position, markup⟩
  | _ => none

/-- The operation does not report the start or the end of a region by itself. -/
def Op.Unmarked : Op → Prop
  | .openRegion _ _ _ | .closeRegion => False
  | _ => True

theorem Composer.regions_renderSection (c : Composer) (name : String) (required : Bool) (sink : Sink) :
    (c.renderSection name required sink).events.regions = [] := by
  unfold renderSection
  split
  · rfl
  · dsimp only
    by_cases h : Text.fold name ∈ c.usage.rendered
    · rw [if_pos h]; split <;> rfl
    · rw [if_neg h]; split <;> rfl

theorem Journal.regions_warned (ds : List Diagnostic) : regions (ds.map .warned) = [] := by
  simp [regions, List.filterMap_map]

theorem Page.regions_leftover (page : Page) (sections : Registry) : (page.leftover sections).regions = [] := by
  unfold leftover; split <;> rfl

theorem Frame.regions_emits {path : String} {f : Frame} (hpath : f.composer.template = path)
    (htraced : f.composer.traced = true) {o : Op} (ho : o.Unmarked) :
    (f.emits path o).regions =
      match o with
      | .writeAt position markup => Literal.region ⟨path, position, markup⟩
      | _ => [] := by
  cases o with
  | writeAt position markup =>
    simp [emits, Composer.openRegion, Composer.closeRegion, htraced, hpath, Literal.region, Journal.regions]
  | openRegion | closeRegion => exact ho.elim
  | renderSection name required => exact f.composer.regions_renderSection name required f.stage.sink
  | _ => rfl

namespace Engine
variable {engine : Engine}

/-- The regions of a step are those of the literal that it writes. -/
theorem regions_emits (htraced : engine.options.traceRegions = true) {start s : Machine} {path : String}
    (hplaced : engine.Placed start path s)
    (hkind : ∀ t wrap frame o next, s.control = .run t wrap frame (.op o next) → o.Unmarked) :
    (engine.emits s).regions = s.literal?.toList.flatMap Literal.region := by
  obtain ⟨control, hosts⟩ := s
  cases control with
  | run t wrap frame rest =>
    cases rest with
    | op o next =>
      have hmade := hplaced.control.composer
      have hregions := Frame.regions_emits hmade.template (hmade.traced.trans htraced) (hkind _ _ _ o _ rfl)
      cases o <;> simpa [emits, Machine.literal?] using hregions
    | done outcome =>
      cases outcome with
      | error e => rfl
      | ok u =>
        simp only [emits, Journal.regions_append, Journal.regions_warned, List.nil_append]
        split
        · exact t.page.regions_leftover frame.sections
        · rfl
  | turn t child stage => simp only [emits]; split <;> rfl
  | count t layout child stage => simp only [emits]; split <;> rfl
  | enter | leave => rfl

/-- In every state of a pass, the regions so far are those of the literals written so far. -/
theorem regions_of_collects (htraced : engine.options.traceRegions = true) {path : String} {stage : Stage}
    (h : engine.Does Op.Unmarked ⟨.enter 0 path stage, []⟩) {s : Machine} {ls : List Literal}
    (hrun : engine.Collects (fun s => s.literal?.toList) ⟨.enter 0 path stage, []⟩ s ls) :
    s.journal.regions = stage.journal.regions ++ ls.flatMap Literal.region := by
  induction hrun with
  | start => simp [Machine.journal, Control.stage]
  | @step s t ls hrun hstep ih =>
    have hkind (t wrap frame o next) (hs : s.control = .run t wrap frame (.op o next)) : o.Unmarked :=
      h t wrap frame o next s.hosts (hs ▸ hrun.reaches)
    have hemits := regions_emits htraced (placed_of_reaches hrun.reaches) hkind
    rw [journal_step hstep, Journal.regions_append, ih, hemits, List.flatMap_append, List.append_assoc]

/-- The regions of a pass come in pairs, where its pages report regions only by writing literals and regions
are traced. In every state that the pass comes by, and so when it ends, they are the regions of the
literals that its pages wrote by then, each from its start to its end, in the order of the writes. -/
theorem regions_paired (htraced : engine.options.traceRegions = true) (path : String) (sink : Sink) (data : PageData)
    (h : engine.Does Op.Unmarked ⟨.enter 0 path ⟨sink, data, []⟩, []⟩) :
    let start : Machine := ⟨.enter 0 path ⟨sink, data, []⟩, []⟩
    let Writes := engine.Collects (fun s => s.literal?.toList) start
    (∀ s, engine.Reaches start s ↔ ∃ ls, Writes s ls) ∧
    (∀ s ls, Writes s ls → s.journal.regions = ls.flatMap fun l =>
      [.opened l.path l.position (Text.byteLength l.markup) true, .closed l.path]) ∧
    (∃ outcome stage ls, Writes ⟨.leave outcome stage, []⟩ ls) ∧
    ∀ outcome stage ls, Writes ⟨.leave outcome stage, []⟩ ls →
      (engine.renderWithData path sink data).journal.regions = ls.flatMap fun l =>
        [.opened l.path l.position (Text.byteLength l.markup) true, .closed l.path] := by
  intro start Writes
  refine ⟨fun s => ⟨collects_of_reaches _, fun ⟨_, hw⟩ => hw.reaches⟩, fun s ls hw => ?_, ?_, ?_⟩
  · exact regions_of_collects htraced h hw
  · obtain ⟨ls, hw⟩ := collects_of_reaches (fun s => s.literal?.toList)
      (engine.renderAtDepth_returns 0 path ⟨sink, data, []⟩ [])
    exact ⟨_, _, ls, hw⟩
  · intro outcome stage ls hw
    have hends := engine.renderAtDepth_eq_of_reaches hw.reaches
    have hregions : stage.journal.regions = _ := regions_of_collects htraced h hw
    rw [renderWithData_eq, hends, Journal.regions_append, hregions]
    exact List.append_nil _

end Engine

namespace Demo

/-- A table with one row, whose page goes on without it. -/
def tablePage : Page where
  path := "/table"
  layout := some "_sheet"
  program := Script.program do
    Script.writeAt 10 "<table>"
    let _ ← Script.attempt (Script.renderPartial "_row")
    Script.writeAt 40 "</table>"

/-- A row that fails before its end. -/
def rowPage : Page where
  path := "/_row"
  layout := none
  program := Script.program do
    Script.writeAt 0 "<tr>"
    Script.fail (.page "/_row" "no cells")

/-- A sheet around a page. -/
def sheetPage : Page where
  path := "/_sheet"
  layout := none
  program := Script.program do
    Script.writeAt 0 "<body>"
    Script.renderBody
    Script.writeAt 20 "</body>"

def tables : Engine :=
  ⟨⟨[("/table", tablePage), ("/_row", rowPage), ("/_sheet", sheetPage)]⟩, ⟨2, true, 1⟩⟩

theorem tables_only : tables.Only Op.Unmarked := by
  have hstep (o : Op) (ho : o.Unmarked) : (Program.perform o).Only Op.Unmarked := ⟨ho, fun _ => trivial⟩
  intro page hpage
  obtain ⟨key, hmem⟩ := hpage.entry
  simp only [tables, List.mem_cons, List.not_mem_nil, or_false, Prod.mk.injEq] at hmem
  rcases hmem with ⟨-, rfl⟩ | ⟨-, rfl⟩ | ⟨-, rfl⟩
  · have hrow : (Script.attempt (Script.renderPartial "_row")).program.Only Op.Unmarked := ⟨trivial, fun _ => trivial⟩
    exact Script.only_bind (hstep (.writeAt _ _) trivial) fun _ =>
      Script.only_bind hrow fun _ => hstep (.writeAt _ _) trivial
  · exact Script.only_bind (hstep (.writeAt _ _) trivial) fun _ => trivial
  · exact Script.only_bind (hstep (.writeAt _ _) trivial) fun _ =>
      Script.only_bind (hstep .renderBody trivial) fun _ => hstep (.writeAt _ _) trivial

end Demo

/-- The regions of a page, of its partial that fails and of its layout, into a sink that takes no write. -/
theorem Engine.regions_paired_tables :
    let start : Machine := ⟨.enter 0 "/table" ⟨.limited 0, .empty, []⟩, []⟩
    Demo.tables.options.traceRegions = true ∧ Demo.tables.Does Op.Unmarked start ∧
      ∃ outcome stage ls, Demo.tables.Collects (fun s => s.literal?.toList) start ⟨.leave outcome stage, []⟩ ls ∧
        (Demo.tables.renderWithData "/table" (.limited 0) .empty).journal.regions = ls.flatMap Literal.region := by
  have hdoes := does_of_only Demo.tables_only 0 "/table" ⟨.limited 0, .empty, []⟩
  obtain ⟨-, -, ⟨outcome, stage, ls, hw⟩, hpass⟩ :=
    Demo.tables.regions_paired rfl "/table" (.limited 0) .empty hdoes
  exact ⟨rfl, hdoes, outcome, stage, ls, hw, hpass _ _ _ hw⟩

namespace Demo

/-- The row's region is closed before the row fails, and the sheet's region though its write fails. -/
example : (tables.renderWithData "/table" (.limited 0) .empty).journal.regions =
    Literal.region ⟨"/table", 10, "<table>"⟩ ++ Literal.region ⟨"/_row", 0, "<tr>"⟩ ++
      Literal.region ⟨"/table", 40, "</table>"⟩ ++ Literal.region ⟨"/_sheet", 0, "<body>"⟩ := by decide +kernel

end Demo
end Folio
