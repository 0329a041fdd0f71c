import Folio.Proofs.Emission
import Folio.Proofs.Placement
import Folio.Proofs.Renderers
/-!
# What errors and warnings name

An error that a page comes by names the page that was refused something, or the view whose chain runs;
a warning names the layout that it is about. `Raises` says which such errors a step raises and what they
name, and `Machine.Warns` which warnings.

A page can keep an error that it came by and end with it much later, on another level of the pass. So
it has to be shown that it cannot be but one that was raised before. `Program.Borrows` is a program whose
errors are known: given before it starts, or come by while it runs. If the pages of a catalog come by the
errors that name something in no other way, then with every step the known errors are those that were
raised by then (`borrows_step`), and all errors that can be seen are among them.
-/

namespace Folio

/-! ## Errors -/

/-- The error names a template or the view that is rendered. -/
def Error.isNamed : Error → Bool
  | invalidState _ _ | sectionNotDefined _ _ _ | layoutDepthExceeded _ _ => true
  | _ => false

/-- A renderer's call ends with no error that names something. -/
def Writer.Plain : Writer → Prop
  | done outcome => ∀ e, outcome = .error e → e.isNamed = false
  | write _ next => ∀ taken, (next taken).Plain

def Renderer.Plain (renderer : Renderer) : Prop := ∀ call, (renderer call).Plain

theorem Writer.Plain.run {w : Writer} (h : w.Plain) (sink : Sink) {e : Error} (he : (w.run sink).1 = .error e) :
    e.isNamed = false := by
  induction w generalizing sink with
  | done outcome => exact h e he
  | write content next ih => exact ih _ (h _) _ he

theorem Renderer.plain_ofContent (content : Content) : (ofContent content).Plain := by
  intro call taken
  cases taken with
  | true => rintro e ⟨⟩
  | false => rintro e ⟨⟩; rfl

/-- The error of an outcome that is one. -/
def error? {α : Type} : Except Error α → Option Error
  | .error e => some e
  | .ok _ => none

@[simp] theorem error?_eq_some_iff {α : Type} {outcome : Except Error α} {e : Error} :
    error? outcome = some e ↔ outcome = .error e := by
  cases outcome <;> simp [error?]

/-- The error in an answer. -/
def Op.error? : (o : Op) → o.Answer → Option Error
  | .write _, answer | .writeAt _ _, answer | .define _ _, answer | .renderBody, answer => Folio.error? answer
  | .isSectionDefined _, answer => Folio.error? answer
  | .renderSection _ _, answer => Folio.error? answer
  | .ignoreSection _, answer | .renderPartial _, answer => Folio.error? answer
  | _, _ => none

/-- The name of an operation that pulls something of a child. -/
def Op.pull? : Op → Option String
  | .renderBody => some "render_body"
  | .isSectionDefined _ => some "is_section_defined"
  | .renderSection _ _ => some "render_section"
  | .ignoreSection _ => some "ignore_section"
  | _ => none

/-- The errors by which the page at `template` is refused what it pulls in the chain of `view`: it is not in
a state for this, or there is no such section. -/
inductive Op.Refused (template view : String) : Op → Error → Prop
  | state {o operation} : o.pull? = some operation → Refused template view o (.invalidState operation template)
  | required {name} : Refused template view (.renderSection name true) (.sectionNotDefined name template view)
  | ignored {name} : Refused template view (.ignoreSection name) (.sectionNotDefined name template view)

theorem Stage.isNamed_write {stage : Stage} {content : Content} {e : Error}
    (he : (stage.write content).1 = .error e) : e.isNamed = false := by
  simp only [write] at he
  split at he <;> cases he
  rfl

theorem Registry.isNamed_define {r : Registry} {name : String} {renderer : Renderer} {e : Error}
    (he : r.define name renderer = .error e) : e.isNamed = false := by
  unfold define at he
  split at he
  · cases he; rfl
  · split at he <;> cases he
    rfl

theorem Composer.refused_of_sectionsFor {c : Composer} {o : Op} {operation name : String}
    (ho : o.pull? = some operation) {e : Error} (he : c.sectionsFor operation name = .error e) :
    e.isNamed = false ∨ o.Refused c.template c.view e := by
  unfold sectionsFor at he
  split at he
  · cases he; exact .inl rfl
  · split at he <;> cases he
    exact .inr (.state ho)

theorem Composer.refused_of_renderSection {c : Composer} (hplain : c.All Renderer.Plain) {name : String}
    {required : Bool} {sink : Sink} {e : Error} (he : (c.renderSection name required sink).result = .error e) :
    e.isNamed = false ∨ (Op.renderSection name required).Refused c.template c.view e := by
  unfold renderSection at he
  cases hs : c.sectionsFor "render_section" name with
  | error e' =>
    obtain rfl : e' = e := by simpa [hs] using he
    exact refused_of_sectionsFor rfl hs
  | ok sections =>
    simp only [hs, Registry.render] at he
    cases hf : sections.find? name with
    | none =>
      cases required with
      | false => simp [hf] at he
      | true =>
        obtain rfl : c.undefined name = e := by simpa [hf] using he
        exact .inr .required
    | some s =>
      have hran : ((s.renderer (s.calls + 1)).run sink).1 = .error e := by
        simp only [hf, Option.map_some] at he
        cases hrun : ((s.renderer (s.calls + 1)).run sink).1 <;> simp_all [Except.map]
      exact .inl (((hplain.sectionsFor hs).find? hf (s.calls + 1)).run sink hran)

/-- A page is answered no error that names something but by being refused what it pulls. -/
theorem Frame.refused_of_perform {f : Frame} (hplain : f.composer.All Renderer.Plain) {o : Op}
    (ho : o.isPartial = false) {path : String} {partials : PartialRenderer} {e : Error}
    (he : o.error? (perform path partials o f).1 = some e) :
    e.isNamed = false ∨ o.Refused f.composer.template f.composer.view e := by
  cases o with
  | renderPartial reference => simp [Op.isPartial] at ho
  | write content => exact .inl (Stage.isNamed_write (error?_eq_some_iff.1 he))
  | writeAt position markup => exact .inl (Stage.isNamed_write (error?_eq_some_iff.1 he))
  | renderSection name required => exact Composer.refused_of_renderSection hplain (error?_eq_some_iff.1 he)
  | define name renderer =>
    simp only [perform] at he
    cases hd : f.sections.define name renderer with
    | error e' =>
      rw [hd] at he
      obtain rfl : e' = e := Option.some.inj he
      exact .inl (Registry.isNamed_define hd)
    | ok sections => rw [hd] at he; cases he
  | renderBody =>
    simp only [perform, Composer.renderBody] at he
    cases hb : f.composer.child.bind (·.body) with
    | none =>
      rw [hb] at he
      obtain rfl : f.composer.needsChild "render_body" = e := Option.some.inj he
      exact .inr (.state rfl)
    | some body =>
      rw [hb] at he
      exact .inl (Stage.isNamed_write (error?_eq_some_iff.1 he))
  | isSectionDefined name =>
    simp only [perform, Composer.isSectionDefined] at he
    cases hs : f.composer.sectionsFor "is_section_defined" name with
    | error e' =>
      rw [hs] at he
      obtain rfl : e' = e := Option.some.inj he
      exact Composer.refused_of_sectionsFor rfl hs
    | ok sections => rw [hs] at he; cases he
  | ignoreSection name =>
    simp only [perform, Composer.ignoreSection] at he
    cases hs : f.composer.sectionsFor "ignore_section" name with
    | error e' =>
      rw [hs] at he
      obtain rfl : e' = e := Option.some.inj he
      exact Composer.refused_of_sectionsFor rfl hs
    | ok sections =>
      simp only [hs] at he
      split at he
      · cases he
      · obtain rfl : f.composer.undefined name = e := Option.some.inj he
        exact .inr .ignored
  | _ => cases he

/-! ## Programs that only borrow errors -/

/-- The program ends with no error but a known one, or one that it came by on its way, and the sections that
it defines are plain. -/
def Program.Borrows {α : Type} : Program (Except Error α) → (known : Error → Prop) → Prop
  | .done outcome, known => ∀ e, outcome = .error e → known e
  | .op o next, known => (∀ name renderer, o = .define name renderer → renderer.Plain) ∧
      ∀ answer, (next answer).Borrows fun e => known e ∨ o.error? answer = some e

theorem Program.Borrows.mono {α : Type} {p : Program (Except Error α)} {known known' : Error → Prop}
    (h : p.Borrows known) (hle : ∀ e, known e → known' e) : p.Borrows known' := by
  induction p generalizing known known' with
  | done outcome => exact fun e he => hle e (h e he)
  | op o next ih => exact ⟨h.1, fun answer => ih answer (h.2 answer) fun e => Or.imp_left (hle e)⟩

/-- What goes on with the outcome of a program, if that is a success, borrows if both parts do. -/
theorem Program.Borrows.bind {α β : Type} {p : Program (Except Error α)} {known : Error → Prop} (hp : p.Borrows known)
    {f : Except Error α → Program (Except Error β)} (hf : ∀ a, (f (.ok a)).Borrows known)
    (he : ∀ e, f (.error e) = .done (.error e)) : (p.bind f).Borrows known := by
  induction p generalizing known with
  | done outcome =>
    cases outcome with
    | error e =>
      rw [Program.bind, he]
      rintro _ ⟨⟩
      exact hp e rfl
    | ok a => exact hf a
  | op o next ih => exact ⟨hp.1, fun answer => ih answer (hp.2 answer) fun a => (hf a).mono fun _ => .inl⟩

theorem Script.borrows_bind {α β : Type} {s : Script α} {known : Error → Prop} (hs : s.program.Borrows known)
    {f : α → Script β} (hf : ∀ a, (f a).program.Borrows known) : (s >>= f).program.Borrows known :=
  Program.Borrows.bind (f := ExceptT.bindCont f) hs hf fun _ => rfl

def Control.Borrows (known : Error → Prop) : Control → Prop
  | .enter _ _ _ => True
  | .turn t child _ | .count t _ child _ =>
    t.page.program.Borrows known ∧ ∀ c, child = some c → c.sections.All Renderer.Plain
  | .run _ _ frame rest => rest.Borrows known ∧ frame.composer.All Renderer.Plain ∧ frame.sections.All Renderer.Plain
  | .leave outcome _ => ∀ e, outcome = .error e → known e

/-- A page that waits for a partial takes up the error of it. -/
structure Host.Borrows (known : Error → Prop) (host : Host) : Prop where
  next : ∀ outcome, (host.next outcome).Borrows fun e => known e ∨ outcome = .error e
  composer : host.composer.All Renderer.Plain
  sections : host.sections.All Renderer.Plain

/-- All pages in a state only borrow errors, and the error that ends a view is known. -/
structure Machine.Borrows (known : Error → Prop) (s : Machine) : Prop where
  control : s.control.Borrows known
  hosts : ∀ host ∈ s.hosts, host.Borrows known

theorem Machine.Borrows.mono {known known' : Error → Prop} {s : Machine} (h : s.Borrows known)
    (hle : ∀ e, known e → known' e) : s.Borrows known' := by
  obtain ⟨control, hosts⟩ := s
  refine ⟨?_, fun host hmem => ?_⟩
  · have hcontrol := h.control
    cases control with
    | enter => trivial
    | turn | count => exact ⟨hcontrol.1.mono hle, hcontrol.2⟩
    | run => exact ⟨hcontrol.1.mono hle, hcontrol.2⟩
    | leave => exact fun e he => hle e (hcontrol e he)
  · obtain ⟨hnext, hcomposer, hsections⟩ := h.hosts host hmem
    exact ⟨fun outcome => (hnext outcome).mono fun e => Or.imp_left (hle e), hcomposer, hsections⟩

/-- An error that can be seen in a state: it is answered to an operation, or ends a page or a view. -/
inductive Machine.Shows : Machine → Error → Prop
  | answer {t wrap frame o next hosts e} : o.isPartial = false →
      o.error? (Frame.perform t.page.path .none o frame).1 = some e →
      Shows ⟨.run t wrap frame (.op o next), hosts⟩ e
  | page {t wrap frame hosts e} : Shows ⟨.run t wrap frame (.done (.error e)), hosts⟩ e
  | view {stage hosts e} : Shows ⟨.leave (.error e) stage, hosts⟩ e

namespace Engine

/-- The pages of the catalog and their sections make no error that names something by themselves. -/
def Borrows (engine : Engine) : Prop :=
  ∀ page, engine.Registered page → page.program.Borrows fun e => e.isNamed = false

/-- The error that names something, raised by the next step. -/
inductive Raises (engine : Engine) : Machine → Error → Prop
  | refused {t wrap frame o next hosts e} : o.Refused t.page.path t.view e →
      o.error? (Frame.perform t.page.path .none o frame).1 = some e →
      Raises engine ⟨.run t wrap frame (.op o next), hosts⟩ e
  | nested {depth path view stage hosts} : Path.normalize path = .ok view → engine.options.maxLayoutDepth < depth →
      Raises engine ⟨.enter depth path stage, hosts⟩ (.layoutDepthExceeded view engine.options.maxLayoutDepth)
  | exceeded {t layout child stage hosts} : engine.options.maxLayoutDepth < t.layouts →
      Raises engine ⟨.count t layout child stage, hosts⟩
        (.layoutDepthExceeded t.view engine.options.maxLayoutDepth)

variable {engine : Engine}

theorem isNamed_get {path : String} {e : Error} (he : engine.catalog.get path = .error e) : e.isNamed = false := by
  unfold Catalog.get at he
  split at he
  · next hv => cases he; rw [Path.normalize_eq_error hv]; rfl
  · split at he <;> cases he
    rfl

theorem isNamed_resolve {base reference : String} {e : Error} (he : Path.resolve base reference = .error e) :
    e.isNamed = false := by
  unfold Path.resolve at he
  split at he
  · cases he; rfl
  · split at he <;> cases he
    rfl

theorem isNamed_layoutPath {page : Page} {e : Error} (he : page.layoutPath = .error e) : e.isNamed = false := by
  unfold Page.layoutPath at he
  split at he
  · cases he
  · next reference hl =>
    cases hr : Path.resolve page.path reference with
    | error e' =>
      obtain rfl : e' = e := by simpa [hr, Except.map] using he
      exact isNamed_resolve hr
    | ok target => simp [hr, Except.map] at he

/-- In a state that is in its place, an operation is answered no error that names something but the one that
the step raises. -/
theorem raises_of_answer {start : Machine} {path : String} {t : Turn} {wrap : Option Wrap} {frame : Frame} {o : Op}
    {next : o.Answer → Program (Except Error Unit)} {hosts : List Host}
    (hplaced : engine.Placed start path ⟨.run t wrap frame (.op o next), hosts⟩)
    (hplain : frame.composer.All Renderer.Plain) (ho : o.isPartial = false) {e : Error}
    (he : o.error? (Frame.perform t.page.path .none o frame).1 = some e) :
    e.isNamed = false ∨ engine.Raises ⟨.run t wrap frame (.op o next), hosts⟩ e := by
  have hmade := hplaced.control.composer
  refine (Frame.refused_of_perform hplain ho he).imp_right fun hrefused => ?_
  rw [hmade.template, hmade.view] at hrefused
  exact .refused hrefused he

/-- With a step, the errors that it raises come to be known, and no others. -/
theorem borrows_step (h : engine.Borrows) {known : Error → Prop} (hunnamed : ∀ e, e.isNamed = false → known e)
    {start s t : Machine} {path : String} (hplaced : engine.Placed start path s) (hs : s.Borrows known)
    (hstep : engine.step s = some t) : t.Borrows fun e => known e ∨ engine.Raises s e := by
  have hmono : s.Borrows fun e => known e ∨ engine.Raises s e := hs.mono fun e => .inl
  obtain ⟨hcontrol, hhosts⟩ := hmono
  have hfresh {page : Page} (hpage : engine.Registered page) :
      page.program.Borrows fun e => known e ∨ engine.Raises s e :=
    (h page hpage).mono fun e he => .inl (hunnamed e he)
  have hmute {e : Error} (he : e.isNamed = false) : ∀ e', Except.error (α := Unit) e = .error e' →
      known e' ∨ engine.Raises s e' := by
    rintro _ ⟨⟩
    exact .inl (hunnamed e he)
  cases move_of_step hstep with
  | strayed hv => exact ⟨hmute (by rw [Path.normalize_eq_error hv]; rfl), hhosts⟩
  | nested hv hd =>
    refine ⟨?_, hhosts⟩
    rintro _ ⟨⟩
    exact .inr (.nested hv hd)
  | missing hv hd hg => exact ⟨hmute (isNamed_get hg), hhosts⟩
  | opened hv hd hg => exact ⟨⟨hfresh (engine.registered_of_get hg), by simp⟩, hhosts⟩
  | unled hl => exact ⟨hmute (isNamed_layoutPath hl), hhosts⟩
  | last hl => exact ⟨⟨hcontrol.1, Composer.all_forPage hcontrol.2 _ _ _, Registry.all_empty⟩, hhosts⟩
  | counted hl => exact ⟨hcontrol, hhosts⟩
  | exceeded hm =>
    refine ⟨?_, hhosts⟩
    rintro _ ⟨⟩
    exact .inr (.exceeded hm)
  | inner hm => exact ⟨⟨hcontrol.1, Composer.all_forPage hcontrol.2 _ _ _, Registry.all_empty⟩, hhosts⟩
  | unresolved hr =>
    obtain ⟨⟨-, hnext⟩, hrenderers⟩ := hcontrol
    refine ⟨⟨(hnext _).mono ?_, hrenderers⟩, hhosts⟩
    rintro e (hknown | he)
    · exact hknown
    · cases he
      exact .inl (hunnamed _ (isNamed_resolve hr))
  | descended hr =>
    obtain ⟨⟨-, hnext⟩, hcomposer, hsections⟩ := hcontrol
    refine ⟨trivial, List.forall_mem_cons.2 ⟨⟨fun outcome => ?_, hcomposer, hsections⟩, hhosts⟩⟩
    exact (hnext outcome).mono fun e => Or.imp_right error?_eq_some_iff.1
  | @performed t wrap frame o next hosts ho =>
    obtain ⟨⟨hdefines, hnext⟩, hcomposer, hsections⟩ := hcontrol
    refine ⟨⟨(hnext _).mono ?_, Frame.all_composer hcomposer _ _ o, Frame.all_sections hsections hdefines _ _⟩, hhosts⟩
    rintro e (hknown | he)
    · exact hknown
    · exact (raises_of_answer hplaced hcomposer ho he).imp_left (hunnamed e)
  | failed => exact ⟨hcontrol.1, hhosts⟩
  | concluded => exact ⟨nofun, hhosts⟩
  | unfollowed hg => exact ⟨hmute (isNamed_get hg), hhosts⟩
  | followed hg =>
    refine ⟨⟨hfresh (engine.registered_of_get hg), ?_⟩, hhosts⟩
    rintro _ ⟨⟩
    exact hcontrol.2.2
  | returned =>
    obtain ⟨hhost, hhosts⟩ := List.forall_mem_cons.1 hhosts
    refine ⟨⟨(hhost.next _).mono ?_, hhost.composer, hhost.sections⟩, hhosts⟩
    rintro e (hknown | rfl)
    · exact hknown
    · exact hcontrol e rfl

/-- An error is known in a state if it names nothing, or if a step up to there raised it. -/
def KnownAt (engine : Engine) (start s : Machine) (e : Error) : Prop :=
  e.isNamed = false ∨ ∃ origin, engine.Reaches start origin ∧ engine.Reaches origin s ∧ engine.Raises origin e

/-- In every state of a pass, the pages borrow from what was raised by then. -/
theorem borrows_of_reaches (h : engine.Borrows) {path : String} {stage : Stage} {s : Machine}
    (hr : engine.Reaches ⟨.enter 0 path stage, []⟩ s) : s.Borrows (engine.KnownAt ⟨.enter 0 path stage, []⟩ s) := by
  induction hr with
  | refl => exact ⟨trivial, by simp⟩
  | @tail s t hr hstep ih =>
    refine (borrows_step h (fun e => .inl) (placed_of_reaches hr) ih hstep).mono ?_
    rintro e ((hn | ⟨origin, hstart, hthere, hraises⟩) | hraises)
    · exact .inl hn
    · exact .inr ⟨origin, hstart, hthere.tail hstep, hraises⟩
    · exact .inr ⟨s, hr, .single hstep, hraises⟩

/-- An error that names something can be seen only where a step up to there raised it. -/
theorem raised_of_shows (h : engine.Borrows) {path : String} {stage : Stage} {s : Machine}
    (hr : engine.Reaches ⟨.enter 0 path stage, []⟩ s) {e : Error} (hshows : s.Shows e) (hn : e.isNamed = true) :
    ∃ origin, engine.Reaches ⟨.enter 0 path stage, []⟩ origin ∧ engine.Reaches origin s ∧ engine.Raises origin e := by
  have hborrows := (borrows_of_reaches h hr).control
  have hknown : engine.KnownAt ⟨.enter 0 path stage, []⟩ s e := by
    cases hshows with
    | answer ho he =>
      exact (raises_of_answer (placed_of_reaches hr) hborrows.2.1 ho he).imp_right fun hraises =>
        ⟨_, hr, .refl, hraises⟩
    | page => exact hborrows.1 e rfl
    | view => exact hborrows e rfl
  exact hknown.resolve_left (by simp [hn])

end Engine

/-! ## Warnings -/

/-- The warning that the next step raises, about the layout that runs. -/
inductive Machine.Warns : Machine → Diagnostic → Prop
  | again {t wrap frame name required next hosts} : frame.composer.isLayout = true →
      Warns ⟨.run t wrap frame (.op (.renderSection name required) next), hosts⟩
        (.sectionAlreadyRendered t.page.path name)
  | sections {t wrap frame names hosts} : frame.composer.isLayout = true →
      Warns ⟨.run t wrap frame (.done (.ok ())), hosts⟩ (.sectionsNotRendered t.page.path names)
  | body {t wrap frame hosts} : frame.composer.isLayout = true →
      Warns ⟨.run t wrap frame (.done (.ok ())), hosts⟩ (.bodyNotRendered t.page.path)

theorem Journal.mem_diagnostics {j : Journal} {d : Diagnostic} : d ∈ j.diagnostics ↔ .warned d ∈ j := by
  rw [diagnostics, List.mem_filterMap]
  constructor
  · rintro ⟨e, he, hd⟩
    cases e <;> cases hd
    exact he
  · exact fun h => ⟨_, h, rfl⟩

namespace Composer
variable {c : Composer} {d : Diagnostic}

theorem isLayout_of_sectionsFor {operation name : String} {sections : Registry}
    (h : c.sectionsFor operation name = .ok sections) : c.isLayout = true := by
  cases hc : c.child with
  | none => rw [sectionsFor_of_no_child hc] at h; cases h
  | some child => simp [isLayout, hc]

theorem warned_renderSection {name : String} {required : Bool} {sink : Sink}
    (h : .warned d ∈ (c.renderSection name required sink).events) :
    c.isLayout = true ∧ d = .sectionAlreadyRendered c.template name := by
  unfold renderSection at h
  cases hs : c.sectionsFor "render_section" name with
  | error e => simp [hs] at h
  | ok sections =>
    refine ⟨isLayout_of_sectionsFor hs, ?_⟩
    simp only [hs] at h
    by_cases hkey : Text.fold name ∈ c.usage.rendered <;> cases hr : sections.render name sink <;> simp_all

theorem mem_unused (h : d ∈ c.unused) :
    c.isLayout = true ∧ ((∃ names, d = .sectionsNotRendered c.template names) ∨ d = .bodyNotRendered c.template) := by
  unfold unused at h
  split at h
  · simp at h
  · next child hchild =>
    refine ⟨by simp [isLayout, hchild], ?_⟩
    split at h
    · split at h
      · exact .inr (List.mem_singleton.1 h)
      · simp at h
    · split at h
      · simp at h
      · exact .inl ⟨_, List.mem_singleton.1 h⟩

end Composer

theorem Frame.warned_emits {path : String} {f : Frame} {o : Op} {d : Diagnostic} (h : .warned d ∈ f.emits path o) :
    ∃ name required, o = .renderSection name required ∧ f.composer.isLayout = true ∧
      d = .sectionAlreadyRendered f.composer.template name := by
  cases o with
  | renderSection name required => exact ⟨name, required, rfl, Composer.warned_renderSection h⟩
  | writeAt | openRegion | closeRegion =>
    simp [emits, Composer.openRegion, Composer.closeRegion] at h
  | note => simp [emits] at h
  | _ => cases h

namespace Engine
variable {engine : Engine}

theorem warns_of_emits {start s : Machine} {path : String} (hplaced : engine.Placed start path s) {d : Diagnostic}
    (hd : .warned d ∈ engine.emits s) : s.Warns d := by
  obtain ⟨control, hosts⟩ := s
  cases control with
  | enter | leave => cases hd
  | turn t child stage => simp only [emits] at hd; split at hd <;> simp at hd
  | count t layout child stage => simp only [emits] at hd; split at hd <;> simp at hd
  | run t wrap frame rest =>
    have hmade := hplaced.control.composer
    cases rest with
    | op o next =>
      obtain ⟨name, required, rfl, hlayout, rfl⟩ := Frame.warned_emits hd
      rw [hmade.template]
      exact .again hlayout
    | done outcome =>
      cases outcome with
      | error e => cases hd
      | ok u =>
        have hunused : d ∈ frame.composer.unused := by
          rcases List.mem_append.1 hd with hd | hd
          · obtain ⟨_, hmem, heq⟩ := List.mem_map.1 hd
            cases heq
            exact hmem
          · simp only [Page.leftover] at hd
            split at hd
            · split at hd <;> simp at hd
            · cases hd
        obtain ⟨hlayout, ⟨names, rfl⟩ | rfl⟩ := Composer.mem_unused hunused
        · rw [hmade.template]
          exact .sections hlayout
        · rw [hmade.template]
          exact .body hlayout

/-- A warning in the journal was raised by a step up to there. -/
theorem warned_of_reaches {path : String} {sink : Sink} {data : PageData} {s : Machine}
    (hr : engine.Reaches ⟨.enter 0 path ⟨sink, data, []⟩, []⟩ s) {d : Diagnostic} (hd : .warned d ∈ s.journal) :
    ∃ origin, engine.Reaches ⟨.enter 0 path ⟨sink, data, []⟩, []⟩ origin ∧ engine.Reaches origin s ∧
      origin.Warns d := by
  induction hr with
  | refl => cases hd
  | @tail s t hr hstep ih =>
    rw [journal_step hstep] at hd
    rcases List.mem_append.1 hd with hd | hd
    · obtain ⟨origin, hstart, hthere, hwarns⟩ := ih hd
      exact ⟨origin, hstart, hthere.tail hstep, hwarns⟩
    · exact ⟨s, hr, .single hstep, warns_of_emits (placed_of_reaches hr) hd⟩

/-! ## Passes -/

/-- An error names the view in whose chain it is raised, and, if a page is refused something, that page. -/
theorem named_of_raises {start origin : Machine} {path : String} (hplaced : engine.Placed start path origin) {e : Error}
    (h : engine.Raises origin e) : ∃ view, engine.Asked start path origin.hosts view ∧
      (e = .layoutDepthExceeded view engine.options.maxLayoutDepth ∨
        ∃ t wrap frame o next, origin.control = .run t wrap frame (.op o next) ∧ t.view = view ∧
          engine.Place start path origin.hosts t frame.composer.isLayout ∧ o.Refused t.page.path view e) := by
  cases h with
  | @refused t wrap frame o next hosts e hrefused he =>
    have hplace := hplaced.control.place
    exact ⟨t.view, hplace.view, .inr ⟨t, wrap, frame, o, next, rfl, rfl, hplace, hrefused⟩⟩
  | nested hv hd => exact ⟨_, hplaced.control.2 _ hv, .inl rfl⟩
  | exceeded hm => exact ⟨_, hplaced.control.1.view, .inl rfl⟩

/-- A warning names the page that runs, which is a layout in the chain of its view. -/
theorem named_of_warns {start origin : Machine} {path : String} (hplaced : engine.Placed start path origin)
    {d : Diagnostic} (h : origin.Warns d) : ∃ t wrap frame rest, origin.control = .run t wrap frame rest ∧
      d.template = t.page.path ∧ engine.Place start path origin.hosts t true := by
  cases h with
  | again hlayout | sections hlayout | body hlayout =>
    exact ⟨_, _, _, _, rfl, rfl, hlayout ▸ hplaced.control.place⟩

end Engine

namespace Demo

/-- A story with a remark and a quote. -/
def storyPage : Page where
  path := "/story"
  layout := none
  program := Script.program do
    Script.renderPartial "_remark"
    Script.renderPartial "_quote"

def remarkPage : Page where
  path := "/_remark"
  layout := some "_margin"
  program := Script.program (Script.writeText "remark")

/-- A margin without its remark. -/
def marginPage : Page where
  path := "/_margin"
  layout := none
  program := Script.program (Script.writeText "|")

def quotePage : Page where
  path := "/_quote"
  layout := some "_credits"
  program := Script.program do
    Script.writeText "quote"
    Script.define "Source" (.ofContent (.ofText "source"))

/-- Credits for an author, whom the quote does not name. -/
def creditsPage : Page where
  path := "/_credits"
  layout := none
  program := Script.program do
    Script.renderBody
    let _ ← Script.requireSection "Author"

def stories : Engine :=
  ⟨⟨[("/story", storyPage), ("/_remark", remarkPage), ("/_margin", marginPage), ("/_quote", quotePage),
    ("/_credits", creditsPage)]⟩, .standard⟩

theorem stories_borrows : stories.Borrows := by
  have hwrite (markup : String) : (Script.writeText markup).program.Borrows fun e => e.isNamed = false :=
    ⟨nofun, fun _ _ he => .inr (error?_eq_some_iff.2 he)⟩
  have hpartial (reference : String) : (Script.renderPartial reference).program.Borrows fun e => e.isNamed = false :=
    ⟨nofun, fun _ _ he => .inr (error?_eq_some_iff.2 he)⟩
  intro page hpage
  obtain ⟨key, hmem⟩ := hpage.entry
  simp only [stories, List.mem_cons, List.not_mem_nil, or_false, Prod.mk.injEq] at hmem
  rcases hmem with ⟨-, rfl⟩ | ⟨-, rfl⟩ | ⟨-, rfl⟩ | ⟨-, rfl⟩ | ⟨-, rfl⟩
  · exact Script.borrows_bind (hpartial _) fun _ => hpartial _
  · exact hwrite _
  · exact hwrite _
  · refine Script.borrows_bind (hwrite _) fun _ => ⟨?_, fun _ _ he => .inr (error?_eq_some_iff.2 he)⟩
    rintro _ _ ⟨⟩
    exact Renderer.plain_ofContent _
  · have hbody : Script.renderBody.program.Borrows fun e => e.isNamed = false :=
      ⟨nofun, fun _ _ he => .inr (error?_eq_some_iff.2 he)⟩
    refine Script.borrows_bind hbody fun _ => ⟨nofun, fun answer => ?_⟩
    cases answer with
    | error e => rintro _ ⟨⟩; exact .inr rfl
    | ok content => rintro _ ⟨⟩

end Demo

end Folio
