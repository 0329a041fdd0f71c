import Folio.Proofs.Renderers
import Folio.Proofs.SinkUse
import Folio.Proofs.Work
/-!
# Passes cut short by their sink

When a sink stops taking writes, a pass whose pages and renderers hand on the errors of their steps
ends at the first write that is refused. Up to there it does what it does over a sink that takes
every write: its output is cut, and so is all that it reports.

`Cuts` says of a dialogue that it is over where an offer is refused. It is built up along the
dialogue of a pass: what an operation does is cut (`Desk.cuts_perform`), so what a program does
(`Program.cuts_dialogue`), and so a pass with the partials in it (`cuts_dialogue`).
-/

namespace Folio

/-! ## Pages that hand on errors -/

/-- A renderer's call ends with the error of the first write that is not taken. -/
inductive Writer.Propagates : Writer → Prop
  | done (outcome : Except Error Unit) : Propagates (.done outcome)
  | write {content : Content} {next : Bool → Writer} : next false = .done (.error .sinkClosed) →
      Propagates (next true) → Propagates (.write content next)

def Renderer.Propagates (renderer : Renderer) : Prop := ∀ call, (renderer call).Propagates

/-- The answer to an operation that fails because a write was not taken. -/
def Op.closed : (o : Op) → Option o.Answer
  | write _ | writeAt _ _ | renderBody | renderPartial _ => some (.error .sinkClosed)
  | renderSection _ _ => some (.error .sinkClosed)
  | _ => none

/-- A program ends with the error of the first step in which a write is not taken, and so do the
renderers of its sections. Whether it catches other errors is left open. -/
inductive Program.Propagates {α : Type} : Program (Except Error α) → Prop
  | done (outcome : Except Error α) : Propagates (.done outcome)
  | op {o : Op} {next : o.Answer → Program (Except Error α)} :
      (∀ answer, o.closed = some answer → next answer = .done (.error .sinkClosed)) →
      (∀ name renderer, o = .define name renderer → renderer.Propagates) →
      (∀ answer, Propagates (next answer)) → Propagates (.op o next)

/-- What goes on with the outcome of a program, if that is a success, propagates if both parts do. -/
theorem Program.Propagates.bind {α β : Type} {p : Program (Except Error α)} (hp : p.Propagates)
    {f : Except Error α → Program (Except Error β)} (hf : ∀ a, (f (.ok a)).Propagates)
    (he : ∀ e, f (.error e) = .done (.error e)) : (p.bind f).Propagates := by
  induction hp with
  | done outcome =>
    cases outcome with
    | error e => rw [Program.bind, he]; exact .done _
    | ok a => exact hf a
  | op hclosed hrenderer _ ih =>
    exact .op (fun answer h => by rw [hclosed answer h]; exact he _) hrenderer ih

/-- A script goes on only after a success, so scripts that propagate can follow each other. -/
theorem Script.propagates_bind {α β : Type} {s : Script α} (hs : s.program.Propagates) {f : α → Script β}
    (hf : ∀ a, (f a).program.Propagates) : (s >>= f).program.Propagates :=
  Program.Propagates.bind (f := ExceptT.bindCont f) hs hf fun _ => rfl

theorem Renderer.propagates_ofContent (content : Content) : (ofContent content).Propagates :=
  fun _ => .write rfl (.done _)

def Registry.Propagates (r : Registry) : Prop := ∀ s ∈ r.sections, s.renderer.Propagates

def Composer.Propagates (c : Composer) : Prop := ∀ child, c.child = some child → child.sections.Propagates

theorem Composer.Propagates.called? {c : Composer} (h : c.Propagates) {name : String} {writer : Writer}
    (hw : c.called? name = some writer) : writer.Propagates := by
  unfold Composer.called? at hw
  cases hs : c.sectionsFor "render_section" name with
  | error e => simp [hs] at hw
  | ok sections =>
    simp only [hs] at hw
    obtain ⟨s, hfound, rfl⟩ := Option.map_eq_some_iff.1 hw
    exact (Composer.All.sectionsFor h hs).find? hfound _

/-- The sections that a page hands on propagate. -/
theorem Program.Propagates.run_sections {α : Type} {p : Program (Except Error α)} (hp : p.Propagates) (path : String)
    (partials : PartialRenderer) :
    ∀ f : Frame, f.sections.Propagates → (p.run (Frame.perform path partials) f).2.sections.Propagates := by
  induction hp with
  | done outcome => exact fun f h => h
  | op _ hrenderer _ ih => exact fun f h => ih _ _ (Frame.all_sections h hrenderer path partials)

theorem Page.propagates_execute {page : Page} (hp : page.program.Propagates) {composer : Composer}
    {partials : PartialRenderer} {depth : Nat} {stage after : Stage} {sections : Registry}
    (h : page.execute composer partials depth stage = (.ok sections, after)) : sections.Propagates := by
  have hrun := hp.run_sections page.path partials ⟨composer, .empty, stage.report [.entered page.path depth]⟩
    Registry.all_empty
  simp only [execute] at h
  generalize page.program.run _ _ = ran at h hrun
  obtain ⟨outcome, frame⟩ := ran
  cases outcome with
  | error e => simp at h
  | ok u =>
    simp only [Prod.mk.injEq, Except.ok.injEq] at h
    rw [← h.1]
    exact hrun

/-! ## Dialogues that are over where an offer is refused -/

namespace Dialogue
variable {α β : Type} {d : Dialogue α} {cut : α → α → Prop} {cut' : β → β → Prop}

/-- Where an offer is refused the dialogue is over, and its result is cut from the one that it has
when all offers are taken. -/
inductive Cuts (cut : α → α → Prop) : Dialogue α → Prop
  | done (a : α) : Cuts cut (.done a)
  | offer {content : Content} {next : Bool → Dialogue α} {a : α} : next false = .done a →
      cut a (next true).result → Cuts cut (next true) → Cuts cut (.offer content next)

theorem result_bind (d : Dialogue α) (f : α → Dialogue β) : (d.bind f).result = (f d.result).result := by
  induction d with
  | done a => rfl
  | offer content next ih => exact ih true

theorem Cuts.bind {f : α → Dialogue β} (h : d.Cuts cut) (hrest : (f d.result).Cuts cut')
    (hcut : ∀ a, cut a d.result → ∃ b, f a = .done b ∧ cut' b (f d.result).result) : (d.bind f).Cuts cut' := by
  induction h with
  | done a => exact hrest
  | @offer content next a hfalse ha _ ih =>
    obtain ⟨b, hb, hcutb⟩ := hcut a ha
    refine .offer (a := b) ?_ ?_ (ih hrest hcut)
    · simp only [hfalse, Dialogue.bind, hb]
    · rwa [result_bind]

theorem Cuts.map {f : α → β} (h : d.Cuts cut) (hcut : ∀ a, cut a d.result → cut' (f a) (f d.result)) :
    (d.map f).Cuts cut' :=
  h.bind (.done _) fun a ha => ⟨_, rfl, hcut a ha⟩

/-- A sink with room for all offers of a dialogue takes them. -/
theorem run_within (d : Dialogue α) (n : Nat) : ∀ made : List Offer, made.length + d.offers.length ≤ n →
    d.run ((Sink.limited n).after made) =
      (d.result, (Sink.limited n).after (made ++ Offer.allTaken d.offers)) := by
  induction d with
  | done a => intro made _; simp [run, result, offers, Offer.allTaken]
  | offer content next ih =>
    intro made hn
    simp only [offers, List.length_cons] at hn
    have hwrite := Sink.write_limited n made content
    rw [decide_eq_true (by omega)] at hwrite
    rw [run_offer hwrite, ih true _ (by simp; omega), List.append_assoc]
    rfl

/-- A sink with too little room for the offers of a dialogue takes the first of them and refuses the next
one, and then the dialogue is over. -/
theorem Cuts.run_beyond (h : d.Cuts cut) (n : Nat) : ∀ made : List Offer, made.length ≤ n →
    n < made.length + d.offers.length → ∃ a refused, cut a d.result ∧
      d.run ((Sink.limited n).after made) =
        (a, (Sink.limited n).after
          (made ++ Offer.allTaken (d.offers.take (n - made.length)) ++ [⟨refused, false⟩])) := by
  induction h with
  | done a => intro made hroom hn; simp only [offers, List.length_nil] at hn; omega
  | @offer content next a hfalse ha _ ih =>
    intro made hroom hn
    simp only [offers, List.length_cons] at hn
    have hwrite := Sink.write_limited n made content
    -- The sink has room for this offer, or this is the first one that it refuses.
    by_cases hfull : made.length < n
    · obtain ⟨b, refused, hb, hrun⟩ := ih (made ++ [⟨content, true⟩]) (by simp; omega) (by simp; omega)
      have htake : n - made.length = n - (made ++ [Offer.mk content true]).length + 1 := by simp; omega
      refine ⟨b, refused, hb, ?_⟩
      rw [decide_eq_true hfull] at hwrite
      rw [run_offer hwrite, hrun, offers, htake, List.take_succ_cons, List.append_assoc made]
      rfl
    · have hzero : n - made.length = 0 := by omega
      refine ⟨a, content, ha, ?_⟩
      rw [decide_eq_false hfull] at hwrite
      rw [run_offer hwrite, hfalse, hzero, List.take_zero, Offer.allTaken, List.map_nil, List.append_nil, run]

theorem cuts_ofWriter {w : Writer} (h : w.Propagates) :
    (ofWriter w).Cuts fun outcome _ => outcome = .error .sinkClosed := by
  induction h with
  | done outcome => exact .done _
  | write hfalse _ ih => exact .offer (by rw [hfalse]; rfl) rfl ih

end Dialogue

/-! ## Passes -/

/-- An outcome with what pages share after it, cut by the sink: the journal has only the first entries. -/
def Shared.CutFrom (cut full : Except Error Unit × Shared) : Prop :=
  cut.1 = .error .sinkClosed ∧ cut.2.journal <+: full.2.journal

/-- What a page does is cut by the sink. -/
def Desk.CutFrom {α : Type} (closed : α → Prop) (cut full : α × Desk) : Prop :=
  closed cut.1 ∧ cut.2.shared.journal <+: full.2.shared.journal

section Pages

variable {path : String} {partials : PartialRenderer} {dialogues : PartialDialogue}
  (hcuts : ∀ target shared, (dialogues target shared).Cuts Shared.CutFrom)

include hcuts in
theorem Desk.cuts_perform {d : Desk} (h : d.composer.Propagates) (o : Op) :
    (d.perform path dialogues o).Cuts (Desk.CutFrom fun answer => o.closed = some answer) := by
  cases o with
  | write | writeAt => exact .offer rfl ⟨rfl, List.prefix_rfl⟩ (.done _)
  | renderBody =>
    simp only [perform]
    split
    · exact .done _
    · exact .offer rfl ⟨rfl, List.prefix_rfl⟩ (.done _)
  | renderSection name required =>
    simp only [perform]
    cases hw : d.composer.called? name with
    | none => exact .done _
    | some writer =>
      exact (Dialogue.cuts_ofWriter (h.called? hw)).map fun outcome ho => ⟨by rw [ho]; rfl, List.prefix_rfl⟩
  | renderPartial reference =>
    simp only [perform]
    split
    · exact .done _
    · next target _ =>
      exact (hcuts target d.shared).map fun cut hcut => ⟨congrArg some hcut.1.symm, hcut.2⟩
  | _ => exact .done _

variable (hspeaks : partials.Speaks dialogues) (hblind : partials.Blind)

include hspeaks hblind in
theorem Program.journal_dialogue {α : Type} (p : Program α) (d : Desk) :
    d.shared.journal <+: (p.dialogue (fun o d => d.perform path dialogues o) d).result.2.shared.journal := by
  have hrun : d.shared.journal <+: (p.run (Frame.perform path partials) (d.on .buffer)).2.stage.journal :=
    p.journal_run hblind path (d.on .buffer)
  rw [p.run_on hspeaks path d .buffer, Dialogue.onFrame_buffer] at hrun
  exact hrun

include hcuts hspeaks hblind

/-- A program whose sink refuses a write is over, and what it reported by then it reports anyway. -/
theorem Program.cuts_dialogue {p : Program (Except Error Unit)} (hp : p.Propagates) :
    ∀ d : Desk, d.composer.Propagates → (p.dialogue (fun o d => d.perform path dialogues o) d).Cuts
      (Desk.CutFrom fun outcome => outcome = .error .sinkClosed) := by
  induction hp with
  | done outcome => exact fun d _ => .done _
  | @op o next hclosed _ _ ih =>
    intro d hd
    have hcomposer := Frame.all_composer (f := d.on .buffer) hd path partials o
    rw [d.perform_on hspeaks, Dialogue.onFrame_buffer] at hcomposer
    -- Where the operation is cut, what it reported by then is at the front of what the whole program reports.
    refine (Desk.cuts_perform hcuts hd o).bind (ih _ _ hcomposer) fun cut hcut => ?_
    refine ⟨(.error .sinkClosed, cut.2), ?_, rfl, ?_⟩
    · simp only [hclosed cut.1 hcut.1, dialogue]
    · exact hcut.2.trans (Program.journal_dialogue hspeaks hblind _ _)

theorem Page.cuts_dialogue {page : Page} (hp : page.program.Propagates) {composer : Composer}
    (hc : composer.Propagates) (depth : Nat) (shared : Shared) :
    (page.dialogue composer dialogues depth shared).Cuts Shared.CutFrom := by
  refine (Program.cuts_dialogue hcuts hspeaks hblind hp _ hc).map ?_
  rintro ⟨-, cut⟩ ⟨rfl, hjournal⟩
  refine ⟨rfl, ?_⟩
  simp only at hjournal ⊢
  generalize Dialogue.result _ = full at hjournal ⊢
  obtain ⟨outcome, full⟩ := full
  cases outcome with
  | error e => exact hjournal
  | ok u =>
    -- A page that succeeds reports more at its end.
    simp only [Shared.report, List.append_assoc]
    exact hjournal.trans (List.prefix_append _ _)

end Pages

namespace Engine

variable (engine : Engine)

/-- All pages of the catalog hand on the error of a write that is not taken. -/
def Propagates : Prop := ∀ page, engine.Registered page → page.program.Propagates

variable {engine}

theorem registered_of_chain {first last : Page} {inner : List Page} (h : engine.catalog.Chain first inner last)
    (hf : engine.Registered first) : (∀ page ∈ inner, engine.Registered page) ∧ engine.Registered last := by
  induction h with
  | last _ => exact ⟨by simp, hf⟩
  | link _ _ hnext _ ih =>
    obtain ⟨hinner, hlast⟩ := ih ⟨_, hnext⟩
    exact ⟨List.forall_mem_cons.2 ⟨hf, hinner⟩, hlast⟩

/-- What a chain hands to its last page propagates. -/
theorem propagates_lead {view : String} {partials : PartialRenderer} {depth : Nat} {inner : List Page} :
    ∀ {child child' : Option Child} {shared after : Shared}, (∀ page ∈ inner, page.program.Propagates) →
      (∀ c, child = some c → c.sections.Propagates) →
      engine.lead view partials depth inner child shared = (.ok child', after) →
      ∀ c, child' = some c → c.sections.Propagates := by
  induction inner with
  | nil =>
    intro child child' shared after _ hchild h
    simp only [lead, Prod.mk.injEq, Except.ok.injEq] at h
    rwa [← h.1]
  | cons page inner ih =>
    intro child child' shared after hinner hchild h
    obtain ⟨hpage, hinner⟩ := List.forall_mem_cons.1 hinner
    simp only [lead] at h
    generalize hran : page.execute _ partials depth _ = ran at h
    obtain ⟨outcome, stage⟩ := ran
    cases outcome with
    | error e => simp at h
    | ok sections =>
      refine ih hinner (fun c hc => ?_) h
      cases hc
      exact page.propagates_execute hpage hran

theorem propagates_arrival (h : engine.Propagates) {depth : Nat} {path : String} {shared after : Shared} {a : Arrival}
    (ha : engine.approach depth path shared = (.ok a, after)) :
    a.last.program.Propagates ∧
      (Composer.forPage a.last a.view a.child engine.options.traceRegions).Propagates := by
  obtain ⟨-, -, first, inner, hf, hc, -, hlead⟩ := engine.approach_eq_ok_iff.1 ha
  obtain ⟨hinner, hlast⟩ := registered_of_chain hc ⟨_, hf⟩
  have hchild := propagates_lead (fun page hpage => h page (hinner page hpage)) (by simp) hlead
  refine ⟨h _ hlast, fun child hforPage => hchild child ?_⟩
  unfold Composer.forPage at hforPage
  split at hforPage
  · next child' hsome => rw [hsome, ← hforPage]; rfl
  · cases hforPage

theorem cuts_dialogue (h : engine.Propagates) : ∀ depth path shared,
    (engine.dialogue depth path shared).Cuts Shared.CutFrom := by
  refine engine.renderAtDepth_induction fun depth ih path shared => ?_
  rcases ha : engine.approach depth path shared with ⟨outcome, after⟩
  cases outcome with
  | error e => rw [engine.dialogue_of_error ha]; exact .done _
  | ok a =>
    obtain ⟨hlast, hcomposer⟩ := propagates_arrival h ha
    rw [engine.dialogue_of_arrival ha]
    exact Page.cuts_dialogue (ih (engine.depth_le_of_approach ha)) (engine.renderAtDepth_on (depth + 1))
      (engine.renderAtDepth_blind (depth + 1)) hlast hcomposer depth after

/-- A failing sink cuts a pass cleanly, where pages and renderers hand on the errors of their steps.
A pass that makes no more writes than its sink takes is the pass over a sink that takes all. Any other
ends with the error of the sink, after exactly the writes that the sink takes; its warnings and
regions are the first of those that the full pass reports. -/
theorem renderWithData_limited (h : engine.Propagates) (path : String) (data : PageData) (n : Nat) :
    let full := engine.renderWithData path .buffer data
    let pass := engine.renderWithData path (.limited n) data
    (full.sink.writes.length ≤ n → pass.result = full.result ∧ pass.sink.writes = full.sink.writes ∧
      pass.journal = full.journal) ∧
    (n < full.sink.writes.length → pass.result = .error .sinkClosed ∧
      pass.sink.writes = full.sink.writes.take n ∧ pass.sink.output = .concat (full.sink.writes.take n) ∧
      pass.journal.diagnostics <+: full.journal.diagnostics ∧ pass.journal.regions <+: full.journal.regions) := by
  intro full pass
  have hfull : full = _ := engine.renderWithData_eq path .buffer data
  have hpass : pass = _ := engine.renderWithData_eq path (.limited n) data
  have hcuts := cuts_dialogue h 0 path ⟨data, []⟩
  have hon (sink : Sink) : engine.renderAtDepth 0 path ⟨sink, data, []⟩ = _ :=
    engine.renderAtDepth_on 0 path ⟨data, []⟩ sink
  rw [hon] at hfull hpass
  generalize engine.dialogue 0 path ⟨data, []⟩ = d at hfull hpass hcuts
  simp only [Dialogue.onStage, Dialogue.run_buffer, Shared.on] at hfull hpass
  rw [hfull]
  refine ⟨fun hn => ?_, fun hn => ?_⟩ <;> simp only at hn
  · have hrun : d.run (.limited n) = (d.result, (Sink.limited n).after (Offer.allTaken d.offers)) :=
      d.run_within n [] (by simpa using hn)
    rw [hpass, hrun]
    exact ⟨rfl, by simp, rfl⟩
  · obtain ⟨cut, refused, ⟨houtcome, hjournal⟩, hrun⟩ := hcuts.run_beyond n [] (Nat.zero_le n) (by simpa using hn)
    have hrun' : d.run (.limited n) = (cut, (Sink.limited n).after
      (Offer.allTaken (d.offers.take n) ++ [⟨refused, false⟩])) := hrun
    have hdiagnostics : cut.2.journal.diagnostics <+: d.result.2.journal.diagnostics := hjournal.filterMap _
    have hregions : cut.2.journal.regions <+: d.result.2.journal.regions := hjournal.filterMap _
    rw [hpass, hrun']
    refine ⟨by rw [houtcome]; rfl, by simp, by simp [Sink.output], ?_, ?_⟩
    · simpa [Journal.diagnostics] using hdiagnostics
    · simpa [Journal.regions] using hregions

end Engine

/-! ## A letter -/

namespace Demo

/-- The text of a letter, with what its letterhead puts below. -/
def memoPage : Page where
  path := "/memo"
  layout := some "letterhead"
  program := Script.program do
    Script.writeText "memo"
    Script.define "Foot" (.ofContent (.ofText "foot"))

def letterhead : Page where
  path := "/letterhead"
  layout := none
  program := Script.program do
    Script.renderBody
    let _ ← Script.renderSection "Foot"
    Script.renderPartial "signature"

def signature : Page where
  path := "/signature"
  layout := none
  program := Script.program (Script.writeText "signed")

def letters : Engine :=
  ⟨⟨[("/memo", memoPage), ("/letterhead", letterhead), ("/signature", signature)]⟩, ⟨1, false, 1⟩⟩

theorem letters_propagates : letters.Propagates := by
  have hwrite (markup : String) : (Script.writeText markup).program.Propagates :=
    .op (by rintro _ ⟨⟩; rfl) nofun fun _ => .done _
  intro page hpage
  obtain ⟨key, hmem⟩ := hpage.entry
  simp only [letters, List.mem_cons, List.not_mem_nil, or_false, Prod.mk.injEq] at hmem
  rcases hmem with ⟨-, rfl⟩ | ⟨-, rfl⟩ | ⟨-, rfl⟩
  · refine Script.propagates_bind (hwrite _) fun _ => .op nofun ?_ fun _ => .done _
    rintro _ _ ⟨⟩
    exact Renderer.propagates_ofContent _
  · refine Script.propagates_bind ?_ fun _ => Script.propagates_bind ?_ fun _ => ?_
    all_goals exact .op (by rintro _ ⟨⟩; rfl) nofun fun _ => .done _
  · exact hwrite _

end Demo

/-- A sink that takes two writes cuts the letter off before its signature. -/
theorem Engine.renderWithData_letters :
    let pass := Demo.letters.renderWithData "/memo" (.limited 2) .empty
    Demo.letters.Propagates ∧ pass.result = .error .sinkClosed ∧
      pass.sink.writes = (Demo.letters.renderWithData "/memo" .buffer .empty).sink.writes.take 2 := by
  obtain ⟨-, hcut⟩ := renderWithData_limited Demo.letters_propagates "/memo" .empty 2
  obtain ⟨hresult, hwrites, -⟩ := hcut (by decide +kernel)
  exact ⟨Demo.letters_propagates, hresult, hwrites⟩

end Folio
