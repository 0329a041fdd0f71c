import Folio.Proofs.SinkUse
import Folio.Proofs.Work
/-!
# The limit on layouts is exact

A view is rendered only if its chain ends after at most as many layouts as the limit says. Where
nothing else goes wrong, this is enough; and a chain that goes on runs exactly as many pages as the
limit says before the view fails.

`Leads` follows a chain without asking where it ends. `leads_reaches` takes the machine along it,
and both halves of `renderAtDepth_limit` start from there.
-/

namespace Folio

namespace Catalog

variable {c : Catalog} {first next last : Page} {inner pages : List Page}

/-- The layouts of a chain lead from its first page through `pages` to another one. -/
inductive Leads (c : Catalog) : Page → List Page → Page → Prop
  | here {page} : Leads c page [] page
  | link {page next last pages reference target} : page.layout = some reference →
      Path.resolve page.path reference = .ok target → c.find? target = some next → Leads c next pages last →
      Leads c page (page :: pages) last

/-- Every reference to a layout along the chain of a page resolves to a registered page. -/
def Unbroken (c : Catalog) (first : Page) : Prop :=
  ∀ pages page reference, c.Leads first pages page → page.layout = some reference →
    ∃ target next, Path.resolve page.path reference = .ok target ∧ c.find? target = some next

theorem Chain.leads (h : c.Chain first inner last) : c.Leads first inner last := by
  induction h with
  | last _ => exact .here
  | link hl hr hf _ ih => exact .link hl hr hf ih

/-- A page has at most one chain. -/
theorem Chain.unique {inner' : List Page} {last' : Page} (h : c.Chain first inner last)
    (h' : c.Chain first inner' last') : inner = inner' ∧ last = last' := by
  induction h generalizing inner' with
  | last hn =>
    cases h' with
    | last _ => exact ⟨rfl, rfl⟩
    | link hl _ _ _ => simp [hn] at hl
  | link hl hr hf _ ih =>
    cases h' with
    | last hn => simp [hn] at hl
    | link hl' hr' hf' hrest =>
      obtain rfl := next_unique hl hr hf hl' hr' hf'
      obtain ⟨rfl, rfl⟩ := ih hrest
      exact ⟨rfl, rfl⟩

/-- An unbroken chain that does not end within a number of links has a page with a layout after them. -/
theorem Unbroken.leads_of_longer (n : Nat) : ∀ {first : Page}, c.Unbroken first →
    (∀ inner last, c.Chain first inner last → n < inner.length) →
    ∃ pages page layout, c.Leads first pages page ∧ pages.length = n ∧ page.layoutPath = .ok (some layout) := by
  induction n with
  | zero =>
    intro first hunbroken hlonger
    cases hl : first.layout with
    | none => simpa using hlonger [] first (.last hl)
    | some reference =>
      obtain ⟨target, next, hr, -⟩ := hunbroken [] first reference .here hl
      exact ⟨[], first, target, .here, rfl, layoutPath_eq_some.2 ⟨reference, hl, hr⟩⟩
  | succ n ih =>
    intro first hunbroken hlonger
    cases hl : first.layout with
    | none => simpa using hlonger [] first (.last hl)
    | some reference =>
      obtain ⟨target, next, hr, hf⟩ := hunbroken [] first reference .here hl
      have hrest : c.Unbroken next := fun pages page reference hleads =>
        hunbroken _ page reference (.link hl hr hf hleads)
      obtain ⟨pages, page, layout, hleads, hlen, hp⟩ := ih hrest fun inner last hc => by
        simpa using hlonger _ last (.link hl hr hf hc)
      exact ⟨first :: pages, page, layout, .link hl hr hf hleads, by simp [hlen], hp⟩

theorem Chain.unbroken (h : c.Chain first inner last) : c.Unbroken first := by
  intro pages page reference hleads
  induction hleads generalizing inner with
  | here =>
    intro hl
    cases h with
    | last hn => simp [hn] at hl
    | link hl' hr hf _ =>
      obtain rfl := Option.some.inj (hl.symm.trans hl')
      exact ⟨_, _, hr, hf⟩
  | link hl hr hf _ ih =>
    cases h with
    | last hn => simp [hn] at hl
    | link hl' hr' hf' hrest =>
      obtain rfl := next_unique hl hr hf hl' hr' hf'
      exact ih hrest

theorem Cyclic.unbroken (h : c.Cyclic first) : c.Unbroken first := by
  obtain ⟨cycle, hfirst, hcycle⟩ := h
  intro pages page reference hleads
  induction hleads with
  | here =>
    intro hl
    obtain ⟨reference', target, next, hl', hr, hf, -⟩ := hcycle _ hfirst
    obtain rfl := Option.some.inj (hl.symm.trans hl')
    exact ⟨target, next, hr, hf⟩
  | link hl hr hf _ ih =>
    obtain ⟨reference', target', next', hl', hr', hf', hnext⟩ := hcycle _ hfirst
    obtain rfl := next_unique hl hr hf hl' hr' hf'
    exact ih hnext

end Catalog

/-! ## The pages that a chain runs -/

/-- The paths of the pages that ran at a depth, in order. -/
def Journal.pagesAt (depth : Nat) (j : Journal) : List String := (j.pages.filter (·.2 = depth)).map (·.1)

@[simp] theorem Journal.pagesAt_append (depth : Nat) (j k : Journal) :
    pagesAt depth (j ++ k) = pagesAt depth j ++ pagesAt depth k := by
  simp [pagesAt]

/-- Partials, which are rendered deeper, run no page at a depth. -/
theorem Program.pagesAt_run {α : Type} {partials : PartialRenderer} {depth : Nat}
    (hp : ∀ target stage, (partials target stage).2.journal.pagesAt depth = stage.journal.pagesAt depth)
    (path : String) (p : Program α) : ∀ f : Frame,
      (p.run (Frame.perform path partials) f).2.stage.journal.pagesAt depth = f.stage.journal.pagesAt depth := by
  induction p with
  | done a => intro f; rfl
  | op o next ih =>
    intro f
    rw [run, ih]
    cases o with
    | renderPartial reference =>
      simp only [Frame.perform]
      split
      · rfl
      · exact hp _ _
    | _ => rw [Journal.pagesAt, Frame.pages_perform rfl, Journal.pagesAt]

theorem Page.pagesAt_finish {partials : PartialRenderer} {depth : Nat}
    (hp : ∀ target stage, (partials target stage).2.journal.pagesAt depth = stage.journal.pagesAt depth)
    (page : Page) (composer : Composer) (stage : Stage) :
    (page.finish composer partials depth stage).2.finished.journal.pagesAt depth =
      stage.journal.pagesAt depth ++ [page.path] := by
  have hreport (ds : List Diagnostic) : Journal.pagesAt depth (ds.map .warned) = [] := by
    rw [Journal.pagesAt, Journal.pages_warned]; rfl
  simp only [Frame.finished, Stage.report, Journal.pagesAt_append, hreport, List.append_nil, finish]
  rw [page.program.pagesAt_run hp]
  simp [start, Stage.report, Journal.pagesAt, Journal.pages]

/-- No page ends with an error right now. -/
def Control.goesOn : Control → Bool
  | .run _ _ _ (.done (.error _)) => false
  | _ => true

namespace Engine

variable (engine : Engine)

theorem pagesAt_renderAtDepth {depth deeper : Nat} (h : depth < deeper) (path : String) (stage : Stage) :
    (engine.renderAtDepth deeper path stage).2.journal.pagesAt depth = stage.journal.pagesAt depth := by
  have hnone : (engine.record deeper path stage).pagesAt depth = [] := by
    rw [Journal.pagesAt, List.map_eq_nil_iff, List.filter_eq_nil_iff]
    intro entry hentry
    have hdeep := (engine.record_depths deeper path stage entry hentry).1
    simp only [decide_eq_true_eq]
    omega
  rw [journal_renderAtDepth, Journal.pagesAt_append, hnone, List.append_nil]

/-- No page of the chain that starts in a state ends with an error. Pages of partials in it may. -/
def NoPageFails (start : Machine) : Prop :=
  ∀ t wrap frame e, ¬ engine.Reaches start ⟨.run t wrap frame (.done (.error e)), start.hosts⟩

/-- Whether pages fail is settled by running the machine. -/
theorem noPageFails_of_checks {engine : Engine} {start : Machine} (n : Nat)
    (h : engine.checks (fun s => s.control.goesOn) n start = true) : engine.NoPageFails start := by
  intro t wrap frame e hr
  have hcheck := engine.check_of_reaches _ hr n h
  simp [Control.goesOn] at hcheck

variable {engine}

/-- The machine gets along the layouts of a chain within the limit, and runs each page on the way. -/
theorem leads_reaches {depth : Nat} {view : String} {hosts : List Host} {first next : Page} {pages : List Page}
    (h : engine.catalog.Leads first pages next) : ∀ (layouts : Nat) (child : Option Child) (stage : Stage),
      layouts + pages.length ≤ engine.options.maxLayoutDepth →
      engine.NoPageFails ⟨.turn ⟨depth, view, layouts, first⟩ child stage, hosts⟩ →
      ∃ child' after, engine.Reaches ⟨.turn ⟨depth, view, layouts, first⟩ child stage, hosts⟩
          ⟨.turn ⟨depth, view, layouts + pages.length, next⟩ child' after, hosts⟩ ∧
        after.journal.pagesAt depth = stage.journal.pagesAt depth ++ pages.map (·.path) := by
  induction h with
  | here => exact fun layouts child stage _ _ => ⟨child, stage, .refl, by simp⟩
  | @link page next last pages reference target hl hr hf _ ih =>
    intro layouts child stage hm hfails
    have hp := Catalog.layoutPath_eq_some.2 ⟨reference, hl, hr⟩
    have hg : engine.catalog.get target = .ok next := by rw [engine.catalog.get_layoutPath hp, hf]
    simp only [List.length_cons] at hm
    have hdone := inner_reaches_done hosts (t := ⟨depth, view, layouts, page⟩)
      (engine.renderAtDepth_returns (depth + 1)) hp (show layouts < _ by omega) child stage
    have hpages := page.pagesAt_finish
      (fun target stage => engine.pagesAt_renderAtDepth (Nat.lt_succ_self depth) target stage)
      (Composer.forPage page view child engine.options.traceRegions) { stage with sink := .buffer }
    generalize page.finish _ _ depth { stage with sink := .buffer } = ran at hdone hpages
    obtain ⟨outcome, frame⟩ := ran
    cases outcome with
    | error e => exact absurd hdone (hfails _ _ _ e)
    | ok u =>
      -- The layout starts with the count of the layouts before it, and its run is part of this one.
      have hnext := hdone.trans (reaches_next hosts ⟨target, stage.sink⟩ hg _ frame)
      obtain ⟨child', after, hreach, hafter⟩ := ih (layouts + 1) _ _ (by omega)
        fun t wrap frame e hr => hfails t wrap frame e (hnext.trans hr)
      refine ⟨child', after, ?_, ?_⟩
      · rw [show layouts + (page :: pages).length = layouts + 1 + pages.length by simp; omega]
        exact hnext.trans hreach
      · rw [hafter]
        simp [hpages]

/-! ## Rendering within the limit -/

variable (engine)

theorem chain_of_renderAtDepth_ok {depth : Nat} {path : String} {stage : Stage}
    (h : (engine.renderAtDepth depth path stage).1 = .ok ()) :
    ∃ view first inner last, Path.normalize path = .ok view ∧ engine.catalog.find? view = some first ∧
      engine.catalog.Chain first inner last ∧ inner.length ≤ engine.options.maxLayoutDepth := by
  rw [renderAtDepth_eq] at h
  split at h
  · simp at h
  · next a after ha =>
    obtain ⟨-, hv, first, inner, hf, hc, hk, -⟩ := engine.approach_eq_ok_iff.1 ha
    exact ⟨a.view, first, inner, a.last, hv, hf, hc, hk⟩

theorem renderAtDepth_too_deep {depth : Nat} {path view : String} (hd : engine.options.maxLayoutDepth < depth)
    (hv : Path.normalize path = .ok view) (stage : Stage) :
    engine.renderAtDepth depth path stage = (.error (engine.tooDeep view), stage) := by
  rw [renderAtDepth_eq_chain, hv]
  simp only [hd, if_true]

section Renders

variable {engine} {depth : Nat} {path view : String} {first : Page} (stage : Stage)
  (hd : depth ≤ engine.options.maxLayoutDepth) (hv : Path.normalize path = .ok view)
  (hf : engine.catalog.find? view = some first) (hfails : engine.NoPageFails ⟨.enter depth path stage, []⟩)

include hd hv hf hfails

/-- The machine gets from the view to a page along its chain, where no page fails. -/
theorem enter_reaches_turn {next : Page} {pages : List Page} (h : engine.catalog.Leads first pages next)
    (hm : pages.length ≤ engine.options.maxLayoutDepth) :
    ∃ child after, engine.Reaches ⟨.enter depth path stage, []⟩
        ⟨.turn ⟨depth, view, pages.length, next⟩ child after, []⟩ ∧
      after.journal.pagesAt depth = stage.journal.pagesAt depth ++ pages.map (·.path) := by
  have hg : engine.catalog.get view = .ok first := by
    rw [engine.catalog.get_of_normalized (Path.normalize_normalize hv), hf]
  have henter : engine.Reaches ⟨.enter depth path stage, []⟩ ⟨.turn ⟨depth, view, 0, first⟩ none stage, []⟩ := by
    rw [← engine.openView_of_get hv hd hg]
    exact .single rfl
  obtain ⟨child, after, hreach, hafter⟩ := leads_reaches h 0 none stage (by omega)
    fun t wrap frame e hr => hfails t wrap frame e (henter.trans hr)
  rw [Nat.zero_add] at hreach
  exact ⟨child, after, henter.trans hreach, hafter⟩

theorem renderAtDepth_ok_of_chain {last : Page} {inner : List Page} (hc : engine.catalog.Chain first inner last)
    (hm : inner.length ≤ engine.options.maxLayoutDepth) :
    (engine.renderAtDepth depth path stage).1 = .ok () ∧
      (engine.record depth path stage).pagesAt depth = (inner ++ [last]).map (·.path) := by
  obtain ⟨child, after, hreach, hafter⟩ := enter_reaches_turn stage hd hv hf hfails hc.leads hm
  have hp := Catalog.layoutPath_eq_none.2 hc.layout_last
  have hdone := (hreach.trans (reaches_last [] hp child after)).trans
    (reaches_done [] (engine.renderAtDepth_returns (depth + 1)) none last.program _)
  have hpages := last.pagesAt_finish
    (fun target stage => engine.pagesAt_renderAtDepth (Nat.lt_succ_self depth) target stage)
    (Composer.forPage last view child engine.options.traceRegions) after
  rw [Page.finish] at hpages
  simp only [startFrame] at hdone
  generalize last.program.run _ _ = ran at hdone hpages
  obtain ⟨outcome, frame⟩ := ran
  cases outcome with
  | error e => exact absurd hdone (hfails _ _ _ e)
  | ok u =>
    have hends : engine.renderAtDepth depth path stage =
        (.ok (), frame.finished.report (last.leftover frame.sections)) :=
      engine.renderAtDepth_eq_of_reaches (hdone.tail rfl)
    have hjournal := congrArg (Journal.pagesAt depth) (engine.journal_renderAtDepth depth path stage)
    have hleft : (last.leftover frame.sections).pagesAt depth = [] := by
      rw [Journal.pagesAt, Page.pages_leftover]; rfl
    have hlast : (frame.finished.report (last.leftover frame.sections)).journal.pagesAt depth =
        after.journal.pagesAt depth ++ [last.path] := by
      rw [Stage.report, Journal.pagesAt_append, hleft, List.append_nil, hpages]
    rw [hends] at hjournal ⊢
    rw [hlast, hafter, Journal.pagesAt_append, List.append_assoc] at hjournal
    exact ⟨rfl, by rw [← (List.append_right_inj _).1 hjournal]; simp⟩

theorem renderAtDepth_too_long (hunbroken : engine.catalog.Unbroken first)
    (hlonger : ∀ inner last, engine.catalog.Chain first inner last → engine.options.maxLayoutDepth < inner.length) :
    (engine.renderAtDepth depth path stage).1 = .error (engine.tooDeep view) ∧
      ∃ pages next, engine.catalog.Leads first pages next ∧ pages.length = engine.options.maxLayoutDepth ∧
        (engine.record depth path stage).pagesAt depth = pages.map (·.path) := by
  obtain ⟨pages, next, layout, hleads, hlen, hp⟩ := hunbroken.leads_of_longer _ hlonger
  obtain ⟨child, after, hreach, hafter⟩ := enter_reaches_turn stage hd hv hf hfails hleads (Nat.le_of_eq hlen)
  have hbeyond := reaches_beyond [] (t := ⟨depth, view, pages.length, next⟩) hp (Nat.le_of_eq hlen.symm) child after
  have hends := engine.renderAtDepth_eq_of_reaches (hreach.trans hbeyond)
  have hjournal := congrArg (Journal.pagesAt depth) (engine.journal_renderAtDepth depth path stage)
  rw [hends] at hjournal ⊢
  rw [hafter, Journal.pagesAt_append] at hjournal
  exact ⟨rfl, pages, next, hleads, hlen, ((List.append_right_inj _).1 hjournal).symm⟩

end Renders

/-- A view is rendered only along a chain that ends within the limit on layouts. Where every layout of
the chain is registered and none of its pages fails, a chain that ends within the limit is rendered, by
all its pages, and one that ends later or never fails after as many of its pages as the limit says. At a
depth above the limit no page runs. -/
theorem renderAtDepth_limit (depth : Nat) (path : String) (stage : Stage) :
    let limit := engine.options.maxLayoutDepth
    let result := (engine.renderAtDepth depth path stage).1
    let ran := (engine.record depth path stage).pagesAt depth
    (result = .ok () → ∃ view first inner last, Path.normalize path = .ok view ∧
      engine.catalog.find? view = some first ∧ engine.catalog.Chain first inner last ∧ inner.length ≤ limit) ∧
    (∀ view first, depth ≤ limit → Path.normalize path = .ok view → engine.catalog.find? view = some first →
      engine.catalog.Unbroken first → engine.NoPageFails ⟨.enter depth path stage, []⟩ →
      (∀ inner last, engine.catalog.Chain first inner last → inner.length ≤ limit →
        result = .ok () ∧ ran = (inner ++ [last]).map (·.path)) ∧
      ((∃ inner last, engine.catalog.Chain first inner last ∧ limit < inner.length) ∨
          (¬ ∃ inner last, engine.catalog.Chain first inner last) →
        result = .error (.layoutDepthExceeded view limit) ∧
          ∃ pages next, engine.catalog.Leads first pages next ∧ pages.length = limit ∧
            ran = pages.map (·.path))) ∧
    ∀ view, limit < depth → Path.normalize path = .ok view →
      engine.renderAtDepth depth path stage = (.error (.layoutDepthExceeded view limit), stage) := by
  intro limit result ran
  refine ⟨engine.chain_of_renderAtDepth_ok, ?_, fun view hd hv => engine.renderAtDepth_too_deep hd hv stage⟩
  intro view first hd hv hf hunbroken hfails
  refine ⟨fun inner last hc hm => renderAtDepth_ok_of_chain stage hd hv hf hfails hc hm, fun hlong => ?_⟩
  refine renderAtDepth_too_long stage hd hv hf hfails hunbroken fun inner last hc => ?_
  rcases hlong with ⟨inner', last', hc', hm⟩ | hnever
  · rwa [(hc.unique hc').1]
  · exact absurd ⟨inner, last, hc⟩ hnever

end Engine

/-! ## A ring of two layouts -/

namespace Demo

/-- Two pages, each the layout of the other. -/
def ringPage (path layout : String) : Page := ⟨path, some layout, .op .ignoreBody fun _ => .done (.ok ())⟩

def plainPage : Page := ⟨"/plain", none, .done (.ok ())⟩

def ring : Engine :=
  ⟨⟨[("/left", ringPage "/left" "right"), ("/right", ringPage "/right" "left"), ("/plain", plainPage)]⟩,
    ⟨3, false, 1⟩⟩

theorem ring_cyclic : ring.catalog.Cyclic (ringPage "/left" "right") := by
  refine ⟨fun page => page = ringPage "/left" "right" ∨ page = ringPage "/right" "left", .inl rfl, ?_⟩
  rintro page (rfl | rfl)
  · exact ⟨_, _, _, rfl, rfl, rfl, .inr rfl⟩
  · exact ⟨_, _, _, rfl, rfl, rfl, .inl rfl⟩

theorem ring_chain : ring.catalog.Chain plainPage [] plainPage := .last rfl

end Demo

/-- Where the limit is three, a view on a ring of two layouts fails after three pages, and at the depth
of four it fails at once; a page without a layout is rendered. -/
theorem Engine.renderAtDepth_ring :
    let stage : Stage := ⟨.buffer, .empty, []⟩
    let left := Demo.ringPage "/left" "right"
    Demo.ring.catalog.Unbroken left ∧ Demo.ring.NoPageFails ⟨.enter 0 "~/left" stage, []⟩ ∧
      (¬ ∃ inner last, Demo.ring.catalog.Chain left inner last) ∧
      (Demo.ring.renderAtDepth 0 "~/left" stage).1 = .error (.layoutDepthExceeded "/left" 3) ∧
      (∃ pages : List Page, pages.length = 3 ∧
        (Demo.ring.record 0 "~/left" stage).pagesAt 0 = pages.map (·.path)) ∧
      Demo.ring.renderAtDepth 4 "~/left" stage = (.error (.layoutDepthExceeded "/left" 3), stage) ∧
      (Demo.ring.renderAtDepth 0 "plain" stage).1 = .ok () ∧
      (Demo.ring.record 0 "plain" stage).pagesAt 0 = ["/plain"] := by
  intro stage left
  have hnever : ¬ ∃ inner last, Demo.ring.catalog.Chain left inner last :=
    fun ⟨_, _, hc⟩ => Demo.ring_cyclic.not_chain hc
  have hleft : Demo.ring.NoPageFails ⟨.enter 0 "~/left" stage, []⟩ :=
    noPageFails_of_checks 20 (by decide +kernel)
  have hplain : Demo.ring.NoPageFails ⟨.enter 0 "plain" stage, []⟩ :=
    noPageFails_of_checks 20 (by decide +kernel)
  obtain ⟨-, hring, -⟩ := renderAtDepth_limit Demo.ring 0 "~/left" stage
  obtain ⟨hresult, pages, -, -, hlen, hran⟩ :=
    (hring "/left" left (by decide) (by rfl) (by rfl) Demo.ring_cyclic.unbroken hleft).2 (.inr hnever)
  obtain ⟨-, -, hdeep⟩ := renderAtDepth_limit Demo.ring 4 "~/left" stage
  obtain ⟨-, hview, -⟩ := renderAtDepth_limit Demo.ring 0 "plain" stage
  obtain ⟨hok, hone⟩ := (hview "/plain" Demo.plainPage (by decide) (by decide +kernel) (by rfl)
    Demo.ring_chain.unbroken hplain).1 [] Demo.plainPage Demo.ring_chain (by decide)
  exact ⟨Demo.ring_cyclic.unbroken, hleft, hnever, hresult, ⟨pages, hlen, hran⟩, hdeep "/left" (by decide) (by rfl),
    hok, hone⟩

end Folio
