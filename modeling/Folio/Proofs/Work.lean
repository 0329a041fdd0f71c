import Mathlib.Algebra.BigOperators.Intervals
import Mathlib.Algebra.BigOperators.Ring.Finset
import Mathlib.Tactic.Ring
import Folio.Proofs.Moves
/-!
# How much a pass does

A pass ends, whatever the catalog: neither cycles of layouts nor partials that render themselves
keep it going, and its two counters stay within one of the limit. The journal has an entry for each
page that runs, with its depth. A chain records its own pages at its own depth and those of partials
deeper, so counting entries counts the pages of a chain, or of the whole pass (`countPages_renderAtDepth`,
for the entries of any kind).
-/

namespace Folio

/-- The number of pages of some kind that ran. -/
def Journal.countPages (kind : String × Nat → Bool) (j : Journal) : Nat := j.pages.countP kind

@[simp] theorem Journal.countPages_append (kind : String × Nat → Bool) (j k : Journal) :
    countPages kind (j ++ k) = countPages kind j + countPages kind k := by
  simp [countPages]

/-- The number of partials that a page renders when it runs from a frame. -/
def Page.partialCount (page : Page) (partials : PartialRenderer) (frame : Frame) : Nat :=
  (page.program.steps (Frame.perform page.path partials) frame).countP (·.op.isPartial)

/-! ## Pages -/

theorem Composer.pages_openRegion (c : Composer) (position length : Nat) (isLiteral : Bool) :
    (c.openRegion position length isLiteral).pages = [] := by
  unfold openRegion; split <;> rfl

theorem Composer.pages_closeRegion (c : Composer) : c.closeRegion.pages = [] := by
  unfold closeRegion; split <;> rfl

theorem Composer.pages_renderSection (c : Composer) (name : String) (required : Bool) (sink : Sink) :
    (c.renderSection name required sink).events.pages = [] := by
  unfold renderSection
  split
  · rfl
  · dsimp only
    by_cases h : Text.fold name ∈ c.usage.rendered
    · rw [if_pos h]; split <;> rfl
    · rw [if_neg h]; split <;> rfl

theorem Journal.pages_warned (ds : List Diagnostic) : pages (ds.map .warned) = [] := by
  simp [pages, List.filterMap_map]

theorem Page.pages_leftover (page : Page) (sections : Registry) : (page.leftover sections).pages = [] := by
  unfold leftover; split <;> rfl

/-- Apart from partials, nothing that a page does runs a page. -/
theorem Frame.pages_perform {o : Op} (ho : o.isPartial = false) (path : String) (partials : PartialRenderer)
    (f : Frame) : (perform path partials o f).2.stage.journal.pages = f.stage.journal.pages := by
  cases o with
  | renderPartial reference => simp [Op.isPartial] at ho
  | writeAt position markup =>
    simp [perform, Stage.write, Stage.report, Composer.pages_openRegion, Composer.pages_closeRegion]
  | openRegion position length isLiteral => simp [perform, Stage.report, Composer.pages_openRegion]
  | closeRegion => simp [perform, Stage.report, Composer.pages_closeRegion]
  | define name renderer => simp only [perform]; split <;> rfl
  | renderBody => simp only [perform]; split <;> rfl
  | renderSection name required => simp [perform, Stage.report, Composer.pages_renderSection]
  | note text => simp [perform, Stage.report, Journal.pages]
  | _ => rfl

section Counts

variable {kind : String × Nat → Bool} {partials : PartialRenderer} {w : Nat}

theorem Frame.countPages_perform
    (hp : ∀ target stage, (partials target stage).2.journal.countPages kind ≤ stage.journal.countPages kind + w)
    (path : String) (o : Op) (f : Frame) :
    (perform path partials o f).2.stage.journal.countPages kind ≤
      f.stage.journal.countPages kind + if o.isPartial then w else 0 := by
  by_cases ho : o.isPartial = true
  · cases o with
    | renderPartial reference =>
      simp only [perform, ho, if_true]
      split
      · exact Nat.le_add_right _ _
      · exact hp _ _
    | _ => simp [Op.isPartial] at ho
  · rw [Bool.not_eq_true] at ho
    simp [Journal.countPages, pages_perform ho, ho]

/-- A run adds at most what each partial in it adds. -/
theorem Program.countPages_run {α : Type}
    (hp : ∀ target stage, (partials target stage).2.journal.countPages kind ≤ stage.journal.countPages kind + w)
    (path : String) (p : Program α) : ∀ f : Frame,
      (p.run (Frame.perform path partials) f).2.stage.journal.countPages kind ≤
        f.stage.journal.countPages kind + w * (p.steps (Frame.perform path partials) f).countP (·.op.isPartial) := by
  induction p with
  | done a => intro f; simp [run, steps]
  | op o next ih =>
    intro f
    have hstep := Frame.countPages_perform hp path o f
    have hrest := ih (Frame.perform path partials o f).1 (Frame.perform path partials o f).2
    simp only [run, steps, List.countP_cons]
    by_cases ho : o.isPartial = true
    · simp only [ho, if_true, Nat.mul_add, Nat.mul_one] at hstep ⊢
      omega
    · simp only [ho, Bool.false_eq_true, if_false, Nat.add_zero] at hstep ⊢
      omega

/-- A page adds itself and what its partials add. -/
theorem Page.countPages_execute
    (hp : ∀ target stage, (partials target stage).2.journal.countPages kind ≤ stage.journal.countPages kind + w)
    (page : Page) (composer : Composer) (depth : Nat) (stage : Stage) :
    (page.execute composer partials depth stage).2.journal.countPages kind ≤
      stage.journal.countPages kind + (if kind (page.path, depth) then 1 else 0) +
        w * page.partialCount partials (page.start composer depth stage) := by
  have hrun := page.program.countPages_run hp page.path (page.start composer depth stage)
  have hstart : (page.start composer depth stage).stage.journal.countPages kind =
      stage.journal.countPages kind + if kind (page.path, depth) then 1 else 0 := by
    simp [start, Stage.report, Journal.countPages, Journal.pages, List.countP_cons]
  rw [hstart] at hrun
  simp only [execute_eq_finish, finish, partialCount]
  generalize page.program.run _ _ = ran at hrun ⊢
  obtain ⟨outcome, frame⟩ := ran
  cases outcome with
  | error e => exact hrun
  | ok u => simpa [Frame.finished, Stage.report, Journal.countPages, Journal.pages_warned] using hrun

end Counts

namespace Engine

variable (engine : Engine)

/-- A page is registered in the catalog. -/
def Registered (page : Page) : Prop := ∃ key, engine.catalog.find? key = some page

/-- No page renders more than `bound` partials when it runs. -/
def PartialsAtMost (bound : Nat) : Prop :=
  ∀ page, engine.Registered page → ∀ depth frame, page.partialCount (engine.renderAtDepth depth) frame ≤ bound

theorem registered_of_get {path : String} {page : Page} (h : engine.catalog.get path = .ok page) :
    engine.Registered page := by
  unfold Catalog.get at h
  split at h
  · cases h
  · next key _ =>
    split at h
    · next hf => cases h; exact ⟨key, hf⟩
    · cases h

variable {engine} in
theorem Registered.entry {page : Page} (h : engine.Registered page) : ∃ key, (key, page) ∈ engine.catalog.entries := by
  obtain ⟨key, hkey⟩ := h
  obtain ⟨entry, hentry, rfl⟩ := Option.map_eq_some_iff.1 hkey
  exact ⟨entry.1, List.mem_of_find?_eq_some hentry⟩

section Counts

variable {kind : String × Nat → Bool} {partials : PartialRenderer} {depth w b : Nat}

/-- A chain adds at most what each of its pages adds: one page, and one for each layout that may follow. -/
theorem countPages_chain
    (hb : ∀ page, engine.Registered page → ∀ composer stage,
      (page.execute composer partials depth stage).2.journal.countPages kind ≤ stage.journal.countPages kind + b)
    (view : String) : ∀ links page child stage, engine.Registered page →
      (engine.chain view partials depth links page child stage).2.journal.countPages kind ≤
        stage.journal.countPages kind + (links + 1) * b := by
  intro links
  induction links using Nat.strongRecOn with
  | ind links ih =>
    intro page child stage hpage
    -- This page takes one of the `links + 1` shares, the rest of the chain the others.
    have hone : b ≤ (links + 1) * b := Nat.le_mul_of_pos_left b (by omega)
    rw [chain]
    cases page.layoutPath with
    | error e => exact Nat.le_add_right _ _
    | ok layout =>
      cases layout with
      | none =>
        have h := hb page hpage (Composer.forPage page view child engine.options.traceRegions) stage
        simp only
        generalize page.execute _ partials depth stage = ran at h ⊢
        obtain ⟨outcome, after⟩ := ran
        cases outcome with
        | error e => simp only at h ⊢; omega
        | ok sections =>
          have hleft : Journal.countPages kind (page.leftover sections) = 0 := by
            rw [Journal.countPages, page.pages_leftover]; rfl
          simp only [Stage.report, Journal.countPages_append, hleft] at h ⊢
          omega
      | some layout =>
        cases links with
        | zero => exact Nat.le_add_right _ _
        | succ links =>
          have h := hb page hpage (Composer.forPage page view child engine.options.traceRegions)
            { stage with sink := .buffer }
          simp only
          generalize page.execute _ partials depth { stage with sink := .buffer } = ran at h ⊢
          obtain ⟨outcome, after⟩ := ran
          cases outcome with
          | error e => simp only at h ⊢; omega
          | ok sections =>
            cases hg : engine.catalog.get layout with
            | error e => simp only at h ⊢; omega
            | ok next =>
              have hrest := ih links (by omega) next (some (childOf sections after.sink.output))
                { after with sink := stage.sink } (engine.registered_of_get hg)
              simp only [Nat.add_mul, Nat.one_mul] at h hrest ⊢
              omega

/-- What a pass adds, where a partial adds at most `w` and a page with its partials at most `b`. -/
theorem countPages_renderAtDepth (kind : String × Nat → Bool)
    (hw : depth ≤ engine.options.maxLayoutDepth → ∀ target stage,
      (engine.renderAtDepth (depth + 1) target stage).2.journal.countPages kind ≤ stage.journal.countPages kind + w)
    (hb : depth ≤ engine.options.maxLayoutDepth → ∀ page, engine.Registered page → ∀ frame,
      (if kind (page.path, depth) then 1 else 0) +
        w * page.partialCount (engine.renderAtDepth (depth + 1)) frame ≤ b)
    (path : String) (stage : Stage) :
    (engine.renderAtDepth depth path stage).2.journal.countPages kind ≤
      stage.journal.countPages kind + (engine.options.maxLayoutDepth + 1) * b := by
  rw [renderAtDepth_eq_chain]
  cases Path.normalize path with
  | error e => exact Nat.le_add_right _ _
  | ok view =>
    by_cases hd : engine.options.maxLayoutDepth < depth
    · simp only [hd, if_true]; exact Nat.le_add_right _ _
    · simp only [hd, if_false]
      cases hg : engine.catalog.get view with
      | error e => exact Nat.le_add_right _ _
      | ok page =>
        refine engine.countPages_chain (fun page hpage composer stage => ?_) view _ page none stage
          (engine.registered_of_get hg)
        have hexec := page.countPages_execute (hw (by omega)) composer depth stage
        have hpart := hb (by omega) page hpage (page.start composer depth stage)
        omega

end Counts

/-! ## Passes -/

/-- All pages run at depths from that of the call up to the limit. -/
theorem record_depths (depth : Nat) (path : String) (stage : Stage) :
    ∀ entry ∈ (engine.record depth path stage).pages, depth ≤ entry.2 ∧ entry.2 ≤ engine.options.maxLayoutDepth := by
  -- Of the pages at other depths than these, no level adds any.
  have main : ∀ d, depth ≤ d → ∀ path stage,
      (engine.renderAtDepth d path stage).2.journal.countPages
        (fun entry => !decide (depth ≤ entry.2 ∧ entry.2 ≤ engine.options.maxLayoutDepth)) ≤
      stage.journal.countPages
        (fun entry => !decide (depth ≤ entry.2 ∧ entry.2 ≤ engine.options.maxLayoutDepth)) + 0 := by
    refine engine.renderAtDepth_induction fun d ih hd path stage => ?_
    refine engine.countPages_renderAtDepth (w := 0) (b := 0) _ (fun hm => ih hm (by omega))
      (fun hm page _ frame => ?_) path stage
    simp [hd, hm]
  have h := main depth (Nat.le_refl _) path { stage with journal := [] }
  have hzero : (engine.record depth path stage).pages.countP
      (fun entry => !decide (depth ≤ entry.2 ∧ entry.2 ≤ engine.options.maxLayoutDepth)) = 0 :=
    Nat.le_zero.1 h
  intro entry hentry
  simpa using List.countP_eq_zero.1 hzero entry hentry

/-- The pages of a chain are at most one more than the limit. -/
theorem countPages_own (depth : Nat) (path : String) (stage : Stage) :
    (engine.record depth path stage).countPages (fun entry => entry.2 = depth) ≤
      engine.options.maxLayoutDepth + 1 := by
  have hpartials : ∀ target stage, (engine.renderAtDepth (depth + 1) target stage).2.journal.countPages
      (fun entry => entry.2 = depth) ≤ stage.journal.countPages (fun entry => entry.2 = depth) + 0 := by
    intro target stage
    have hdeeper := engine.record_depths (depth + 1) target stage
    rw [journal_renderAtDepth, Journal.countPages_append]
    refine Nat.add_le_add_left (Nat.le_of_eq (List.countP_eq_zero.2 fun entry hentry => ?_)) _
    have := (hdeeper entry hentry).1
    simp only [decide_eq_true_eq]
    omega
  have h := engine.countPages_renderAtDepth (b := 1) _ (fun _ => hpartials) (fun _ page _ frame => by simp) path
    { stage with journal := [] }
  simpa [record, Journal.countPages, Journal.pages] using h

/-- The number of pages that a pass may run at a depth of nesting and below, where no page renders
more than `bound` partials. -/
def pagesFrom (limit bound depth : Nat) : Nat :=
  ∑ d ∈ Finset.range (limit + 1 - depth), (limit + 1) * ((limit + 1) * bound) ^ d

theorem pagesFrom_of_le {limit depth : Nat} (h : depth ≤ limit) (bound : Nat) :
    pagesFrom limit bound depth = (limit + 1) * (1 + pagesFrom limit bound (depth + 1) * bound) := by
  have hs : limit + 1 - depth = limit + 1 - (depth + 1) + 1 := by omega
  rw [pagesFrom, hs, Finset.sum_range_succ', pagesFrom, Finset.sum_mul, Nat.mul_add, Finset.mul_sum]
  rw [Nat.add_comm]
  congr 1
  refine Finset.sum_congr rfl fun d _ => ?_
  ring

/-- The pages that a pass runs, where no page renders more than `bound` partials. -/
theorem length_pages_le {bound : Nat} (hbound : engine.PartialsAtMost bound) (depth : Nat) (path : String)
    (stage : Stage) :
    (engine.record depth path stage).pages.length ≤ pagesFrom engine.options.maxLayoutDepth bound depth := by
  have main : ∀ depth path stage, (engine.renderAtDepth depth path stage).2.journal.countPages (fun _ => true) ≤
      stage.journal.countPages (fun _ => true) + pagesFrom engine.options.maxLayoutDepth bound depth := by
    refine engine.renderAtDepth_induction fun depth ih path stage => ?_
    by_cases hd : depth ≤ engine.options.maxLayoutDepth
    · rw [pagesFrom_of_le hd]
      refine engine.countPages_renderAtDepth _ ih (fun _ page hpage frame => ?_) path stage
      exact Nat.add_le_add_left (Nat.mul_le_mul_left _ (hbound page hpage _ frame)) _
    · -- Deeper than the limit no page runs.
      have hzero := engine.countPages_renderAtDepth (w := 0) (b := 0) (fun _ => true)
        (fun h => absurd h hd) (fun h => absurd h hd) path stage
      omega
  simpa [record, Journal.countPages, Journal.pages] using main depth path { stage with journal := [] }

end Engine

/-! ## Counters -/

/-- The counters of a page that runs are within the limit. -/
def Turn.Within (limit : Nat) (t : Turn) : Prop := t.depth ≤ limit ∧ t.layouts ≤ limit

/-- The counters of what is done next are within the limit, and one more where they are not yet held
against it. -/
def Control.Within (limit : Nat) : Control → Prop
  | .enter depth _ _ => depth ≤ limit + 1
  | .turn t _ _ | .run t _ _ _ => t.Within limit
  | .count t _ _ _ => t.depth ≤ limit ∧ t.layouts ≤ limit + 1
  | .leave _ _ => True

/-- The counters of a state are within the limit, but for one more in its control. -/
structure Machine.Within (limit : Nat) (s : Machine) : Prop where
  control : s.control.Within limit
  hosts : ∀ host ∈ s.hosts, host.turn.Within limit

theorem Machine.Within.counters_le {limit : Nat} {s : Machine} (h : s.Within limit) :
    ∀ n ∈ s.counters, n ≤ limit + 1 := by
  obtain ⟨control, hosts⟩ := s
  obtain ⟨hcontrol, hhosts⟩ := h
  intro n hn
  rcases List.mem_append.1 hn with hn | hn
  · cases control <;> simp [Turn.counters, Control.Within, Turn.Within] at hcontrol hn <;> omega
  · obtain ⟨host, hhost, hn⟩ := List.mem_flatMap.1 hn
    have hwithin := hhosts host hhost
    simp only [Turn.counters, Turn.Within, List.mem_cons, List.not_mem_nil, or_false] at hwithin hn
    omega

namespace Engine

variable (engine : Engine)

/-- Each step holds a counter against the limit before a page runs with it. -/
theorem within_step {s t : Machine} (h : s.Within engine.options.maxLayoutDepth) (hs : engine.step s = some t) :
    t.Within engine.options.maxLayoutDepth := by
  obtain ⟨hcontrol, hhosts⟩ := h
  cases move_of_step hs with
  | opened hv hd hg => exact ⟨⟨hd, Nat.zero_le _⟩, hhosts⟩
  | counted hl => exact ⟨⟨hcontrol.1, Nat.succ_le_succ hcontrol.2⟩, hhosts⟩
  | inner hm => exact ⟨⟨hcontrol.1, hm⟩, hhosts⟩
  | descended hr => exact ⟨Nat.succ_le_succ hcontrol.1, List.forall_mem_cons.2 ⟨hcontrol, hhosts⟩⟩
  | returned =>
    obtain ⟨hhost, hhosts⟩ := List.forall_mem_cons.1 hhosts
    exact ⟨hhost, hhosts⟩
  | last | unresolved | performed | followed => exact ⟨hcontrol, hhosts⟩
  | strayed | nested | missing | unled | exceeded | failed | concluded | unfollowed => exact ⟨trivial, hhosts⟩

theorem counters_le {s t : Machine} (h : s.Within engine.options.maxLayoutDepth) (hr : engine.Reaches s t) :
    ∀ n ∈ t.counters, n ≤ engine.options.maxLayoutDepth + 1 := by
  have hwithin : t.Within engine.options.maxLayoutDepth := by
    induction hr with
    | refl => exact h
    | tail _ hstep ih => exact engine.within_step ih hstep
  exact hwithin.counters_le

/-- Every pass ends. Its counters never exceed the limit by more than one, pages run at depths within
the limit only, a chain runs at most one page more than the limit, and the number of all pages is
bounded where that of partials in a page is. -/
theorem renderWithData_bounded (path : String) (sink : Sink) (data : PageData) :
    let limit := engine.options.maxLayoutDepth
    let start : Machine := ⟨.enter 0 path ⟨sink, data, []⟩, []⟩
    let pass := engine.renderWithData path sink data
    (∃ outcome stage, engine.Halts start outcome stage ∧
      pass = ⟨outcome.map fun _ => stage.data, stage.sink, stage.journal ++ [.passed outcome.isOk]⟩) ∧
    (∀ s, engine.Reaches start s → ∀ n ∈ s.counters, n ≤ limit + 1) ∧
    (∀ entry ∈ pass.journal.pages, entry.2 ≤ limit) ∧
    (∀ depth target stage, (engine.record depth target stage).countPages (fun entry => entry.2 = depth) ≤ limit + 1 ∧
      ∀ entry ∈ (engine.record depth target stage).pages, depth ≤ entry.2) ∧
    ∀ bound, engine.PartialsAtMost bound →
      pass.journal.pages.length ≤ ∑ d ∈ Finset.range (limit + 1), (limit + 1) * ((limit + 1) * bound) ^ d := by
  intro limit start pass
  have hpass : pass = _ := engine.renderWithData_eq path sink data
  have hpages : pass.journal.pages = (engine.record 0 path ⟨sink, data, []⟩).pages := by
    rw [hpass, Journal.pages_append]
    exact List.append_nil _
  refine ⟨⟨_, _, engine.renderAtDepth_halts 0 path ⟨sink, data, []⟩, hpass⟩, fun s hs => ?_, ?_, ?_, ?_⟩
  · exact engine.counters_le ⟨Nat.zero_le _, by simp [start]⟩ hs
  · rw [hpages]
    exact fun entry hentry => (engine.record_depths 0 path ⟨sink, data, []⟩ entry hentry).2
  · exact fun depth target stage => ⟨engine.countPages_own depth target stage,
      fun entry hentry => (engine.record_depths depth target stage entry hentry).1⟩
  · intro bound hbound
    rw [hpages]
    exact engine.length_pages_le hbound 0 path ⟨sink, data, []⟩

end Engine

/-! ## A page that meets itself -/

/-- A page that is its own layout and renders itself twice, whatever comes of it. -/
def Demo.mirrorPage : Page where
  path := "/mirror"
  layout := some "mirror"
  program := .op (.renderPartial "mirror") fun _ => .op (.renderPartial "mirror") fun _ => .done (.ok ())

/-- The engine of this page alone, with a limit of two. -/
def Demo.mirrors : Engine := ⟨⟨[("/mirror", mirrorPage)]⟩, ⟨2, false, 1⟩⟩

/-- A page that meets itself on every way is rendered in at most as many pages as its two partials allow. -/
theorem Engine.renderWithData_mirrors :
    Demo.mirrors.PartialsAtMost 2 ∧
      (Demo.mirrors.renderWithData "/mirror" .buffer .empty).journal.pages.length ≤ 3 + 3 * 6 + 3 * 6 ^ 2 := by
  have hbound : Demo.mirrors.PartialsAtMost 2 := by
    rintro page ⟨key, hkey⟩ depth frame
    obtain rfl : Demo.mirrorPage = page := by
      simp only [Catalog.find?, Demo.mirrors, List.find?_singleton] at hkey
      split at hkey <;> simp_all
    simp [Page.partialCount, Demo.mirrorPage, Program.steps, Op.isPartial]
  obtain ⟨-, -, -, -, h⟩ := Demo.mirrors.renderWithData_bounded "/mirror" .buffer .empty
  exact ⟨hbound, h 2 hbound⟩

end Folio
