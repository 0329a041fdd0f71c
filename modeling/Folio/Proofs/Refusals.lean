import Folio.Proofs.Replies
/-!
# Calls that are declined

A call for a section is refused if it gives no name, if the page is nobody's layout, and, where the
section is needed, if the child does not define it; a call for the body is refused if there is none.
`refusals_exact` says that nothing else is, whatever was called before, but for the errors that
renderers end with themselves; and that a call that is declined leaves no trace.

These errors of renderers are of any kind (`renderer_argument`), so the kind of an error alone does not
tell that a call was refused.
-/

namespace Folio
namespace Composer

/-- The composer of a page that runs on behalf of `child`, or of one that is nobody's layout. -/
def started (template view : String) (child : Option Child) (traced : Bool) : Composer :=
  match child with
  | none => unbound template view traced
  | some child => forLayout template view child traced

/-! ## Refusals -/

/-- A name of no section that the child defines. -/
def Missing (child : Option Child) (name : String) : Prop :=
  name ≠ "" ∧ ∃ bound, child = some bound ∧ Text.fold name ∉ bound.sections.keys

/-- The error with which an operation on a section is refused. -/
inductive Refusal (template view : String) (child : Option Child) (operation name : String) (needed : Bool) :
    Error → Prop where
  | unnamed (h : name = "") : Refusal template view child operation name needed (.argument "name")
  | unbound (hn : name ≠ "") (h : child = none) :
    Refusal template view child operation name needed (.invalidState operation template)
  | undefined (hneeded : needed = true) (h : Missing child name) :
    Refusal template view child operation name needed (.sectionNotDefined name template view)

/-- The renderer of the section ends with an error, when it is called after calls. -/
def Failing (child : Option Child) (before : List Call) (name : String) (sink : Sink) (e : Error) : Prop :=
  name ≠ "" ∧ ∃ bound s, child = some bound ∧ bound.sections.find? name = some s ∧
    ((s.renderer (s.calls + before.countP (·.renders s.key) + 1)).run sink).1 = .error e

/-- The call is refused, or asks for an optional section that is missing. -/
inductive Declined (template view : String) (child : Option Child) : Call → Prop where
  | renderBody (h : child.bind (·.body) = none) : Declined template view child .renderBody
  | isSectionDefined {name : String} {e : Error}
    (h : Refusal template view child "is_section_defined" name false e) :
    Declined template view child (.isSectionDefined name)
  | renderSection {name : String} {required : Bool} {e : Error} (sink : Sink)
    (h : Refusal template view child "render_section" name required e) :
    Declined template view child (.renderSection name required sink)
  | optional {name : String} (sink : Sink) (h : Missing child name) :
    Declined template view child (.renderSection name false sink)
  | ignoreSection {name : String} {e : Error} (h : Refusal template view child "ignore_section" name true e) :
    Declined template view child (.ignoreSection name)

variable {template view : String} {child : Option Child} {traced : Bool} {before : List Call}

theorem refusal_iff {operation name : String} {needed : Bool} {e : Error} :
    Refusal template view child operation name needed e ↔
      name = "" ∧ e = .argument "name" ∨ name ≠ "" ∧ child = none ∧ e = .invalidState operation template ∨
        needed = true ∧ Missing child name ∧ e = .sectionNotDefined name template view := by
  constructor
  · intro h
    cases h with
    | unnamed hn => exact .inl ⟨hn, rfl⟩
    | unbound hn hc => exact .inr (.inl ⟨hn, hc, rfl⟩)
    | undefined hneeded hm => exact .inr (.inr ⟨hneeded, hm, rfl⟩)
  · rintro (⟨hn, rfl⟩ | ⟨hn, hc, rfl⟩ | ⟨hneeded, hm, rfl⟩)
    · exact .unnamed hn
    · exact .unbound hn hc
    · exact .undefined hneeded hm

/-! A refusal that does not depend on whether the section is needed is early. -/

theorem Refusal.early_or_missing {operation name : String} {needed : Bool} {e : Error}
    (h : Refusal template view child operation name needed e) :
    Refusal template view child operation name false e ∨
      Missing child name ∧ e = .sectionNotDefined name template view := by
  cases h with
  | unnamed hn => exact .inl (.unnamed hn)
  | unbound hn hc => exact .inl (.unbound hn hc)
  | undefined _ hm => exact .inr ⟨hm, rfl⟩

theorem Refusal.needed {operation name : String} {e : Error}
    (h : Refusal template view child operation name false e) (needed : Bool) :
    Refusal template view child operation name needed e := by
  cases h with
  | unnamed hn => exact .unnamed hn
  | unbound hn hc => exact .unbound hn hc
  | undefined hneeded => cases hneeded

theorem not_missing_of_found {name : String} {bound : Child} {s : Section}
    (hs : bound.sections.find? name = some s) : ¬ Missing (some bound) name := by
  rintro ⟨-, bound', hc, hkey⟩
  cases hc
  exact hkey ((bound.sections.mem_keys_iff name).2 ⟨s, hs⟩)

theorem not_early {operation name : String} {bound : Child} (hn : name ≠ "") (e : Error) :
    ¬ Refusal template view (some bound) operation name false e := by
  intro h
  cases h with
  | unnamed hempty => exact hn hempty
  | unbound _ hc => cases hc
  | undefined hneeded => cases hneeded

theorem not_refused_of_found {operation name : String} {needed : Bool} {bound : Child} {s : Section} (hn : name ≠ "")
    (hs : bound.sections.find? name = some s) (e : Error) :
    ¬ Refusal template view (some bound) operation name needed e := by
  intro h
  rcases h.early_or_missing with hearly | ⟨hm, -⟩
  · exact not_early hn e hearly
  · exact not_missing_of_found hs hm

theorem Refusal.unique {operation name : String} {needed needed' : Bool} {e e' : Error}
    (h : Refusal template view child operation name needed e)
    (h' : Refusal template view child operation name needed' e') : e = e' := by
  cases h with
  | unnamed hn =>
    cases h' with
    | unnamed => rfl
    | unbound hn' => exact absurd hn hn'
    | undefined _ hm => exact absurd hn hm.1
  | unbound hn hc =>
    cases h' with
    | unnamed hn' => exact absurd hn' hn
    | unbound => rfl
    | undefined _ hm =>
      obtain ⟨-, bound, rfl, -⟩ := hm
      cases hc
  | undefined hneeded hm =>
    obtain ⟨hn, bound, rfl, -⟩ := hm
    cases h' with
    | unnamed hn' => exact absurd hn' hn
    | unbound _ hc => cases hc
    | undefined => rfl

/-! ## Errors after any calls -/

theorem paths_started_after :
    ((started template view child traced).after before).template = template ∧
      ((started template view child traced).after before).view = view := by
  obtain ⟨htemplate, hview⟩ := paths_after (started template view child traced) before
  rw [htemplate, hview]
  cases child <;> exact ⟨rfl, rfl⟩

theorem sectionsFor_after (operation name : String) :
    ((started template view child traced).after before).sectionsFor operation name =
      if name = "" then .error (.argument "name")
      else
        match child with
        | none => .error (.invalidState operation template)
        | some child => .ok (child.sections.calledBy before) := by
  have hchild := child_after (started template view child traced) before
  cases child with
  | none =>
    rw [sectionsFor_of_no_child hchild, needsChild, paths_started_after.1]
    split <;> rfl
  | some child => exact sectionsFor_of_child hchild operation name

theorem sectionsFor_error_iff {operation name : String} {e : Error} :
    ((started template view child traced).after before).sectionsFor operation name = .error e ↔
      Refusal template view child operation name false e := by
  rw [sectionsFor_after, refusal_iff]
  by_cases hn : name = ""
  · simp [hn, eq_comm]
  · cases child <;> simp [hn, eq_comm]

theorem isSectionDefined_error_iff {name : String} {e : Error} :
    ((started template view child traced).after before).isSectionDefined name = .error e ↔
      Refusal template view child "is_section_defined" name false e := by
  let c := (started template view child traced).after before
  have hmap : c.isSectionDefined name = .error e ↔ c.sectionsFor "is_section_defined" name = .error e := by
    unfold isSectionDefined
    cases c.sectionsFor "is_section_defined" name <;> simp [Except.map]
  exact hmap.trans sectionsFor_error_iff

theorem undefined_after (name : String) :
    ((started template view child traced).after before).undefined name = .sectionNotDefined name template view := by
  rw [undefined, paths_started_after.1, paths_started_after.2]

theorem ignoreSection_refused {name : String} {e : Error}
    (h : Refusal template view child "ignore_section" name true e) :
    let c := (started template view child traced).after before
    c.ignoreSection name = (.error e, c) := by
  intro c
  unfold ignoreSection
  rcases h.early_or_missing with hearly | ⟨⟨hn, bound, rfl, hkey⟩, rfl⟩
  · rw [sectionsFor_error_iff.2 hearly]
  · have hnot : ¬ (bound.sections.calledBy before).has name = true := by
      rw [Registry.has_iff, Registry.keys_calledBy]
      exact hkey
    rw [sectionsFor_after, if_neg hn, undefined_after]
    exact if_neg hnot

theorem ignoreSection_error_iff {name : String} {e : Error} :
    (((started template view child traced).after before).ignoreSection name).1 = .error e ↔
      Refusal template view child "ignore_section" name true e := by
  constructor
  · intro h
    by_cases hn : name = ""
    · rw [ignoreSection_refused (.unnamed hn)] at h
      cases h
      exact .unnamed hn
    · cases child with
      | none =>
        rw [ignoreSection_refused (.unbound hn rfl)] at h
        cases h
        exact .unbound hn rfl
      | some bound =>
        have hmissing : Missing (some bound) name := by
          refine ⟨hn, bound, rfl, fun hkey => ?_⟩
          rw [← bound.sections.keys_calledBy before, ← Registry.has_iff] at hkey
          unfold ignoreSection at h
          rw [sectionsFor_after, if_neg hn] at h
          simp [hkey] at h
        rw [ignoreSection_refused (.undefined rfl hmissing)] at h
        cases h
        exact .undefined rfl hmissing
  · exact fun h => congrArg Prod.fst (ignoreSection_refused h)

/-- A request for a section in one of three cases: it is refused early, the section is missing, or its
renderer is called. -/
theorem pull_cases (template view : String) (child : Option Child) (traced : Bool) (before : List Call)
    (name : String) :
    let c := (started template view child traced).after before
    (∃ e, Refusal template view child "render_section" name false e ∧
        ∀ required sink, c.renderSection name required sink = ⟨.error e, c, sink, []⟩) ∨
      (Missing child name ∧ ∀ required sink, c.renderSection name required sink =
        ⟨if required then .error (.sectionNotDefined name template view) else .ok none, c, sink, []⟩) ∨
      ∃ bound s, name ≠ "" ∧ child = some bound ∧ bound.sections.find? name = some s ∧
        ∀ required sink, (c.renderSection name required sink).result =
          ((s.renderer (s.calls + before.countP (·.renders s.key) + 1)).run sink).1.map fun _ => some .empty := by
  intro c
  have hearly {e : Error} (h : Refusal template view child "render_section" name false e) :
      ∀ required sink, c.renderSection name required sink = ⟨.error e, c, sink, []⟩ :=
    renderSection_refused (sectionsFor_error_iff.2 h)
  by_cases hn : name = ""
  · exact .inl ⟨_, .unnamed hn, hearly (.unnamed hn)⟩
  · cases child with
    | none => exact .inl ⟨_, .unbound hn rfl, hearly (.unbound hn rfl)⟩
    | some bound =>
      obtain ⟨sections, body⟩ := bound
      by_cases hkey : Text.fold name ∈ sections.keys
      · obtain ⟨s, hs⟩ := (sections.mem_keys_iff name).1 hkey
        exact .inr (.inr ⟨_, s, hn, rfl, hs, fun required sink =>
          (renderSection_after_found template view body traced before hn hs required sink).1⟩)
      · exact .inr (.inl ⟨⟨hn, _, rfl, hkey⟩,
          renderSection_after_missing template view body traced before hn hkey⟩)

theorem renderSection_error_iff {name : String} {required : Bool} {sink : Sink} {e : Error} :
    (((started template view child traced).after before).renderSection name required sink).result = .error e ↔
      Refusal template view child "render_section" name required e ∨ Failing child before name sink e := by
  rcases pull_cases template view child traced before name with
    ⟨e', hearly, hpull⟩ | ⟨hm, hpull⟩ | ⟨bound, s, hn, rfl, hs, hpull⟩
  · -- Refused early: no renderer is called.
    rw [hpull]
    constructor
    · rintro ⟨⟩
      exact .inl (hearly.needed required)
    · rintro (h | ⟨hn, bound, s, rfl, -⟩)
      · rw [hearly.unique h]
      · exact absurd hearly (not_early hn e')
  · -- Missing: an error if the section is required.
    obtain ⟨hn, bound, rfl, hkey⟩ := hm
    have hmissing : Missing (some bound) name := ⟨hn, bound, rfl, hkey⟩
    rw [hpull]
    constructor
    · intro h
      cases required with
      | false => cases h
      | true =>
        cases h
        exact .inl (.undefined rfl hmissing)
    · rintro (h | ⟨-, bound', s, hc, hs, -⟩)
      · cases h with
        | unnamed hempty => exact absurd hempty hn
        | unbound _ hc => cases hc
        | undefined hneeded => rw [hneeded]; rfl
      · cases hc
        exact absurd hmissing (not_missing_of_found hs)
  · -- Called: the outcome is the renderer's.
    rw [hpull]
    constructor
    · intro h
      refine .inr ⟨hn, bound, s, rfl, hs, ?_⟩
      revert h
      cases ((s.renderer (s.calls + before.countP (·.renders s.key) + 1)).run sink).1 <;> simp [Except.map]
    · rintro (h | ⟨-, bound', s', hc, hs', he⟩)
      · exact absurd h (not_refused_of_found hn hs e)
      · cases hc
        obtain rfl : s = s' := Option.some.inj (hs.symm.trans hs')
        rw [he]
        rfl

theorem renderSection_none_iff {name : String} {required : Bool} {sink : Sink} :
    (((started template view child traced).after before).renderSection name required sink).result = .ok none ↔
      required = false ∧ Missing child name := by
  rcases pull_cases template view child traced before name with
    ⟨e, hearly, hpull⟩ | ⟨hm, hpull⟩ | ⟨bound, s, hn, rfl, hs, hpull⟩
  · rw [hpull]
    constructor
    · rintro ⟨⟩
    · rintro ⟨-, hn, bound, rfl, -⟩
      exact absurd hearly (not_early hn e)
  · rw [hpull]
    cases required with
    | false => exact iff_of_true rfl ⟨rfl, hm⟩
    | true => exact iff_of_false (by simp) (by simp)
  · rw [hpull]
    constructor
    · cases ((s.renderer (s.calls + before.countP (·.renders s.key) + 1)).run sink).1 <;> simp [Except.map]
    · exact fun h => absurd h.2 (not_missing_of_found hs)

theorem body_after : ((started template view child traced).after before).child.bind (·.body) = child.bind (·.body) := by
  rw [child_after]
  cases child <;> rfl

theorem renderBody_refused (h : child.bind (·.body) = none) :
    let c := (started template view child traced).after before
    c.renderBody = (.error (.invalidState "render_body" template), c) := by
  intro c
  have hbody : c.child.bind (·.body) = none := body_after.trans h
  unfold renderBody
  rw [hbody, needsChild, paths_started_after.1]

theorem renderBody_error_iff {e : Error} :
    ((started template view child traced).after before).renderBody.1 = .error e ↔
      child.bind (·.body) = none ∧ e = .invalidState "render_body" template := by
  cases hbody : child.bind (·.body) with
  | none =>
    rw [renderBody_refused hbody]
    simp [eq_comm]
  | some content =>
    have hafter : ((started template view child traced).after before).child.bind (·.body) = some content :=
      body_after.trans hbody
    unfold renderBody
    rw [hafter]
    simp

/-! ## Declined calls -/

theorem Declined.into {call : Call} (h : Declined template view child call) (sink : Sink) :
    Declined template view child (call.into sink) := by
  cases h with
  | renderSection _ h => exact .renderSection sink h
  | optional _ h => exact .optional sink h
  | renderBody h => exact .renderBody h
  | isSectionDefined h => exact .isSectionDefined h
  | ignoreSection h => exact .ignoreSection h

/-- A request for a section that is declined hands back the composer and the sink as they are. -/
theorem pull_declined (traced : Bool) (before : List Call) {name : String} {required : Bool} {given : Sink}
    (h : Declined template view child (.renderSection name required given)) :
    let c := (started template view child traced).after before
    ∃ result, ∀ sink, c.renderSection name required sink = ⟨result, c, sink, []⟩ := by
  intro c
  rcases pull_cases template view child traced before name with
    ⟨e, -, hpull⟩ | ⟨-, hpull⟩ | ⟨bound, s, hn, rfl, hs, -⟩
  · exact ⟨_, hpull required⟩
  · exact ⟨_, hpull required⟩
  · cases h with
    | renderSection _ h => exact absurd h (not_refused_of_found hn hs _)
    | optional _ h => exact absurd h (not_missing_of_found hs)

theorem call_declined {call : Call} (h : Declined template view child call) :
    let c := (started template view child traced).after before
    c.call call = (c, []) := by
  intro c
  cases call with
  | renderSection name required sink =>
    obtain ⟨result, hpull⟩ := pull_declined traced before h
    simp only [Composer.call, c, hpull]
  | renderBody =>
    cases h with
    | renderBody hbody => simp only [Composer.call, c, renderBody_refused hbody]
  | ignoreSection name =>
    cases h with
    | ignoreSection hrefusal => simp only [Composer.call, c, ignoreSection_refused hrefusal]
  | isSectionDefined name => rfl
  | _ => cases h

theorem sinkAfter_declined {call : Call} (h : Declined template view child call) (sink : Sink) :
    ((started template view child traced).after before).sinkAfter sink [call] = sink := by
  cases call with
  | renderSection name required given =>
    obtain ⟨result, hpull⟩ := pull_declined traced before h
    simp only [sinkAfter, Call.into, reply, hpull]
  | _ => rfl

/-- After any calls, these are the calls that end with an error, and with which; a call that is declined
leaves the composer and the sink as they are, reports nothing, and every later call comes to what it
would have come to without it. -/
theorem refusals_exact (template view : String) (child : Option Child) (traced : Bool) (before : List Call) :
    let c := (started template view child traced).after before
    (∀ name e, c.isSectionDefined name = .error e ↔ Refusal template view child "is_section_defined" name false e) ∧
      (∀ name e, (c.ignoreSection name).1 = .error e ↔ Refusal template view child "ignore_section" name true e) ∧
      (∀ name required sink e, (c.renderSection name required sink).result = .error e ↔
        Refusal template view child "render_section" name required e ∨ Failing child before name sink e) ∧
      (∀ name required sink, (c.renderSection name required sink).result = .ok none ↔
        required = false ∧ Missing child name) ∧
      (∀ e, c.renderBody.1 = .error e ↔
        child.bind (·.body) = none ∧ e = .invalidState "render_body" template) ∧
      ∀ call, Declined template view child call →
        c.call call = (c, []) ∧ (∀ more, c.replies (call :: more) = (c.reply call, []) :: c.replies more) ∧
          ∀ sink more, c.sinkAfter sink (call :: more) = c.sinkAfter sink more := by
  intro c
  refine ⟨fun name e => isSectionDefined_error_iff, fun name e => ignoreSection_error_iff,
    fun name required sink e => renderSection_error_iff, fun name required sink => renderSection_none_iff,
    fun e => renderBody_error_iff, fun call h => ?_⟩
  have hcall : c.call call = (c, []) := call_declined h
  refine ⟨hcall, fun more => ?_, fun sink more => ?_⟩
  · rw [replies, hcall]
  · have hinto : c.call (call.into sink) = (c, []) := call_declined (h.into sink)
    rw [sinkAfter_cons, hinto, sinkAfter_declined h]

/-- A section of the name `a` may end with the error that the empty name is refused with. -/
theorem renderer_argument :
    let failing : Section := ⟨"a", fun _ => .done (.error (.argument "name")), 0⟩
    let c := (started "/_layout" "/index" (some ⟨.ofSections [failing], none⟩) false).after []
    ¬ ((∃ parameter, (c.renderSection "a" true .buffer).result = .error (.argument parameter)) ↔ "a" = "") := by
  intro failing c h
  have hfind : (Registry.ofSections [failing]).find? "a" = some failing := by
    rw [Registry.find?_eq]
    exact List.find?_cons_of_pos (decide_eq_true rfl)
  have hfails : (c.renderSection "a" true .buffer).result = .error (.argument "name") :=
    renderSection_error_iff.2 (.inr ⟨by decide, _, failing, rfl, hfind, rfl⟩)
  exact absurd (h.1 ⟨_, hfails⟩) (by decide)

end Composer
end Folio
