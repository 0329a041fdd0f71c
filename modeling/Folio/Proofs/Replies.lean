import Folio.Proofs.Usage
/-!
# What a composer replies

A call to a composer comes back with a reply, and it leaves the child as it was but for a count of how
often each renderer was called. `child_after` says that this count is exact: after any calls, a
renderer was called once for each of them that asks for its section, whatever came of it. With it,
`renderSection_after_found` and `renderSection_after_missing` say what a request for a section comes to
after any calls.

Reports of regions are not among the calls, as they change neither the composer nor the sink.
-/

namespace Folio

/-! ## Counted calls -/

/-- The section after calls, each of which calls its renderer once if it asks for it. -/
def Section.calledBy (calls : List Composer.Call) (s : Section) : Section :=
  { s with calls := s.calls + calls.countP (·.renders s.key) }

theorem Section.calledBy_nil (s : Section) : s.calledBy [] = s := rfl

theorem Section.calledBy_append (calls more : List Composer.Call) (s : Section) :
    s.calledBy (calls ++ more) = (s.calledBy calls).calledBy more := by
  simp only [calledBy, List.countP_append, Nat.add_assoc]
  rfl

namespace Registry

def calledBy (calls : List Composer.Call) (r : Registry) : Registry :=
  .ofSections (r.sections.map (Section.calledBy calls))

variable (r : Registry)

theorem sections_calledBy (calls : List Composer.Call) :
    (r.calledBy calls).sections = r.sections.map (Section.calledBy calls) := rfl

theorem calledBy_append (calls more : List Composer.Call) :
    r.calledBy (calls ++ more) = (r.calledBy calls).calledBy more := by
  apply ext_sections
  rw [sections_calledBy, sections_calledBy, sections_calledBy, List.map_map]
  exact List.map_congr_left fun s _ => s.calledBy_append calls more

theorem find?_calledBy (calls : List Composer.Call) (name : String) :
    (r.calledBy calls).find? name = (r.find? name).map (Section.calledBy calls) := by
  rw [find?_eq, find?_eq, sections_calledBy, List.find?_map]
  rfl

theorem keys_calledBy (calls : List Composer.Call) : (r.calledBy calls).keys = r.keys := by
  rw [keys, keys, sections_calledBy, List.map_map]
  rfl

theorem calledBy_nil : r.calledBy [] = r := by
  apply ext_sections
  rw [sections_calledBy]
  exact (List.map_congr_left fun s _ => s.calledBy_nil).trans (List.map_id _)

theorem mem_keys_iff (name : String) : Text.fold name ∈ r.keys ↔ ∃ s, r.find? name = some s := by
  rw [← has_iff, ← isSome_find?, Option.isSome_iff_exists]

/-- Calls that ask for none of the sections call no renderer. -/
theorem calledBy_of_none {call : Composer.Call} (h : ∀ key ∈ r.keys, call.renders key = false) :
    r.calledBy [call] = r := by
  apply ext_sections
  rw [sections_calledBy]
  refine (List.map_congr_left fun s hs => ?_).trans (List.map_id _)
  have hs : call.renders s.key = false := h s.key (List.mem_map_of_mem hs)
  simp [Section.calledBy, hs]

theorem calledBy_renderSection {name : String} (hn : name ≠ "") (required : Bool) (sink : Sink) :
    r.calledBy [.renderSection name required sink] = r.countCall (Text.fold name) := by
  apply ext_sections
  refine List.map_congr_left fun s _ => ?_
  by_cases hk : s.key = Text.fold name
  · simp [Section.calledBy, Composer.Call.renders, Composer.Call.leads, hn, hk]
  · simp [Section.calledBy, Composer.Call.renders, Composer.Call.leads, hk, Ne.symm hk]

end Registry

def Child.calledBy (calls : List Composer.Call) (child : Child) : Child :=
  { child with sections := child.sections.calledBy calls }

/-! ## Replies -/

namespace Composer

/-- What a call comes back with. A call that was given a sink hands it back. -/
inductive Reply where
  | body (result : Except Error Content)
  | defined (result : Except Error Bool)
  | pulled (result : Except Error (Option Content)) (sink : Sink)
  | setAside (result : Except Error Unit)
  | done

def reply (c : Composer) : Call → Reply
  | .renderBody => .body c.renderBody.1
  | .ignoreBody => .done
  | .isSectionDefined name => .defined (c.isSectionDefined name)
  | .renderSection name required sink =>
    let pull := c.renderSection name required sink
    .pulled pull.result pull.sink
  | .ignoreSection name => .setAside (c.ignoreSection name).1
  | .check => .done

/-- What calls come back with and what they report, one after the other. -/
def replies (c : Composer) : List Call → List (Reply × Journal)
  | [] => []
  | call :: calls => (c.reply call, (c.call call).2) :: (c.call call).1.replies calls

/-- The call with another sink to write into, if it writes. -/
def Call.into (sink : Sink) : Call → Call
  | .renderSection name required _ => .renderSection name required sink
  | call => call

/-- The sink after calls that are all given the same one. -/
def sinkAfter (c : Composer) (sink : Sink) : List Call → Sink
  | [] => sink
  | call :: calls =>
    let after := match c.reply (call.into sink) with
      | .pulled _ sink => sink
      | _ => sink
    (c.call (call.into sink)).1.sinkAfter after calls

theorem sinkAfter_cons (c : Composer) (sink : Sink) (call : Call) (calls : List Call) :
    c.sinkAfter sink (call :: calls) = (c.call (call.into sink)).1.sinkAfter (c.sinkAfter sink [call]) calls := rfl

/-- One of the calls asks for a section of that name, in whatever spelling. -/
def Asked (calls : List Call) (name : String) : Prop :=
  ∃ earlier required sink, .renderSection earlier required sink ∈ calls ∧ Text.fold earlier = Text.fold name

variable {c : Composer}

theorem renderSection_refused {name : String} {e : Error} (h : c.sectionsFor "render_section" name = .error e)
    (required : Bool) (sink : Sink) : c.renderSection name required sink = ⟨.error e, c, sink, []⟩ := by
  simp [renderSection, h]

theorem paths_call (c : Composer) (call : Call) :
    (c.call call).1.template = c.template ∧ (c.call call).1.view = c.view := by
  cases call with
  | renderBody =>
    simp only [Composer.call, Composer.renderBody]
    split <;> exact ⟨rfl, rfl⟩
  | renderSection name required sink =>
    simp only [Composer.call, Composer.renderSection]
    split
    · exact ⟨rfl, rfl⟩
    · split <;> exact ⟨rfl, rfl⟩
  | ignoreSection name =>
    simp only [Composer.call, Composer.ignoreSection]
    split
    · exact ⟨rfl, rfl⟩
    · split <;> exact ⟨rfl, rfl⟩
  | _ => exact ⟨rfl, rfl⟩

/-- A call changes nothing about the child but how often renderers were called. -/
theorem child_call (c : Composer) (call : Call) : (c.call call).1.child = c.child.map (Child.calledBy [call]) := by
  have hquiet (h : ∀ key, call.renders key = false) : c.child.map (Child.calledBy [call]) = c.child := by
    cases c.child with
    | none => rfl
    | some child => simp [Child.calledBy, child.sections.calledBy_of_none fun key _ => h key]
  cases call with
  | renderSection name required sink =>
    cases hchild : c.child with
    | none =>
      simp only [Composer.call, renderSection_refused (sectionsFor_of_no_child hchild _ name), hchild]
      rfl
    | some child =>
      obtain ⟨sections, body⟩ := child
      by_cases hn : name = ""
      · rw [← hchild, hquiet fun key => by simp [Call.renders, Call.leads, hn]]
        simp only [Composer.call, renderSection_refused (c.sectionsFor_unnamed _ hn)]
      · cases hs : sections.find? name with
        | some s =>
          have hkey : s.key = Text.fold name := by
            rw [Registry.find?_eq] at hs
            simpa using List.find?_some hs
          simp only [Composer.call, renderSection_found hchild hn hs, Option.map_some, Child.calledBy, hkey,
            sections.calledBy_renderSection hn]
        | none =>
          have hnone : ∀ key ∈ sections.keys, Call.renders key (.renderSection name required sink) = false := by
            intro key hkey
            have hnot : Text.fold name ∉ sections.keys := by
              rw [sections.mem_keys_iff, hs]
              simp
            have hne : Text.fold name ≠ key := fun he => hnot (he ▸ hkey)
            simp [Call.renders, Call.leads, hne]
          simp only [Composer.call, renderSection_missing hchild hn hs, hchild, Option.map_some, Child.calledBy,
            sections.calledBy_of_none hnone]
  | renderBody =>
    rw [hquiet fun _ => rfl]
    simp only [Composer.call, Composer.renderBody]
    split <;> rfl
  | ignoreSection name =>
    rw [hquiet fun _ => rfl]
    simp only [Composer.call, Composer.ignoreSection]
    split
    · rfl
    · split <;> rfl
  | _ =>
    rw [hquiet fun _ => rfl]
    rfl

/-- After any calls, each renderer was called once for every call that asks for its section. -/
theorem child_after (c : Composer) (calls : List Call) :
    (c.after calls).child = c.child.map (Child.calledBy calls) := by
  induction calls generalizing c with
  | nil =>
    change c.child = _
    cases c.child with
    | none => rfl
    | some child => simp only [Option.map_some, Child.calledBy, Registry.calledBy_nil]
  | cons call calls ih =>
    have hafter : c.after (call :: calls) = (c.call call).1.after calls := rfl
    rw [hafter, ih, child_call, Option.map_map]
    congr 1
    funext child
    simp only [Function.comp, Child.calledBy, ← Registry.calledBy_append, List.singleton_append]

theorem paths_after (c : Composer) (calls : List Call) :
    (c.after calls).template = c.template ∧ (c.after calls).view = c.view := by
  induction calls generalizing c with
  | nil => exact ⟨rfl, rfl⟩
  | cons call calls ih =>
    obtain ⟨htemplate, hview⟩ := c.paths_call call
    obtain ⟨htemplate', hview'⟩ := ih (c.call call).1
    exact ⟨htemplate'.trans htemplate, hview'.trans hview⟩

/-! ## Sections that are asked for -/

theorem any_renders_iff {name : String} (hn : name ≠ "") (calls : List Call) :
    calls.any (·.renders (Text.fold name)) = true ↔ Asked calls name := by
  rw [List.any_eq_true]
  constructor
  · rintro ⟨call, hmem, h⟩
    cases call with
    | renderSection earlier required sink =>
      exact ⟨earlier, required, sink, hmem, (Call.leads_fold_iff hn earlier).1 h⟩
    | _ => simp [Call.renders] at h
  · rintro ⟨earlier, required, sink, hmem, h⟩
    exact ⟨_, hmem, (Call.leads_fold_iff hn earlier).2 h⟩

variable (template view : String) {r : Registry} (body : Option Content) (traced : Bool) (before : List Call)

/-- What a request for a defined section leads to, after any calls. -/
theorem renderSection_after_found {name : String} (hn : name ≠ "") {s : Section} (hs : r.find? name = some s)
    (required : Bool) (sink : Sink) :
    let ran := (s.renderer (s.calls + before.countP (·.renders s.key) + 1)).run sink
    let pull := ((forLayout template view ⟨r, body⟩ traced).after before).renderSection name required sink
    pull.result = (ran.1.map fun _ => some .empty) ∧ pull.sink = ran.2 ∧
      pull.events =
        (if before.any (·.renders (Text.fold name)) then [.warned (.sectionAlreadyRendered template name)] else []) ++
          [.pulled name template] := by
  intro ran pull
  have hchild := child_after (forLayout template view ⟨r, body⟩ traced) before
  have htemplate := (paths_after (forLayout template view ⟨r, body⟩ traced) before).1
  obtain ⟨-, haccounts⟩ := after_accounts template view r body traced before
  have hfind : (r.calledBy before).find? name = some (s.calledBy before) := by
    rw [Registry.find?_calledBy, hs]
    rfl
  have hkey : Text.fold name ∈ r.keys := (r.mem_keys_iff name).2 ⟨s, hs⟩
  have hrendered : Text.fold name ∈ ((forLayout template view ⟨r, body⟩ traced).after before).usage.rendered ↔
      before.any (·.renders (Text.fold name)) = true := by
    rw [haccounts.rendered]
    exact and_iff_right hkey
  have hpull := renderSection_found hchild hn hfind required sink
  simp only [hrendered, htemplate] at hpull
  exact ⟨congrArg Pull.result hpull, congrArg Pull.sink hpull, congrArg Pull.events hpull⟩

/-- A request for a section that is not defined leads to nothing, after any calls: what was rendered is
defined, so there is no warning either. -/
theorem renderSection_after_missing {name : String} (hn : name ≠ "") (hkey : Text.fold name ∉ r.keys)
    (required : Bool) (sink : Sink) :
    let c := (forLayout template view ⟨r, body⟩ traced).after before
    c.renderSection name required sink =
      ⟨if required then .error (.sectionNotDefined name template view) else .ok none, c, sink, []⟩ := by
  intro c
  have hchild := child_after (forLayout template view ⟨r, body⟩ traced) before
  obtain ⟨htemplate, hview⟩ := paths_after (forLayout template view ⟨r, body⟩ traced) before
  obtain ⟨-, haccounts⟩ := after_accounts template view r body traced before
  have hfind : (r.calledBy before).find? name = none := by
    rw [Registry.find?_eq_none_iff, Registry.has_iff, Registry.keys_calledBy]
    exact hkey
  have hrendered : Text.fold name ∉ c.usage.rendered := by
    rw [haccounts.rendered]
    exact fun h => hkey h.1
  have hundefined : c.undefined name = .sectionNotDefined name template view := by
    rw [undefined, htemplate, hview]
    rfl
  rw [renderSection_missing hchild hn hfind, if_neg hrendered, hundefined]

end Composer
end Folio
