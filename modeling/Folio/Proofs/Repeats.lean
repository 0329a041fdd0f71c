import Folio.Proofs.Dialogue
import Folio.Proofs.Replies
/-!
# Sections that are rendered again

A layout may render a section as often as it likes. Each time the renderer is called and writes into
the sink that the layout has at that time; from the second time on there is a warning, in the spelling
of the call. `repeats_warned` says this of a call after any others.
-/

namespace Folio

/-- A sink only grows while a renderer writes. -/
theorem Writer.run_prefix (w : Writer) (sink : Sink) : sink.writes <+: (w.run sink).2.writes := by
  rw [← Dialogue.run_ofWriter]
  obtain ⟨made, h⟩ := (Dialogue.ofWriter w).run_extends sink
  rw [h, Sink.writes_after]
  exact List.prefix_append _ _

namespace Registry

open Composer (Call)

/-- What the renderer does that a call gets to. -/
def writer? (r : Registry) : Call → Option Writer
  | .renderSection name _ _ => if name = "" then none else (r.find? name).map fun s => s.renderer (s.calls + 1)
  | _ => none

/-- What renderers do, one after the other, that calls get to. -/
def writers (r : Registry) : List Call → List Writer
  | [] => []
  | call :: calls => (r.writer? call).toList ++ (r.calledBy [call]).writers calls

theorem calledBy_into (r : Registry) (sink : Sink) (call : Call) : r.calledBy [call.into sink] = r.calledBy [call] := by
  cases call <;> rfl

end Registry

namespace Composer

variable {c : Composer} {template view name : String} {r : Registry} {body : Option Content} {traced : Bool}
  {before : List Call}

/-! ## The sink -/

/-- A call writes what the renderer does that it gets to, and nothing else. -/
theorem sinkAfter_call (h : c.child = some ⟨r, body⟩) (call : Call) (sink : Sink) :
    c.sinkAfter sink [call] = (r.writer? call).elim sink fun w => (w.run sink).2 := by
  cases call with
  | renderSection name required given =>
    simp only [sinkAfter, Call.into, reply, Registry.writer?]
    by_cases hn : name = ""
    · rw [renderSection_refused (c.sectionsFor_unnamed _ hn), if_pos hn]
      rfl
    · cases hs : r.find? name with
      | none => simp only [renderSection_missing h hn hs, if_neg hn, Option.map_none, Option.elim_none]
      | some s => simp only [renderSection_found h hn hs, if_neg hn, Option.map_some, Option.elim_some]
  | _ => rfl

/-- What calls write into one sink is what the renderers write that they get to, in the order of the calls. -/
theorem sinkAfter_eq (h : c.child = some ⟨r, body⟩) (calls : List Call) (sink : Sink) :
    c.sinkAfter sink calls = (r.writers calls).foldl (fun sink w => (w.run sink).2) sink := by
  induction calls generalizing c r sink with
  | nil => rfl
  | cons call calls ih =>
    have hchild : (c.call (call.into sink)).1.child = some ⟨r.calledBy [call], body⟩ := by
      rw [child_call, h, ← r.calledBy_into sink]
      rfl
    rw [sinkAfter_cons, ih hchild, sinkAfter_call h, Registry.writers, List.foldl_append]
    cases r.writer? call <;> rfl

theorem foldl_run_prefix (ws : List Writer) (sink : Sink) :
    sink.writes <+: (ws.foldl (fun sink w => (w.run sink).2) sink).writes := by
  induction ws generalizing sink with
  | nil => exact List.prefix_refl _
  | cons w ws ih => exact (w.run_prefix sink).trans (ih (w.run sink).2)

/-! ## The warning -/

/-- All that a request for a section warns of is that the section was asked for before. -/
theorem diagnostics_renderSection (required : Bool) (sink : Sink) :
    (((forLayout template view ⟨r, body⟩ traced).after before).renderSection name required sink).events.diagnostics =
      if name ≠ "" ∧ Text.fold name ∈ r.keys ∧ before.any (·.renders (Text.fold name)) = true then
        [.sectionAlreadyRendered template name]
      else [] := by
  by_cases hn : name = ""
  · rw [renderSection_refused (sectionsFor_unnamed _ _ hn), if_neg fun h => h.1 hn]
    rfl
  · by_cases hkey : Text.fold name ∈ r.keys
    · obtain ⟨s, hs⟩ := (r.mem_keys_iff name).1 hkey
      obtain ⟨-, -, hevents⟩ := renderSection_after_found template view body traced before hn hs required sink
      rw [hevents]
      by_cases hany : before.any (·.renders (Text.fold name)) = true
      · rw [if_pos hany, if_pos ⟨hn, hkey, hany⟩]
        rfl
      · rw [if_neg hany, if_neg fun h => hany h.2.2]
        rfl
    · rw [renderSection_after_missing template view body traced before hn hkey]
      exact (if_neg fun h => hkey h.2.1).symm

/-- Only requests for sections warn that a section was rendered before. -/
theorem renders_of_warned {call : Call} {path spelled : String}
    (h : .sectionAlreadyRendered path spelled ∈ (c.call call).2.diagnostics) :
    ∃ name required sink, call = .renderSection name required sink := by
  cases call with
  | renderSection name required sink => exact ⟨name, required, sink, rfl⟩
  | check =>
    have hunused : Journal.diagnostics (c.unused.map .warned) = c.unused := by
      rw [Journal.diagnostics, List.filterMap_map]
      exact List.filterMap_some
    change _ ∈ Journal.diagnostics (c.unused.map .warned) at h
    rw [hunused] at h
    unfold unused at h
    split at h
    · exact absurd h List.not_mem_nil
    · split at h
      · split at h <;> simp at h
      · split at h <;> simp at h
  | _ => exact absurd h List.not_mem_nil

theorem diagnostics_regions (c : Composer) (position length : Nat) (isLiteral : Bool) :
    (c.openRegion position length isLiteral ++ c.closeRegion).diagnostics = [] := by
  unfold openRegion closeRegion
  cases c.traced <;> rfl

/-- After any calls, a call warns of a section that is rendered again exactly if it asks for a defined
section that a call before it asked for, whatever came of that call; and every request for a defined
section calls its renderer once, into the sink of the request. -/
theorem repeats_warned (template view : String) (r : Registry) (body : Option Content) (traced : Bool)
    (before : List Call) :
    let start := forLayout template view ⟨r, body⟩ traced
    let c := start.after before
    -- The warning: of these calls and no others, in their spelling, and once each.
    (∀ call path spelled, .sectionAlreadyRendered path spelled ∈ (c.call call).2.diagnostics ↔
      path = template ∧ spelled ≠ "" ∧ Text.fold spelled ∈ r.keys ∧ Asked before spelled ∧
        ∃ required sink, call = .renderSection spelled required sink) ∧
      (∀ name required sink, name ≠ "" → Text.fold name ∈ r.keys → Asked before name →
        (c.call (.renderSection name required sink)).2.diagnostics = [.sectionAlreadyRendered template name]) ∧
      -- A defined section: its renderer is called, for the n-th time, and writes into the given sink.
      (∀ name s required sink, name ≠ "" → r.find? name = some s →
        let ran := (s.renderer (s.calls + before.countP (·.renders s.key) + 1)).run sink
        c.reply (.renderSection name required sink) = .pulled (ran.1.map fun _ => some .empty) ran.2) ∧
      -- A section that is not defined: nothing is written, and there is no warning.
      (∀ name required sink, name ≠ "" → Text.fold name ∉ r.keys →
        c.reply (.renderSection name required sink) =
            .pulled (if required then .error (.sectionNotDefined name template view) else .ok none) sink ∧
          c.call (.renderSection name required sink) = (c, [])) ∧
      -- The renderers: each was called once for every call that asks for its section.
      c.child = some ⟨r.calledBy before, body⟩ ∧
      -- The sink: what the renderers write, in the order of the calls.
      (∀ sink, start.sinkAfter sink before = (r.writers before).foldl (fun sink w => (w.run sink).2) sink ∧
        sink.writes <+: (start.sinkAfter sink before).writes) ∧
      ∀ position length isLiteral, (c.openRegion position length isLiteral ++ c.closeRegion).diagnostics = [] := by
  intro start c
  have hwarned (name : String) (required : Bool) (sink : Sink) :
      (c.call (.renderSection name required sink)).2.diagnostics = _ := diagnostics_renderSection required sink
  refine ⟨fun call path spelled => ⟨fun h => ?_, ?_⟩, ?_, ?_, ?_, ?_, fun sink => ?_, c.diagnostics_regions⟩
  · obtain ⟨name, required, sink, rfl⟩ := renders_of_warned h
    rw [hwarned] at h
    split at h
    · next hasked =>
      obtain ⟨hn, hkey, hany⟩ := hasked
      simp only [List.mem_singleton, Diagnostic.sectionAlreadyRendered.injEq] at h
      obtain ⟨rfl, rfl⟩ := h
      exact ⟨rfl, hn, hkey, (any_renders_iff hn before).1 hany, required, sink, rfl⟩
    · exact absurd h List.not_mem_nil
  · rintro ⟨rfl, hn, hkey, hasked, required, sink, rfl⟩
    rw [hwarned, if_pos ⟨hn, hkey, (any_renders_iff hn before).2 hasked⟩]
    exact List.mem_singleton.2 rfl
  · intro name required sink hn hkey hasked
    rw [hwarned, if_pos ⟨hn, hkey, (any_renders_iff hn before).2 hasked⟩]
  · intro name s required sink hn hs ran
    obtain ⟨hresult, hsink, -⟩ := renderSection_after_found template view body traced before hn hs required sink
    simp only [reply, c, start, hresult, hsink, ran]
  · intro name required sink hn hkey
    have hpull := renderSection_after_missing template view body traced before hn hkey required sink
    constructor
    · simp only [reply, c, start, hpull]
    · simp only [Composer.call, c, start, hpull]
  · exact child_after start before
  · have hsink : start.sinkAfter sink before = _ := sinkAfter_eq rfl before sink
    rw [hsink]
    exact ⟨rfl, foldl_run_prefix _ sink⟩

end Composer
end Folio
