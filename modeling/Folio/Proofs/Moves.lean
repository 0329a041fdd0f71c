import Folio.Proofs.Machine
/-!
# The moves of the machine

Everything that one step of the machine can do, with the conditions under which it does it. A `Move` is
a step (`move_iff`), so what every step keeps is proved by cases on moves, and so is that the steps of
one machine are those of another.
-/

namespace Folio

/-- The operation renders a partial. -/
def Op.isPartial : Op → Bool
  | .renderPartial _ => true
  | _ => false

/-- The partials of a page that is not asked for any. -/
abbrev PartialRenderer.none : PartialRenderer := fun _ stage => (.ok (), stage)

namespace Engine

/-- An operation other than a partial is done in one step, without the machine. -/
theorem step_op (engine : Engine) {o : Op} (ho : o.isPartial = false) (t : Turn) (wrap : Option Wrap) (frame : Frame)
    (next : o.Answer → Program (Except Error Unit)) (hosts : List Host) :
    engine.step ⟨.run t wrap frame (.op o next), hosts⟩ =
      (let performed := Frame.perform t.page.path .none o frame
       some ⟨.run t wrap performed.2 (next performed.1), hosts⟩) := by
  cases o with
  | renderPartial reference => simp [Op.isPartial] at ho
  | _ => rfl

/-- One step of the machine, by what it does. -/
inductive Move (engine : Engine) : Machine → Machine → Prop
  -- A view is asked for: its path is none, it lies too deep, no page is there, or its page has its turn.
  | strayed {depth path e stage hosts} : Path.normalize path = .error e →
      Move engine ⟨.enter depth path stage, hosts⟩ ⟨.leave (.error e) stage, hosts⟩
  | nested {depth path view stage hosts} : Path.normalize path = .ok view → engine.options.maxLayoutDepth < depth →
      Move engine ⟨.enter depth path stage, hosts⟩ ⟨.leave (.error (engine.tooDeep view)) stage, hosts⟩
  | missing {depth path view e stage hosts} : Path.normalize path = .ok view →
      depth ≤ engine.options.maxLayoutDepth → engine.catalog.get view = .error e →
      Move engine ⟨.enter depth path stage, hosts⟩ ⟨.leave (.error e) stage, hosts⟩
  | opened {depth path view page stage hosts} : Path.normalize path = .ok view →
      depth ≤ engine.options.maxLayoutDepth → engine.catalog.get view = .ok page →
      Move engine ⟨.enter depth path stage, hosts⟩ ⟨.turn ⟨depth, view, 0, page⟩ none stage, hosts⟩
  -- A page has its turn: its layout is none, or the page is the last one and runs, or its layout is counted.
  | unled {t child e stage hosts} : t.page.layoutPath = .error e →
      Move engine ⟨.turn t child stage, hosts⟩ ⟨.leave (.error e) stage, hosts⟩
  | last {t child stage hosts} : t.page.layoutPath = .ok none →
      Move engine ⟨.turn t child stage, hosts⟩ ⟨.run t none (engine.startFrame t child stage) t.page.program, hosts⟩
  | counted {t layout child stage hosts} : t.page.layoutPath = .ok (some layout) →
      Move engine ⟨.turn t child stage, hosts⟩
        ⟨.count { t with layouts := t.layouts + 1 } layout child stage, hosts⟩
  | exceeded {t layout child stage hosts} : engine.options.maxLayoutDepth < t.layouts →
      Move engine ⟨.count t layout child stage, hosts⟩ ⟨.leave (.error (engine.tooDeep t.view)) stage, hosts⟩
  | inner {t layout child stage hosts} : t.layouts ≤ engine.options.maxLayoutDepth →
      Move engine ⟨.count t layout child stage, hosts⟩
        ⟨.run t (some ⟨layout, stage.sink⟩) (engine.startFrame t child { stage with sink := .buffer }) t.page.program,
          hosts⟩
  -- A page runs: a partial that is none, a partial, or any other operation.
  | unresolved {t wrap frame reference next e hosts} : Path.resolve t.page.path reference = .error e →
      Move engine ⟨.run t wrap frame (.op (.renderPartial reference) next), hosts⟩
        ⟨.run t wrap frame (next (.error e)), hosts⟩
  | descended {t wrap frame reference next target hosts} : Path.resolve t.page.path reference = .ok target →
      Move engine ⟨.run t wrap frame (.op (.renderPartial reference) next), hosts⟩
        ⟨.enter (t.depth + 1) target frame.stage, ⟨t, wrap, frame.composer, frame.sections, next⟩ :: hosts⟩
  | performed {t wrap frame o next hosts} : o.isPartial = false →
      Move engine ⟨.run t wrap frame (.op o next), hosts⟩
        ⟨.run t wrap (Frame.perform t.page.path .none o frame).2 (next (Frame.perform t.page.path .none o frame).1),
          hosts⟩
  -- A page ends: with an error, as the last one, or before a layout that is missing or has its turn.
  | failed {t wrap frame e hosts} :
      Move engine ⟨.run t wrap frame (.done (.error e)), hosts⟩ ⟨.leave (.error e) (frame.stage.unwrap wrap), hosts⟩
  | concluded {t frame hosts} :
      Move engine ⟨.run t none frame (.done (.ok ())), hosts⟩
        ⟨.leave (.ok ()) (frame.finished.report (t.page.leftover frame.sections)), hosts⟩
  | unfollowed {t wrap frame e hosts} : engine.catalog.get wrap.layout = .error e →
      Move engine ⟨.run t (some wrap) frame (.done (.ok ())), hosts⟩
        ⟨.leave (.error e) { frame.finished with sink := wrap.sink }, hosts⟩
  | followed {t wrap frame page hosts} : engine.catalog.get wrap.layout = .ok page →
      Move engine ⟨.run t (some wrap) frame (.done (.ok ())), hosts⟩
        ⟨.turn { t with page } (some (childOf frame.sections frame.stage.sink.output))
          { frame.finished with sink := wrap.sink }, hosts⟩
  -- A partial ends, and its host goes on.
  | returned {outcome stage host hosts} :
      Move engine ⟨.leave outcome stage, host :: hosts⟩
        ⟨.run host.turn host.wrap ⟨host.composer, host.sections, stage⟩ (host.next outcome), hosts⟩

variable {engine : Engine} {s t : Machine}

theorem Move.step (h : engine.Move s t) : engine.step s = some t := by
  cases h with
  | strayed hv => simp only [Engine.step, openView, hv]
  | nested hv hd => simp only [Engine.step, openView, hv, hd, if_true]
  | missing hv hd hg => simp only [Engine.step, openView, hv, Nat.not_lt.2 hd, if_false, hg]
  | opened hv hd hg => simp only [Engine.step, engine.openView_of_get hv hd hg]
  | unled hl => simp only [Engine.step, takeTurn, hl]
  | last hl => simp only [Engine.step, engine.takeTurn_last hl]
  | counted hl => simp only [Engine.step, engine.takeTurn_inner hl]
  | exceeded hm => simp only [Engine.step, engine.holdCount_beyond hm]
  | inner hm => simp only [Engine.step, engine.holdCount_within hm]
  | unresolved hr => exact engine.step_partial_unresolved hr _ _ _ _
  | descended hr => exact engine.step_partial hr _ _ _ _
  | performed ho => exact engine.step_op ho _ _ _ _ _
  | unfollowed hg => simp only [Engine.step, endPage, hg]
  | followed hg => simp only [Engine.step, engine.endPage_inner hg]
  | failed | concluded | returned => rfl

theorem move_of_step (h : engine.step s = some t) : engine.Move s t := by
  have hmove {u : Machine} (hu : engine.Move s u) : engine.Move s t := Option.some.inj (hu.step.symm.trans h) ▸ hu
  obtain ⟨control, hosts⟩ := s
  cases control with
  | enter depth path stage =>
    cases hv : Path.normalize path with
    | error e => exact hmove (.strayed hv)
    | ok view =>
      by_cases hd : engine.options.maxLayoutDepth < depth
      · exact hmove (.nested hv hd)
      · cases hg : engine.catalog.get view with
        | error e => exact hmove (.missing hv (Nat.not_lt.1 hd) hg)
        | ok page => exact hmove (.opened hv (Nat.not_lt.1 hd) hg)
  | turn turn child stage =>
    cases hl : turn.page.layoutPath with
    | error e => exact hmove (.unled hl)
    | ok layout =>
      cases layout with
      | none => exact hmove (.last hl)
      | some layout => exact hmove (.counted hl)
  | count turn layout child stage =>
    by_cases hm : engine.options.maxLayoutDepth < turn.layouts
    · exact hmove (.exceeded hm)
    · exact hmove (.inner (Nat.not_lt.1 hm))
  | run turn wrap frame rest =>
    cases rest with
    | op o next =>
      cases o with
      | renderPartial reference =>
        cases hr : Path.resolve turn.page.path reference with
        | error e => exact hmove (.unresolved hr)
        | ok target => exact hmove (.descended hr)
      | _ => exact hmove (.performed rfl)
    | done outcome =>
      cases outcome with
      | error e => exact hmove .failed
      | ok u =>
        cases wrap with
        | none => exact hmove .concluded
        | some wrap =>
          cases hg : engine.catalog.get wrap.layout with
          | error e => exact hmove (.unfollowed hg)
          | ok page => exact hmove (.followed hg)
  | leave outcome stage =>
    cases hosts with
    | nil => cases h
    | cons host hosts => exact hmove .returned

theorem move_iff : engine.step s = some t ↔ engine.Move s t := ⟨move_of_step, Move.step⟩

end Engine
end Folio
