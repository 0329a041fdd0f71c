import Folio.Proofs.Dialogue
/-!
# What a pass does to its sink

A pass leaves the sink it is given alone until the page that ends its chain starts; what the pages
before that one write, and the partials in them, goes into buffers. `Starts` says when that page
starts. It depends on the catalog, the data and the pages before, and not on the sink. From there on
the sink is only added to.
-/

namespace Folio

namespace Engine

/-- The last page of a chain starts: the view at `path` has a chain that ends within the limits, and
the pages before the last one succeed, each into a buffer of its own. -/
structure Starts (engine : Engine) (depth : Nat) (path : String) (shared : Shared) (a : Arrival) (after : Shared) :
    Prop where
  within : depth ≤ engine.options.maxLayoutDepth
  view : Path.normalize path = .ok a.view
  chain : ∃ first inner, engine.catalog.find? a.view = some first ∧ engine.catalog.Chain first inner a.last ∧
    inner.length ≤ engine.options.maxLayoutDepth ∧
    engine.lead a.view (engine.renderAtDepth (depth + 1)) depth inner none shared = (.ok a.child, after)

variable (engine : Engine)

/-- The approach of a pass arrives exactly where the last page of its chain starts. -/
theorem approach_eq_ok_iff {depth : Nat} {path : String} {shared after : Shared} {a : Arrival} :
    engine.approach depth path shared = (.ok a, after) ↔ engine.Starts depth path shared a after := by
  constructor
  · intro h
    have hd := engine.depth_le_of_approach h
    unfold approach at h
    cases hv : Path.normalize path with
    | error e => simp [hv] at h
    | ok view =>
      have hn := Path.normalize_normalize hv
      simp only [hv, Nat.not_lt.2 hd, if_false, engine.catalog.get_of_normalized hn] at h
      cases hf : engine.catalog.find? view with
      | none => simp [hf] at h
      | some first =>
        simp only [hf] at h
        generalize hl : engine.lead view _ depth _ none shared = led at h
        obtain ⟨outcome, led⟩ := led
        cases outcome with
        | error e => simp [Except.bind] at h
        | ok child =>
          cases hr : (engine.route view engine.options.maxLayoutDepth first).last with
          | error e => simp [hr, Except.bind, Except.map] at h
          | ok last =>
            simp only [hr, Except.bind, Except.map, Prod.mk.injEq, Except.ok.injEq] at h
            obtain ⟨rfl, rfl⟩ := h
            obtain ⟨hc, hk⟩ := engine.catalog.chain_of_route (engine.tooDeep view) _ first
              (engine.route view engine.options.maxLayoutDepth first).inner (by rw [← hr]; rfl)
            exact ⟨hd, hv, first, _, hf, hc, hk, hl⟩
  · rintro ⟨hd, hv, first, inner, hf, hc, hk, hl⟩
    have hn := Path.normalize_normalize hv
    have hroute : engine.route a.view engine.options.maxLayoutDepth first = ⟨inner, .ok a.last⟩ :=
      engine.catalog.route_of_chain _ hc _ hk
    simp [approach, hv, Nat.not_lt.2 hd, engine.catalog.get_of_normalized hn, hf, hroute, hl, Except.bind, Except.map]

/-- The last page of a cyclic chain does not start. -/
theorem not_starts_of_cyclic {depth : Nat} {path view : String} {shared after : Shared} {a : Arrival} {first : Page}
    (hv : Path.normalize path = .ok view) (hf : engine.catalog.find? view = some first)
    (hcyclic : engine.catalog.Cyclic first) : ¬ engine.Starts depth path shared a after := by
  rintro ⟨-, hview, first', inner, hfirst, hc, -⟩
  obtain rfl : view = a.view := by simpa [hv] using hview
  obtain rfl : first = first' := by simpa [hf] using hfirst
  exact hcyclic.not_chain hc

/-- A pass over any sink, for a view or for a partial. Either the last page of its chain starts,
which has no layout, and gets the sink as it was given; or the pass ends with an error before that,
the same one for every sink, and leaves the sink as it was. In every case the sink has the writes
that it had, in front of those of the pass. -/
theorem renderAtDepth_sink (depth : Nat) (path : String) (shared : Shared) :
    ((∃ a after, engine.Starts depth path shared a after ∧ a.last.layout = none ∧ ∀ sink,
          engine.renderAtDepth depth path (shared.on sink) = engine.conclude depth a (after.on sink)) ∨
      (∀ a after, ¬ engine.Starts depth path shared a after) ∧
        ∃ e, ∃ after : Shared, ∀ sink,
          engine.renderAtDepth depth path (shared.on sink) = (.error e, after.on sink)) ∧
    ∀ sink, ∃ made,
      (engine.renderAtDepth depth path (shared.on sink)).2.sink = sink.after made ∧
      (engine.renderAtDepth depth path (shared.on sink)).2.sink.writes = sink.writes ++ Offer.written made ∧
      (engine.renderAtDepth depth path (shared.on sink)).2.sink.output =
        .concat [sink.output, .concat (Offer.written made)] := by
  constructor
  -- The approach is not given a sink, so how it ends settles the pass over every sink.
  · rcases h : engine.approach depth path shared with ⟨outcome, after⟩
    cases outcome with
    | ok a =>
      have hstarts := engine.approach_eq_ok_iff.1 h
      obtain ⟨first, inner, -, hc, -⟩ := hstarts.chain
      refine .inl ⟨a, after, hstarts, hc.layout_last, fun sink => ?_⟩
      rw [renderAtDepth_eq, Shared.on_shared, h]
      rfl
    | error e =>
      refine .inr ⟨fun a after' hstarts => ?_, e, after, fun sink => ?_⟩
      · simp [engine.approach_eq_ok_iff.2 hstarts] at h
      · rw [renderAtDepth_eq, Shared.on_shared, h]
        rfl
  · intro sink
    obtain ⟨made, hmade⟩ := engine.sink_renderAtDepth depth path (shared.on sink)
    rw [hmade]
    exact ⟨made, rfl, sink.writes_after made, sink.output_after made⟩

end Engine
end Folio
