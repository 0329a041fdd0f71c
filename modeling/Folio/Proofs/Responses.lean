import Folio.Proofs.Privacy
/-!
# What clients are sent

A request for a view is answered in one of three ways: the view is private, its pass succeeds, or
its pass fails (`buffered_cases`). A streamed response starts before its pass ends, so there only a
view that is not there counts as failed (`streamed_cases`). The results are case analyses over these.

A response holds the report of its error for the log. `Response.sent` is what leaves the site, and
for an error it depends on the error's constructor alone (`sent_ofError`).
-/

namespace Folio

/-- The error says that a view is not there, or cannot be. -/
def Error.IsMissing (e : Error) : Prop :=
  (∃ path, e = .pageNotFound path) ∨ ∃ base reference, e = .invalidPath base reference

namespace Engine
variable (engine : Engine)

/-- A page is registered under the normal form of the view's path. -/
def HasView (view : String) : Prop :=
  ∃ key page, Path.normalize view = .ok key ∧ engine.catalog.find? key = some page

theorem hasView_of_streamed {view key : String} (h : engine.streamedView view = .ok key) : engine.HasView view :=
  have ⟨hv, page, hf⟩ := engine.streamedView_eq_ok h
  ⟨key, page, hv, hf⟩

theorem isMissing_of_not_streamed {view : String} {e : Error} (h : engine.streamedView view = .error e) :
    ¬ engine.HasView view ∧ e.IsMissing ∧ (engine.render view .buffer).result = .error e := by
  refine ⟨?_, ?_, ?_⟩
  · rintro ⟨key, page, hk, hf⟩
    rcases engine.streamedView_eq_error h with ⟨hv, -⟩ | ⟨key', hv, hnone, -⟩
    · cases hv.symm.trans hk
    · cases hv.symm.trans hk
      cases hnone.symm.trans hf
  · rcases engine.streamedView_eq_error h with ⟨-, rfl⟩ | ⟨key, -, -, rfl⟩
    · exact .inr ⟨_, _, rfl⟩
    · exact .inl ⟨_, rfl⟩
  · exact eq_error_of_map (engine.renderToContent_of_not_streamed h)

end Engine

namespace Http

/-- The view that is shown on a route, if it shows one. -/
def Route.view? : Route → Option String
  | .home => some "/index"
  | .view raw => (Text.text? (unescape (Text.encode raw))).map viewOfRest
  | _ => none

namespace Response

/-- The response as it is sent; the report of an error stays behind. -/
def sent (r : Response) : Response := { r with report := none }

/-- All that a client is told of errors. -/
def publicTexts : List String := ["Page not found", "Response stream closed", "Page rendering failed"]

/-- The response about a page that is not there. -/
def notFound (requestId : String) : Response := .text requestId 404 "Page not found" none

theorem publicError_of_missing {e : Error} (h : e.IsMissing) : publicError e = (404, "Page not found") := by
  rcases h with ⟨path, rfl⟩ | ⟨base, reference, rfl⟩ <;> rfl

theorem status_ofError (requestId : String) (e : Error) :
    e.IsMissing ∧ (ofError requestId e).status = 404 ∨ ¬ e.IsMissing ∧ (ofError requestId e).status = 500 := by
  cases e with
  | pageNotFound path => exact .inl ⟨.inl ⟨path, rfl⟩, rfl⟩
  | invalidPath base reference => exact .inl ⟨.inr ⟨base, reference, rfl⟩, rfl⟩
  | _ => exact .inr ⟨by simp [Error.IsMissing], rfl⟩

theorem body_ofError (requestId : String) (e : Error) :
    ∃ text ∈ publicTexts, (ofError requestId e).body = .ofText text := by
  cases e <;> exact ⟨_, by decide, rfl⟩

theorem publicError_congr {e e' : Error} (h : e.ctorIdx = e'.ctorIdx) : publicError e = publicError e' := by
  cases e <;> cases e' <;> first | rfl | cases h

/-- What is sent about an error depends on the error's constructor alone. -/
theorem sent_ofError (requestId : String) {e e' : Error} (h : e.ctorIdx = e'.ctorIdx) :
    (ofError requestId e).sent = (ofError requestId e').sent := by
  simp only [ofError, publicError_congr h]
  rfl

theorem sent_ofError_of_missing (requestId : String) {e : Error} (h : e.IsMissing) :
    (ofError requestId e).sent = notFound requestId := by
  simp only [ofError, publicError_of_missing h]
  rfl

/-- A buffered response shows everything that a successful pass over the view wrote, or tells of an
error: not found if the view is private or the pass misses a page, and a failure otherwise. -/
structure AllOrNothing (engine : Engine) (requestId view : String) (r : Response) : Prop where
  shown : r.status = 200 ↔ Path.IsPublic view ∧ ∃ data, (engine.render view .buffer).result = .ok data
  whole : r.status = 200 → r = .page requestId (engine.render view .buffer).sink.output
  missing : r.status = 404 ↔
    ¬ Path.IsPublic view ∨ ∃ e, (engine.render view .buffer).result = .error e ∧ e.IsMissing
  failed : r.status ≠ 200 → r.status ≠ 404 → r.status = 500
  fixed : r.status ≠ 200 → ∃ text ∈ publicTexts, r.body = .ofText text

/-- A streamed response is refused exactly if the view is private or not there. -/
structure Streamed (engine : Engine) (requestId view : String) (r : Response) : Prop where
  missing : r.status = 404 ↔ ¬ Path.IsPublic view ∨ ¬ engine.HasView view
  refused : r.status = 404 → r.sent = notFound requestId
  begun : r.status ≠ 404 → r = .page requestId (engine.render view .buffer).sink.output

end Response

namespace Site
variable (engine : Engine) (requestId : String) {path view : String} (hview : (Route.ofPath path).view? = some view)
include hview

theorem respond_view (site : Site) :
    site.respond requestId "GET" path =
      if Path.isPrivate view then .plain (.ofPrivate requestId view) else site.showView requestId true view := by
  have hrouted : Route.ofPath path ≠ .unrouted := by
    intro hroute
    rw [hroute] at hview
    cases hview
  rw [site.respond_get requestId hrouted]
  cases hroute : Route.ofPath path with
  | home =>
    rw [hroute] at hview
    cases hview
    have hindex : Path.isPrivate "/index" = false := by decide
    rw [hindex]
    rfl
  | view raw =>
    rw [hroute, Route.view?] at hview
    obtain ⟨rest, hrest, rfl⟩ := Option.map_eq_some_iff.1 hview
    simp only [read, hrest, showRest]
  | health => rw [hroute] at hview; cases hview
  | unrouted => contradiction

theorem respond_of_private (hp : ¬ Path.IsPublic view) (site : Site) :
    site.respond requestId "GET" path = .plain (.ofPrivate requestId view) := by
  rw [← Path.isPrivate_eq_false_iff, Bool.not_eq_false] at hp
  rw [respond_view requestId hview, if_pos hp]

theorem respond_of_public (hp : Path.IsPublic view) (site : Site) :
    site.respond requestId "GET" path = site.showView requestId true view := by
  rw [← Path.isPrivate_eq_false_iff] at hp
  rw [respond_view requestId hview, hp]
  rfl

theorem buffered_of_ok (hp : Path.IsPublic view) {data : PageData}
    (hok : (engine.render view .buffer).result = .ok data) :
    (respond ⟨engine, false⟩ requestId "GET" path).response =
      .page requestId (engine.render view .buffer).sink.output := by
  rw [respond_of_public requestId hview hp]
  simp only [showView, Engine.renderToContent, hok]
  rfl

theorem buffered_of_error (hp : Path.IsPublic view) {e : Error}
    (he : (engine.render view .buffer).result = .error e) :
    (respond ⟨engine, false⟩ requestId "GET" path).response = .ofError requestId e := by
  rw [respond_of_public requestId hview hp]
  simp only [showView, Engine.renderToContent, he]
  rfl

theorem of_private (hp : ¬ Path.IsPublic view) (site : Site) :
    (site.respond requestId "GET" path).response = .ofPrivate requestId view :=
  congrArg Exchange.response (respond_of_private requestId hview hp site)

/-- What is answered when the pass over a view is over before the response is sent. -/
theorem buffered_cases :
    let pass := engine.render view .buffer
    let response := (respond ⟨engine, false⟩ requestId "GET" path).response
    (¬ Path.IsPublic view ∧ response = .ofPrivate requestId view) ∨
    (Path.IsPublic view ∧ (∃ data, pass.result = .ok data) ∧ response = .page requestId pass.sink.output) ∨
    (Path.IsPublic view ∧ ∃ e, pass.result = .error e ∧ response = .ofError requestId e) := by
  intro pass response
  by_cases hp : Path.IsPublic view
  · right
    cases hresult : pass.result with
    | ok data => exact .inl ⟨hp, ⟨data, rfl⟩, buffered_of_ok engine requestId hview hp hresult⟩
    | error e => exact .inr ⟨hp, e, rfl, buffered_of_error engine requestId hview hp hresult⟩
  · exact .inl ⟨hp, of_private requestId hview hp _⟩

/-- What is answered when the response is sent while the pass over the view runs. -/
theorem streamed_cases (hroom : 0 < engine.options.streamBufferChunks) :
    let pass := engine.render view .buffer
    let response := (respond ⟨engine, true⟩ requestId "GET" path).response
    (¬ Path.IsPublic view ∧ response = .ofPrivate requestId view) ∨
    (Path.IsPublic view ∧ engine.HasView view ∧ response = .page requestId pass.sink.output) ∨
    (Path.IsPublic view ∧ ¬ engine.HasView view ∧ ∃ e, e.IsMissing ∧ pass.result = .error e ∧
      response = .ofError requestId e) := by
  intro pass response
  by_cases hp : Path.IsPublic view
  · have hresponse : response = (showView ⟨engine, true⟩ requestId true view).response :=
      congrArg Exchange.response (respond_of_public requestId hview hp _)
    right
    cases hstreamed : engine.streamedView view with
    | ok key =>
      refine .inl ⟨hp, engine.hasView_of_streamed hstreamed, hresponse.trans ?_⟩
      simp only [showView, engine.renderStream_of_streamed hroom hstreamed]
      exact congrArg (Response.page requestId) (Content.concat_filter_isEmpty _)
    | error e =>
      obtain ⟨hmissing, he, hresult⟩ := engine.isMissing_of_not_streamed hstreamed
      refine .inr ⟨hp, hmissing, e, he, hresult, hresponse.trans ?_⟩
      simp only [showView, Engine.renderStream, hstreamed, Except.map]
      rfl
  · exact .inl ⟨hp, of_private requestId hview hp _⟩

theorem allOrNothing :
    Response.AllOrNothing engine requestId view (respond ⟨engine, false⟩ requestId "GET" path).response := by
  rcases buffered_cases engine requestId hview with ⟨hp, hr⟩ | ⟨hp, ⟨data, hok⟩, hr⟩ | ⟨hp, e, he, hr⟩
  · have hs : (Response.ofPrivate requestId view).status = 404 := rfl
    rw [hr]
    exact ⟨by simp [hs, hp], by simp [hs], by simp [hs, hp], by simp [hs], fun _ => ⟨_, by decide, rfl⟩⟩
  · have hs (body : Content) : (Response.page requestId body).status = 200 := rfl
    rw [hr]
    exact ⟨by simp [hs, hp, hok], by simp, by simp [hs, hp, hok], by simp [hs], by simp [hs]⟩
  · have hbody := Response.body_ofError requestId e
    rw [hr]
    rcases Response.status_ofError requestId e with ⟨hm, hs⟩ | ⟨hm, hs⟩
    · exact ⟨by simp [hs, he], by simp [hs], by simp [hs, he, hm], by simp [hs], fun _ => hbody⟩
    · exact ⟨by simp [hs, he], by simp [hs], by simp [hs, hp, he, hm], by simp [hs], fun _ => hbody⟩

theorem streamed (hroom : 0 < engine.options.streamBufferChunks) :
    Response.Streamed engine requestId view (respond ⟨engine, true⟩ requestId "GET" path).response := by
  rcases streamed_cases engine requestId hview hroom with ⟨hp, hr⟩ | ⟨hp, hhas, hr⟩ | ⟨hp, hhas, e, hm, -, hr⟩
  · have hs : (Response.ofPrivate requestId view).status = 404 := rfl
    rw [hr]
    exact ⟨by simp [hs, hp], fun _ => rfl, by simp [hs]⟩
  · have hs (body : Content) : (Response.page requestId body).status = 200 := rfl
    rw [hr]
    exact ⟨by simp [hs, hp, hhas], by simp [hs], fun _ => rfl⟩
  · obtain ⟨-, hs⟩ : e.IsMissing ∧ (Response.ofError requestId e).status = 404 := by
      simpa [hm] using Response.status_ofError requestId e
    rw [hr]
    exact ⟨by simp [hs, hhas], fun _ => Response.sent_ofError_of_missing requestId hm, by simp [hs]⟩

theorem modes_agree (hroom : 0 < engine.options.streamBufferChunks) :
    let buffered := (respond ⟨engine, false⟩ requestId "GET" path).response
    let streamed := (respond ⟨engine, true⟩ requestId "GET" path).response
    (streamed.status = 404 → streamed.sent = buffered.sent) ∧ (buffered.status = 200 → streamed = buffered) := by
  intro buffered streamed
  have hbuffered := allOrNothing engine requestId hview
  rcases streamed_cases engine requestId hview hroom with ⟨hp, hs⟩ | ⟨-, -, hs⟩ | ⟨hp, -, e, hm, he, hs⟩
  · have hsame : streamed = buffered := hs.trans (of_private requestId hview hp _).symm
    exact ⟨fun _ => congrArg Response.sent hsame, fun _ => hsame⟩
  · have hshown : streamed = .page requestId (engine.render view .buffer).sink.output := hs
    refine ⟨fun h => ?_, fun h => hshown.trans (hbuffered.whole h).symm⟩
    rw [hshown] at h
    cases h
  -- The pass over a view that is not there fails as the stream does.
  · have hsame : streamed = buffered := hs.trans (buffered_of_error engine requestId hview hp he).symm
    exact ⟨fun _ => congrArg Response.sent hsame, fun _ => hsame⟩

omit hview

end Site
end Http

/-! ## Torn pages -/

namespace Demo

/-- A page that fails after it wrote, and says what it wrote in its error. -/
def tornPage (path text : String) : Page where
  path
  layout := none
  program := .op (.write (.ofText text)) fun _ => .done (.error (.page path text))

def wholePage : Page where
  path := "/whole"
  layout := none
  program := .op (.write (.ofText "whole")) .done

def torn : Engine := ⟨⟨[("/letter", tornPage "/letter" "dear"), ("/memo", tornPage "/memo" "urgent"),
  ("/whole", wholePage)]⟩, .standard⟩

end Demo

namespace Http.Site

end Http.Site
end Folio
