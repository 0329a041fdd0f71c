import Mathlib.Data.List.DropRight
import Folio.Http.Site
import Folio.Proofs.Composition
import Folio.Proofs.Machine
import Folio.Proofs.References
import Folio.Proofs.Streaming
/-!
# Private views

A site looks at the path of a request as it is written, and the catalog at its normal form. A walk
leaves no segments but those it read (`mem_of_walk`), and a request path starts with a slash, so no
mark of the root is taken off it. So the normal form of a public path is public
(`isPublic_of_normalize`), and no view that is shown is private (`views_public`).
-/

namespace Folio

/-! ## Private segments -/

namespace Path

/-- No segment of the path starts with an underscore. -/
def IsPublic (path : String) : Prop := ∀ s ∈ segments path.toList, s.head? ≠ some '_'

theorem isPrivate_eq_false_iff (path : String) : isPrivate path = false ↔ IsPublic path := by
  simp [isPrivate, IsPublic]

theorem mem_of_step {stack out : List Segment} {s t : Segment} (h : step stack s = some out) (ht : t ∈ out) :
    t ∈ stack ∨ t = s := by
  rcases step_cases h with ⟨-, rfl⟩ | ⟨-, top, rfl⟩ | ⟨-, -, rfl⟩
  · exact .inl ht
  · exact .inl (List.mem_cons_of_mem _ ht)
  · exact (List.mem_cons.1 ht).symm

/-- A walk leaves only segments that it read or started with. -/
theorem mem_of_walk (ss : List Segment) {t : Segment} :
    ∀ {stack out : List Segment}, walk stack ss = some out → t ∈ out → t ∈ stack ∨ t ∈ ss := by
  induction ss with
  | nil => intro stack out h ht; cases h; exact .inl ht
  | cons s ss ih =>
    intro stack out h ht
    rw [walk_cons] at h
    obtain ⟨mid, hmid, hrest⟩ := Option.bind_eq_some_iff.1 h
    rcases ih hrest ht with hm | hm
    · rcases mem_of_step hmid hm with hm | rfl
      · exact .inl hm
      · exact .inr List.mem_cons_self
    · exact .inr (List.mem_cons_of_mem s hm)

theorem mem_segments_of_collapse {cs ds : List Char} (h : collapse cs = some ds) {s : Segment}
    (hs : s ∈ segments ds) : s = [] ∨ s ∈ segments cs := by
  rw [collapse_eq] at h
  obtain ⟨ss, hss, rfl⟩ := Option.map_eq_some_iff.1 h
  have hno : ∀ t ∈ ss.reverse, '/' ∉ t := fun t ht => (ordinary_place hss t (List.mem_reverse.1 ht)).no_slash
  rw [segments_spell _ hno] at hs
  rcases List.mem_cons.1 hs with hs | hs
  · exact .inl hs
  · split at hs
    · exact .inl (List.mem_singleton.1 hs)
    · exact .inr ((mem_of_walk _ hss (List.mem_reverse.1 hs)).resolve_left List.not_mem_nil)

/-- The normal form of a public path that starts with a slash is public. -/
theorem isPublic_of_normalize {path key : String} {cs : List Char} (hslash : path.toList = '/' :: cs)
    (h : normalize path = .ok key) (hp : IsPublic path) : IsPublic key := by
  obtain ⟨ds, hds, rfl⟩ := normalize_eq_ok h
  have hmark : dropRootMark path.toList = path.toList := by rw [hslash]; rfl
  rw [hmark] at hds
  rw [IsPublic, String.toList_ofList]
  intro s hs
  rcases mem_segments_of_collapse hds hs with rfl | hm
  · simp
  · exact hp s hm

/-- Where the mark of the root is taken off, a public text becomes a private path. -/
example : isPrivate "~_layout" = false ∧ normalize "~_layout" = .ok "/_layout" ∧ isPrivate "/_layout" = true :=
  ⟨by decide, by rfl, by decide⟩

/-- Slashes at the end of a text add no segments but empty ones. -/
theorem any_segments_rdropWhile (p : Segment → Bool) (hp : p [] = false) (cs : List Char) :
    (segments (cs.rdropWhile (· = '/'))).any p = (segments cs).any p := by
  induction cs using List.reverseRecOn with
  | nil => rfl
  | append_singleton cs c ih =>
    by_cases hc : c = '/'
    · rw [List.rdropWhile_concat_pos _ _ _ (by simpa using hc), ih, hc, segments_slash]
      simp [segments, hp]
    · rw [List.rdropWhile_concat_neg _ _ _ (by simpa using hc)]

end Path

/-! ## The first page of a pass -/

theorem Catalog.route_starts (c : Catalog) (tooLong : Error) (links : Nat) (page : Page) :
    (∃ inner, (c.route tooLong links page).inner = page :: inner) ∨
      (c.route tooLong links page).inner = [] ∧
        ((c.route tooLong links page).last = .ok page ∨ ∃ e, (c.route tooLong links page).last = .error e) := by
  unfold route
  split
  · exact .inr ⟨rfl, .inr ⟨_, rfl⟩⟩
  · exact .inr ⟨rfl, .inl rfl⟩
  · split
    · exact .inr ⟨rfl, .inr ⟨_, rfl⟩⟩
    · split <;> exact .inl ⟨_, rfl⟩

namespace Engine
variable (engine : Engine)

theorem compose_extends (view : String) (partials : PartialRenderer) (depth : Nat) (last : Except Error Page)
    (inner : List Page) : ∀ (child : Option Child) (stage : Stage),
      stage.journal <+: (engine.compose view partials depth child inner last stage).2.journal := by
  induction inner with
  | nil =>
    intro child stage
    cases last with
    | error e => exact List.prefix_rfl
    | ok last =>
      simp only [compose]
      split
      · exact List.prefix_append _ _
      · rw [List.append_assoc]; exact List.prefix_append _ _
  | cons page inner ih =>
    intro child stage
    simp only [compose]
    split
    · exact List.prefix_append _ _
    · exact (List.prefix_append _ _).trans (ih (some _) ⟨_, _, _⟩)

/-- A composition starts with the first page of its route, if it has one. -/
theorem compose_starts (view : String) (partials : PartialRenderer) (depth links : Nat) (page : Page)
    (child : Option Child) (stage : Stage) :
    let route := engine.route view links page
    let journal := (engine.compose view partials depth child route.inner route.last stage).2.journal
    journal = stage.journal ∨ stage.journal ++ [.entered page.path depth] <+: journal := by
  intro route journal
  have hran (composer : Composer) (sink : Sink) : stage.journal ++ [.entered page.path depth] <+:
      stage.journal ++ (page.ran composer partials depth sink stage.data).events :=
    (List.prefix_append_right_inj _).2 ⟨_, rfl⟩
  rcases engine.catalog.route_starts (engine.tooDeep view) links page with
    ⟨inner, hinner⟩ | ⟨hinner, hlast | ⟨e, hlast⟩⟩
  · right
    have hinner' : route.inner = page :: inner := hinner
    simp only [journal, hinner', compose]
    split
    · exact hran _ _
    · exact (hran _ _).trans (engine.compose_extends view partials depth route.last inner (some _) ⟨_, _, _⟩)
  · right
    have hinner' : route.inner = [] := hinner
    have hlast' : route.last = .ok page := hlast
    simp only [journal, hinner', hlast', compose]
    split
    · exact hran _ _
    · exact (hran _ _).trans (List.prefix_append _ _)
  · left
    have hinner' : route.inner = [] := hinner
    have hlast' : route.last = .error e := hlast
    simp only [journal, hinner', hlast', compose]

/-- The first page that a pass runs is the one registered under the normal form of its path. -/
theorem record_starts (depth : Nat) (path : String) (stage : Stage) :
    engine.record depth path stage = [] ∨ ∃ view page later, Path.normalize path = .ok view ∧
      engine.catalog.find? view = some page ∧ engine.record depth path stage = .entered page.path depth :: later := by
  rw [record, renderAtDepth_eq_composed, composed]
  cases hv : Path.normalize path with
  | error e => left; unfold composedWithin; rw [hv]
  | ok view =>
    cases hl : engine.options.maxLayoutDepth + 1 - depth with
    | zero => left; unfold composedWithin; rw [hv]
    | succ levels =>
      have hdepth : engine.options.maxLayoutDepth - levels = depth := by omega
      cases hf : engine.catalog.find? view with
      | none => left; unfold composedWithin; simp only [hv, hf]
      | some page =>
        have hstarts := engine.compose_starts view (engine.composedWithin levels) depth
          engine.options.maxLayoutDepth page none { stage with journal := [] }
        unfold composedWithin
        simp only [hv, hf, hdepth]
        rcases hstarts with hnone | ⟨later, hlater⟩
        · exact .inl hnone
        · exact .inr ⟨view, page, later, rfl, hf, hlater.symm⟩

theorem render_starts {path : String} {sink : Sink} {entry : String × Nat}
    (h : (engine.render path sink).journal.pages.head? = some entry) :
    ∃ view page, Path.normalize path = .ok view ∧ engine.catalog.find? view = some page ∧ entry = (page.path, 0) := by
  have hpages : (engine.render path sink).journal.pages = (engine.record 0 path ⟨sink, .empty, []⟩).pages := by
    rw [render, renderWithData_eq, Journal.pages_append]
    exact List.append_nil _
  rcases engine.record_starts 0 path ⟨sink, .empty, []⟩ with hnone | ⟨view, page, later, hv, hf, hstarts⟩
  · rw [hpages, hnone] at h
    cases h
  · rw [hpages, hstarts] at h
    exact ⟨view, page, hv, hf, (Option.some.inj h).symm⟩

theorem pages_streamJournal (view : String) (pass : Pass) : (streamJournal view pass).pages = pass.journal.pages := by
  unfold streamJournal
  split
  · rfl
  · rw [Journal.pages_append]
    exact List.append_nil _

end Engine

/-! ## Requests -/

namespace Http

theorem toList_viewOfRest (rest : String) : (viewOfRest rest).toList = '/' :: rest.toList.rdropWhile (· = '/') :=
  String.toList_ofList

theorem isPrivate_viewOfRest (rest : String) : Path.isPrivate (viewOfRest rest) = Path.isPrivate rest := by
  rw [Path.isPrivate, toList_viewOfRest, Path.isPrivate]
  exact Path.any_segments_rdropWhile (fun s => decide (s.head? = some '_')) rfl rest.toList

theorem isPublic_viewOfRest (rest : String) : Path.IsPublic (viewOfRest rest) ↔ Path.IsPublic rest := by
  rw [← Path.isPrivate_eq_false_iff, isPrivate_viewOfRest, Path.isPrivate_eq_false_iff]

/-- The path that a canonical path names as a request is that path. -/
theorem viewOfRest_canonical {key : String} (hk : Path.normalize key = .ok key) (hroot : key ≠ "/") :
    ∃ rest : String, key.toList = '/' :: rest.toList ∧ viewOfRest rest = key := by
  obtain ⟨cs, hcs, rfl⟩ := Path.normalize_eq_ok hk
  obtain ⟨ss, hss, rfl⟩ := Path.exists_spell_of_collapse hcs
  refine ⟨String.ofList (List.intercalate ['/'] ss), by rw [String.toList_ofList, String.toList_ofList]; rfl, ?_⟩
  have hne : ss ≠ [] := by rintro rfl; exact hroot rfl
  -- The last segment of a path that ends with a slash is empty.
  have hends : ∀ ds, List.intercalate ['/'] ss ≠ ds ++ ['/'] := by
    intro ds hds
    have hlast := Path.getLast?_segments_spell hss hne
    rw [Path.spell, hds, ← List.cons_append, Path.segments_slash] at hlast
    have hempty : [] = ss.getLast hne := by simpa [List.getLast?_cons, Path.segments] using hlast
    have hmoves := (hss _ (List.getLast_mem hne)).moves
    rw [← hempty] at hmoves
    cases hmoves
  apply String.toList_injective
  rw [toList_viewOfRest, String.toList_ofList, String.toList_ofList, Path.spell]
  congr 1
  rw [List.rdropWhile_eq_self_iff]
  intro hcs hslash
  have hsplit := List.dropLast_concat_getLast hcs
  rw [of_decide_eq_true hslash] at hsplit
  exact hends _ hsplit.symm

namespace Site
variable (site : Site) (requestId : String)

/-- What pages do for a response is a pass over the view, or nothing. -/
theorem pages_showView (isRead : Bool) (view : String) :
    (site.showView requestId isRead view).journal.pages = [] ∨
      ∃ path sink, Path.normalize path = Path.normalize view ∧
        (site.showView requestId isRead view).journal.pages = (site.engine.render path sink).journal.pages := by
  unfold showView
  by_cases hs : site.streamResponses = true
  · rw [if_pos hs]
    cases hview : site.engine.streamedView view with
    | error e =>
      left
      cases isRead <;> simp only [Engine.renderStream, Engine.renderUnread, hview, Except.map] <;> rfl
    | ok key =>
      -- A stream renders the normal form of its view.
      right
      have hv := (site.engine.streamedView_eq_ok hview).1
      refine ⟨key, if isRead then .buffer else .unread, (Path.normalize_normalize hv).trans hv.symm, ?_⟩
      cases isRead <;>
        simp only [Engine.renderStream, Engine.renderUnread, hview, Except.map] <;>
        exact Engine.pages_streamJournal key _
  · rw [if_neg hs]
    refine .inr ⟨view, .buffer, rfl, ?_⟩
    simp only [Engine.renderToContent]
    cases (site.engine.render view .buffer).result with
    | error e => exact congrArg Journal.pages (List.append_nil _)
    | ok data => exact congrArg Journal.pages (List.append_nil _)

theorem showView_starts {isRead : Bool} {view : String} {entry : String × Nat}
    (h : (site.showView requestId isRead view).journal.pages.head? = some entry) :
    ∃ key page, Path.normalize view = .ok key ∧ site.engine.catalog.find? key = some page ∧
      entry = (page.path, 0) := by
  rcases site.pages_showView requestId isRead view with hnone | ⟨path, sink, hpath, hpages⟩
  · rw [hnone] at h
    cases h
  · rw [hpages] at h
    rw [← hpath]
    exact site.engine.render_starts h

theorem showRest_of_public {rest : String} (h : Path.IsPublic rest) (isRead : Bool) :
    site.showRest requestId isRead rest = site.showView requestId isRead (viewOfRest rest) := by
  rw [← isPublic_viewOfRest, ← Path.isPrivate_eq_false_iff] at h
  simp only [showRest, h]
  rfl

theorem showRest_of_private {rest : String} (h : ¬ Path.IsPublic rest) (isRead : Bool) :
    site.showRest requestId isRead rest = .plain (.ofPrivate requestId (viewOfRest rest)) := by
  rw [← isPublic_viewOfRest, ← Path.isPrivate_eq_false_iff, Bool.not_eq_false] at h
  simp only [showRest, h]
  rfl

theorem read_starts {isRead : Bool} {route : Route} {entry : String × Nat}
    (h : (site.read requestId isRead route).journal.pages.head? = some entry) :
    ∃ key page, Path.IsPublic key ∧ site.engine.catalog.find? key = some page ∧ entry = (page.path, 0) := by
  have hshown {view : String} {cs : List Char} (hslash : view.toList = '/' :: cs) (hp : Path.IsPublic view)
      (h : (site.showView requestId isRead view).journal.pages.head? = some entry) :
      ∃ key page, Path.IsPublic key ∧ site.engine.catalog.find? key = some page ∧ entry = (page.path, 0) := by
    obtain ⟨key, page, hkey, hf, he⟩ := site.showView_starts requestId h
    exact ⟨key, page, Path.isPublic_of_normalize hslash hkey hp, hf, he⟩
  cases route with
  | home => exact hshown rfl ((Path.isPrivate_eq_false_iff _).1 (by decide)) h
  | health => cases h
  | unrouted => cases h
  | view raw =>
    simp only [read] at h
    split at h
    · next rest _ =>
      by_cases hp : Path.IsPublic rest
      · rw [site.showRest_of_public requestId hp] at h
        exact hshown (toList_viewOfRest rest) ((isPublic_viewOfRest rest).2 hp) h
      · rw [site.showRest_of_private requestId hp] at h
        cases h
    · cases h

theorem pages_respond (method path : String) :
    (site.respond requestId method path).journal.pages = [] ∨ ∃ isRead route,
      (site.respond requestId method path).journal = (site.read requestId isRead route).journal := by
  unfold respond
  split
  · exact .inl rfl
  · split
    · exact .inr ⟨true, _, rfl⟩
    · split
      · exact .inr ⟨false, _, rfl⟩
      · exact .inl rfl

theorem respond_starts {method path : String} {entry : String × Nat}
    (h : (site.respond requestId method path).journal.pages.head? = some entry) :
    ∃ key page, Path.IsPublic key ∧ site.engine.catalog.find? key = some page ∧ entry = (page.path, 0) := by
  rcases site.pages_respond requestId method path with hnone | ⟨isRead, route, hread⟩
  · rw [hnone] at h
    cases h
  · rw [hread] at h
    exact site.read_starts requestId h

theorem ofPath_eq_view {path rest : String} (hpath : path.toList = '/' :: rest.toList) (hhome : path ≠ "/")
    (hhealth : path ≠ "/_health") : Route.ofPath path = .view rest := by
  simp [Route.ofPath, hhome, hhealth, hpath]

theorem ofPath_canonical {key rest : String} (hkey : key.toList = '/' :: rest.toList) (hroot : key ≠ "/")
    (hp : Path.IsPublic key) : Route.ofPath key = .view rest := by
  -- The path for checks is private itself, so it hides no public one.
  refine ofPath_eq_view hkey hroot ?_
  rintro rfl
  exact absurd ((Path.isPrivate_eq_false_iff _).2 hp) (by decide)

/-- What stands for a public path once its escapes are resolved is routed as a view. -/
theorem ofPath_escaped {raw rest : String} (hraw : Text.text? (unescape (Text.encode raw)) = some rest)
    (hroot : viewOfRest rest ≠ "/") (hp : Path.IsPublic rest) : Route.ofPath ("/" ++ raw) = .view raw := by
  have hpath : ("/" ++ raw).toList = '/' :: raw.toList := String.toList_append
  refine ofPath_eq_view hpath (fun h => ?_) (fun h => ?_)
  · have hempty : Text.text? (unescape (Text.encode "")) = some "" := by decide +kernel
    rw [h] at hpath
    obtain rfl : raw = "" := String.toList_injective (List.cons.inj hpath).2.symm
    obtain rfl : "" = rest := Option.some.inj (hempty.symm.trans hraw)
    exact hroot rfl
  · have hhealth : Text.text? (unescape (Text.encode "_health")) = some "_health" := by decide +kernel
    rw [h] at hpath
    obtain rfl : raw = "_health" := String.toList_injective (List.cons.inj hpath).2.symm
    obtain rfl : "_health" = rest := Option.some.inj (hhealth.symm.trans hraw)
    exact absurd ((Path.isPrivate_eq_false_iff _).2 hp) (by decide)

theorem respond_get {path : String} (h : Route.ofPath path ≠ .unrouted) :
    site.respond requestId "GET" path = site.read requestId true (Route.ofPath path) := by
  unfold respond
  split
  · contradiction
  · rw [if_pos rfl]

theorem respond_escaped {raw rest : String} (hraw : Text.text? (unescape (Text.encode raw)) = some rest)
    (hroot : viewOfRest rest ≠ "/") (hp : Path.IsPublic rest) :
    site.respond requestId "GET" ("/" ++ raw) = site.showView requestId true (viewOfRest rest) := by
  have hroute := ofPath_escaped hraw hroot hp
  rw [site.respond_get requestId (by rw [hroute]; exact nofun), hroute]
  simp only [read, hraw]
  exact site.showRest_of_public requestId hp true

/-- Private views cannot be requested. A path with a private segment is not found, and no page runs. Any
other path is looked up under a public key, and the first page that runs is the one registered there; so
whatever the request, no page runs as a view that is registered under a private path. And every public
path in normal form but the root, where a page is registered, is reached by itself as a request. -/
theorem views_public :
    (∀ isRead rest, ¬ Path.IsPublic rest →
      let exchange := site.showRest requestId isRead rest
      exchange.response.status = 404 ∧ exchange.journal = []) ∧
    (∀ isRead rest, Path.isPrivate (viewOfRest rest) = false →
      let exchange := site.showRest requestId isRead rest
      exchange = site.showView requestId isRead (viewOfRest rest) ∧
        (∀ key, Path.normalize (viewOfRest rest) = .ok key → Path.IsPublic key) ∧
        ∀ entry, exchange.journal.pages.head? = some entry → ∃ key page,
          Path.normalize (viewOfRest rest) = .ok key ∧ site.engine.catalog.find? key = some page ∧
            entry = (page.path, 0)) ∧
    (∀ method path entry, (site.respond requestId method path).journal.pages.head? = some entry →
      ∃ key page, Path.IsPublic key ∧ site.engine.catalog.find? key = some page ∧ entry = (page.path, 0)) ∧
    ∀ key page, site.engine.catalog.find? key = some page → Path.normalize key = .ok key → key ≠ "/" →
      Path.IsPublic key → ∃ rest : String, key.toList = '/' :: rest.toList ∧ Route.ofPath key = .view rest ∧
        (∀ stage, site.engine.openView 0 key stage = .turn ⟨0, key, 0, page⟩ none stage) ∧
        (∀ isRead, site.showRest requestId isRead rest = site.showView requestId isRead key) ∧
        ∀ raw, Text.text? (unescape (Text.encode raw)) = some rest →
          site.respond requestId "GET" ("/" ++ raw) = site.showView requestId true key := by
  refine ⟨fun isRead rest hp => ?_, fun isRead rest hpassed => ?_, fun method path entry h => ?_,
    fun key page hf hk hroot hp => ?_⟩
  · rw [site.showRest_of_private requestId hp]
    exact ⟨rfl, rfl⟩
  · have hview : Path.IsPublic (viewOfRest rest) := (Path.isPrivate_eq_false_iff _).1 hpassed
    have hshown := site.showRest_of_public requestId ((isPublic_viewOfRest rest).1 hview) isRead
    refine ⟨hshown, fun key hkey => Path.isPublic_of_normalize (toList_viewOfRest rest) hkey hview, ?_⟩
    intro entry h
    rw [hshown] at h
    exact site.showView_starts requestId h
  · exact site.respond_starts requestId h
  · obtain ⟨rest, hrest, rfl⟩ := viewOfRest_canonical hk hroot
    have hpublic : Path.IsPublic rest := (isPublic_viewOfRest rest).1 hp
    have hget := site.engine.catalog.get_of_normalized hk
    rw [hf] at hget
    exact ⟨rest, hrest, ofPath_canonical hrest hroot hp,
      fun stage => site.engine.openView_of_get hk (Nat.zero_le _) hget stage,
      site.showRest_of_public requestId hpublic, fun raw hraw => site.respond_escaped requestId hraw hroot hpublic⟩

/-- On the demo site a layout is found under no spelling, and the page to print under its own path. -/
theorem views_public_demo :
    let site : Site := ⟨⟨Demo.site, .standard⟩, true⟩
    ((site.showRest "1" true "docs/.././_layout//").response.status = 404 ∧
      (site.showRest "1" true "docs/.././_layout//").journal = []) ∧
    site.showRest "1" true "~_layout/" = site.showView "1" true "/~_layout" ∧ Path.IsPublic "/~_layout" ∧
    (site.respond "1" "GET" "/print").journal.pages.head? = some ("/print", 0) ∧
    (∃ key page, Path.IsPublic key ∧ Demo.site.find? key = some page ∧ page.path = "/print") ∧
    site.respond "1" "GET" ("/" ++ "%70rint") = site.showView "1" true "/print" := by
  intro site
  obtain ⟨hhidden, hpassed, hstarts, hreached⟩ := site.views_public "1"
  have hlayout : ¬ Path.IsPublic "docs/.././_layout//" :=
    fun hp => absurd ((Path.isPrivate_eq_false_iff _).2 hp) (by decide)
  have hview : viewOfRest "~_layout/" = "/~_layout" := by decide
  obtain ⟨hmarked, hkey, -⟩ := hpassed true "~_layout/" (by decide)
  rw [hview] at hmarked hkey
  have hprint : (site.respond "1" "GET" "/print").journal.pages.head? = some ("/print", 0) := by decide +kernel
  obtain ⟨key, page, hp, hf, hentry⟩ := hstarts "GET" "/print" _ hprint
  have hpublic : Path.IsPublic "/print" := (Path.isPrivate_eq_false_iff _).1 (by decide)
  obtain ⟨rest, hrest, -, -, -, hshown⟩ := hreached "/print" Demo.printPage (by rfl) (by rfl) (by decide) hpublic
  obtain rfl : rest = "print" := String.toList_injective (List.cons.inj hrest).2.symm
  exact ⟨hhidden true _ hlayout, hmarked, hkey _ (by rfl), hprint,
    ⟨key, page, hp, hf, (congrArg Prod.fst hentry).symm⟩, hshown "%70rint" (by decide +kernel)⟩

end Site
end Http
end Folio
