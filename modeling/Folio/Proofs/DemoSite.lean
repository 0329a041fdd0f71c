import Folio.Proofs.Scripts
/-!
# The demo site

Each page of the site is run once, on whatever data it is given: the sections it defines, the texts it
writes, and the data it leaves (`Page.Gives`). A content page in its two layouts is then one document of a
known shape, `contentDocument`, and the documents of the site are cases of it.

`Demo.passes_clean` says what follows for the data. Two of the three documents do not depend on them at all,
and the third one depends on two values only, of which one stands in it escaped.
-/

namespace Folio.Demo

/-! ## The data that pages read -/

/-- The visitor that the data name. -/
def visitor (data : PageData) : String :=
  match data.get? "visitor" with
  | some (.text visitor) => visitor
  | _ => "guest"

/-- The data say that the sidebar is hidden. -/
def hidesSidebar (data : PageData) : Bool :=
  match data.get? "hide_sidebar" with
  | some (.bool true) => true
  | _ => false

theorem textOr_visitor (data : PageData) : textOr (data.get? "visitor") "guest" = visitor data := by
  unfold textOr visitor
  rcases data.get? "visitor" with _ | _ | _ | _ | _ | _ | _ <;> rfl

theorem getD_hide_sidebar (data : PageData) :
    ((data.get? "hide_sidebar").bind (·.bool?)).getD false = hidesSidebar data := by
  unfold hidesSidebar
  rcases data.get? "hide_sidebar" with _ | _ | ⟨_ | _⟩ | _ | _ | _ | _ <;> rfl

/-- The names in use on the site, with their keys. -/
@[simp] theorem fold_names : Text.fold "title" = "title" ∧ Text.fold "hide_sidebar" = "hide_sidebar" ∧
    Text.fold "visitor" = "visitor" ∧ Text.fold "Sidebar" = "sidebar" ∧ Text.fold "Scripts" = "scripts" ∧
    Text.fold "Footer" = "footer" ∧ Text.fold "Content" = "content" := by decide +kernel

/-! ## The pages -/

variable {partials : PartialRenderer} {traced : Bool}

/-- The partial at `/_greeting` greets the visitor. -/
def Greets (partials : PartialRenderer) : Prop :=
  ∀ texts data journal, partials "/_greeting" (.buffered texts data journal) =
    (.ok (), .buffered (texts ++ [greeting (visitor data), "\n"]) data (journal ++ [.entered "/_greeting" 1]))

theorem greetingPartial_execute (texts : List String) (data : PageData) (journal : Journal) :
    greetingPartial.execute (.forPage greetingPartial "/_greeting" none traced) partials 1
        (.buffered texts data journal) =
      (.ok (.ofSections []),
        .buffered (texts ++ [greeting (visitor data), "\n"]) data (journal ++ [.entered "/_greeting" 1])) := by
  simp [Page.execute_eq_on, greetingPartial, textOr_visitor]

theorem greets {options : Options} (hdepth : 1 ≤ options.maxLayoutDepth) :
    Greets (Engine.renderAtDepth ⟨site, options⟩ 1) := by
  intro texts data journal
  have hview : Path.normalize "/_greeting" = .ok "/_greeting" := rfl
  have hleftover : greetingPartial.leftover (.ofSections []) = [] := rfl
  rw [Engine.renderAtDepth_eq_lead ⟨site, options⟩ hdepth hview rfl (.last rfl) (Nat.zero_le _)]
  simp [Engine.lead, Page.conclude, greetingPartial_execute, hleftover, -Composer.forPage_none]

/-- The start of the body of the home page. -/
def homeStart : String := homeBody "Layouts, composed" ["Named sections", "Nested layouts", "Streaming output"]

/-- The script that the home page asks for. -/
def homeScript : String := "<script src=\"/app.js\"></script>\n"

def aboutArticle : String := article "About" "Every page here is a content page wrapped by two layouts"

def printArticle : String := article "Trellis at a glance" "Pages define sections and layouts pull them in"

/-- The footer that the layout of content pages defines. -/
def siteFooter : String := "<p>Trellis demo site</p>"

theorem homePage_gives (hp : Greets partials) (data : PageData) :
    homePage.Gives (.forPage homePage "/index" none traced) partials data
      [.ofText "Sidebar" navigation, .ofText "Scripts" homeScript]
      [homeStart, "\n", greeting (visitor data), "\n"] (data.set "title" (.text "Home")) := by
  intro journal
  have hreference : Path.resolve "/index" "_greeting" = .ok "/_greeting" := rfl
  have hvisitor : visitor (data.set "title" (.text "Home")) = visitor data := by
    simp [visitor, PageData.get?_set]
  refine ⟨[.entered "/index" 0, .entered "/_greeting" 1], rfl, ?_⟩
  simp [Page.execute_eq_on, homePage, Script.on_renderPartial _ _ hreference (hp _ _ _), hvisitor, homeStart,
    homeScript]

theorem aboutPage_gives (data : PageData) :
    aboutPage.Gives (.forPage aboutPage "/about" none traced) partials data
      [.ofText "Sidebar" "<p>Hidden on this page</p>"] [aboutArticle, "\n"]
      ((data.set "title" (.text "About")).set "hide_sidebar" (.bool true)) := by
  intro journal
  refine ⟨[.entered "/about" 0], rfl, ?_⟩
  simp [Page.execute_eq_on, aboutPage, aboutArticle]

theorem printPage_gives (data : PageData) :
    printPage.Gives (.forPage printPage "/print" none traced) partials data
      [.ofText "Content" printArticle] [] (data.set "title" (.text "Printable summary")) := by
  intro journal
  refine ⟨[.entered "/print" 0], rfl, ?_⟩
  simp [Page.execute_eq_on, printPage, printArticle]

/-- What the layout of content pages puts around a body. -/
def framed (body sidebar : String) (hidden : Bool) (scripts : Option String) : List String :=
  ["<main>\n", body, "</main>\n"] ++ (if hidden then [] else ["<aside>", sidebar, "</aside>\n"]) ++ scripts.toList

/-- The layout of content pages sets the sidebar aside where the data say so and pulls it otherwise, so it
never leaves it unused; and it pulls the scripts of a page that has some. -/
theorem siteLayout_gives (view body sidebar : String) (scripts : Option String) (data : PageData) :
    siteLayout.Gives
      (.forPage siteLayout view
        (some ⟨.ofSections (.ofText "Sidebar" sidebar :: (scripts.map (.ofText "Scripts")).toList),
          some (.ofText body)⟩) traced)
      partials data [.ofText "Footer" siteFooter] (framed body sidebar (hidesSidebar data) scripts) data := by
  intro journal
  refine ⟨.entered "/_layout" 0 :: ((if hidesSidebar data then [] else [.pulled "Sidebar" "/_layout"]) ++
    (scripts.map fun _ => .pulled "Scripts" "/_layout").toList), ?_, ?_⟩
  · cases hidesSidebar data <;> cases scripts <;> rfl
  · cases hidden : hidesSidebar data <;> rcases scripts with _ | text
    · simp [Page.execute_eq_on, siteLayout, getD_hide_sidebar, hidden, Script.renderSection, framed, siteFooter,
        Script.on_pull_found _ _ "Sidebar" sidebar]
    · simp [Page.execute_eq_on, siteLayout, getD_hide_sidebar, hidden, Script.renderSection, framed, siteFooter,
        Script.on_pull_found _ _ "Sidebar" sidebar, Script.on_pull_found _ _ "Scripts" text]
    · simp [Page.execute_eq_on, siteLayout, getD_hide_sidebar, hidden, Script.renderSection, framed, siteFooter]
    · simp [Page.execute_eq_on, siteLayout, getD_hide_sidebar, hidden, Script.renderSection, framed, siteFooter,
        Script.on_pull_found _ _ "Scripts" text]

/-- The outermost document takes its title from the data and pulls the footer. -/
theorem rootLayout_gives (view body footer : String) {title : String} {data : PageData}
    (htitle : data.get? "title" = some (.text title)) :
    rootLayout.Gives
      (.forPage rootLayout view (some ⟨.ofSections [.ofText "Footer" footer], some (.ofText body)⟩) traced)
      partials data [] [head title, "\n", body, "<footer>", footer, "</footer>\n</body>\n</html>\n"] data := by
  intro journal
  have hlength : Text.byteLength "</footer>\n</body>\n</html>\n" = 26 := by decide +kernel
  refine ⟨[.entered "/_root" 0, .pulled "Footer" "/_root"] ++
    (if traced then [.region (.opened "/_root" 96 26 true), .region (.closed "/_root")] else []), ?_, ?_⟩
  · cases traced <;> rfl
  · cases traced <;>
      simp [Page.execute_eq_on, rootLayout, htitle, textOr, Value.text?, Script.renderSection,
        Script.on_pull_found _ _ "Footer" footer, Composer.openRegion, Composer.closeRegion, hlength]

theorem printLayout_gives (view content : String) (data : PageData) :
    printLayout.Gives (.forPage printLayout view (some ⟨.ofSections [.ofText "Content" content], none⟩) traced)
      partials data []
      ["<!doctype html>\n<html>\n<body class=\"print\">\n", content, "\n</body>\n</html>\n"] data := by
  intro journal
  refine ⟨[.entered "/_print" 0, .pulled "Content" "/_print"], rfl, ?_⟩
  simp [Page.execute_eq_on, printLayout, Script.requireSection, Script.on_pull_found _ _ "Content" content]

/-! ## Content pages -/

theorem chain_aboutPage : site.Chain aboutPage [aboutPage, siteLayout] rootLayout :=
  .link rfl rfl rfl (.link rfl rfl rfl (.last rfl))

theorem chain_printPage : site.Chain printPage [printPage] printLayout := .link rfl rfl rfl (.last rfl)

/-- A content page in its two layouts. -/
def contentDocument (title body sidebar : String) (hidden : Bool) (scripts : Option String) : String :=
  head title ++ "\n" ++ "<main>\n" ++ body ++ "</main>\n" ++
    (if hidden then "" else "<aside>" ++ sidebar ++ "</aside>\n") ++ scripts.getD "" ++
    "<footer>" ++ siteFooter ++ "</footer>\n</body>\n</html>\n"

theorem contentDocument_eq (title body sidebar : String) (hidden : Bool) (scripts : Option String) :
    String.join [head title, "\n", String.join (framed body sidebar hidden scripts), "<footer>", siteFooter,
      "</footer>\n</body>\n</html>\n"] = contentDocument title body sidebar hidden scripts := by
  -- The literals stay apart here; joined, they would no longer match on the two sides.
  cases hidden <;> cases scripts <;>
    simp [-String.reduceAppend, framed, contentDocument, String.join_cons, String.append_assoc]

/-- A page that defines a sidebar, maybe scripts, and a title is a content page of the site. -/
theorem contentPage_clean {options : Options} {first : Page} {view title text sidebar : String}
    (scripts : Option String) {texts : List String} {data after : PageData} (hdepth : 2 ≤ options.maxLayoutDepth)
    (hv : Path.normalize view = .ok view) (hf : site.find? view = some first)
    (hc : site.Chain first [first, siteLayout] rootLayout)
    (hfirst : first.Gives (.forPage first view none options.traceRegions)
      (Engine.renderAtDepth ⟨site, options⟩ 1) data
      (.ofText "Sidebar" sidebar :: (scripts.map (.ofText "Scripts")).toList) (text :: texts) after)
    (htext : text ≠ "") (htitle : after.get? "title" = some (.text title)) :
    (Engine.renderWithData ⟨site, options⟩ view .buffer data).Clean
      (contentDocument title (String.join (text :: texts)) sidebar (hidesSidebar after) scripts) := by
  obtain ⟨begun, hbegun, hfirst⟩ := Engine.lead_of_gives ⟨site, options⟩ [siteLayout] hfirst []
  rw [bodyOf_cons htext] at hfirst
  obtain ⟨more, hmore, hlayout⟩ := Engine.lead_of_gives ⟨site, options⟩ []
    (siteLayout_gives view (String.join (text :: texts)) sidebar scripts after) ([] ++ begun)
  have hbody : bodyOf (framed (String.join (text :: texts)) sidebar (hidesSidebar after) scripts) =
      some (.ofText (String.join (framed (String.join (text :: texts)) sidebar (hidesSidebar after) scripts))) :=
    bodyOf_cons (by decide) _
  rw [hbody] at hlayout
  exact Engine.clean_of_gives ⟨site, options⟩ hv hf hc hdepth (hfirst.trans hlayout) (by simp [hbegun, hmore])
    (rootLayout_gives view _ siteFooter htitle) (contentDocument_eq title _ sidebar _ scripts)

/-! ## The documents -/

/-- The home page up to the visitor. -/
def indexOpening : String :=
  "<!doctype html>\n<html lang=\"en\">\n<head><title>Home</title></head>\n<body>\n<main>\n" ++
    "<h1>Layouts, composed</h1>" ++
    "<ul><li>Named sections</li><li>Nested layouts</li><li>Streaming output</li></ul>\n" ++
    "<p class=\"greeting\">Welcome, "

/-- The home page from the visitor to the sidebar. -/
def indexMiddle : String := ".</p>\n</main>\n"

/-- The sidebar of the home page. -/
def indexSidebar : String :=
  "<aside><nav><a href=\"/\">Home</a><a href=\"/about\">About</a><a href=\"/print\">Print</a></nav></aside>\n"

/-- The home page after the sidebar. -/
def indexClosing : String :=
  "<script src=\"/app.js\"></script>\n<footer><p>Trellis demo site</p></footer>\n</body>\n</html>\n"

/-- The home page for a visitor, without the sidebar or with it. -/
def indexDocument (hidden : Bool) (visitor : String) : String :=
  indexOpening ++ Text.escape visitor ++ indexMiddle ++ (if hidden then "" else indexSidebar) ++ indexClosing

def aboutDocument : String :=
  "<!doctype html>\n<html lang=\"en\">\n<head><title>About</title></head>\n<body>\n<main>\n" ++
    "<h1>About</h1><p>Every page here is a content page wrapped by two layouts</p>\n" ++
    "</main>\n<footer><p>Trellis demo site</p></footer>\n</body>\n</html>\n"

def printDocument : String :=
  "<!doctype html>\n<html>\n<body class=\"print\">\n" ++
    "<h1>Trellis at a glance</h1><p>Pages define sections and layouts pull them in</p>\n" ++
    "</body>\n</html>\n"

theorem contentDocument_index (hidden : Bool) (visitor : String) :
    contentDocument "Home" (String.join [homeStart, "\n", greeting visitor, "\n"]) navigation hidden
      (some homeScript) = indexDocument hidden visitor := by
  have hopening : head "Home" ++ "\n" ++ "<main>\n" ++ homeStart ++ "\n" ++ "<p class=\"greeting\">Welcome, " =
      indexOpening := by decide +kernel
  have hmiddle : ".</p>" ++ "\n" ++ "</main>\n" = indexMiddle := by decide +kernel
  have hsidebar : "<aside>" ++ navigation ++ "</aside>\n" = indexSidebar := by decide +kernel
  have hclosing : homeScript ++ "<footer>" ++ siteFooter ++ "</footer>\n</body>\n</html>\n" = indexClosing := by
    decide +kernel
  rw [indexDocument, ← hopening, ← hmiddle, ← hclosing, ← hsidebar]
  cases hidden <;>
    simp [-String.reduceAppend, contentDocument, greeting, Text.wrap, String.join_cons, String.append_assoc]

theorem contentDocument_about :
    contentDocument "About" (String.join [aboutArticle, "\n"]) "<p>Hidden on this page</p>" true none =
      aboutDocument := by
  decide +kernel

section Views
variable {options : Options} (hdepth : 2 ≤ options.maxLayoutDepth) (data : PageData)
include hdepth

theorem index_clean : (Engine.renderWithData ⟨site, options⟩ "/index" .buffer data).Clean
    (indexDocument (hidesSidebar data) (visitor data)) := by
  have hhides : hidesSidebar (data.set "title" (.text "Home")) = hidesSidebar data := by
    simp [hidesSidebar, PageData.get?_set]
  rw [← contentDocument_index, ← hhides]
  exact contentPage_clean (some homeScript) hdepth rfl rfl chain_homePage
    (homePage_gives (greets (Nat.le_of_succ_le hdepth)) data) (by decide +kernel) (by simp [PageData.get?_set])

theorem about_clean : (Engine.renderWithData ⟨site, options⟩ "/about" .buffer data).Clean aboutDocument := by
  have hhides : hidesSidebar ((data.set "title" (.text "About")).set "hide_sidebar" (.bool true)) = true := by
    simp [hidesSidebar, PageData.get?_set]
  rw [← contentDocument_about, ← hhides]
  exact contentPage_clean none hdepth rfl rfl chain_aboutPage (aboutPage_gives data) (by decide +kernel)
    (by simp [PageData.get?_set])

theorem print_clean : (Engine.renderWithData ⟨site, options⟩ "/print" .buffer data).Clean printDocument := by
  obtain ⟨begun, hbegun, hpage⟩ := Engine.lead_of_gives ⟨site, options⟩ [] (printPage_gives data) []
  exact Engine.clean_of_gives ⟨site, options⟩ rfl rfl chain_printPage (Nat.le_of_succ_le hdepth) hpage hbegun
    (printLayout_gives "/print" printArticle _) (by decide +kernel)

end Views

/-! ## The visitor -/

theorem filter_escape (visitor : String) : (Text.escape visitor).toList.filter Text.isMarkup = [] := by
  rw [List.filter_eq_nil_iff]
  intro c hc
  simp [Text.not_mem_escape visitor c hc]

/-- The demo site is rendered whole on all data, where a content page may have its two layouts. Each of its
views succeeds and warns of nothing. The about page and the printed page are the same documents on all data.
The home page depends on two things: whether the data hide the sidebar, which takes out the markup of the
sidebar and nothing else, and which visitor they name. The visitor stands there escaped, and no visitor adds
an angle bracket or a quote to the page. -/
theorem passes_clean (options : Options) (hdepth : 2 ≤ options.maxLayoutDepth) (data : PageData) :
    catalog = .ok site ∧
    let engine : Engine := ⟨site, options⟩
    (engine.renderWithData "/index" .buffer data).Clean (indexDocument (hidesSidebar data) (visitor data)) ∧
    (engine.renderWithData "/about" .buffer data).Clean aboutDocument ∧
    (engine.renderWithData "/print" .buffer data).Clean printDocument ∧
    (∀ visitor, ∃ before after, indexDocument false visitor = before ++ indexSidebar ++ after ∧
      indexDocument true visitor = before ++ after) ∧
    ∀ hidden, ∃ before after, ∀ visitor, indexDocument hidden visitor = before ++ Text.escape visitor ++ after ∧
      (indexDocument hidden visitor).toList.filter Text.isMarkup =
        (before ++ after).toList.filter Text.isMarkup := by
  refine ⟨catalog_eq, index_clean hdepth data, about_clean hdepth data, print_clean hdepth data,
    fun visitor => ?_, fun hidden => ?_⟩
  · exact ⟨indexOpening ++ Text.escape visitor ++ indexMiddle, indexClosing, rfl, by simp [indexDocument]⟩
  · refine ⟨indexOpening, indexMiddle ++ (if hidden then "" else indexSidebar) ++ indexClosing,
      fun visitor => ⟨?_, ?_⟩⟩
    · simp [indexDocument, String.append_assoc]
    · simp [indexDocument, filter_escape]

/-- A visitor with the name of a tag stands escaped in the page, here without the sidebar. -/
theorem passes_clean_tagged :
    let data : PageData := (PageData.empty.set "Visitor" (.text "<b>")).set "hide_sidebar" (.bool true)
    (Engine.renderWithData ⟨site, .standard⟩ "/index" .buffer data).sink.output =
      .ofText (indexOpening ++ "&#60;b&#62;" ++ indexMiddle ++ indexClosing) := by
  intro data
  obtain ⟨-, hindex, -⟩ := passes_clean .standard (by decide) data
  have hvisitor : visitor data = "<b>" := by decide +kernel
  have hhides : hidesSidebar data = true := by decide +kernel
  have hescaped : Text.escape "<b>" = "&#60;b&#62;" := by decide +kernel
  have hdocument : indexDocument true "<b>" = indexOpening ++ "&#60;b&#62;" ++ indexMiddle ++ indexClosing := by
    simp [indexDocument, hescaped]
  rw [← hdocument, ← hhides, ← hvisitor]
  exact hindex.output

end Folio.Demo
