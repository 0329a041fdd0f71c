import Folio.Catalog
/-!
# The demo site

A small site: a content page under two nested layouts, a page that hides part of what it defines,
a page that only defines sections, and a partial.
-/

namespace Folio.Demo

open Text (wrap)

/-- The links of the navigation: target and label. -/
def links : List (String × String) := [("/", "Home"), ("/about", "About"), ("/print", "Print")]

/-- The start of the document. -/
def head (title : String) : String :=
  wrap "<!doctype html>\n<html lang=\"en\">\n<head><title>" title "</title></head>\n<body>"

/-- The body of the home page. -/
def homeBody (headline : String) (features : List String) : String :=
  wrap "<h1>" headline "</h1><ul>" ++ String.join (features.map (wrap "<li>" · "</li>")) ++ "</ul>"

/-- The navigation. -/
def navigation : String :=
  "<nav>" ++
    String.join (links.map fun (target, label) =>
      wrap "<a href=\"" target "\">" ++ wrap "" label "</a>") ++ "</nav>"

/-- A headline with a paragraph. -/
def article (title blurb : String) : String := wrap "<h1>" title "</h1>" ++ wrap "<p>" blurb "</p>"

/-- The greeting of a visitor. -/
def greeting (visitor : String) : String := wrap "<p class=\"greeting\">Welcome, " visitor ".</p>"

/-- The text of a shared value, or another text where there is none. -/
def textOr (value : Option Value) (default : String) : String := (value.bind (·.text?)).getD default

/-- The outermost document. -/
def rootLayout : Page where
  path := "/_root"
  layout := none
  program := Script.program do
    let title := textOr (← Script.getData "title") "Trellis"
    Script.writeText (head title)
    Script.writeText "\n"
    Script.renderBody
    Script.writeText "<footer>"
    if (← Script.renderSection "Footer").isNone then
      Script.writeText "<p>Composed with trellis.</p>"
    Script.writeAt 96 "</footer>\n</body>\n</html>\n"

/-- The frame of content pages, inside the outermost document. -/
def siteLayout : Page where
  path := "/_layout"
  layout := some "_root"
  program := Script.program do
    Script.define "Footer" (.ofContent (.ofText "<p>Trellis demo site</p>"))
    Script.writeText "<main>\n"
    Script.renderBody
    Script.writeText "</main>\n"
    let hidden := ((← Script.getData "hide_sidebar").bind (·.bool?)).getD false
    if ← Script.isSectionDefined "Sidebar" then
      if hidden then
        Script.ignoreSection "Sidebar"
      else
        Script.writeText "<aside>"
        discard <| Script.renderSection "Sidebar"
        Script.writeText "</aside>\n"
    discard <| Script.renderSection "Scripts"

/-- The layout of pages that only define sections. -/
def printLayout : Page where
  path := "/_print"
  layout := none
  program := Script.program do
    Script.writeText "<!doctype html>\n<html>\n<body class=\"print\">\n"
    Script.ignoreBody
    discard <| Script.requireSection "Content"
    Script.writeText "\n</body>\n</html>\n"

/-- The home page. -/
def homePage : Page where
  path := "/index"
  layout := some "_layout"
  program := Script.program do
    Script.setData "title" (.text "Home")
    Script.writeText (homeBody "Layouts, composed" ["Named sections", "Nested layouts", "Streaming output"])
    Script.writeText "\n"
    Script.renderPartial "_greeting"
    Script.define "Sidebar" (.ofContent (.ofText navigation))
    Script.define "Scripts" (.ofContent (.ofText "<script src=\"/app.js\"></script>\n"))

/-- The page that hides its sidebar. -/
def aboutPage : Page where
  path := "/about"
  layout := some "_layout"
  program := Script.program do
    Script.setData "title" (.text "About")
    Script.setData "hide_sidebar" (.bool true)
    Script.writeText (article "About" "Every page here is a content page wrapped by two layouts")
    Script.writeText "\n"
    Script.define "Sidebar" (.ofContent (.ofText "<p>Hidden on this page</p>"))

/-- The page that only defines a section. -/
def printPage : Page where
  path := "/print"
  layout := some "_print"
  program := Script.program do
    Script.setData "title" (.text "Printable summary")
    Script.define "Content"
      (.ofContent (.ofText (article "Trellis at a glance" "Pages define sections and layouts pull them in")))

/-- The partial of the home page. -/
def greetingPartial : Page where
  path := "/_greeting"
  layout := none
  program := Script.program do
    Script.writeText (greeting (textOr (← Script.getData "visitor") "guest"))
    Script.writeText "\n"

/-- The pages of the site. -/
def pages : List Page :=
  [rootLayout, siteLayout, printLayout, homePage, aboutPage, printPage, greetingPartial]

/-- The catalog of the site. -/
def catalog : Except Error Catalog := pages.foldlM Catalog.register .empty

end Folio.Demo
