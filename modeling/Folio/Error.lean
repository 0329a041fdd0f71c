/-!
# Errors

Why an operation of a page, a look-up or a pass fails. The wording of each cause is in one place,
`Error.message`.
-/

namespace Folio

/-- Why composing a page fails. -/
inductive Error where
  /-- A name that has to be given is empty. -/
  | argument (parameter : String)
  /-- A section of that name is already defined. -/
  | conflict (name : String)
  /-- The operation needs a child that the page running does not have. -/
  | invalidState (operation template : String)
  /-- The child of the layout does not define the section. -/
  | sectionNotDefined (name template view : String)
  /-- No page is registered under the path. -/
  | pageNotFound (path : String)
  /-- A page is already registered under the path. -/
  | duplicatePage (path : String)
  /-- The reference leaves the root, or is empty. -/
  | invalidPath (base reference : String)
  /-- The chain of layouts of the view, or the nesting of partials, is longer than the limit. -/
  | layoutDepthExceeded (view : String) (limit : Nat)
  /-- A page fails on its own account. -/
  | page (path message : String)
  /-- The sink takes no more writes. -/
  | sinkClosed
  deriving DecidableEq, Repr

namespace Error

/-- The wording of an error. -/
def message : Error → String
  | argument parameter => "value for `" ++ parameter ++ "` cannot be null or empty"
  | conflict name => "section `" ++ name ++ "` has already been defined"
  | invalidState operation template =>
    "`" ++ operation ++ "` cannot be called outside a content page's layout context (template `" ++
      template ++ "`)"
  | sectionNotDefined name template view =>
    "section `" ++ name ++ "` is not defined for layout `" ++ template ++ "` while rendering `" ++ view ++ "`"
  | pageNotFound path => "page `" ++ path ++ "` is not registered"
  | duplicatePage path => "page `" ++ path ++ "` is already registered"
  | invalidPath base reference => "path `" ++ reference ++ "` cannot be resolved from `" ++ base ++ "`"
  | layoutDepthExceeded view limit =>
    "layout chain for `" ++ view ++ "` exceeds maximum depth " ++ toString limit
  | page path text => "page `" ++ path ++ "` failed: " ++ text
  | sinkClosed => "output sink closed before the render pass finished"

/-- The error says that a page is not there. -/
def isNotFound : Error → Bool
  | pageNotFound _ => true
  | _ => false

end Error
end Folio
