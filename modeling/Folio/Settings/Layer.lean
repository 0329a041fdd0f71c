import Folio.Settings.Json
import Folio.Settings.Place
import Folio.Settings.Toml
/-!
# Layers of settings

A layer is read from a file or from the environment, and says at which places it has which nodes.
`stack` lays layers over each other, the last one on top.

A file is named with or without the end of its name. Its exact name comes first, and then the names
with the end of a format. A file that nobody asked for may be missing; one that is there has to be
readable in any case.
-/

namespace Folio.Settings

/-- A layer: nodes with their places in words. -/
structure Layer where
  entries : List (String × Node)
  deriving Inhabited

/-- A table with a layer over it. -/
def Layer.over (layer : Layer) (n : Node) : Node :=
  layer.entries.foldl (fun n (place, value) => (Place.read place).put value n) n

/-- The table of all layers, the first one at the bottom. -/
def stack (layers : List Layer) : Node := layers.foldl (fun n layer => layer.over n) .root

theorem stack_append (layers : List Layer) (top : Layer) : stack (layers ++ [top]) = top.over (stack layers) := by
  simp [stack]

/-! ## Files -/

/-- The files below the working directory, each with its path and its text. -/
abbrev Files := List (String × String)

/-- A form of configuration files. -/
inductive Format where
  | toml
  | json
  deriving DecidableEq, Repr

namespace Format

/-- All forms, in the order in which they are tried. -/
def all : List Format := [toml, json]

/-- The end of the names of files of a form. -/
def ending : Format → String
  | toml => "toml"
  | json => "json"

/-- The table that a text in a form writes; anything else but a table is refused. -/
def parse (format : Format) (origin s : String) : Option Node :=
  let n := match format with
    | toml => Toml.parse (some origin) s
    | json => Json.parse (some origin) s
  match n with
  | some (.table origin entries) => some (.table origin entries)
  | _ => none

end Format

/-- Why a layer is not read from a file. -/
inductive FileFault where
  /-- There is no file of this name. -/
  | missing (path : String)
  /-- The end of the name says nothing about the form of the file. -/
  | unknownForm (path : String)
  /-- The file holds no table in the form that its name says. -/
  | unreadable (path : String)
  deriving DecidableEq, Repr

/-- The parts of a path, without those that stay where they are. -/
def pathParts (path : String) : List String :=
  ((path.toList.splitOn '/').map String.ofList).filter fun part => part ≠ "" && part ≠ "."

/-- The path with the fewest characters that leads to the same file. -/
def tidy (path : String) : String :=
  (if path.startsWith "/" then "/" else "") ++ "/".intercalate (pathParts path)

/-- The end of a file's name after its last dot. A name has none where that dot comes first. -/
def extension? (path : String) : Option String :=
  match ((pathParts path).getLast?.getD "").toList.splitOn '.' with
  | [] => none
  | [_] => none
  | [[], _] => none
  | parts => parts.getLast?.map String.ofList

/-- The paths under which a file is looked for by its name, after the name itself. -/
def withEndings (path : String) : List (String × Format) :=
  Format.all.map fun format => (tidy path ++ "." ++ format.ending, format)

/-- Finds a file by its name: its path, its form and its text. -/
def Files.find (files : Files) (path : String) : Except FileFault (String × Format × String) :=
  match files.lookup (tidy path) with
  | some s =>
    match Format.all.find? fun format => extension? path = some format.ending with
    | some format => .ok (tidy path, format, s)
    | none => .error (.unknownForm path)
  | none =>
    let found := (withEndings path).filterMap fun (path, format) => (files.lookup path).map fun s => (path, format, s)
    match found with
    | file :: _ => .ok file
    | [] => .error (.missing path)

/-- A text without the mark of its encoding. -/
def withoutMark (s : String) : String :=
  match s.toList with
  | c :: cs => if c.toNat = 0xfeff then String.ofList cs else s
  | [] => s

/-- Reads a layer from a file. -/
def Layer.ofFile (files : Files) (path : String) : Except FileFault Layer :=
  match files.find path with
  | .error e => .error e
  | .ok (found, format, s) =>
    match format.parse found (withoutMark s) with
    | some n => .ok ⟨n.entries⟩
    | none => .error (.unreadable found)

/-- Reads a layer from a file that may be missing. -/
def Layer.ofFileIfAny (files : Files) (path : String) : Except FileFault Layer :=
  match files.find path with
  | .error _ => .ok ⟨[]⟩
  | .ok _ => Layer.ofFile files path

/-! ## The environment -/

/-- What the names of settings in the environment start with, in any case. -/
def environmentMark : String := "trellis__"

/-- A name in which each pair of underscores is a dot. -/
def dotted : List Char → List Char
  | '_' :: '_' :: cs => '.' :: dotted cs
  | c :: cs => c :: dotted cs
  | [] => []

/-- The place of a setting that the environment names. -/
def environmentPlace? (name : String) : Option String :=
  let folded := Text.fold name
  if folded.startsWith environmentMark then
    some (String.ofList (dotted (folded.toList.drop environmentMark.length)))
  else none

/-- Reads a layer from the environment, in which everything is text. -/
def Layer.ofEnvironment (environment : List (String × String)) : Layer :=
  ⟨environment.filterMap fun (name, value) =>
    (environmentPlace? name).map fun place => (place, .scalar (some "the environment") (.text value))⟩

end Folio.Settings
