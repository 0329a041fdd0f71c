import Folio.Log
import Folio.Text.Bytes
import Folio.Text.Digits
/-!
# Which records are shown

A filter is a list of directives. A directive shows records up to a threshold, of all targets or of
those that start with a name. Of the directives that speak of a record the one with the longest name
decides, and among directives with the same name the last one.

A text of directives is read one by one between commas; one that cannot be read is noted and passed
over. If none is left, the threshold of the settings holds for all targets.
-/

namespace Folio

/-- How serious a record has to be to be shown. -/
inductive Threshold where
  | off
  | upTo (level : Level)
  deriving DecidableEq, Repr

namespace Threshold

/-- All thresholds; the place of a threshold in this list is its number. -/
def all : List Threshold := [off, upTo .error, upTo .warn, upTo .info, upTo .debug, upTo .trace]

/-- The name of a threshold. -/
def name : Threshold → String
  | off => "off"
  | upTo .error => "error"
  | upTo .warn => "warn"
  | upTo .info => "info"
  | upTo .debug => "debug"
  | upTo .trace => "trace"

/-- Records of a level are shown. -/
def shows : Threshold → Level → Bool
  | off, _ => false
  | upTo limit, level => level.verbosity ≤ limit.verbosity

/-- The small letter of a capital one in ASCII. -/
def small (c : Char) : Char := if 'A' ≤ c && c ≤ 'Z' then Char.ofNat (c.toNat + 32) else c

/-- The threshold that a text names, in any case or by its number; no text at all names the one of
errors. -/
def parse? (s : String) : Option Threshold :=
  match (Text.unsigned? s).bind fun n => all[n]? with
  | some t => some t
  | none =>
    if s.isEmpty then some (upTo .error)
    else all.find? fun t => t.name = String.ofList (s.toList.map small)

/-- What is wrong with a text that names no threshold. -/
def refusal : String :=
  "error parsing level filter: expected one of \"off\", \"error\", \"warn\", \"info\", \"debug\", \"trace\", " ++
    "or a number 0-5"

theorem parse?_name (t : Threshold) : parse? t.name = some t := by
  cases t with
  | off => decide +kernel
  | upTo level => cases level <;> decide +kernel

end Threshold

/-- One line of a filter: the start of the targets that it speaks of, and how much of them is shown.
One that is bound to a span speaks of no record outside of it. -/
structure Directive where
  target : Option String
  inSpan : Bool
  threshold : Threshold
  deriving DecidableEq, Repr

namespace Directive

/-- Why a directive is not read. -/
inductive Fault where
  | malformed
  | unknownThreshold
  deriving DecidableEq, Repr

/-- The wording of a fault. -/
def Fault.message : Fault → String
  | malformed => "invalid filter directive"
  | unknownThreshold => Threshold.refusal

/-- A character of white space in Unicode. -/
def isBlank (c : Char) : Bool :=
  c.isWhitespace || (0x2000 ≤ c.toNat && c.toNat ≤ 0x200a) ||
    c.toNat ∈ [0x0b, 0x0c, 0x85, 0xa0, 0x1680, 0x2028, 0x2029, 0x202f, 0x205f, 0x3000]

/-- A text without the white space around it. -/
def trim (cs : List Char) : List Char := ((cs.dropWhile isBlank).reverse.dropWhile isBlank).reverse

/-- A character that a target can start with; outside of ASCII all count as letters. -/
def startsTarget (c : Char) : Bool :=
  c.isAlphanum || c = '-' || c = ':' || c = '_' || 0x80 ≤ c.toNat

/-- The threshold after an equals sign; all is shown where nothing follows. -/
def thresholdOf (cs : List Char) : Except Fault Threshold :=
  if cs.isEmpty then .ok (.upTo .trace)
  else
    match Threshold.parse? (String.ofList cs) with
    | some t => .ok t
    | none => .error .unknownThreshold

/-- The part of a directive about a span up to its bracket, and what follows: the name of the span,
and fields in braces of which none is empty. -/
def afterSpan (cs : List Char) : Option (List Char) :=
  match cs.dropWhile fun c => c ≠ ']' && c ≠ '\x7b' with
  | ']' :: rest => some rest
  | '\x7b' :: rest =>
    match rest.takeWhile (· ≠ '\x7d'), rest.dropWhile (· ≠ '\x7d') with
    | _ :: _, '\x7d' :: ']' :: rest => some rest
    | _, _ => none
  | _ => none

/-- Reads a directive. The parts of it are cut out of the text as it stands, at the distances that
they have in the text without the white space around it. -/
def parse (s : String) : Except Fault Directive :=
  let cs := s.toList
  let shape := trim cs
  let name := shape.takeWhile fun c => c ≠ '=' && c ≠ '['
  let spanned (target : Option String) (shape : List Char) : Except Fault Directive :=
    match afterSpan shape with
    | some [] => .ok ⟨target, true, .upTo .trace⟩
    | some ('=' :: rest) => (thresholdOf rest).map (⟨target, true, ·⟩)
    | _ => .error .malformed
  match shape with
  | [] => .error .malformed
  | '[' :: rest => spanned none rest
  | c :: _ =>
    if !startsTarget c then .error .malformed
    else
      let target := String.ofList (cs.take name.length)
      match shape.drop name.length with
      | [] =>
        match Threshold.parse? s with
        | some t => .ok ⟨none, false, t⟩
        | none => .ok ⟨some s, false, .upTo .trace⟩
      | '=' :: _ => (thresholdOf (cs.drop (name.length + 1))).map (⟨some target, false, ·⟩)
      | _ :: rest => spanned (some target) rest

/-- The directive speaks of records of a target. -/
def speaksOf (d : Directive) (target : String) : Bool :=
  !d.inSpan && (match d.target with
    | none => true
    | some start => start.toList.isPrefixOf target.toList)

/-- The length of the name that a directive has; none is shorter than any. -/
def weight (d : Directive) : Nat :=
  match d.target with
  | none => 0
  | some start => Text.byteLength start + 1

end Directive

/-- A filter of records. -/
abbrev Filter := List Directive

namespace Filter

/-- The directive that decides about a target: the one with the longest name, and of these the last. -/
def decisive (f : Filter) (target : String) : Option Directive :=
  (f.filter (·.speaksOf target)).foldl
    (fun best d =>
      match best with
      | none => some d
      | some b => if b.weight ≤ d.weight then some d else some b) none

/-- A record is shown. -/
def shows (f : Filter) (r : Record) : Bool :=
  match f.decisive r.target with
  | none => false
  | some d => d.threshold.shows r.level

/-- The filter that shows all records up to a threshold. -/
def ofThreshold (t : Threshold) : Filter := [⟨none, false, t⟩]

/-- The directives of a text, read one by one. -/
def readAll (s : String) : List (String × Except Directive.Fault Directive) :=
  (((s.toList.splitOn ',').filter (!·.isEmpty)).map String.ofList).map fun d => (d, Directive.parse d)

/-- The filter of a text of directives, where a threshold holds if there are none. -/
def ofText (s : String) (default : Threshold) : Filter :=
  match (readAll s).filterMap (·.2.toOption) with
  | [] => ofThreshold default
  | ds => ds

/-- What is noted about the directives of a text that cannot be read. -/
def notes (s : String) : List String :=
  (readAll s).filterMap fun (d, r) =>
    match r with
    | .ok _ => none
    | .error e => some ("ignoring `" ++ d ++ "`: " ++ e.message)

end Filter
end Folio
