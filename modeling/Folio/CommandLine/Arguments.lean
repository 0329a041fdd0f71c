import Folio.Text.Digits
import Folio.Text.Fold
/-!
# Arguments of a command

Arguments are read from left to right. An option with its value in the same argument is read at
once; an option whose value is the next argument waits for it, and is read when the next option
starts, when a plain argument is placed, or at the end (`Reading.settle`). So of two faults the one
that is noticed first wins, and an argument that no command knows wins over a value that waits.
-/

namespace Folio.CommandLine

/-- Why arguments are not read as a command. Asking for help or the version ends the reading too. -/
inductive Refusal where
  | displayHelp
  | displayVersion
  | invalidSubcommand
  | unknownArgument
  /-- A value is missing, or empty where it may not be. -/
  | invalidValue
  /-- A value is not of the form that its option takes. -/
  | valueValidation
  /-- An option is given twice. -/
  | argumentConflict
  /-- A value is given to an option that takes none. -/
  | tooManyValues
  deriving DecidableEq, Repr

/-- What the value of an option is. -/
inductive ValueKind where
  /-- The path of a file, which is not empty. -/
  | path
  | text
  /-- A number below 2 to the 64th. -/
  | count
  /-- A number below 2 to the 16th, where zero may have a minus sign. -/
  | port
  /-- One of the words for true and false. -/
  | truth
  deriving DecidableEq, Repr

/-- The value of an option. -/
inductive ArgumentValue where
  | text (s : String)
  | number (n : Nat)
  | truth (b : Bool)
  deriving DecidableEq, Repr

/-- A number with an optional sign, if it is not negative. -/
def nonNegative? (s : String) : Option Nat :=
  match s.toList with
  | '-' :: cs => (Text.decimal? cs).filter (· = 0)
  | _ => Text.unsigned? s

/-- The words for true. -/
def trueWords : List String := ["y", "yes", "t", "true", "on", "1"]

/-- The words for false. -/
def falseWords : List String := ["n", "no", "f", "false", "off", "0"]

/-- The truth value that a word stands for, whatever its case. -/
def truth? (s : String) : Option Bool :=
  if Text.fold s ∈ trueWords then some true else if Text.fold s ∈ falseWords then some false else none

/-- Reads the value of an option. -/
def ValueKind.read (kind : ValueKind) (s : String) : Except Refusal ArgumentValue :=
  match kind with
  | path => if s.isEmpty then .error .invalidValue else .ok (.text s)
  | text => .ok (.text s)
  | count =>
    match (Text.unsigned? s).filter (· < Text.bound64) with
    | some n => .ok (.number n)
    | none => .error .valueValidation
  | port =>
    match (nonNegative? s).filter (· < Text.bound16) with
    | some n => .ok (.number n)
    | none => .error .valueValidation
  | truth =>
    match truth? s with
    | some b => .ok (.truth b)
    | none => .error .valueValidation

/-- What a command takes: options with the kind of their values, whether it tells its version, the
commands below it, and whether it takes one plain argument. -/
structure Shape where
  options : List (String × ValueKind)
  hasVersion : Bool
  subcommands : List String
  takesPlain : Bool

/-- How far the arguments of a command are read: the values read, the option that waits with the
argument that is to be its value, whether only plain arguments follow, and the plain argument. -/
structure Reading where
  values : List (String × ArgumentValue)
  waiting : Option (String × ValueKind × Option String)
  plainOnly : Bool
  plain : Option String

namespace Reading

/-- Nothing is read. -/
def start : Reading := ⟨[], none, false, none⟩

/-- An option waits for its value. -/
def awaitsValue (r : Reading) : Bool :=
  match r.waiting with
  | some (_, _, none) => true
  | _ => false

/-- Reads the value of an option that is not given yet. -/
def assign (r : Reading) (name : String) (kind : ValueKind) (value : String) : Except Refusal Reading :=
  if (r.values.lookup name).isSome then .error .argumentConflict
  else (kind.read value).map fun v => { r with values := r.values ++ [(name, v)] }

/-- Reads the value of the option that waits. -/
def settle (r : Reading) : Except Refusal Reading :=
  match r.waiting with
  | none => .ok r
  | some (_, _, none) => .error .invalidValue
  | some (name, kind, some value) => { r with waiting := none }.assign name kind value

/-- An option that ends the reading. -/
def finish (r : Reading) (refusal : Refusal) : Except Refusal Reading :=
  match r.settle with
  | .error e => .error e
  | .ok _ => .error refusal

/-- Reads an option by its long name, with the value attached to it if there is one. -/
def long (shape : Shape) (r : Reading) (name : String) (value : Option String) : Except Refusal Reading :=
  let ending (refusal : Refusal) : Except Refusal Reading :=
    if value.isSome then .error .tooManyValues else r.finish refusal
  match shape.options.lookup name with
  | some kind =>
    match r.settle with
    | .error e => .error e
    | .ok r =>
      match value with
      | some v => r.assign name kind v
      | none => .ok { r with waiting := some (name, kind, none) }
  | none =>
    if name = "help" then ending .displayHelp
    else if name = "version" && shape.hasVersion then ending .displayVersion
    else .error .unknownArgument

/-- Reads an option by its short name. -/
def short (shape : Shape) (r : Reading) (name : Char) : Except Refusal Reading :=
  if name = 'h' then r.finish .displayHelp
  else if name = 'V' && shape.hasVersion then r.finish .displayVersion
  else .error .unknownArgument

/-- Places a plain argument. -/
def place (shape : Shape) (r : Reading) (argument : String) : Except Refusal Reading :=
  if shape.takesPlain && r.plain.isNone then
    r.settle.map fun r => { r with plain := some argument }
  else if shape.subcommands.isEmpty || (r.plainOnly && argument ∈ shape.subcommands) then
    .error .unknownArgument
  else .error .invalidSubcommand

/-- Reads one argument that is no command. -/
def next (shape : Shape) (r : Reading) (argument : String) : Except Refusal Reading :=
  if r.plainOnly then r.place shape argument
  else
    match argument.toList with
    | ['-', '-'] => .ok { r with plainOnly := true }
    | '-' :: '-' :: cs =>
      let name := cs.takeWhile (· ≠ '=')
      let value :=
        match cs.dropWhile (· ≠ '=') with
        | [] => none
        | _ :: v => some (String.ofList v)
      r.long shape (String.ofList name) value
    | '-' :: c :: _ => r.short shape c
    | _ =>
      match r.waiting with
      | some (name, kind, none) => .ok { r with waiting := some (name, kind, some argument) }
      | _ => r.place shape argument

/-- Reads the arguments of a command, up to the name of a command below it. -/
def all (shape : Shape) : Reading → List String → Except Refusal (Reading × Option (String × List String))
  | r, [] => .ok (r, none)
  | r, argument :: rest =>
    if !r.plainOnly && !r.awaitsValue && argument ∈ shape.subcommands then
      .ok (r, some (argument, rest))
    else
      match r.next shape argument with
      | .error e => .error e
      | .ok r => r.all shape rest

/-- The value of an option that is text. -/
def text? (r : Reading) (name : String) : Option String :=
  match r.values.lookup name with
  | some (.text s) => some s
  | _ => none

/-- The value of an option that is a number. -/
def number? (r : Reading) (name : String) : Option Nat :=
  match r.values.lookup name with
  | some (.number n) => some n
  | _ => none

/-- The value of an option that is a truth value. -/
def truth? (r : Reading) (name : String) : Option Bool :=
  match r.values.lookup name with
  | some (.truth b) => some b
  | _ => none

end Reading
end Folio.CommandLine
