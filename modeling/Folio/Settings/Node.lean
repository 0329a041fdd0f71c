import Folio.Settings.Binary64
import Folio.Text.Digits
import Folio.Text.Fold
import Folio.Text.Quoted
/-!
# Values of configuration layers

A layer of configuration is a table of nodes. Every node knows where it was read, for messages. A
node is read as what a setting asks for with some freedom: a word may stand for a truth value or a
number, a number for a text, and so on; `Mismatch` says what stood where something else had to be.

`overlay` builds one table out of layers: tables are laid over each other entry by entry, anything
else replaces what is there.
-/

namespace Folio.Settings

/-- A value without parts. Integers have 64 bits with a sign. -/
inductive Scalar where
  | null
  | bool (b : Bool)
  | integer (n : Int)
  | float (x : Binary64)
  | text (s : String)
  deriving DecidableEq, Repr

/-- A value of a layer, with the place it was read from, if it has one. -/
inductive Node where
  | scalar (origin : Option String) (value : Scalar)
  | list (origin : Option String) (items : List Node)
  | table (origin : Option String) (entries : List (String × Node))
  deriving Inhabited

/-- What stood where something else was expected, under which key, and where it was read. -/
structure Mismatch where
  found : String
  expected : String
  key : Option String
  origin : Option String
  deriving DecidableEq, Repr

namespace Mismatch

/-- The wording of a mismatch. -/
def message (m : Mismatch) : String :=
  "invalid type: " ++ m.found ++ ", expected " ++ m.expected ++
    ((m.key.map fun key => " for key `" ++ key ++ "`").getD "") ++
    ((m.origin.map fun origin => " in " ++ origin).getD "")

/-- The mismatch as seen from the table that has it under a key. -/
def under (m : Mismatch) (key : String) : Mismatch :=
  { m with
    key := some (match m.key with
      | none => key
      | some inner => if inner.startsWith "[" then key ++ inner else key ++ "." ++ inner) }

end Mismatch

/-- How messages show a scalar. -/
def Scalar.found : Scalar → String
  | null => "unit value"
  | bool b => "boolean `" ++ toString b ++ "`"
  | integer n => "64-bit integer `" ++ toString n ++ "`"
  | float x => "floating point `" ++ x.text ++ "`"
  | text s => "string " ++ Text.quote s

namespace Node

/-- The table without entries that stands for no layer at all. -/
def root : Node := table none []

/-- How messages show a node. -/
def found : Node → String
  | scalar _ value => value.found
  | list _ _ => "sequence"
  | table _ _ => "map"

/-- Where a node was read. -/
def origin : Node → Option String
  | scalar origin _ => origin
  | list origin _ => origin
  | table origin _ => origin

/-- The node stands where something else was expected. -/
def mismatch (n : Node) (expected : String) : Mismatch := ⟨n.found, expected, none, n.origin⟩

/-- The entries of a table; anything else has none. -/
def entries : Node → List (String × Node)
  | table _ entries => entries
  | _ => []

/-- The entry of a table under a key. -/
def get? (n : Node) (key : String) : Option Node := n.entries.lookup key

/-! ## Laying one node over another -/

/-- A table stays, and anything else makes way for one without entries. -/
def asTable : Node → Node
  | table origin entries => table origin entries
  | _ => root

/-- What a table holds once a value is put under a key: it takes the place of the one there. -/
def putEntry (entries : List (String × Node)) (key : String) (value : Node) : List (String × Node) :=
  if (entries.lookup key).isSome then entries.map fun e => if e.1 = key then (key, value) else e
  else entries ++ [(key, value)]

/-- A table with a node under a key. Anything else makes way for a new table. -/
def put (n : Node) (key : String) (value : Node) : Node :=
  table n.asTable.origin (putEntry n.asTable.entries key value)

mutual

/-- What a node becomes when another is laid over it. -/
def overlay (n : Node) : Node → Node
  | table _ entries => overlayAll n.asTable entries
  | value => value

/-- What a table becomes when entries are laid over it, one after the other. -/
def overlayAll (n : Node) : List (String × Node) → Node
  | [] => n
  | e :: rest => overlayAll (overlayEntry n e) rest

/-- What a table becomes when one entry is laid over it. -/
def overlayEntry (n : Node) : String × Node → Node
  | (key, value) => n.put key (overlay ((n.get? key).getD root) value)

end

theorem overlay_table (n : Node) (origin : Option String) (entries : List (String × Node)) :
    n.overlay (table origin entries) = n.asTable.overlayAll entries := rfl

theorem lookup_replaced (entries : List (String × Node)) (key other : String) (value : Node) :
    (entries.map fun e => if e.1 = key then (key, value) else e).lookup other =
      if other = key ∧ (entries.lookup key).isSome then some value else entries.lookup other := by
  induction entries with
  | nil => simp
  | cons e rest ih =>
    obtain ⟨k, v⟩ := e
    by_cases hk : k = key
    · subst hk
      by_cases ho : other = k
      · simp [ho]
      · have hne : (other == k) = false := by simpa using ho
        simp only [List.map_cons, if_true, List.lookup_cons, hne, ih, ho, false_and, if_false]
    · have hkk : (key == k) = false := by simpa using Ne.symm hk
      simp only [List.map_cons, hk, if_false, List.lookup_cons, hkk]
      by_cases ho : other = k
      · have : other ≠ key := ho ▸ hk
        simp [ho, hk]
      · have hne : (other == k) = false := by simpa using ho
        simp only [hne, ih]

theorem lookup_putEntry (entries : List (String × Node)) (key other : String) (value : Node) :
    (putEntry entries key value).lookup other = if other = key then some value else entries.lookup other := by
  unfold putEntry
  split
  · next h => simp [lookup_replaced, h]
  · next h =>
    have hnone : entries.lookup key = none := Option.not_isSome_iff_eq_none.1 h
    by_cases ho : other = key
    · subst ho
      simp [List.lookup_append, hnone]
    · have hne : (other == key) = false := by simpa using ho
      simp [List.lookup_append, List.lookup_cons, hne, ho]

/-- A key sees the node put last under it; what was no table has nothing under the other keys. -/
theorem get?_put (n : Node) (key other : String) (value : Node) :
    (n.put key value).get? other = if other = key then some value else n.asTable.get? other := by
  simp [put, get?, entries, lookup_putEntry]

/-- One entry laid over a table shows under its key only. -/
theorem get?_overlayEntry (n : Node) (key other : String) (value : Node) :
    (n.overlayEntry (key, value)).get? other =
      if other = key then some (((n.get? key).getD root).overlay value) else n.asTable.get? other := by
  simp [overlayEntry, get?_put]

/-! ## Reading -/

/-- The words that stand for truth values where a truth value is asked for. -/
def truthWords : List (String × Bool) :=
  [("1", true), ("true", true), ("on", true), ("yes", true),
    ("0", false), ("false", false), ("off", false), ("no", false)]

/-- The words of truth that stand for numbers where a number is asked for. -/
def numberWords : List (String × Nat) :=
  [("true", 1), ("on", 1), ("yes", 1), ("false", 0), ("off", 0), ("no", 0)]

/-- A truth value. A word is recognised in any case, and shown folded if it is not one. -/
def asBool (n : Node) : Except Mismatch Bool :=
  match n with
  | scalar _ (.bool b) => .ok b
  | scalar _ (.integer i) => .ok (i ≠ 0)
  | scalar _ (.float x) => .ok (!x.isZero)
  | scalar origin (.text s) =>
    match truthWords.lookup (Text.fold s) with
    | some b => .ok b
    | none => .error ((scalar origin (.text (Text.fold s))).mismatch "a boolean")
  | _ => .error (n.mismatch "a boolean")

/-- A number of 64 bits without sign. -/
def asWord (n : Node) : Except Mismatch Nat :=
  match n with
  | scalar _ (.bool b) => .ok (if b then 1 else 0)
  | scalar _ (.integer i) =>
    if 0 ≤ i then .ok i.toNat else .error (n.mismatch "an unsigned 64 bit or less integer")
  | scalar _ (.float x) => .ok x.toWord
  | scalar _ (.text s) =>
    match numberWords.lookup (Text.fold s) with
    | some i => .ok i
    | none =>
      match (Text.unsigned? s).filter (· < Text.bound64) with
      | some i => .ok i
      | none => .error (n.mismatch "an integer")
  | _ => .error (n.mismatch "an integer")

/-- A number of 16 bits without sign. -/
def asPort (n : Node) : Except Mismatch Nat :=
  match n.asWord with
  | .error m => .error m
  | .ok i =>
    if i < Text.bound16 then .ok i
    else .error ⟨"64-bit unsigned integer `" ++ toString i ++ "`", "an unsigned 16 bit integer", none, none⟩

/-- A text; numbers and truth values are written out. -/
def asText (n : Node) : Except Mismatch String :=
  match n with
  | scalar _ (.text s) => .ok s
  | scalar _ (.bool b) => .ok (toString b)
  | scalar _ (.integer i) => .ok (toString i)
  | scalar _ (.float x) => .ok x.text
  | _ => .error (n.mismatch "a string")

/-- A setting that may be left out, as one is where null stands. -/
def asOption {α : Type} (read : Node → Except Mismatch α) (n : Node) : Except Mismatch (Option α) :=
  match n with
  | scalar _ .null => .ok none
  | n => (read n).map some

/-- A group of settings: the key of its table, and its name in messages. -/
structure Group where
  key : String
  name : String
  deriving DecidableEq, Repr

/-- The node of a group, which is a table or a list, and the empty table if it is left out. -/
def group (n : Node) (g : Group) : Except Mismatch Node :=
  match n.get? g.key with
  | none => .ok root
  | some (scalar _ value) => .error ⟨value.found, "struct " ++ g.name, some g.key, none⟩
  | some node => .ok node

/-- The node of a setting in the node of its group, with its key: an entry of a table, or the item
of a list at the place that the setting has in the group. -/
def member (g : Node) (place : Nat) (key : String) : Option Node × String :=
  match g with
  | list _ items => (items[place]?, "[" ++ toString place ++ "]")
  | g => (g.get? key, key)

/-- Reads a setting of a group, if it is there. -/
def setting {α : Type} (n : Node) (g : Group) (place : Nat) (key : String) (read : Node → Except Mismatch α) :
    Except Mismatch (Option α) :=
  match n.group g with
  | .error m => .error m
  | .ok node =>
    match node.member place key with
    | (none, _) => .ok none
    | (some value, key) => (asOption read value).mapError fun m => (m.under key).under g.key

end Node
end Folio.Settings
