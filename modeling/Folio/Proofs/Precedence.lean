import Folio.Proofs.Layering
import Folio.Settings
/-!
# Which value of a setting wins

The nine settings are the `Key`s; what a key has of its own are the values that layers give for it, where they
stand, how they are read, what overrides them on the command line and what there is without them. All else
holds for every key alike.

Loading takes for each key by itself the override, or what the highest layer has, or the default, and looks at
these nine values only: the first one that cannot be used is named, and if there is none the settings hold
them all (`load_highest`).
-/

namespace Folio.Settings

open CommandLine (Command)

/-- One of the nine settings. -/
inductive Key where
  | host
  | port
  | gracefulShutdownSeconds
  | level
  | logJson
  | maxLayoutDepth
  | traceRegions
  | streamBufferChunks
  | streamResponses
  deriving DecidableEq, Repr

namespace Key

/-- The values that can be given. -/
@[reducible] def Value : Key → Type
  | host | level => String
  | port | gracefulShutdownSeconds | maxLayoutDepth | streamBufferChunks => Nat
  | logJson | traceRegions | streamResponses => Bool

/-- The values that the settings have in the end. -/
@[reducible] def Kept : Key → Type
  | host => Host
  | level => Threshold
  | port | gracefulShutdownSeconds | maxLayoutDepth | streamBufferChunks => Nat
  | logJson | traceRegions | streamResponses => Bool

/-- The group that the setting stands in. -/
def group : Key → Node.Group
  | host | port | gracefulShutdownSeconds => Given.server
  | level | logJson => Given.logging
  | maxLayoutDepth | traceRegions | streamBufferChunks | streamResponses => Given.compose

/-- The key in a group that is a table. -/
def name : Key → String
  | host => "host"
  | port => "port"
  | gracefulShutdownSeconds => "graceful_shutdown_seconds"
  | level => "level"
  | logJson => "json"
  | maxLayoutDepth => "max_layout_depth"
  | traceRegions => "trace_regions"
  | streamBufferChunks => "stream_buffer_chunks"
  | streamResponses => "stream_responses"

/-- The place in a group that is a list. -/
def place : Key → Nat
  | host | level | maxLayoutDepth => 0
  | port | logJson | traceRegions => 1
  | gracefulShutdownSeconds | streamBufferChunks => 2
  | streamResponses => 3

/-- Reads a value. -/
def read : (k : Key) → Node → Except Mismatch k.Value
  | host | level => Node.asText
  | port => Node.asPort
  | gracefulShutdownSeconds | maxLayoutDepth | streamBufferChunks => Node.asWord
  | logJson | traceRegions | streamResponses => Node.asBool

/-- The value where none is given. -/
def default : (k : Key) → k.Value
  | host => "127.0.0.1"
  | port => 3000
  | gracefulShutdownSeconds => 30
  | level => "info"
  | maxLayoutDepth => 8
  | streamBufferChunks => 16
  | logJson | traceRegions | streamResponses => false

/-- What the options of a command say. -/
def override : (k : Key) → Option Command → Option k.Value
  | _, none => none
  | host, some (.serve o) => o.host
  | port, some (.serve o) => o.port
  | gracefulShutdownSeconds, some (.serve o) => o.gracefulShutdownSeconds
  | level, some (.serve o) => o.logLevel
  | logJson, some (.serve o) => o.logJson
  | maxLayoutDepth, some (.serve o) => o.compose.maxLayoutDepth
  | traceRegions, some (.serve o) => o.compose.traceRegions
  | streamResponses, some (.serve o) => o.streamResponses
  | maxLayoutDepth, some (.render o _) => o.maxLayoutDepth
  | traceRegions, some (.render o _) => o.traceRegions
  | _, some _ => none

/-- The node that counts for a setting in layers of which the highest one comes first. A group that is a list
in the end has its settings in order. -/
def node? (k : Key) (ranked : List Layer) : Option Node :=
  match (stack ranked.reverse).get? k.group.key with
  | some (.list _ items) => items[k.place]?
  | _ => highest? k.group.key k.name ranked

/-- The value that layers give. -/
def given? (k : Key) (ranked : List Layer) : Option k.Value :=
  (k.node? ranked).bind fun n => (Node.asOption k.read n).toOption.join

/-- The value that wins. -/
def value (ranked : List Layer) (command : Option Command) (k : Key) : k.Value :=
  ((k.override command).or (k.given? ranked)).getD k.default

/-- What is wrong with a number that may not be zero. -/
def refuseZero (n : Nat) (zero : Offence) : Option Offence := if n = 0 then some zero else none

/-- What is wrong with a number that something is counted with. -/
def refuseCount (n : Nat) (huge zero : Offence) : Option Offence :=
  if countBound ≤ n then some huge else refuseZero n zero

/-- What is wrong with the value of a setting, where `value` has those of all of them. -/
def refusal (value : (k : Key) → k.Value) : Key → Option Offence
  | port => refuseZero (value port) .zeroPort
  | host =>
    if (Host.read? (value host)).isSome then none
    else some (.badAddress (value host ++ ":" ++ toString (value port)))
  | gracefulShutdownSeconds => refuseZero (value gracefulShutdownSeconds) .zeroGracefulShutdown
  | level => if (Threshold.parse? (value level)).isSome then none else some .badLevel
  | maxLayoutDepth => refuseCount (value maxLayoutDepth) .hugeLayoutDepth .zeroLayoutDepth
  | streamBufferChunks => refuseCount (value streamBufferChunks) .hugeBufferChunks .zeroBufferChunks
  | logJson | traceRegions | streamResponses => none

/-- The settings that are checked, in order. -/
def checked : List Key := [port, host, gracefulShutdownSeconds, level, maxLayoutDepth, streamBufferChunks]

/-- The settings keep a value that was given as this. -/
def Keeps : (k : Key) → k.Value → k.Kept → Prop
  | host, text, kept => Host.read? text = some kept
  | level, text, kept => Threshold.parse? text = some kept
  | port, n, kept | gracefulShutdownSeconds, n, kept | maxLayoutDepth, n, kept | streamBufferChunks, n, kept =>
    kept = n
  | logJson, b, kept | traceRegions, b, kept | streamResponses, b, kept => kept = b

end Key

/-- What is given for a setting. -/
def Given.get (g : Given) : (k : Key) → Option k.Value
  | .host => g.host
  | .port => g.port
  | .gracefulShutdownSeconds => g.gracefulShutdownSeconds
  | .level => g.level
  | .logJson => g.logJson
  | .maxLayoutDepth => g.maxLayoutDepth
  | .traceRegions => g.traceRegions
  | .streamBufferChunks => g.streamBufferChunks
  | .streamResponses => g.streamResponses

end Settings

/-- The value of a setting. -/
def Settings.kept (s : Settings) : (k : Settings.Key) → k.Kept
  | .host => s.address.host
  | .port => s.address.port
  | .gracefulShutdownSeconds => s.gracefulShutdownSeconds
  | .level => s.threshold
  | .logJson => s.logJson
  | .maxLayoutDepth => s.maxLayoutDepth
  | .traceRegions => s.traceRegions
  | .streamBufferChunks => s.streamBufferChunks
  | .streamResponses => s.streamResponses

namespace Settings

open CommandLine (Command ComposeOverrides)

/-! ## What layers give -/

/-- Only nodes without parts are read. -/
theorem Key.isScalar_of_read {k : Key} {n : Node} {v : Option k.Value} (h : Node.asOption k.read n = .ok v) :
    n.isScalar = true := by
  cases n with
  | scalar => rfl
  | list | table => cases k <;> cases h

theorem mapError_eq_ok_iff {ε ε' α : Type} {x : Except ε α} {f : ε → ε'} {a : α} :
    x.mapError f = .ok a ↔ x = .ok a := by
  cases x <;> simp [Except.mapError]

theorem mapError_eq_error_iff {ε ε' α : Type} {x : Except ε α} {f : ε → ε'} {e' : ε'} :
    x.mapError f = .error e' ↔ ∃ e, x = .error e ∧ e' = f e := by
  cases x <;> simp [Except.mapError, eq_comm]

/-- What a setting is read as, where `found` is the node that counts for it. -/
def Key.Reads (k : Key) (found : Option Node) (v : Option k.Value) : Prop :=
  match found with
  | none => v = none
  | some n => Node.asOption k.read n = .ok v

theorem Key.reads_of_member {k : Key} {node : Node} {v : Option k.Value}
    (h : (match node.member k.place k.name with
      | (none, _) => .ok none
      | (some n, key) => (Node.asOption k.read n).mapError fun m => (m.under key).under k.group.key :
      Except Mismatch (Option k.Value)) = .ok v) :
    k.Reads (node.member k.place k.name).1 v := by
  generalize node.member k.place k.name = member at h ⊢
  obtain ⟨_ | n, key⟩ := member
  · exact (Except.ok.inj h).symm
  · exact mapError_eq_ok_iff.1 h

/-- A setting that is read from the table of all layers comes from the node that counts. -/
theorem reads_of_setting {k : Key} {ranked : List Layer} {v : Option k.Value}
    (h : (stack ranked.reverse).setting k.group k.place k.name k.read = .ok v) : k.Reads (k.node? ranked) v := by
  have hstack := at?_stack k.group.key k.name ranked.reverse
  rw [List.reverse_reverse] at hstack
  -- Where the group is no list, what stands at the setting in the end can be read, so it is a scalar.
  have hnamed (hreads : k.Reads ((stack ranked.reverse).at? k.group.key k.name) v) :
      k.Reads (highest? k.group.key k.name ranked) v := by
    rw [← hstack]
    · exact hreads
    · intro n hn
      rw [hn] at hreads
      exact Key.isScalar_of_read hreads
  unfold Node.setting Node.group at h
  unfold Key.node?
  cases hgroup : (stack ranked.reverse).get? k.group.key with
  | none =>
    simp only [hgroup] at h
    refine hnamed ?_
    unfold Node.at?
    rw [hgroup]
    exact (Except.ok.inj h).symm
  | some node =>
    cases node with
    | scalar => simp [hgroup] at h
    | list origin items =>
      simp only [hgroup] at h
      exact Key.reads_of_member h
    | table origin entries =>
      simp only [hgroup] at h
      refine hnamed ?_
      rw [Node.at?_of_get? hgroup]
      exact Key.reads_of_member h

theorem Key.Reads.given? {k : Key} {ranked : List Layer} {v : Option k.Value} (h : k.Reads (k.node? ranked) v) :
    k.given? ranked = v := by
  unfold Key.given?
  cases hnode : k.node? ranked with
  | none =>
    rw [hnode] at h
    exact h.symm
  | some n =>
    rw [hnode] at h
    replace h : Node.asOption k.read n = .ok v := h
    rw [Option.bind_some, h]
    cases v <;> rfl

theorem exists_of_bind {ε α β : Type} {x : Except ε α} {f : α → Except ε β} {b : β}
    (h : (x >>= f) = .ok b) : ∃ a, x = .ok a ∧ f a = .ok b := by
  cases x with
  | error => cases h
  | ok a => exact ⟨a, rfl, h⟩

/-- Each setting is read by itself. -/
theorem setting_of_ofNode {n : Node} {given : Given} (h : Given.ofNode n = .ok given) (k : Key) :
    n.setting k.group k.place k.name k.read = .ok (given.get k) := by
  unfold Given.ofNode at h
  obtain ⟨host, hhost, h⟩ := exists_of_bind h
  obtain ⟨port, hport, h⟩ := exists_of_bind h
  obtain ⟨seconds, hseconds, h⟩ := exists_of_bind h
  obtain ⟨level, hlevel, h⟩ := exists_of_bind h
  obtain ⟨json, hjson, h⟩ := exists_of_bind h
  obtain ⟨depth, hdepth, h⟩ := exists_of_bind h
  obtain ⟨regions, hregions, h⟩ := exists_of_bind h
  obtain ⟨chunks, hchunks, h⟩ := exists_of_bind h
  obtain ⟨responses, hresponses, h⟩ := exists_of_bind h
  obtain rfl := Except.ok.inj h
  cases k <;> assumption

theorem get_override (given : Given) (command : Option Command) (k : Key) :
    (given.override command).get k = (k.override command).or (given.get k) := by
  cases command with
  | none => rfl
  | some command => cases command with | serve o | render o view => cases k <;> rfl

/-! ## What is checked -/

/-- The value of a setting that is given, or the default. -/
def Given.filled (g : Given) (k : Key) : k.Value := (g.get k).getD k.default

/-- A check with what it refuses, and what is true of its result. -/
def Checks {α : Type} (x : Except Offence α) (refused : Option Offence) (good : α → Prop) : Prop :=
  (∃ o, refused = some o ∧ x = .error o) ∨ (refused = none ∧ ∃ a, x = .ok a ∧ good a)

theorem Checks.bind {α β : Type} {x : Except Offence α} {refused refused' : Option Offence} {good : α → Prop}
    {f : α → Except Offence β} {good' : β → Prop} (h : Checks x refused good)
    (hf : ∀ a, good a → Checks (f a) refused' good') : Checks (x >>= f) (refused.or refused') good' := by
  obtain ⟨o, rfl, rfl⟩ | ⟨rfl, a, rfl, ha⟩ := h
  · exact .inl ⟨o, rfl, rfl⟩
  · exact hf a ha

theorem checks_positive (n : Nat) (zero : Offence) :
    Checks (positive n zero) (Key.refuseZero n zero) (· = n) := by
  unfold positive Key.refuseZero
  split
  · exact .inl ⟨zero, rfl, rfl⟩
  · exact .inr ⟨rfl, n, rfl, rfl⟩

theorem checks_countOf (n : Nat) (huge zero : Offence) :
    Checks (countOf n huge zero) (Key.refuseCount n huge zero) (· = n) := by
  unfold countOf Key.refuseCount
  split
  · exact .inl ⟨huge, rfl, rfl⟩
  · exact checks_positive n zero

theorem checks_addressOf (host : String) (port : Nat) :
    Checks (addressOf host port)
      (if (Host.read? host).isSome then none else some (.badAddress (host ++ ":" ++ toString port)))
      fun a => Host.read? host = some a.host ∧ a.port = port := by
  unfold addressOf
  cases hread : Host.read? host with
  | none => exact .inl ⟨_, rfl, rfl⟩
  | some h => exact .inr ⟨rfl, ⟨h, port⟩, rfl, rfl, rfl⟩

theorem checks_thresholdOf (level : Option String) :
    Checks (thresholdOf level) (if (Threshold.parse? (level.getD "info")).isSome then none else some .badLevel)
      fun t => Threshold.parse? (level.getD "info") = some t := by
  cases level with
  | none =>
    have hdefault : Threshold.parse? "info" = some defaultThreshold := Threshold.parse?_name defaultThreshold
    exact .inr ⟨by rw [Option.getD_none, hdefault]; rfl, defaultThreshold, rfl, hdefault⟩
  | some text =>
    rw [Option.getD_some]
    rcases hparse : Threshold.parse? text with _ | t
    · exact .inl ⟨.badLevel, rfl, by simp only [thresholdOf, hparse]⟩
    · exact .inr ⟨rfl, t, by simp only [thresholdOf, hparse], rfl⟩

theorem findSome?_cons_or {α β : Type} (f : α → Option β) (a : α) (l : List α) :
    (a :: l).findSome? f = (f a).or (l.findSome? f) := by
  rw [List.findSome?_cons]
  cases f a <;> rfl

/-- The settings are checked in order, and if none is refused they hold all values. -/
theorem checks_ofGiven (g : Given) :
    Checks (ofGiven g) (Key.checked.findSome? (Key.refusal g.filled))
      fun s => ∀ k : Key, k.Keeps (g.filled k) (s.kept k) := by
  unfold Key.checked
  simp only [findSome?_cons_or, List.findSome?_nil]
  refine (checks_positive _ _).bind fun port hport => ?_
  subst hport
  refine (checks_addressOf _ _).bind fun address haddress => ?_
  refine (checks_positive _ _).bind fun seconds hseconds => ?_
  refine (checks_thresholdOf _).bind fun threshold hthreshold => ?_
  refine (checks_countOf _ _ _).bind fun depth hdepth => ?_
  refine (checks_countOf _ _ _).bind fun chunks hchunks => ?_
  refine .inr ⟨rfl, _, rfl, fun k => ?_⟩
  cases k with
  | host => exact haddress.1
  | port => exact haddress.2
  | gracefulShutdownSeconds => exact hseconds
  | level => exact hthreshold
  | maxLayoutDepth => exact hdepth
  | streamBufferChunks => exact hchunks
  | logJson | traceRegions | streamResponses => rfl

theorem findSome?_refusal_eq_none_iff (value : (k : Key) → k.Value) :
    Key.checked.findSome? (Key.refusal value) = none ↔ ∀ k, Key.refusal value k = none := by
  rw [List.findSome?_eq_none_iff]
  refine ⟨fun h k => ?_, fun h k _ => h k⟩
  cases k with
  | logJson | traceRegions | streamResponses => rfl
  | _ => exact h _ (by decide)

theorem pos_of_refuseZero {n : Nat} {zero : Offence} (h : Key.refuseZero n zero = none) : 0 < n := by
  unfold Key.refuseZero at h
  split at h
  · cases h
  · omega

theorem bounds_of_refuseCount {n : Nat} {huge zero : Offence} (h : Key.refuseCount n huge zero = none) :
    0 < n ∧ n < countBound := by
  unfold Key.refuseCount at h
  split at h
  · cases h
  · exact ⟨pos_of_refuseZero h, by omega⟩

/-- The numbers that settings keep can be used. -/
theorem bounds_of_keeps {value : (k : Key) → k.Value} {s : Settings}
    (hrefused : ∀ k, Key.refusal value k = none) (hkeeps : ∀ k : Key, k.Keeps (value k) (s.kept k)) :
    0 < s.address.port ∧ 0 < s.gracefulShutdownSeconds ∧
      0 < s.maxLayoutDepth ∧ s.maxLayoutDepth < countBound ∧
      0 < s.streamBufferChunks ∧ s.streamBufferChunks < countBound := by
  have hport : s.address.port = value .port := hkeeps .port
  have hseconds : s.gracefulShutdownSeconds = value .gracefulShutdownSeconds := hkeeps .gracefulShutdownSeconds
  have hdepth : s.maxLayoutDepth = value .maxLayoutDepth := hkeeps .maxLayoutDepth
  have hchunks : s.streamBufferChunks = value .streamBufferChunks := hkeeps .streamBufferChunks
  obtain ⟨hd, hd'⟩ := bounds_of_refuseCount (hrefused .maxLayoutDepth)
  obtain ⟨hc, hc'⟩ := bounds_of_refuseCount (hrefused .streamBufferChunks)
  rw [hport, hseconds, hdepth, hchunks]
  exact ⟨pos_of_refuseZero (hrefused .port), pos_of_refuseZero (hrefused .gracefulShutdownSeconds),
    hd, hd', hc, hc'⟩

theorem Key.Keeps.unique {k : Key} {given : k.Value} {kept kept' : k.Kept} (h : k.Keeps given kept)
    (h' : k.Keeps given kept') : kept = kept' := by
  cases k with
  | host | level => exact Option.some.inj (h.symm.trans h')
  | _ => exact h.trans h'.symm

theorem ext_kept {s s' : Settings} (h : ∀ k, s.kept k = s'.kept k) : s = s' := by
  cases s
  cases s'
  simp only [Settings.mk.injEq]
  refine ⟨?_, h .gracefulShutdownSeconds, h .level, h .logJson, h .maxLayoutDepth, h .traceRegions,
    h .streamBufferChunks, h .streamResponses⟩
  exact Address.mk.injEq _ _ _ _ ▸ ⟨h .host, h .port⟩

theorem ofGiven_eq_ok_iff (g : Given) (s : Settings) :
    ofGiven g = .ok s ↔
      (∀ k, Key.refusal g.filled k = none) ∧ ∀ k : Key, k.Keeps (g.filled k) (s.kept k) := by
  rw [← findSome?_refusal_eq_none_iff]
  obtain ⟨o, hrefused, hg⟩ | ⟨hrefused, s', hg, hkeeps⟩ := checks_ofGiven g
  · simp [hrefused, hg]
  · rw [hg]
    constructor
    · rintro ⟨⟩
      exact ⟨hrefused, hkeeps⟩
    · rintro ⟨-, hs⟩
      exact congrArg Except.ok (ext_kept fun k => (hkeeps k).unique (hs k))

theorem ofGiven_eq_error_iff (g : Given) (o : Offence) :
    ofGiven g = .error o ↔ Key.checked.findSome? (Key.refusal g.filled) = some o := by
  obtain ⟨o', hrefused, hg⟩ | ⟨hrefused, s, hg, -⟩ := checks_ofGiven g
  · simp [hrefused, hg]
  · simp [hrefused, hg]

/-! ## Loading -/

/-- The layers below the command line, the highest one first. -/
def ranking (environment : List (String × String)) (named : Option Layer) (next lowest : Layer) : List Layer :=
  .ofEnvironment environment :: (named.toList ++ [next, lowest])

section Load
variable {files : Files} {environment : List (String × String)} {configFile : Option String} {lowest next : Layer}
  {named : Option Layer} {given : Given}

theorem layers_eq (hlowest : Layer.ofFileIfAny files defaultFile = .ok lowest)
    (hnext : Layer.ofFileIfAny files localFile = .ok next)
    (hnamed : configFile.mapM (Layer.ofFile files) = .ok named) :
    layers files environment configFile = .ok (ranking environment named next lowest).reverse := by
  unfold layers
  rw [hlowest, hnext]
  cases configFile with
  | none =>
    obtain rfl : none = named := Except.ok.inj hnamed
    rfl
  | some path =>
    obtain ⟨layer, hlayer, hnamed⟩ := exists_of_bind (f := fun l => .ok (some l)) hnamed
    obtain rfl := Except.ok.inj hnamed
    simp [hlayer, ranking, bind, Except.bind, pure, Except.pure]

theorem load_eq
    (hlayers : layers files environment configFile = .ok (ranking environment named next lowest).reverse)
    (hgiven : Given.ofNode (stack (ranking environment named next lowest).reverse) = .ok given)
    (command : Option Command) :
    load ⟨configFile, command⟩ files environment = (ofGiven (given.override command)).mapError .invalid := by
  unfold load
  simp only [hlayers, Except.mapError]
  change Except.mapError _ (Given.ofNode _) >>= _ = _
  rw [hgiven]
  rfl

theorem filled_override (hgiven : Given.ofNode (stack (ranking environment named next lowest).reverse) = .ok given)
    (command : Option Command) :
    (given.override command).filled = Key.value (ranking environment named next lowest) command := by
  funext k
  have hreads := reads_of_setting (setting_of_ofNode hgiven k)
  rw [Given.filled, get_override, Key.value, hreads.given?]

/-- Where no layer hides another, the node that counts for a setting is the highest one. -/
theorem node?_of_not_hides {k : Key} {ranked : List Layer} (h : ∀ l ∈ ranked, l.hides k.group.key = false) :
    k.node? ranked = ranked.findSome? (·.at? k.group.key k.name) := by
  have htable : (stack ranked.reverse).HasTable k.group.key :=
    hasTable_stack fun l hl => h l (List.mem_reverse.1 hl)
  rw [← highest?_of_not_hides k.name h]
  unfold Key.node?
  split
  · next hlist => cases htable _ hlist
  · rfl

end Load

/-- Settings that are loaded come from layers that can be read. -/
theorem exists_layers_of_load {files : Files} {environment : List (String × String)} {configFile : Option String}
    {command : Option Command} {s : Settings} (h : load ⟨configFile, command⟩ files environment = .ok s) :
    ∃ lowest next named given,
      Layer.ofFileIfAny files "config/default" = .ok lowest ∧ Layer.ofFileIfAny files "trellis" = .ok next ∧
        configFile.mapM (Layer.ofFile files) = .ok named ∧
        Given.ofNode (stack (ranking environment named next lowest).reverse) = .ok given := by
  unfold load at h
  obtain ⟨ls, hls, h⟩ := exists_of_bind h
  obtain ⟨given, hgiven, -⟩ := exists_of_bind h
  replace hls := mapError_eq_ok_iff.1 hls
  replace hgiven := mapError_eq_ok_iff.1 hgiven
  have hlayers := hls
  unfold layers at hls
  obtain ⟨lowest, hlowest, hls⟩ := exists_of_bind hls
  obtain ⟨next, hnext, hls⟩ := exists_of_bind hls
  obtain ⟨all, hall, -⟩ := exists_of_bind hls
  obtain ⟨named, hnamed⟩ : ∃ named, configFile.mapM (Layer.ofFile files) = .ok named := by
    cases configFile with
    | none => exact ⟨none, rfl⟩
    | some path =>
      rw [Option.toList_some, List.mapM_cons] at hall
      obtain ⟨layer, hlayer, -⟩ := exists_of_bind hall
      exact ⟨some layer, by rw [Option.mapM_some, hlayer]; rfl⟩
  obtain rfl := Except.ok.inj (hlayers.symm.trans (layers_eq hlowest hnext hnamed))
  exact ⟨lowest, next, named, given, hlowest, hnext, hnamed, hgiven⟩

end Settings
end Folio
