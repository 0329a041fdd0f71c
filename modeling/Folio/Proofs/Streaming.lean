import Mathlib.Logic.Relation
import Folio.Engine
import Folio.Proofs.Dialogue
/-!
# Streams

A streamed pass and its reader go on side by side, each for as long as the channel between them lets
it. `Step` is one step of either: the pass makes its next write or, after the last one, lets go of
its sink; the reader takes a chunk or finds the end. A writer at a full channel and a reader at an
empty one wait, so neither has a step there. A run of steps is one schedule of the two.

- `Faithful.step`: what the reader has, what waits and what the pass has still to write make up its
  writes, whatever the next step is, and each step leaves less to do.
- `Faithful.goes_on`: somebody can go on until the reader has found the end.
- `delivers`: so every schedule ends, and ends with the same chunks.
-/

namespace Folio

open Relation (ReflTransGen)

/-- A stream while its pass runs: what is left of the pass, the channel, the chunks that the reader
has got, and whether it has found the end. -/
structure Streaming where
  left : Dialogue (Except Error Unit × Shared)
  channel : Channel
  chunks : List Content
  ended : Bool

namespace Streaming

/-- One step of the pass, or of a reader who reads to the end. -/
inductive Step : Streaming → Streaming → Prop
  | taken {content next channel channel' chunks ended} : channel.write content = (.accepted, channel') →
      Step ⟨.offer content next, channel, chunks, ended⟩ ⟨next true, channel', chunks, ended⟩
  | refused {content next channel channel' chunks ended} : channel.write content = (.closed, channel') →
      Step ⟨.offer content next, channel, chunks, ended⟩ ⟨next false, channel', chunks, ended⟩
  | finished {result channel chunks ended} : channel.sinks ≠ 0 →
      Step ⟨.done result, channel, chunks, ended⟩ ⟨.done result, channel.dropSink, chunks, ended⟩
  | chunk {left channel channel' chunks content} : channel.read = (.chunk content, channel') →
      Step ⟨left, channel, chunks, false⟩ ⟨left, channel', chunks ++ [content], false⟩
  | ended {left channel channel' chunks} : channel.read = (.ended, channel') →
      Step ⟨left, channel, chunks, false⟩ ⟨left, channel', chunks, true⟩

/-- Whatever the schedule, the stream comes to its end, and the reader has got `chunks` by then and
the pass has ended with `outcome`: no schedule goes on for ever, and none stops before the end. -/
structure Delivers (start : Streaming) (chunks : List Content) (outcome : Except Error Unit) : Prop where
  stops : Acc (fun t s => Step s t) start
  goesOn : ∀ s, ReflTransGen Step start s → s.ended = false → ∃ t, Step s t
  delivered : ∀ s, ReflTransGen Step start s → s.ended = true →
    s.chunks = chunks ∧ ∃ shared, s.left = .done (outcome, shared)

/-- The state of a stream of `pass` between two steps. -/
structure Faithful (pass : Dialogue (Except Error Unit × Shared)) (s : Streaming) : Prop where
  hasStream : s.channel.hasStream = true
  room : 0 < s.channel.capacity
  writer : s.channel.sinks = 1 ∨ s.channel.sinks = 0 ∧ ∃ result, s.left = .done result
  outcome : s.left.result = pass.result
  flow : s.chunks ++ s.channel.pending ++ s.left.offers.filter (!·.isEmpty) = pass.offers.filter (!·.isEmpty)
  last : s.ended = true → s.channel.sinks = 0 ∧ s.channel.pending = []

/-- A bound on the steps that are left while all writes are taken. -/
def work (s : Streaming) : Nat :=
  2 * s.left.offers.length + s.channel.pending.length + s.channel.sinks + if s.ended then 0 else 1

end Streaming

/-! ## Schedules -/

namespace Streaming

variable {pass : Dialogue (Except Error Unit × Shared)} {s t : Streaming}

/-- Each step leaves a stream faithful, with less to do. -/
theorem Faithful.step (hf : Faithful pass s) (h : Step s t) : Faithful pass t ∧ t.work < s.work := by
  obtain ⟨ho, hroom, hwriter, houtcome, hflow, hlast⟩ := hf
  cases h with
  | @taken content next channel channel' chunks ended hw =>
    obtain rfl := Channel.write_accepted hw
    have hs : channel.sinks = 1 := by simpa using hwriter
    refine ⟨⟨ho, hroom, .inl hs, houtcome, ?_, ?_⟩, ?_⟩
    -- The write goes from what is left to what waits; an empty one counts in neither.
    · rw [← hflow]
      simp only [Dialogue.offers, List.append_assoc, ← List.filter_append, List.singleton_append]
    · intro he
      have hz : channel.sinks = 0 := (hlast he).1
      omega
    · have hlen := List.length_filter_le (!·.isEmpty) [content]
      simp only [work, Dialogue.offers, List.length_append, List.length_cons, List.length_nil] at hlen ⊢
      omega
  | refused hw =>
    -- The reader never drops the stream, so no write is refused.
    simp [Channel.write_closed hw] at ho
  | @finished result channel chunks ended hs =>
    have hone : channel.sinks = 1 := by simpa [hs] using hwriter
    refine ⟨⟨ho, hroom, .inr ⟨by simp [Channel.dropSink, hone], result, rfl⟩, houtcome, hflow, ?_⟩, ?_⟩
    · intro he
      exact absurd (hlast he).1 hs
    · simp [work, Channel.dropSink, hone]
  | @chunk left channel channel' chunks content hr =>
    obtain ⟨hp, hc⟩ := Channel.read_chunk hr
    rw [hc]
    refine ⟨⟨ho, hroom, hwriter, houtcome, ?_, by simp⟩, by simp [work, hp]⟩
    rw [← hflow]
    simp [hp]
  | @ended left channel channel' chunks hr =>
    obtain ⟨hz, hp, rfl⟩ := Channel.read_ended hr
    exact ⟨⟨ho, hroom, hwriter, houtcome, hflow, fun _ => ⟨hz, hp⟩⟩, by simp [work]⟩

/-- A faithful stream goes on until its reader has found the end. -/
theorem Faithful.goes_on (hf : Faithful pass s) (he : s.ended = false) : ∃ t, Step s t := by
  obtain ⟨left, channel, chunks, ended⟩ := s
  obtain ⟨ho, hroom, hwriter, -⟩ := hf
  simp only at ho hroom he hwriter
  subst he
  cases hp : channel.pending with
  | cons chunk rest =>
    have hr : channel.read = (.chunk chunk, { channel with pending := rest }) := by simp [Channel.read, ho, hp]
    exact ⟨_, .chunk hr⟩
  | nil =>
    -- Nothing waits, so either the pass has room for its next write or the stream ends.
    rcases hwriter with hs | ⟨hz, -⟩
    · cases left with
      | done result => exact ⟨_, .finished (by omega)⟩
      | offer content next =>
        obtain ⟨channel', hw⟩ := Channel.write_of_room (by omega) ho (by simpa [hp] using hroom) content
        exact ⟨_, .taken hw⟩
    · have hr : channel.read = (.ended, channel) := by simp [Channel.read, ho, hp, hz]
      exact ⟨_, .ended hr⟩

theorem Faithful.run (hf : Faithful pass s) (h : ReflTransGen Step s t) : Faithful pass t := by
  induction h with
  | refl => exact hf
  | tail _ hstep ih => exact (ih.step hstep).1

theorem Faithful.stops (hf : Faithful pass s) : Acc (fun t s => Step s t) s := by
  induction hn : s.work using Nat.strongRecOn generalizing s with
  | ind n ih =>
    apply Acc.intro
    intro t h
    obtain ⟨hft, hw⟩ := hf.step h
    exact ih t.work (hn ▸ hw) hft rfl

/-- A stream whose reader has found the end has delivered every write. -/
theorem Faithful.ended (hf : Faithful pass s) (he : s.ended = true) :
    s.chunks = pass.offers.filter (!·.isEmpty) ∧ s.left = .done pass.result := by
  obtain ⟨hz, hp⟩ := hf.last he
  rcases hf.writer with hs | ⟨-, result, hleft⟩
  · omega
  · have houtcome := hf.outcome
    have hflow := hf.flow
    rw [hleft] at houtcome hflow ⊢
    rw [hp] at hflow
    exact ⟨by simpa [Dialogue.offers] using hflow, by rw [← houtcome]; rfl⟩

/-- The stream of a pass that is about to start, over a channel of some capacity. -/
def start (pass : Dialogue (Except Error Unit × Shared)) (capacity : Nat) : Streaming :=
  ⟨pass, Channel.new capacity, [], false⟩

/-- Every schedule delivers the non-empty writes of the pass, in order. -/
theorem delivers (pass : Dialogue (Except Error Unit × Shared)) {capacity : Nat} (hc : 0 < capacity) :
    (start pass capacity).Delivers (pass.offers.filter (!·.isEmpty)) pass.result.1 := by
  have hf : Faithful pass (start pass capacity) := ⟨rfl, hc, .inl rfl, rfl, rfl, by simp [start]⟩
  refine ⟨hf.stops, fun s hs => (hf.run hs).goes_on, fun s hs he => ?_⟩
  obtain ⟨hchunks, hleft⟩ := (hf.run hs).ended he
  exact ⟨hchunks, _, hleft⟩

end Streaming

/-! ## Streamed views -/

namespace Engine

/-- The stream of a view as its pass is about to start. -/
def streaming (engine : Engine) (view : String) : Streaming :=
  .start (engine.dialogue 0 view ⟨.empty, []⟩) engine.options.streamBufferChunks

variable (engine : Engine)

/-- A view is the same to a pass under its normalised path. -/
theorem renderAtDepth_normalized {path view : String} (hv : Path.normalize path = .ok view) (depth : Nat)
    (stage : Stage) : engine.renderAtDepth depth view stage = engine.renderAtDepth depth path stage := by
  unfold renderAtDepth
  cases engine.options.maxLayoutDepth + 1 - depth <;> simp only [renderWithin, hv, Path.normalize_normalize hv]

theorem renderWithData_normalized {path view : String} (hv : Path.normalize path = .ok view) (sink : Sink)
    (data : PageData) : engine.renderWithData view sink data = engine.renderWithData path sink data := by
  simp only [renderWithData, engine.renderAtDepth_normalized hv]

/-- A pass into a buffer makes the writes that its dialogue offers, and has its result. -/
theorem renderWithData_buffer (path : String) (data : PageData) :
    (engine.renderWithData path .buffer data).sink.writes = (engine.dialogue 0 path ⟨data, []⟩).offers ∧
      ((engine.renderWithData path .buffer data).result.map fun _ => ()) =
        (engine.dialogue 0 path ⟨data, []⟩).result.1 := by
  have h : engine.renderAtDepth 0 path ⟨.buffer, data, []⟩ = _ := engine.renderAtDepth_on 0 path ⟨data, []⟩ .buffer
  simp only [renderWithData, h, Dialogue.onStage, Dialogue.run_buffer]
  cases (engine.dialogue 0 path ⟨data, []⟩).result.1 <;> exact ⟨Sink.writes_taking _, rfl⟩

/-- Every schedule of the stream of a view delivers the non-empty writes of the pass into a buffer. -/
theorem streaming_delivers (hroom : 0 < engine.options.streamBufferChunks) {path view : String}
    (hv : Path.normalize path = .ok view) :
    (engine.streaming view).Delivers ((engine.renderWithData path .buffer .empty).sink.writes.filter (!·.isEmpty))
      ((engine.renderWithData path .buffer .empty).result.map fun _ => ()) := by
  obtain ⟨hwrites, hresult⟩ := engine.renderWithData_buffer view .empty
  rw [← engine.renderWithData_normalized hv, hwrites, hresult]
  exact Streaming.delivers _ hroom

theorem streamedView_eq_ok {path view : String} (h : engine.streamedView path = .ok view) :
    Path.normalize path = .ok view ∧ ∃ page, engine.catalog.find? view = some page := by
  unfold streamedView at h
  cases hv : Path.normalize path with
  | error e => simp [hv] at h
  | ok view' =>
    simp only [hv, engine.catalog.contains_of_normalized (Path.normalize_normalize hv)] at h
    split at h
    · next hf =>
      cases h
      exact ⟨rfl, Option.isSome_iff_exists.1 hf⟩
    · simp at h

theorem streamedView_eq_error {path : String} {e : Error} (h : engine.streamedView path = .error e) :
    Path.normalize path = .error e ∧ e = .invalidPath "/" path ∨
      ∃ view, Path.normalize path = .ok view ∧ engine.catalog.find? view = none ∧ e = .pageNotFound view := by
  unfold streamedView at h
  cases hv : Path.normalize path with
  | error e' =>
    obtain rfl : e' = e := by simpa [hv] using h
    exact .inl ⟨rfl, Path.normalize_eq_error hv⟩
  | ok view =>
    simp only [hv, engine.catalog.contains_of_normalized (Path.normalize_normalize hv)] at h
    split at h
    · simp at h
    · next hf => exact .inr ⟨view, rfl, by simpa using hf, by simpa using h.symm⟩

/-- A view that is not streamed is not rendered, for the same reason. -/
theorem renderToContent_of_not_streamed {path : String} {e : Error} (h : engine.streamedView path = .error e) :
    (engine.renderToContent path).1 = .error e := by
  have hpass (stage : Stage) : engine.renderAtDepth 0 path stage = (.error e, stage) := by
    rw [renderAtDepth_eq, approach]
    rcases engine.streamedView_eq_error h with ⟨hv, -⟩ | ⟨view, hv, hf, rfl⟩
    · simp [hv]
    · simp [hv, engine.catalog.get_of_normalized (Path.normalize_normalize hv), hf]
  simp only [renderToContent, render, renderWithData, hpass]
  rfl

/-- The chunks of a view that is streamed are the non-empty writes of the pass into a buffer. -/
theorem renderStream_of_streamed (hroom : 0 < engine.options.streamBufferChunks) {path view : String}
    (h : engine.streamedView path = .ok view) :
    engine.renderStream path =
      let buffered := engine.renderWithData path .buffer .empty
      .ok (buffered.sink.writes.filter (!·.isEmpty), streamJournal view buffered) := by
  have hv := (engine.streamedView_eq_ok h).1
  simp only [renderStream, h, Except.map, render, engine.renderWithData_normalized hv]
  rw [Channel.transfer_eq _ _ (by simp [Channel.new]) rfl hroom (by simp [Channel.new])]
  rfl

/-- A view is streamed exactly if its path is one and a page is registered there, and otherwise fails
as it does without a stream. What is streamed are the non-empty writes of the pass into a buffer,
whatever the schedule and however the pass ends. -/
theorem renderStream_agrees (hroom : 0 < engine.options.streamBufferChunks) (path : String) :
    let buffered := engine.renderWithData path .buffer .empty
    match engine.renderStream path with
    | .error e =>
      (Path.normalize path = .error e ∧ e = .invalidPath "/" path ∨
        ∃ view, Path.normalize path = .ok view ∧ engine.catalog.find? view = none ∧ e = .pageNotFound view) ∧
      (engine.renderToContent path).1 = .error e
    | .ok (chunks, _) =>
      (∃ view page, Path.normalize path = .ok view ∧ engine.catalog.find? view = some page ∧
        (engine.streaming view).Delivers chunks (buffered.result.map fun _ => ())) ∧
      chunks = buffered.sink.writes.filter (!·.isEmpty) ∧ (∀ chunk ∈ chunks, chunk ≠ .empty) ∧
      .concat chunks = buffered.sink.output ∧
      (engine.renderToContent path).1 = buffered.result.map fun _ => .concat chunks := by
  intro buffered
  cases h : engine.streamedView path with
  | error e =>
    have hstream : engine.renderStream path = .error e := by rw [renderStream, h]; rfl
    rw [hstream]
    exact ⟨engine.streamedView_eq_error h, engine.renderToContent_of_not_streamed h⟩
  | ok view =>
    obtain ⟨hv, page, hf⟩ := engine.streamedView_eq_ok h
    have hconcat : .concat (buffered.sink.writes.filter (!·.isEmpty)) = buffered.sink.output :=
      Content.concat_filter_isEmpty _
    rw [engine.renderStream_of_streamed hroom h]
    refine ⟨⟨view, page, hv, hf, engine.streaming_delivers hroom hv⟩, rfl, ?_, hconcat, ?_⟩
    · intro chunk hmem hempty
      simp [hempty, Content.empty, Content.isEmpty] at hmem
    · rw [hconcat]
      rfl

/-- The home page of the demo site is streamed through the standard channel. -/
theorem renderStream_homePage :
    0 < Options.standard.streamBufferChunks ∧
      ∃ chunks journal, renderStream ⟨Demo.site, .standard⟩ "~/index" = .ok (chunks, journal) ∧
        .concat chunks = (renderWithData ⟨Demo.site, .standard⟩ "~/index" .buffer .empty).sink.output ∧
        ∃ outcome, (streaming ⟨Demo.site, .standard⟩ "/index").Delivers chunks outcome := by
  have hroom : 0 < Options.standard.streamBufferChunks := by decide
  have hstreamed : streamedView ⟨Demo.site, .standard⟩ "~/index" = .ok "/index" := by rfl
  have hstream := renderStream_of_streamed ⟨Demo.site, .standard⟩ hroom hstreamed
  have h := renderStream_agrees ⟨Demo.site, .standard⟩ hroom "~/index"
  rw [hstream] at h
  obtain ⟨⟨view, page, hv, -, hdelivers⟩, -, -, hconcat, -⟩ := h
  obtain rfl : view = "/index" := by simpa [eq_comm] using hv.symm.trans (streamedView_eq_ok _ hstreamed).1
  exact ⟨hroom, _, _, hstream, hconcat, _, hdelivers⟩

end Engine
end Folio
