import Mathlib.Data.List.Basic
import Folio.Channel
import Folio.Sink
/-!
# What a channel delivers

The parties at a channel are its sinks and its stream. A sink is cloned, writes and is dropped, and
the stream is read and dropped, in any order: a `Run` is one such interleaving. Sinks hold nothing of
their own, so it is enough to count them. A writer that finds the channel full waits, which is a move
that changes nothing, and offers its write again later.

`Conserves.step` is what every move keeps, and `run_delivers` what holds after every run: what was
accepted is delivered once and in order, with room for `capacity` chunks in between.
-/

namespace Folio
namespace Channel

/-- A move of one of the parties, and what it comes to. -/
inductive Move where
  | wrote (content : Content) (outcome : Written)
  | clonedSink
  | droppedSink
  | read (outcome : Read)
  | droppedStream
  deriving DecidableEq

/-- Only a sink that is there writes, is cloned or dropped, and only a stream that is there is read or
dropped. -/
inductive Step : Channel → Move → Channel → Prop
  | wrote {c c' : Channel} {content : Content} {outcome : Written} :
      c.sinks ≠ 0 → c.write content = (outcome, c') → Step c (.wrote content outcome) c'
  | clonedSink {c : Channel} : c.sinks ≠ 0 → Step c .clonedSink c.cloneSink
  | droppedSink {c : Channel} : c.sinks ≠ 0 → Step c .droppedSink c.dropSink
  | read {c c' : Channel} {outcome : Read} :
      c.hasStream = true → c.read = (outcome, c') → Step c (.read outcome) c'
  | droppedStream {c : Channel} : c.hasStream = true → Step c .droppedStream c.dropStream

/-- The moves of the parties in the order in which they are made, from one channel to another. -/
inductive Run (start : Channel) : List Move → Channel → Prop
  | nil : Run start [] start
  | snoc {moves : List Move} {move : Move} {c c' : Channel} :
      Run start moves c → Step c move c' → Run start (moves ++ [move]) c'

/-! ## Histories -/

/-- The writes that were offered, in order. -/
def offered (moves : List Move) : List Content := moves.filterMap fun | .wrote content _ => some content | _ => none

/-- The writes that were accepted and are not empty. -/
def accepted (moves : List Move) : List Content :=
  (moves.filterMap fun | .wrote content .accepted => some content | _ => none).filter (!·.isEmpty)

/-- The chunks that were read. -/
def delivered (moves : List Move) : List Content :=
  moves.filterMap fun | .read (.chunk content) => some content | _ => none

@[simp] theorem accepted_append (moves moves' : List Move) :
    accepted (moves ++ moves') = accepted moves ++ accepted moves' := by simp [accepted]

@[simp] theorem delivered_append (moves moves' : List Move) :
    delivered (moves ++ moves') = delivered moves ++ delivered moves' := by simp [delivered]

theorem not_mem_accepted_empty (moves : List Move) : Content.empty ∉ accepted moves := by
  intro h
  have := (List.mem_filter.1 h).2
  simp [Content.empty, Content.isEmpty] at this

/-! ## One move -/

namespace Step
variable {c c' : Channel} {move : Move}

/-- While the stream is there, a move takes as much out of what waits as it delivers, and puts in what it
has accepted. -/
theorem flow (h : Step c move c') (ho : c'.hasStream = true) :
    delivered [move] ++ c'.pending = c.pending ++ accepted [move] := by
  cases h with
  | @wrote _ content outcome hs hw =>
    by_cases hout : outcome = .accepted
    · subst hout
      rw [write_accepted hw]
      simp [delivered, accepted]
    · rw [write_of_not_accepted hw hout]
      cases outcome <;> simp_all [delivered, accepted]
  | @read _ outcome _ hr =>
    cases outcome with
    | chunk content =>
      rw [(read_chunk hr).1]
      simp [delivered, accepted]
    | _ =>
      rw [read_of_no_chunk hr (by simp)]
      simp [delivered, accepted]
  | clonedSink => simp [cloneSink, delivered, accepted]
  | droppedSink => simp [dropSink, delivered, accepted]
  | droppedStream => simp [dropStream] at ho

theorem room (h : Step c move c') (hroom : c.pending.length ≤ c.capacity) :
    c'.capacity = c.capacity ∧ c'.pending.length ≤ c.capacity := by
  cases h with
  | @wrote _ content outcome hs hw =>
    by_cases hout : outcome = .accepted
    · subst hout
      rw [write_accepted hw]
      refine ⟨rfl, ?_⟩
      rcases room_of_write_accepted hw with he | hlt
      · simpa [he] using hroom
      · have hone := List.length_filter_le (!·.isEmpty) [content]
        simp only [List.length_append, List.length_singleton] at hone ⊢
        omega
    · rw [write_of_not_accepted hw hout]
      exact ⟨rfl, hroom⟩
  | @read _ outcome _ hr =>
    cases outcome with
    | chunk content =>
      obtain ⟨hp, hc⟩ := read_chunk hr
      rw [hp, List.length_cons] at hroom
      rw [hc]
      exact ⟨rfl, by simp only; omega⟩
    | _ =>
      rw [read_of_no_chunk hr (by simp)]
      exact ⟨rfl, hroom⟩
  | clonedSink => exact ⟨rfl, hroom⟩
  | droppedSink => exact ⟨rfl, hroom⟩
  | droppedStream => exact ⟨rfl, Nat.zero_le _⟩

/-- Neither a write nor a read changes who is there. -/
theorem parties_of_wrote {content : Content} {outcome : Written} (h : c.write content = (outcome, c')) :
    c'.sinks = c.sinks ∧ c'.hasStream = c.hasStream := by
  by_cases hout : outcome = .accepted
  · subst hout
    rw [write_accepted h]
    exact ⟨rfl, rfl⟩
  · rw [write_of_not_accepted h hout]
    exact ⟨rfl, rfl⟩

theorem parties_of_read {outcome : Read} (h : c.read = (outcome, c')) :
    c'.sinks = c.sinks ∧ c'.hasStream = c.hasStream := by
  cases outcome with
  | chunk content =>
    rw [(read_chunk h).2]
    exact ⟨rfl, rfl⟩
  | _ =>
    rw [read_of_no_chunk h (by simp)]
    exact ⟨rfl, rfl⟩

theorem sinks (h : Step c move c') :
    [move].count .droppedSink + c'.sinks = [move].count .clonedSink + c.sinks := by
  cases h with
  | wrote _ hw => simp [(parties_of_wrote hw).1]
  | read _ hr => simp [(parties_of_read hr).1]
  | clonedSink hs =>
    simp only [cloneSink, if_neg hs, List.count_singleton]
    simp
    omega
  | droppedSink hs =>
    simp only [dropSink, List.count_singleton]
    simp
    omega
  | droppedStream => simp [dropStream]

theorem stream (h : Step c move c') : c'.hasStream = true ↔ c.hasStream = true ∧ move ≠ .droppedStream := by
  cases h with
  | wrote _ hw => simp [(parties_of_wrote hw).2]
  | read _ hr => simp [(parties_of_read hr).2]
  | clonedSink => simp [cloneSink]
  | droppedSink => simp [dropSink]
  | droppedStream => simp [dropStream]

/-- Nothing waits for a reader that is gone. -/
theorem gone (h : Step c move c') (hgone : c.hasStream = false → c.pending = []) (ho : c'.hasStream = false) :
    c'.pending = [] := by
  cases h with
  | @wrote _ content outcome hs hw =>
    rw [(parties_of_wrote hw).2] at ho
    by_cases hout : outcome = .accepted
    · subst hout
      simp only [Channel.write, hs, ho, if_false, Bool.not_false, if_true] at hw
      split at hw
      · cases hw; exact hgone ho
      · simp at hw
    · rw [write_of_not_accepted hw hout]
      exact hgone ho
  | read hhas hr => simp [(parties_of_read hr).2, hhas] at ho
  | clonedSink => exact hgone ho
  | droppedSink => exact hgone ho
  | droppedStream => rfl

/-- Where no sink is left, nothing is accepted any more. -/
theorem accepted_of_no_sinks (h : Step c move c') (hs : c.sinks = 0) : accepted [move] = [] ∧ c'.sinks = 0 := by
  cases h with
  | wrote hne => exact absurd hs hne
  | read _ hr => exact ⟨rfl, (parties_of_read hr).1.trans hs⟩
  | clonedSink hne => exact absurd hs hne
  | droppedSink hne => exact absurd hs hne
  | droppedStream => exact ⟨rfl, hs⟩

theorem delivered_of_no_stream (h : Step c move c') (ho : c'.hasStream = false) : delivered [move] = [] := by
  cases h with
  | read hhas hr => simp [(parties_of_read hr).2, hhas] at ho
  | _ => rfl

end Step

/-! ## Any moves -/

/-- How a channel stands to the moves that led to it. -/
structure Conserves (capacity : Nat) (moves : List Move) (c : Channel) : Prop where
  room : c.capacity = capacity ∧ c.pending.length ≤ capacity
  flow : c.hasStream = true → delivered moves ++ c.pending = accepted moves
  order : delivered moves <+: accepted moves
  gone : c.hasStream = false → c.pending = []
  sinks : moves.count .droppedSink + c.sinks = moves.count .clonedSink + 1
  stream : c.hasStream = true ↔ .droppedStream ∉ moves
  ended : .read .ended ∈ moves → c.sinks = 0 ∧ delivered moves = accepted moves

variable {capacity : Nat} {moves : List Move} {c c' : Channel}

theorem Conserves.step (h : Conserves capacity moves c) {move : Move} (hstep : Step c move c') :
    Conserves capacity (moves ++ [move]) c' := by
  have hflow (ho : c'.hasStream = true) :
      delivered (moves ++ [move]) ++ c'.pending = accepted (moves ++ [move]) := by
    have hbefore := h.flow (hstep.stream.1 ho).1
    calc delivered (moves ++ [move]) ++ c'.pending
      _ = delivered moves ++ (delivered [move] ++ c'.pending) := by simp
      _ = (delivered moves ++ c.pending) ++ accepted [move] := by rw [hstep.flow ho, List.append_assoc]
      _ = accepted (moves ++ [move]) := by rw [hbefore, accepted_append]
  have horder : delivered (moves ++ [move]) <+: accepted (moves ++ [move]) := by
    cases ho : c'.hasStream with
    | true => exact ⟨c'.pending, hflow ho⟩
    | false =>
      rw [delivered_append, hstep.delivered_of_no_stream ho, List.append_nil, accepted_append]
      exact h.order.trans (List.prefix_append _ _)
  constructor
  · obtain ⟨hcapacity, hroom⟩ := h.room
    rw [← hcapacity] at hroom ⊢
    exact hstep.room hroom
  · exact hflow
  · exact horder
  · exact hstep.gone h.gone
  · have hbefore := h.sinks
    have hone := hstep.sinks
    rw [List.count_append, List.count_append]
    omega
  · rw [hstep.stream, h.stream]
    simp [eq_comm]
  · intro hended
    rcases List.mem_append.1 hended with hended | hended
    · -- The reader has found the end before, so nothing has been accepted or delivered since.
      obtain ⟨hs, heq⟩ := h.ended hended
      obtain ⟨hnone, hs'⟩ := hstep.accepted_of_no_sinks hs
      refine ⟨hs', ?_⟩
      apply horder.eq_of_length_le
      rw [accepted_append, hnone, List.append_nil, ← heq, delivered_append]
      simp
    · rw [List.mem_singleton] at hended
      subst hended
      cases hstep with
      | read ho hr =>
        obtain ⟨hs, hp, rfl⟩ := read_ended hr
        refine ⟨hs, ?_⟩
        have := hflow ho
        rwa [hp, List.append_nil] at this

theorem Run.conserves (h : Run (.new capacity) moves c) : Conserves capacity moves c := by
  induction h with
  | nil =>
    exact ⟨⟨rfl, Nat.zero_le _⟩, fun _ => rfl, List.prefix_refl _, fun _ => rfl, by simp [new], by simp [new], by simp⟩
  | snoc _ hstep ih => exact ih.step hstep

/-- No chunk that is delivered or waits is empty. -/
theorem Conserves.ne_empty (h : Conserves capacity moves c) {chunk : Content}
    (hchunk : chunk ∈ delivered moves ++ c.pending) : chunk ≠ .empty := by
  rintro rfl
  cases ho : c.hasStream with
  | true => exact not_mem_accepted_empty moves (h.flow ho ▸ hchunk)
  | false =>
    rw [h.gone ho, List.append_nil] at hchunk
    exact not_mem_accepted_empty moves (h.order.subset hchunk)

/-- What a write comes to after the moves. -/
theorem Conserves.wrote (h : Conserves capacity moves c) {content : Content} {outcome : Written}
    (hstep : Step c (.wrote content outcome) c') :
    (content = .empty → outcome = .accepted ∧ c' = c) ∧
      (content ≠ .empty → .droppedStream ∈ moves → outcome = .closed) ∧
      (content ≠ .empty → .droppedStream ∉ moves →
        (outcome = .accepted ↔ c.pending.length < capacity) ∧ (outcome ≠ .accepted → outcome = .full)) := by
  obtain ⟨hcapacity, -⟩ := h.room
  cases hstep with
  | wrote hs hw =>
    refine ⟨?_, ?_, ?_⟩
    · rintro rfl
      have hempty : Content.empty.isEmpty = true := rfl
      simp only [write, hs, hempty, if_true, if_false] at hw
      cases hw
      exact ⟨rfl, rfl⟩
    · intro hne hdropped
      have ho : c.hasStream = false := by
        rw [← Bool.not_eq_true]
        exact fun ho => h.stream.1 ho hdropped
      rw [Ne, ← Content.isEmpty_iff] at hne
      simp only [write, hs, hne, ho, if_false, Bool.not_false, if_true] at hw
      cases hw
      rfl
    · intro hne hkept
      have ho : c.hasStream = true := h.stream.2 hkept
      rw [Ne, ← Content.isEmpty_iff] at hne
      simp only [write, hs, hne, ho, hcapacity, if_false, Bool.not_true, Bool.false_eq_true] at hw
      split at hw
      · next hlt => cases hw; simp [hlt]
      · next hlt => cases hw; simp [hlt]

/-- A read finds the end exactly if no sink is left and all is delivered. -/
theorem Conserves.ended_iff (h : Conserves capacity moves c) :
    (∃ c', Step c (.read .ended) c') ↔ .droppedStream ∉ moves ∧
      moves.count .droppedSink = moves.count .clonedSink + 1 ∧ delivered moves = accepted moves := by
  have hsinks := h.sinks
  constructor
  · rintro ⟨c', hstep⟩
    cases hstep with
    | read ho hr =>
      obtain ⟨hs, hp, rfl⟩ := read_ended hr
      have hflow := h.flow ho
      rw [hp, List.append_nil] at hflow
      exact ⟨h.stream.1 ho, by omega, hflow⟩
  · rintro ⟨hkept, hcount, heq⟩
    have ho : c.hasStream = true := h.stream.2 hkept
    have hs : c.sinks = 0 := by omega
    have hp : c.pending = [] := by
      have hflow := h.flow ho
      rw [heq] at hflow
      simpa using hflow
    exact ⟨c, .read ho (by simp [read, ho, hs, hp])⟩

/-- What is accepted is what is offered, if no write is turned away. -/
theorem accepted_eq_offered (h : ∀ content outcome, .wrote content outcome ∈ moves → outcome = .accepted) :
    accepted moves = (offered moves).filter (!·.isEmpty) := by
  unfold accepted offered
  congr 1
  apply List.filterMap_congr
  intro move hmove
  cases move with
  | wrote content outcome => rw [h content outcome hmove]
  | _ => rfl

/-- A buffer holds all that is written into it. -/
theorem output_buffer (contents : List Content) :
    (contents.foldl (fun sink content => (sink.write content).2) Sink.buffer).output = .concat contents := by
  have h : ∀ before, contents.foldl (fun sink content => (sink.write content).2) (Sink.buffer.after before) =
      Sink.buffer.after (before ++ Offer.allTaken contents) := by
    induction contents with
    | nil => intro before; simp [Offer.allTaken]
    | cons content contents ih =>
      intro before
      rw [List.foldl_cons, Sink.write_buffer, ih, List.append_assoc]
      rfl
  have hfold : contents.foldl (fun sink content => (sink.write content).2) Sink.buffer =
      Sink.buffer.after (Offer.allTaken contents) := h []
  rw [hfold, Sink.output, Sink.writes_taking]

/-- Whatever the parties do, in whatever order: what has been read and what waits are the writes that
were accepted, in order, as long as the stream is there. At most `capacity` chunks wait, a write is
accepted if there is nothing in it or room for one more, and a read finds the end only after the last
chunk of the last sink. If no write was turned away, a reader who finds the end has what a buffer has. -/
theorem run_delivers (h : Run (.new capacity) moves c) :
    (.droppedStream ∉ moves → delivered moves ++ c.pending = accepted moves) ∧
      delivered moves <+: accepted moves ∧
      c.pending.length ≤ capacity ∧
      (∀ chunk ∈ delivered moves ++ c.pending, chunk ≠ .empty) ∧
      (moves.count .droppedSink ≤ moves.count .clonedSink →
        ∀ content, ∃ outcome c', Step c (.wrote content outcome) c') ∧
      (∀ content outcome c', Step c (.wrote content outcome) c' →
        (content = .empty → outcome = .accepted ∧ c' = c) ∧
        (content ≠ .empty → .droppedStream ∈ moves → outcome = .closed) ∧
        (content ≠ .empty → .droppedStream ∉ moves →
          (outcome = .accepted ↔ c.pending.length < capacity) ∧ (outcome ≠ .accepted → outcome = .full))) ∧
      ((∃ c', Step c (.read .ended) c') ↔ .droppedStream ∉ moves ∧
        moves.count .droppedSink = moves.count .clonedSink + 1 ∧ delivered moves = accepted moves) ∧
      ((∀ content outcome, .wrote content outcome ∈ moves → outcome = .accepted) → .read .ended ∈ moves →
        Content.concat (delivered moves) =
          ((offered moves).foldl (fun sink content => (sink.write content).2) Sink.buffer).output) := by
  have hc := h.conserves
  refine ⟨fun hkept => hc.flow (hc.stream.2 hkept), hc.order, hc.room.2, fun chunk => hc.ne_empty, ?_, ?_,
    hc.ended_iff, ?_⟩
  · intro hleft content
    have hsinks := hc.sinks
    exact ⟨_, _, .wrote (by omega) rfl⟩
  · intro content outcome c' hstep
    exact hc.wrote hstep
  · intro hall hended
    rw [(hc.ended hended).2, accepted_eq_offered hall, Content.concat_filter_isEmpty, output_buffer]

/-- Two sinks take turns at a channel with room for one chunk, and are dropped before the last read. -/
theorem run_delivers_shared :
    let a : Content := ⟨[97]⟩
    let b : Content := ⟨[98]⟩
    let moves : List Move := [.clonedSink, .wrote a .accepted, .wrote .empty .accepted, .read (.chunk a),
      .droppedSink, .wrote b .accepted, .droppedSink, .read (.chunk b), .read .ended]
    Run (.new 1) moves ⟨1, [], 0, true⟩ ∧ delivered moves = accepted moves ∧
      Content.concat (delivered moves) =
        ([a, .empty, b].foldl (fun sink content => (sink.write content).2) Sink.buffer).output := by
  intro a b moves
  have h₁ : Step (.new 1) .clonedSink ⟨1, [], 2, true⟩ := .clonedSink (by decide)
  have h₂ : Step ⟨1, [], 2, true⟩ (.wrote a .accepted) ⟨1, [a], 2, true⟩ := .wrote (by decide) rfl
  have h₃ : Step ⟨1, [a], 2, true⟩ (.wrote .empty .accepted) ⟨1, [a], 2, true⟩ := .wrote (by decide) rfl
  have h₄ : Step ⟨1, [a], 2, true⟩ (.read (.chunk a)) ⟨1, [], 2, true⟩ := .read rfl rfl
  have h₅ : Step ⟨1, [], 2, true⟩ .droppedSink ⟨1, [], 1, true⟩ := .droppedSink (by decide)
  have h₆ : Step ⟨1, [], 1, true⟩ (.wrote b .accepted) ⟨1, [b], 1, true⟩ := .wrote (by decide) rfl
  have h₇ : Step ⟨1, [b], 1, true⟩ .droppedSink ⟨1, [b], 0, true⟩ := .droppedSink (by decide)
  have h₈ : Step ⟨1, [b], 0, true⟩ (.read (.chunk b)) ⟨1, [], 0, true⟩ := .read rfl rfl
  have h₉ : Step ⟨1, [], 0, true⟩ (.read .ended) ⟨1, [], 0, true⟩ := .read rfl rfl
  have h : Run (.new 1) moves ⟨1, [], 0, true⟩ :=
    ((((((((Run.nil.snoc h₁).snoc h₂).snoc h₃).snoc h₄).snoc h₅).snoc h₆).snoc h₇).snoc h₈).snoc h₉
  have hall : ∀ content outcome, .wrote content outcome ∈ moves → outcome = .accepted := by
    intro content outcome hmem
    simp only [moves, List.mem_cons, Move.wrote.injEq, reduceCtorEq, false_or, or_false, List.not_mem_nil] at hmem
    rcases hmem with ⟨-, h⟩ | ⟨-, h⟩ | ⟨-, h⟩ <;> exact h
  obtain ⟨-, -, -, -, -, -, hended, hbuffer⟩ := run_delivers h
  exact ⟨h, (hended.1 ⟨_, h₉⟩).2.2, hbuffer hall (by simp [moves])⟩

end Channel
end Folio
