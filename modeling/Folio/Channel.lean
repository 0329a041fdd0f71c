import Folio.Content
/-!
# Channels

A streamed response is written at one end of a channel and read at the other. Each non-empty write
is one chunk; at most `capacity` chunks wait to be read, and a writer that finds the channel full
waits. The writing end may be shared by several sinks; the stream ends when they are all gone and
every chunk is read. Once the stream is dropped, writes with something in them fail.

`transfer_eq`: what a reader gets who reads to the end is the non-empty writes, in order.
-/

namespace Folio

/-- A channel: how many chunks may wait, those that wait, the sinks that still write, and whether
the stream is still there. -/
structure Channel where
  capacity : Nat
  pending : List Content
  sinks : Nat
  hasStream : Bool
  deriving DecidableEq, Repr

namespace Channel

/-- A new channel, with one sink and its stream. -/
def new (capacity : Nat) : Channel := ⟨capacity, [], 1, true⟩

/-- What a write comes to. -/
inductive Written where
  | accepted
  /-- The writer would have to wait. -/
  | full
  /-- The stream is gone. -/
  | closed
  /-- No sink is left to write through. -/
  | noSink
  deriving DecidableEq, Repr

/-- What a read comes to. -/
inductive Read where
  | chunk (content : Content)
  /-- The reader would have to wait. -/
  | pending
  | ended
  /-- There is no stream to read from. -/
  | noStream
  deriving DecidableEq, Repr

/-- Offers a write. -/
def write (c : Channel) (content : Content) : Written × Channel :=
  if c.sinks = 0 then (.noSink, c)
  else if content.isEmpty then (.accepted, c)
  else if !c.hasStream then (.closed, c)
  else if c.pending.length < c.capacity then (.accepted, { c with pending := c.pending ++ [content] })
  else (.full, c)

/-- Reads what waits, if anything does. -/
def read (c : Channel) : Read × Channel :=
  if !c.hasStream then (.noStream, c)
  else
    match c.pending with
    | chunk :: rest => (.chunk chunk, { c with pending := rest })
    | [] => (if c.sinks = 0 then .ended else .pending, c)

/-- One more sink writes through the channel, if any does. -/
def cloneSink (c : Channel) : Channel := { c with sinks := if c.sinks = 0 then 0 else c.sinks + 1 }

/-- A sink is gone. -/
def dropSink (c : Channel) : Channel := { c with sinks := c.sinks - 1 }

/-- The stream is gone, and with it the chunks that wait. -/
def dropStream (c : Channel) : Channel := { c with pending := [], hasStream := false }

/-- The chunks that a reader gets to the end where one writer makes the writes: the reader takes a
chunk whenever the writer has to wait, and the rest after the last write. -/
def transfer (c : Channel) : List Content → List Content
  | [] => c.pending
  | w :: ws =>
    match c.write w with
    | (.full, _) =>
      match c.read with
      | (.chunk chunk, rest) => chunk :: (rest.write w).2.transfer ws
      | _ => c.transfer ws
    | (_, c') => c'.transfer ws

theorem transfer_eq (ws : List Content) : ∀ c : Channel, c.sinks ≠ 0 → c.hasStream = true → 0 < c.capacity →
    c.pending.length ≤ c.capacity → c.transfer ws = c.pending ++ ws.filter (!·.isEmpty) := by
  induction ws with
  | nil => intro c _ _ _ _; simp [transfer]
  | cons w ws ih =>
    rintro ⟨capacity, pending, sinks, hasStream⟩ hs ho hc hp
    simp only at hs ho hc hp
    subst ho
    by_cases he : w.isEmpty = true
    · simp [transfer, write, hs, he, ih ⟨capacity, pending, sinks, true⟩ hs rfl hc hp]
    · by_cases hl : pending.length < capacity
      · have := ih ⟨capacity, pending ++ [w], sinks, true⟩ hs rfl hc (by simp; omega)
        simp [transfer, write, hs, he, hl, this]
      · cases pending with
        | nil => simp at hl; omega
        | cons x xs =>
          simp only [List.length_cons] at hl hp
          have hx : xs.length < capacity := by omega
          have := ih ⟨capacity, xs ++ [w], sinks, true⟩ hs rfl hc (by simp; omega)
          simp [transfer, write, read, hs, he, hl, hx, this]

variable {c c' : Channel} {content : Content}

theorem write_accepted (h : c.write content = (.accepted, c')) :
    c' = { c with pending := c.pending ++ [content].filter (!·.isEmpty) } := by
  unfold write at h
  split at h
  · simp at h
  · split at h
    · next he => cases h; simp [he]
    · next he =>
      split at h
      · simp at h
      · split at h
        · cases h; simp [he]
        · simp at h

theorem room_of_write_accepted (h : c.write content = (.accepted, c')) :
    content.isEmpty = true ∨ c.pending.length < c.capacity := by
  unfold write at h
  split at h
  · simp at h
  · split at h
    · next he => exact .inl he
    · split at h
      · simp at h
      · split at h
        · next hlt => exact .inr hlt
        · simp at h

theorem write_closed (h : c.write content = (.closed, c')) : c.hasStream = false := by
  unfold write at h
  split at h
  · simp at h
  · split at h
    · simp at h
    · split at h
      · next ho => simpa using ho
      · split at h <;> simp at h

theorem write_of_not_accepted {outcome : Written} (h : c.write content = (outcome, c')) (ho : outcome ≠ .accepted) :
    c' = c := by
  unfold write at h
  split at h
  · cases h; rfl
  · split at h
    · cases h; rfl
    · split at h
      · cases h; rfl
      · split at h
        · cases h; exact absurd rfl ho
        · cases h; rfl

theorem write_of_room (hs : c.sinks ≠ 0) (ho : c.hasStream = true) (hroom : c.pending.length < c.capacity)
    (content : Content) : ∃ c', c.write content = (.accepted, c') := by
  by_cases he : content.isEmpty = true <;> simp [write, hs, ho, hroom, he]

theorem read_chunk (h : c.read = (.chunk content, c')) :
    c.pending = content :: c'.pending ∧ c' = { c with pending := c'.pending } := by
  unfold read at h
  split at h
  · simp at h
  · split at h
    · next hp => cases h; exact ⟨hp, rfl⟩
    · split at h <;> simp at h

theorem read_of_no_chunk {outcome : Read} (h : c.read = (outcome, c')) (ho : ∀ content, outcome ≠ .chunk content) :
    c' = c := by
  unfold read at h
  split at h
  · cases h; rfl
  · split at h
    · cases h; exact absurd rfl (ho _)
    · cases h; rfl

theorem read_ended (h : c.read = (.ended, c')) : c.sinks = 0 ∧ c.pending = [] ∧ c' = c := by
  unfold read at h
  split at h
  · simp at h
  · split at h
    · simp at h
    · next hp =>
      split at h
      · next hz => cases h; exact ⟨hz, hp, rfl⟩
      · simp at h

end Channel
end Folio
