import Folio.Content
/-!
# Sinks

A sink is offered writes, one after the other, takes or refuses each of them, and never shows what it
has taken to the writer. Its answer may depend on every offer before, also on those that it refused, so
it may take later what it refuses now. A buffer takes all; a limited sink answers so many offers well; a
sink whose reader is gone takes only empty writes.
-/

namespace Folio

/-- A write that was offered to a sink, and whether the sink took it. -/
structure Offer where
  content : Content
  taken : Bool
  deriving DecidableEq, Repr

namespace Offer

/-- What offers wrote: the contents of those that were taken. -/
def written (offers : List Offer) : List Content := (offers.filter (·.taken)).map (·.content)

/-- The offers of contents that were all taken. -/
def allTaken (contents : List Content) : List Offer := contents.map (⟨·, true⟩)

@[simp] theorem written_append (offers more : List Offer) :
    written (offers ++ more) = written offers ++ written more := by
  simp [written]

@[simp] theorem written_allTaken (contents : List Content) : written (allTaken contents) = contents := by
  induction contents with
  | nil => rfl
  | cons content contents ih => exact congrArg (content :: ·) ih

@[simp] theorem written_refused (content : Content) : written [⟨content, false⟩] = [] := rfl

end Offer

/-- A destination of writes: the rule by which it answers the next offer, given the offers before, and
these offers. -/
structure Sink where
  takes : List Offer → Content → Bool
  offers : List Offer

namespace Sink

/-- The sink after more offers. -/
def after (s : Sink) (made : List Offer) : Sink := { s with offers := s.offers ++ made }

/-- A write is offered; the answer says whether the sink took it. -/
def write (s : Sink) (c : Content) : Bool × Sink :=
  let taken := s.takes s.offers c
  (taken, s.after [⟨c, taken⟩])

/-- The writes that the sink has taken. -/
def writes (s : Sink) : List Content := Offer.written s.offers

/-- What was written so far, as one fragment. -/
def output (s : Sink) : Content := .concat s.writes

/-- The sink that takes every write. -/
def buffer : Sink := ⟨fun _ _ => true, []⟩

/-- The sink that takes the first `n` writes that it is offered. -/
def limited (n : Nat) : Sink := ⟨fun offers _ => offers.length < n, []⟩

/-- The sink whose reader is gone: it takes a write only if there is nothing to hand on. -/
def unread : Sink := ⟨fun _ c => c.isEmpty, []⟩

@[simp] theorem after_nil (s : Sink) : s.after [] = s := by simp [after]

@[simp] theorem after_after (s : Sink) (made more : List Offer) :
    (s.after made).after more = s.after (made ++ more) := by
  simp [after]

/-- Offers add what they wrote to the writes of a sink. -/
@[simp] theorem writes_after (s : Sink) (made : List Offer) : (s.after made).writes = s.writes ++ Offer.written made :=
  Offer.written_append s.offers made

theorem output_after (s : Sink) (made : List Offer) :
    (s.after made).output = .concat [s.output, .concat (Offer.written made)] := by
  simp [output, Content.concat]

@[simp] theorem write_buffer (made : List Offer) (c : Content) :
    (buffer.after made).write c = (true, buffer.after (made ++ [⟨c, true⟩])) :=
  congrArg (Prod.mk true) (buffer.after_after made [⟨c, true⟩])

/-- A limited sink takes a write while it was offered fewer than it takes. -/
theorem write_limited (n : Nat) (made : List Offer) (c : Content) :
    ((limited n).after made).write c =
      (decide (made.length < n), (limited n).after (made ++ [⟨c, decide (made.length < n)⟩])) := by
  simp [write, limited, after]

@[simp] theorem writes_buffer : buffer.writes = [] := rfl

@[simp] theorem writes_limited (n : Nat) : (limited n).writes = [] := rfl

theorem writes_taking (contents : List Content) : (buffer.after (Offer.allTaken contents)).writes = contents := by simp

end Sink
end Folio
