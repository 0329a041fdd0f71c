import Folio.Error
/-!
# Failures of the program

What makes the whole program or a request fail, and the report of it. A report holds the wording of
the failure and, after it, of each cause behind it.
-/

namespace Folio

/-- Why the program stops. -/
inductive Failure where
  | compose (error : Error)
  /-- The operating system refused something. -/
  | io (message : String)
  /-- The log cannot be set up. -/
  | telemetry (message : String)
  | unexpected (message : String)
  deriving DecidableEq, Repr

namespace Failure

/-- The wording of a failure. -/
def message : Failure → String
  | compose e => e.message
  | io text => "io error: " ++ text
  | telemetry text => "telemetry initialization failed: " ++ text
  | unexpected text => "unexpected error: " ++ text

/-- The wording of a failure and of what is behind it, outermost first. -/
def messages : Failure → List String
  | io text => ["io error: " ++ text, text]
  | f => [f.message]

end Failure

/-- A failure as the log of responses sees it: where it was noticed, the status of the response, and
the messages. -/
structure Report where
  source : String
  status : Nat
  messages : List String
  deriving DecidableEq, Repr

/-- A status that a response can have; another number stands for a bad request. -/
def statusOf (n : Nat) : Nat := if 100 ≤ n ∧ n < 1000 then n else 400

/-- The report of a failure noticed at `source`. -/
def Report.ofFailure (source : String) (status : Nat) (f : Failure) : Report :=
  ⟨source, statusOf status, f.messages⟩

end Folio
