import StakeLedger.Store.Program

/-!
# Polling

A poller repeats a piece of work. Cancellation is looked at before each iteration, so that the
iteration in progress is always finished; a failed iteration is counted and does not end the loop.
-/

namespace StakeLedger

/-- What a poller has done: the number of iterations, and how many of them failed. -/
structure PollTally where
  runs : Nat
  failed : Nat
  deriving DecidableEq, Repr

namespace PollTally

/-- Counts one more iteration in `tally`, which failed if its result is an error. -/
def add {ε α : Type} (tally : PollTally) : Except ε α → PollTally
  | .ok _ => { tally with runs := tally.runs + 1 }
  | .error _ => ⟨tally.runs + 1, tally.failed + 1⟩

end PollTally

/-- Runs `work` once per item until the items are used up, which is when the loop is cancelled. -/
def poll {ι ε α : Type} (work : ι → Program (Except ε α)) :
    List ι → PollTally → Program PollTally
  | [], tally => .done tally
  | item :: rest, tally => (work item).bind fun result => poll work rest (tally.add result)

end StakeLedger
