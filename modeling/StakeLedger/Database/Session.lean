import StakeLedger.Database.Tables

/-!
# Sessions with the Database

A session numbers its attempts to reach the database. An attempt may meet an obstacle, such as
another connection's lock; it then fails and leaves the database as it is. After a transient failure
the attempt is repeated, up to a number of times.

Requests that no row could satisfy are answered without the database.
-/

namespace StakeLedger

/-- Repeats an `attempt` while it fails for a transient cause, at most `retries` times. -/
def withRetries {σ α : Type} (attempt : σ → Except DatabaseError α × σ) :
    (retries : Nat) → σ → Except DatabaseError α × σ
  -- the last attempt stands, whatever came of it
  | 0, s => attempt s
  | retries + 1, s =>
    match attempt s with
    | (.ok a, s') => (.ok a, s')
    | (.error e, s') => if e.isTransient then withRetries attempt retries s' else (.error e, s')

/-- A session with a database, which numbers its attempts to reach it. -/
structure Session where
  database : Database
  /-- The obstacle that the attempt of a number meets, if any. -/
  obstacle : Nat → Option DriverFailure
  /-- The number of attempts made so far, which is the number of the next one. -/
  attempts : Nat

namespace Session

/-- The session with an empty database that meets no obstacles. -/
def fresh : Session := ⟨.empty, fun _ => none, 0⟩

instance : Inhabited Session := ⟨fresh⟩

/-- The session `s` while another connection holds the lock. -/
def lock (s : Session) : Session := { s with obstacle := fun _ => some .locked }

/-- The session `s` after the lock was released, from which on it meets no obstacles. -/
def unlock (s : Session) : Session := { s with obstacle := fun _ => none }

/-- The answer to a request that no row could satisfy, namely one that names no states. -/
def immediate? : (r : Request) → Option r.Answer
  | .updateState _ u => if u.origins.isEmpty then some .preconditionFailed else none
  | .delegationsByStates states => if states.isEmpty then some [] else none
  | _ => none

/-- One attempt to have the request `r` answered by the database, which an obstacle keeps it
from. -/
def attempt (r : Request) (s : Session) : Except DatabaseError r.Answer × Session :=
  match s.obstacle s.attempts with
  -- an obstacle is met before the database is reached
  | some failure => (.error (.driver failure), { s with attempts := s.attempts + 1 })
  | none =>
    let (reply, database) := s.database.answer r
    (reply, { s with database, attempts := s.attempts + 1 })

/-- Answers the request `r`, repeating attempts that fail for a transient cause at most `retries`
times. -/
def answer (retries : Nat) (r : Request) (s : Session) : Reply r × Session :=
  match immediate? r with
  | some a => (.ok a, s)
  | none =>
    let (reply, s') := withRetries (attempt r) retries s
    (reply.mapError .database, s')

/-- A session as a backend of programs, with so many `retries` for each request. -/
def backend (retries : Nat) : Backend Session := ⟨answer retries⟩

end Session

end StakeLedger
