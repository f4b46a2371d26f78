import StakeLedger.Store.Program

/-!
# Disturbed Stores

A disturbance waits for the next call of its method. A fault makes that call fail without reaching
the store; a race lets other requests reach the store first. Each call meets at most one
disturbance, and those of one method are met in the order in which they were arranged.
-/

namespace StakeLedger

/-- What happens to the next call of a method. -/
inductive Disturbance where
  /-- The call fails with `error`, and the store does not see it. -/
  | fault (error : StoreError)
  /-- The store answers `requests` of other callers before it answers the call. -/
  | race (requests : List Request)
  deriving DecidableEq

/-- A store with states `σ`, together with the disturbances that wait for its calls. -/
structure Disturbed (σ : Type) where
  store : σ
  /-- The disturbances in the order they were arranged, each with the method it waits for. -/
  pending : List (Method × Disturbance)

namespace Disturbed

variable {σ : Type}

/-- Arranges the disturbance `d` for the next call of `method`, behind those that wait already. -/
def arrange (s : Disturbed σ) (method : Method) (d : Disturbance) : Disturbed σ :=
  { s with pending := s.pending ++ [(method, d)] }

/-- The state of a store after answering `requests` in turn, from the state `store`. -/
def replay (backend : Backend σ) (requests : List Request) (store : σ) : σ :=
  requests.foldl (fun s r => (backend.answer r s).2) store

/-- Answers the request `r`, after the first disturbance that waits for its method, if there is
one. -/
def answer (backend : Backend σ) (r : Request) (s : Disturbed σ) : Reply r × Disturbed σ :=
  match s.pending.find? fun d => d.1 = r.method with
  | none =>
    let (reply, store) := backend.answer r s.store
    (reply, { s with store })
  | some (_, d) =>
    -- a disturbance is used up by the call that meets it
    let pending := s.pending.eraseP fun d => d.1 = r.method
    match d with
    | .fault e => (.error e, { s with pending })
    | .race requests =>
      let (reply, store) := backend.answer r (replay backend requests s.store)
      (reply, { store, pending })

/-- A disturbed store as a backend of programs, made of the backend `b` of the store. -/
def backend (b : Backend σ) : Backend (Disturbed σ) := ⟨answer b⟩

end Disturbed

end StakeLedger
