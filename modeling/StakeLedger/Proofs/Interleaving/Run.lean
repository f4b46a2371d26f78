import StakeLedger.Store.Program

/-!
# Interleaved Runs

Calls run side by side over one store. Each of them makes its requests one at a time, and a schedule
says which call goes next: it may have a request served, see it fail without an effect, or be
abandoned. Every interleaving of the requests of any number of calls is the run of some schedule.

A run keeps the exchanges between calls and store in the order in which they took place. What
happened to one call is its part of this history (`System.log`).
-/

namespace StakeLedger

/-- A request together with the reply it was given. -/
structure Exchange where
  request : Request
  /-- The reply, of the type that `request` calls for. -/
  reply : Reply request

/-- An exchange of a run, with the call `call` that made it and its place among all calls. -/
structure Entry (κ : Type) where
  /-- The place of the call in `System.threads`. -/
  caller : Nat
  call : κ
  exchange : Exchange

/-- A call in progress, and `rest`, what is left of its program. -/
structure Thread (κ α : Type) where
  call : κ
  /-- What is left of the call, or `none` once it was abandoned. -/
  rest : Option (Program α)

/-- A store and the calls in progress over it. -/
structure System (κ α σ : Type) where
  store : σ
  /-- The calls that were started, in order. -/
  threads : List (Thread κ α)
  /-- The exchanges so far of all calls, the oldest first. -/
  history : List (Entry κ)

/-- What a schedule does next: it starts a call, lets the store answer or refuse the request that a
call waits for, or gives a call up. -/
inductive Action (κ : Type) where
  | start (call : κ)
  /-- The store answers the request that the call at `caller` waits for. -/
  | serve (caller : Nat)
  /-- The request that the call at `caller` waits for fails by `error`, and the store does not see
  it. -/
  | fault (caller : Nat) (error : StoreError)
  /-- The call at `caller` is given up. -/
  | abandon (caller : Nat)

/-- The action lets calls be, apart from going on with them: it is no `fault` and no `abandon`. -/
def Action.IsUndisturbed {κ : Type} : Action κ → Prop
  | .start _ | .serve _ => True
  | .fault _ _ | .abandon _ => False

/-- The programs of calls of type `κ`, and the store they run on. -/
structure Workload (κ α σ : Type) where
  backend : Backend σ
  /-- The program that carries out a call. -/
  program : κ → Program α

namespace System

variable {κ α σ : Type}

/-- The system of a `store` without calls. -/
def ofStore (store : σ) : System κ α σ := ⟨store, [], []⟩

/-- The exchanges of the call at `caller`, the oldest first. -/
def log (sys : System κ α σ) (caller : Nat) : List Exchange :=
  (sys.history.filter fun e => e.caller = caller).map (·.exchange)

theorem mem_of_mem_log {sys : System κ α σ} {caller : Nat} {e : Exchange} (h : e ∈ sys.log caller) :
    e ∈ sys.history.map (·.exchange) := by
  obtain ⟨entry, hentry, rfl⟩ := List.mem_map.1 h
  exact List.mem_map_of_mem (List.mem_filter.1 hentry).1

theorem mem_log {sys : System κ α σ} {e : Entry κ} (h : e ∈ sys.history) :
    e.exchange ∈ sys.log e.caller :=
  List.mem_map_of_mem (List.mem_filter.2 ⟨h, decide_eq_true rfl⟩)

/-- The system once the call at `caller` has its `reply` to `r`, and the store is as given. -/
def exchanged (sys : System κ α σ) (caller : Nat) (call : κ) (r : Request)
    (next : Reply r → Program α) (reply : Reply r) (store : σ) : System κ α σ where
  store
  threads := sys.threads.set caller ⟨call, some (next reply)⟩
  history := sys.history ++ [⟨caller, call, ⟨r, reply⟩⟩]

/-- An exchange is added to the log of its own call and to no other. -/
theorem log_exchanged (sys : System κ α σ) (caller : Nat) (call : κ) (r : Request)
    (next : Reply r → Program α) (reply : Reply r) (store : σ) (i : Nat) :
    (sys.exchanged caller call r next reply store).log i =
      if i = caller then sys.log i ++ [⟨r, reply⟩] else sys.log i := by
  by_cases h : i = caller
  · subst h
    simp [log, exchanged, List.filter_append]
  · have h' : ¬caller = i := fun e => h e.symm
    simp [log, exchanged, List.filter_append, h, h']

end System

namespace Workload

variable {κ α σ : Type}

/-- What one action of a schedule does to `sys`. An action on a call that waits for nothing has no
effect. -/
def step (w : Workload κ α σ) (sys : System κ α σ) : Action κ → System κ α σ
  | .start call => { sys with threads := sys.threads ++ [⟨call, some (w.program call)⟩] }
  | .serve caller =>
    match sys.threads[caller]? with
    | some ⟨call, some (.call r next)⟩ =>
      let (reply, store) := w.backend.answer r sys.store
      sys.exchanged caller call r next reply store
    | _ => sys
  | .fault caller error =>
    match sys.threads[caller]? with
    | some ⟨call, some (.call r next)⟩ => sys.exchanged caller call r next (.error error) sys.store
    | _ => sys
  | .abandon caller =>
    match sys.threads[caller]? with
    | some ⟨call, _⟩ => { sys with threads := sys.threads.set caller ⟨call, none⟩ }
    | none => sys

/-- The system after a `schedule`, from a `store` without calls. -/
def run (w : Workload κ α σ) (store : σ) (schedule : List (Action κ)) : System κ α σ :=
  schedule.foldl w.step (.ofStore store)

@[simp]
theorem run_nil (w : Workload κ α σ) (store : σ) : w.run store [] = .ofStore store := rfl

theorem run_concat (w : Workload κ α σ) (store : σ) (schedule : List (Action κ)) (a : Action κ) :
    w.run store (schedule ++ [a]) = w.step (w.run store schedule) a := by
  simp [run, List.foldl_append]

/-- An action either does nothing to store and history, or is one exchange of a call that waits for
it: served by the store, or failed. -/
theorem step_cases (w : Workload κ α σ) (sys : System κ α σ) (a : Action κ) :
    ((w.step sys a).store = sys.store ∧ (w.step sys a).history = sys.history ∧
      sys.threads.length ≤ (w.step sys a).threads.length ∧
      ∀ i t, (w.step sys a).threads[i]? = some t → ∀ p, t.rest = some p →
        sys.threads[i]? = some t ∨
          (i = sys.threads.length ∧ a = .start t.call ∧ p = w.program t.call)) ∨
    ∃ caller call r next, sys.threads[caller]? = some ⟨call, some (.call r next)⟩ ∧
      (w.step sys a = sys.exchanged caller call r next (w.backend.answer r sys.store).1
          (w.backend.answer r sys.store).2 ∨
        ∃ e, a = .fault caller e ∧
          w.step sys a = sys.exchanged caller call r next (.error e) sys.store) := by
  cases a with
  | start call =>
    left
    refine ⟨rfl, rfl, by simp [step], fun i t ht p hp => ?_⟩
    simp only [step, List.getElem?_append] at ht
    split at ht
    · exact .inl ht
    · -- the only new thread is the last one
      obtain ⟨hi, rfl⟩ : i - sys.threads.length = 0 ∧ t = ⟨call, some (w.program call)⟩ := by
        rw [List.getElem?_singleton] at ht
        split at ht
        · exact ⟨‹_›, (Option.some.inj ht).symm⟩
        · cases ht
      exact .inr ⟨by omega, rfl, (Option.some.inj hp).symm⟩
  -- nothing is served to a caller that does not wait
  | serve caller =>
    simp only [step]
    split
    next call r next h => exact .inr ⟨caller, call, r, next, h, .inl rfl⟩
    next => exact .inl ⟨rfl, rfl, Nat.le_refl _, fun i t ht _ _ => .inl ht⟩
  | fault caller error =>
    simp only [step]
    split
    next call r next h => exact .inr ⟨caller, call, r, next, h, .inr ⟨error, rfl, rfl⟩⟩
    next => exact .inl ⟨rfl, rfl, Nat.le_refl _, fun i t ht _ _ => .inl ht⟩
  | abandon caller =>
    left
    simp only [step]
    split
    next call rest h =>
      refine ⟨rfl, rfl, by simp, fun i t ht p hp => ?_⟩
      simp only [List.getElem?_set] at ht
      split at ht
      · -- an abandoned call has nothing left to do
        split at ht
        · cases ht
          cases hp
        · cases ht
      · exact .inl ht
    next => exact ⟨rfl, rfl, Nat.le_refl _, fun i t ht _ _ => .inl ht⟩

end Workload

end StakeLedger
