import StakeLedger.Store.Request

/-!
# Programs of Store Requests

A program either is done or makes a request and goes on with the answer. It says nothing about the
store that answers: the same program can be run alone, be disturbed by failing calls, or take turns
with other programs.

The main statement is `run_bind`: running one program after another runs the second on the store
that the first one leaves.
-/

namespace StakeLedger

/-- The reply of a store to the request `r`: the answer asked for, or a failure. -/
abbrev Reply (r : Request) := Except StoreError r.Answer

/-- A store with states `σ`, as a program sees it. -/
structure Backend (σ : Type) where
  /-- Answers a request in a state and gives the state after it. -/
  answer : (r : Request) → σ → Reply r × σ

/-- A sequence of requests that depends on the answers, with a result of type `α` in the end. -/
inductive Program (α : Type) where
  /-- Nothing is left to ask. -/
  | done (result : α)
  /-- A request, and how to go on with the reply, which may be a failure. -/
  | call (request : Request) (next : Reply request → Program α)

namespace Program

variable {α β γ σ : Type}

/-- Goes on with the result of a program: `f a` follows a program with the result `a`. -/
def bind : Program α → (α → Program β) → Program β
  | done a, f => f a
  | call r next, f => call r fun reply => (next reply).bind f

instance : Monad Program where
  pure := done
  bind := bind

/-- The program of the one request `r`, whose result is the reply. -/
def ask (r : Request) : Program (Reply r) := call r done

/-- Runs a program on a store by itself, from the state `s`, and gives the state it leaves. -/
def run (backend : Backend σ) : Program α → σ → α × σ
  | done a, s => (a, s)
  | call r next, s =>
    let (reply, s') := backend.answer r s
    (next reply).run backend s'

/-- Running two programs in sequence runs the second on the state the first leaves. -/
theorem run_bind (backend : Backend σ) (p : Program α) (f : α → Program β) (s : σ) :
    (p.bind f).run backend s = (f (p.run backend s).1).run backend (p.run backend s).2 := by
  induction p generalizing s with
  | done a => rfl
  | call r next ih => exact ih _ _

/-- Sequencing is associative: it does not matter which part goes with the middle one. -/
theorem bind_assoc (p : Program α) (f : α → Program β) (g : β → Program γ) :
    (p.bind f).bind g = p.bind fun a => (f a).bind g := by
  induction p with
  | done a => rfl
  | call r next ih => simp only [bind, ih]

end Program

end StakeLedger
