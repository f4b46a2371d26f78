import StakeLedger.Lifecycle.Apply

/-!
# Programs that Agree

Two programs agree up to some results if they make the same requests and go on alike whatever they
are answered, until the first one comes to one of these results (`Program.AgreesUpTo`). On any
store, they then leave the same result and the same state, unless the first one came to such a
result (`Program.AgreesUpTo.run_eq`).
-/

namespace StakeLedger.Program

variable {α β σ : Type} {bad : α → Prop} {bad' : β → Prop}

/-- The first program agrees with the second one, unless it comes to a result of which `bad`
holds. -/
inductive AgreesUpTo (bad : α → Prop) : Program α → Program α → Prop where
  /-- Both are done with the same result `a`. -/
  | done (a : α) : AgreesUpTo bad (.done a) (.done a)
  /-- The first one has come to a `bad` result, and nothing is said of the second. -/
  | bad {a : α} (h : bad a) (q : Program α) : AgreesUpTo bad (.done a) q
  /-- Both make the same request `r`, and agree after every reply to it. -/
  | call {r : Request} {next next' : Reply r → Program α}
    (h : ∀ reply, AgreesUpTo bad (next reply) (next' reply)) :
      AgreesUpTo bad (.call r next) (.call r next')

theorem AgreesUpTo.refl (p : Program α) : p.AgreesUpTo bad p := by
  induction p with
  | done a => exact .done a
  | call r next ih => exact .call ih

theorem AgreesUpTo.of_eq {p q : Program α} (h : q = p) : p.AgreesUpTo bad q := by
  rw [h]
  exact .refl p

/-- Programs agree in sequence if `f` and `g` agree after every result, and a bad result of the
first program is the end. -/
theorem AgreesUpTo.bind {p q : Program α} {f g : α → Program β} (h : p.AgreesUpTo bad q)
    (hf : ∀ a, (f a).AgreesUpTo bad' (g a)) (hbad : ∀ a, bad a → ∃ b, bad' b ∧ f a = .done b) :
    (p.bind f).AgreesUpTo bad' (q.bind g) := by
  induction h with
  | done a => exact hf a
  | @bad a h q =>
    obtain ⟨b, hb, heq⟩ := hbad a h
    show (f a).AgreesUpTo bad' (q.bind g)
    rw [heq]
    exact .bad hb _
  | call _ ih => exact .call ih

/-- Programs that make the same request, and end if it fails, agree if they do after every
answer. -/
theorem AgreesUpTo.request {bad : Except TrackingError α → Prop} {r : Request}
    {next next' : r.Answer → Program (Except TrackingError α)}
    (h : ∀ a, (next a).AgreesUpTo bad (next' a)) :
    (Program.request r next).AgreesUpTo bad (Program.request r next') := by
  refine .call fun reply => ?_
  cases reply with
  | error e => exact .done _
  | ok a => exact h a

/-- Programs that agree come to the same result and leave the same state on any `backend`, unless
the result is `bad`. -/
theorem AgreesUpTo.run_eq {p q : Program α} (h : p.AgreesUpTo bad q) (backend : Backend σ) (s : σ)
    (hgood : ¬bad (p.run backend s).1) : q.run backend s = p.run backend s := by
  induction h generalizing s with
  | done a => rfl
  | bad h q => exact absurd h hgood
  | @call r next next' _ ih => exact ih _ (backend.answer r s).2 hgood

end StakeLedger.Program
