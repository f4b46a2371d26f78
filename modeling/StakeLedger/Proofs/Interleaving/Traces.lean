import Mathlib.Data.List.Basic
import Mathlib.Data.List.Induction
import StakeLedger.Proofs.Interleaving.Requests

/-!
# Traces of Programs

A program leads to another one by the exchanges it makes on the way (`Program.LeadsTo`). The replies
are arbitrary, so this says what a program can be told by a store that other programs use as well,
and by requests that fail.

In every run, the exchanges of a call lead from its program to what is left of it
(`Workload.run_traced`). What a call has done so far can thus be read off its program. What it was
told is what the store answered at that moment of the run (`Workload.exists_moment`).
-/

namespace StakeLedger

variable {κ α β σ : Type}

namespace Program

/-- What a program comes to by the exchanges it makes, the first one first. -/
inductive LeadsTo : Program α → List Exchange → Program α → Prop where
  /-- No exchange has taken place. -/
  | refl (p : Program α) : LeadsTo p [] p
  /-- The request `r` was replied to, and the program went on. -/
  | call {r : Request} {next : Reply r → Program α} {reply : Reply r} {log : List Exchange}
    {q : Program α} (h : LeadsTo (next reply) log q) : LeadsTo (.call r next) (⟨r, reply⟩ :: log) q

variable {p q : Program α} {log : List Exchange}

/-- A program that has come to a request goes one exchange further, with any `reply`. -/
theorem LeadsTo.concat {r : Request} {next : Reply r → Program α} (h : p.LeadsTo log (.call r next))
    (reply : Reply r) : p.LeadsTo (log ++ [⟨r, reply⟩]) (next reply) := by
  generalize hq : Program.call r next = q at h
  induction h with
  | refl p =>
    subst hq
    exact .call (.refl _)
  | call _ ih => exact .call (ih hq)

theorem LeadsTo.of_done {a : α} (h : (Program.done a).LeadsTo log q) : log = [] ∧ q = .done a := by
  cases h
  exact ⟨rfl, rfl⟩

/-- Of two programs in sequence, the first one is under way, or is done and `f` is under way after
its result. -/
theorem LeadsTo.bind_cases {f : α → Program β} {q : Program β} (h : (p.bind f).LeadsTo log q) :
    (∃ p', p.LeadsTo log p' ∧ q = p'.bind f) ∨
      ∃ before a after, log = before ++ after ∧ p.LeadsTo before (.done a) ∧
          (f a).LeadsTo after q := by
  induction p generalizing log with
  | done a => exact .inr ⟨[], a, log, rfl, .refl _, h⟩
  | call r next ih =>
    cases h with
    | refl => exact .inl ⟨_, .refl _, rfl⟩
    | @call _ _ reply log _ h =>
      rcases ih reply h with ⟨p', hp', hq⟩ | ⟨before, a, after, rfl, hbefore, hafter⟩
      · exact .inl ⟨p', .call hp', hq⟩
      · exact .inr ⟨⟨r, reply⟩ :: before, a, after, rfl, .call hbefore, hafter⟩

/-- A request that ends a program when it fails is waited for, has failed or was answered. -/
theorem LeadsTo.request_cases {r : Request} {next : r.Answer → Program (Except TrackingError α)}
    {q : Program (Except TrackingError α)} (h : (Program.request r next).LeadsTo log q) :
    (log = [] ∧ q = Program.request r next) ∨
      (∃ e, log = [⟨r, .error e⟩] ∧ q = .done (.error (.store e))) ∨
      ∃ a rest, log = ⟨r, .ok a⟩ :: rest ∧ (next a).LeadsTo rest q := by
  cases h with
  | refl => exact .inl ⟨rfl, rfl⟩
  | @call _ _ reply log _ h =>
    cases reply with
    | error e =>
      obtain ⟨rfl, rfl⟩ := h.of_done
      exact .inr (.inl ⟨e, rfl, rfl⟩)
    | ok a => exact .inr (.inr ⟨a, log, rfl, h⟩)

/-- A program that only asks `P` leads to where it comes by exchanges of such requests. -/
theorem LeadsTo.onlyAsks {P : Request → Prop} (h : p.LeadsTo log q) (hp : p.OnlyAsks P) :
    ∀ e ∈ log, P e.request := by
  induction h with
  | refl p => exact fun e he => nomatch he
  | call _ ih =>
    intro e he
    rcases List.mem_cons.1 he with rfl | he
    · exact hp.1
    · exact ih (hp.2 _) e he

/-- A program comes to an end at one place only, and to one result there: `before` and `before'` are
the same exchanges. -/
theorem LeadsTo.end_unique {before before' after after' : List Exchange} {a a' : α}
    (h : p.LeadsTo before (.done a)) (h' : p.LeadsTo before' (.done a'))
    (hlog : before ++ after = before' ++ after') : before = before' ∧ a = a' := by
  induction p generalizing before before' with
  | done b =>
    obtain ⟨rfl, ha⟩ := h.of_done
    obtain ⟨rfl, ha'⟩ := h'.of_done
    cases ha
    cases ha'
    exact ⟨rfl, rfl⟩
  | call r next ih =>
    cases h with
    | @call _ _ reply before _ h =>
      cases h' with
      | @call _ _ reply' before' _ h' =>
        -- the program asks first, so that the same request and reply stand in front of both
        obtain ⟨hhead, htail⟩ := List.cons.inj hlog
        cases hhead
        obtain ⟨rfl, rfl⟩ := ih reply h h' htail
        exact ⟨rfl, rfl⟩

end Program

/-- A thread is found at its place after it was replaced, and every other one where it was. -/
theorem getElem?_set_thread {threads : List (Thread κ α)} {caller : Nat} {old : Thread κ α}
    (h : threads[caller]? = some old) (new : Thread κ α) (i : Nat) (t : Thread κ α) :
    (threads.set caller new)[i]? = some t ↔
      if i = caller then new = t else threads[i]? = some t := by
  have hcaller : caller < threads.length := (List.getElem?_eq_some_iff.1 h).1
  by_cases hi : i = caller
  · subst hi
    rw [List.getElem?_set_self hcaller, if_pos rfl, Option.some_inj]
  · rw [List.getElem?_set_ne (Ne.symm hi), if_neg hi]

namespace Workload

/-- The exchanges of every call are its own, and lead to what is left of it. -/
structure Traced (w : Workload κ α σ) (sys : System κ α σ) : Prop where
  /-- An exchange belongs to a call that was started, the one in `e.call`. -/
  caller : ∀ e ∈ sys.history, ∃ rest, sys.threads[e.caller]? = some ⟨e.call, rest⟩
  /-- The exchanges of a call lead from its program to what is left of it, if it was not
  abandoned. -/
  leads : ∀ i call rest, sys.threads[i]? = some ⟨call, rest⟩ →
    ∃ p, (w.program call).LeadsTo (sys.log i) p ∧ ∀ q ∈ rest, q = p

variable {w : Workload κ α σ} {sys : System κ α σ} {caller : Nat} {call : κ}

/-- An exchange still belongs to its call when what is left of a call changes to `rest'`. -/
theorem Traced.caller_set (h : w.Traced sys) {rest : Option (Program α)}
    (hthread : sys.threads[caller]? = some ⟨call, rest⟩) (rest' : Option (Program α)) :
    ∀ e ∈ sys.history, ∃ rest, (sys.threads.set caller ⟨call, rest'⟩)[e.caller]? =
        some ⟨e.call, rest⟩ := by
  intro e he
  obtain ⟨old, hold⟩ := h.caller e he
  simp only [getElem?_set_thread hthread]
  by_cases hi : e.caller = caller
  · rw [hi, hthread] at hold
    cases hold
    exact ⟨rest', if_pos hi ▸ rfl⟩
  · exact ⟨old, if_neg hi ▸ hold⟩

/-- A call that was started belongs to no exchange yet, so that a system stays traced. -/
theorem Traced.started (h : w.Traced sys) (call : κ) : w.Traced (w.step sys (.start call)) where
  caller := by
    intro e he
    obtain ⟨rest, hrest⟩ := h.caller e he
    exact ⟨rest, (List.getElem?_append_left (List.getElem?_eq_some_iff.1 hrest).1).trans hrest⟩
  leads := by
    intro i call' rest hthread
    have hthread : (sys.threads ++ [⟨call, some (w.program call)⟩])[i]? =
      some ⟨call', rest⟩ := hthread
    show ∃ p, (w.program call').LeadsTo (sys.log i) p ∧ _
    rcases Nat.lt_or_ge i sys.threads.length with hi | hi
    · exact h.leads i call' rest ((List.getElem?_append_left hi).symm.trans hthread)
    · -- the call is the last one, and no exchange has its number
      have hnone : sys.log i = [] := by
        rw [System.log, List.map_eq_nil_iff, List.filter_eq_nil_iff]
        intro e he hcaller
        obtain ⟨rest, hrest⟩ := h.caller e he
        have hlt := (List.getElem?_eq_some_iff.1 hrest).1
        have hi' := of_decide_eq_true hcaller
        omega
      rw [List.getElem?_append_right hi] at hthread
      cases List.mem_singleton.1 (List.mem_of_getElem? hthread)
      rw [hnone]
      exact ⟨_, .refl _, fun q hq => (Option.some.inj hq).symm⟩

/-- A `reply` leads one step further. -/
theorem Traced.exchanged (h : w.Traced sys) {r : Request} {next : Reply r → Program α}
    (hthread : sys.threads[caller]? = some ⟨call, some (.call r next)⟩) (reply : Reply r)
    (store : σ) :
    w.Traced (sys.exchanged caller call r next reply store) where
  caller := by
    intro e he
    rcases List.mem_append.1 he with he | he
    · exact h.caller_set hthread _ e he
    · obtain rfl := List.mem_singleton.1 he
      refine ⟨some (next reply), (getElem?_set_thread hthread _ _ _).2 ?_⟩
      rw [if_pos rfl]
  leads := by
    intro i call' rest ht
    have ht := (getElem?_set_thread hthread _ _ _).1 ht
    rw [System.log_exchanged]
    by_cases hi : i = caller
    · -- the caller is one exchange further
      rw [if_pos hi] at ht
      cases ht
      subst hi
      obtain ⟨p, hp, hrest⟩ := h.leads i _ _ hthread
      obtain rfl := hrest _ rfl
      rw [if_pos rfl]
      exact ⟨_, hp.concat reply, fun q hq => (Option.some.inj hq).symm⟩
    · -- the other calls are where they were
      rw [if_neg hi] at ht ⊢
      exact h.leads i call' rest ht

/-- Nothing is left of a call that is abandoned, so that there is nothing for its exchanges to lead
to. -/
theorem Traced.abandoned (h : w.Traced sys) {rest : Option (Program α)}
    (hthread : sys.threads[caller]? = some ⟨call, rest⟩) :
    w.Traced { sys with threads := sys.threads.set caller ⟨call, none⟩ } where
  caller := h.caller_set hthread none
  leads := by
    intro i call' rest' ht
    have ht := (getElem?_set_thread hthread _ _ _).1 ht
    by_cases hi : i = caller
    · rw [if_pos hi] at ht
      cases ht
      obtain ⟨p, hp, -⟩ := h.leads caller _ _ hthread
      exact ⟨p, hi ▸ hp, nofun⟩
    · rw [if_neg hi] at ht
      exact h.leads i call' rest' ht

/-- Every action keeps the exchanges of calls traced. -/
theorem Traced.step (h : w.Traced sys) (a : Action κ) : w.Traced (w.step sys a) := by
  cases a with
  | start call => exact h.started call
  | serve caller =>
    simp only [Workload.step]
    split
    next call r next hthread => exact h.exchanged hthread _ _
    next => exact h
  | fault caller error =>
    simp only [Workload.step]
    split
    next call r next hthread => exact h.exchanged hthread _ _
    next => exact h
  | abandon caller =>
    simp only [Workload.step]
    split
    next call rest hthread => exact h.abandoned hthread
    next => exact h

/-- After every `schedule`, the exchanges of every call lead to what is left of it. -/
theorem run_traced (w : Workload κ α σ) (store : σ) (schedule : List (Action κ)) :
    w.Traced (w.run store schedule) := by
  induction schedule using List.reverseRecOn with
  | nil => exact ⟨by simp [System.ofStore], by simp [System.ofStore]⟩
  | append_singleton schedule a ih =>
    rw [run_concat]
    exact ih.step a

/-- Every exchange `e` of a run took place at some moment of it, after the exchanges `before` it:
the store answered as it was then, or the request failed. -/
theorem exists_moment {store : σ} {schedule : List (Action κ)} {before after : List (Entry κ)}
    {e : Entry κ} (h : (w.run store schedule).history = before ++ e :: after) :
    ∃ earlier, (w.run store earlier).history = before ∧
      (e.exchange.reply = (w.backend.answer e.exchange.request (w.run store earlier).store).1 ∨
        ∃ error, e.exchange.reply = .error error) := by
  induction schedule using List.reverseRecOn generalizing after with
  | nil => simp [System.ofStore] at h
  | append_singleton schedule a ih =>
    rw [run_concat] at h
    rcases w.step_cases (w.run store schedule) a with
      ⟨-, hhistory, -⟩ | ⟨caller, call, r, next, -, hstep⟩
    · exact ih (hhistory.symm.trans h)
    obtain ⟨reply, hhistory, hreply⟩ : ∃ reply,
        (w.step (w.run store schedule) a).history = (w.run store schedule).history ++
          [⟨caller, call, ⟨r, reply⟩⟩] ∧
        (reply = (w.backend.answer r (w.run store schedule).store).1 ∨
          ∃ error, reply = .error error) := by
      rcases hstep with hstep | ⟨error, -, hstep⟩
      · exact ⟨_, congrArg System.history hstep, .inl rfl⟩
      · exact ⟨_, congrArg System.history hstep, .inr ⟨error, rfl⟩⟩
    rw [hhistory] at h
    -- the exchange is the last one, or it took place before
    rcases List.eq_nil_or_concat' after with rfl | ⟨after, last, rfl⟩
    · obtain ⟨rfl, heq⟩ := List.append_inj' h rfl
      cases heq
      exact ⟨schedule, rfl, hreply⟩
    · rw [← List.cons_append, ← List.append_assoc] at h
      exact ih (List.append_inj' h rfl).1

end Workload

end StakeLedger
