import Mathlib.Data.List.Induction
import StakeLedger.Proofs.Interleaving.Run

/-!
# Disciplines for Interleaved Calls

A discipline says which requests a call may make of which store. What it permits keeps an invariant
of the store and lets the store develop in one direction only, so that what a call once learned
about the store can be relied on however many requests of other calls come in between.

`Program.Keeps` says that a program keeps to a discipline, whatever the other calls do, and that its
result meets a condition. If every call keeps to it, then every run does:

* `Workload.run_keeps`: the invariant holds after every schedule, and every call in progress still
  keeps to the discipline;
* `Workload.run_later`: a run only develops the store;
* `Workload.run_history`: a property of history and store that every permitted exchange keeps holds
  after every schedule.

The first and the last also hold of a schedule of which only the started calls are known to keep to
the discipline (`Workload.run_sound`, `Workload.run_invariant`).
-/

namespace StakeLedger

/-- What calls of type `κ` may ask of a store of type `σ`, and what they can rely on in return. -/
structure Discipline (κ : Type) {σ : Type} (backend : Backend σ) where
  /-- What is known of the store at any time, whatever calls are under way. -/
  Invariant : σ → Prop
  /-- What a store can have developed into when it is looked at again: `Later s s'`. -/
  Later : σ → σ → Prop
  /-- What a call may ask of a store. -/
  Permits : κ → Request → σ → Prop
  /-- A store may not have developed at all. -/
  later_refl : ∀ s, Later s s
  /-- Developments follow one another, from `a` by `b` to `c`. -/
  later_trans : ∀ {a b c}, Later a b → Later b c → Later a c
  /-- A permitted request keeps `Invariant`. -/
  invariant_answer : ∀ {call r s}, Invariant s → Permits call r s →
    Invariant (backend.answer r s).2
  /-- A permitted request develops the store, as `Later` has it. -/
  later_answer : ∀ {call r s}, Invariant s → Permits call r s → Later s (backend.answer r s).2

variable {κ α β σ : Type} {backend : Backend σ}

namespace Program

/-- Whenever a program goes on, on a store that may have developed meanwhile, its request is
permitted by `D`, and its result meets `post`, which also sees the exchanges the program has
made. -/
def Keeps (D : Discipline κ backend) (call : κ) (post : List Exchange → α → σ → Prop) :
    Program α → List Exchange → σ → Prop
  | .done a, log, s => ∀ s', D.Later s s' → D.Invariant s' → post log a s'
  | .call r next, log, s => ∀ s', D.Later s s' → D.Invariant s' →
      D.Permits call r s' ∧
      (next (backend.answer r s').1).Keeps D call post (log ++ [⟨r, (backend.answer r s').1⟩])
        (backend.answer r s').2 ∧
      ∀ e, (next (.error e)).Keeps D call post (log ++ [⟨r, .error e⟩]) s'

variable {D : Discipline κ backend} {call : κ}

/-- A program that keeps to a discipline on `s` keeps to it on any store that `s` can develop
into. -/
theorem Keeps.later {post : List Exchange → α → σ → Prop} {p : Program α} {log : List Exchange}
    {s s' : σ} (h : p.Keeps D call post log s) (hs : D.Later s s') :
    p.Keeps D call post log s' := by
  cases p with
  | done a => exact fun s'' hs' hinv => h s'' (D.later_trans hs hs') hinv
  | call r next => exact fun s'' hs' hinv => h s'' (D.later_trans hs hs') hinv

/-- A condition `post` on the result may be weakened to `post'`. -/
theorem Keeps.imp {post post' : List Exchange → α → σ → Prop} {p : Program α} {log : List Exchange}
    {s : σ} (h : p.Keeps D call post log s) (himp : ∀ log a s, post log a s → post' log a s) :
    p.Keeps D call post' log s := by
  induction p generalizing log s with
  | done a => exact fun s' hs hinv => himp _ _ _ (h s' hs hinv)
  | call r next ih =>
    intro s' hs hinv
    obtain ⟨hp, hok, herr⟩ := h s' hs hinv
    exact ⟨hp, ih _ hok, fun e => ih _ (herr e)⟩

/-- Programs in sequence keep to a discipline if the first does and each of its results lets the
second do so. -/
theorem Keeps.bind {post : List Exchange → β → σ → Prop} {p : Program α} {f : α → Program β}
    {log : List Exchange} {s : σ}
    (h : p.Keeps D call (fun log a s => (f a).Keeps D call post log s) log s) :
    (p.bind f).Keeps D call post log s := by
  induction p generalizing log s with
  | done a =>
    -- the second program starts on whatever the store has developed into
    have hstart : ∀ s', D.Later s s' → D.Invariant s' → (f a).Keeps D call post log s' := h
    simp only [Program.bind]
    generalize f a = q at hstart ⊢
    cases q with
    | done b => exact fun s' hs hinv => hstart s' hs hinv s' (D.later_refl s') hinv
    | call r next => exact fun s' hs hinv => hstart s' hs hinv s' (D.later_refl s') hinv
  | call r next ih =>
    intro s' hs hinv
    obtain ⟨hp, hok, herr⟩ := h s' hs hinv
    exact ⟨hp, ih _ hok, fun e => ih _ (herr e)⟩

/-- The result of a program is met on a store that has developed from the one it started on, and
after the exchanges of `log`, with which it started. -/
theorem Keeps.since {post : List Exchange → α → σ → Prop} {p : Program α} {log : List Exchange}
    {s : σ} (h : p.Keeps D call post log s) :
    p.Keeps D call (fun log' a s' => (∃ rest, log' = log ++ rest) ∧ D.Later s s' ∧ D.Invariant s' ∧
      post log' a s') log s := by
  induction p generalizing log s with
  | done a => exact fun s' hs hinv => ⟨⟨[], (List.append_nil log).symm⟩, hs, hinv, h s' hs hinv⟩
  | call r next ih =>
    intro s' hs hinv
    obtain ⟨hp, hok, herr⟩ := h s' hs hinv
    refine ⟨hp, (ih _ hok).imp ?_, fun e => (ih _ (herr e)).imp ?_⟩
    · rintro log' a s'' ⟨⟨rest, rfl⟩, hlater, hpost⟩
      -- the store has also developed by the answer
      refine ⟨⟨_, List.append_assoc ..⟩, ?_, hpost⟩
      exact D.later_trans hs (D.later_trans (D.later_answer hinv hp) hlater)
    · rintro log' a s'' ⟨⟨rest, rfl⟩, hlater, hpost⟩
      exact ⟨⟨_, List.append_assoc ..⟩, D.later_trans hs hlater, hpost⟩

/-- The result of a program meets `post` from then on, however the store develops. -/
theorem Keeps.lasting {post : List Exchange → α → σ → Prop} {p : Program α} {log : List Exchange}
    {s : σ} (h : p.Keeps D call post log s) :
    p.Keeps D call (fun log' a s' => ∀ s'', D.Later s' s'' → D.Invariant s'' → post log' a s'')
      log s := by
  induction p generalizing log s with
  | done a => exact fun s' hs _ s'' hs' hinv => h s'' (D.later_trans hs hs') hinv
  | call r next ih =>
    intro s' hs hinv
    obtain ⟨hp, hok, herr⟩ := h s' hs hinv
    exact ⟨hp, ih _ hok, fun e => ih _ (herr e)⟩

/-- A program that goes on comes to an end if all its requests fail from now on, so that `post`
holds of some result. -/
theorem Keeps.exists_end {post : List Exchange → α → σ → Prop} {p : Program α} {log : List Exchange}
    {s : σ} (h : p.Keeps D call post log s) (hs : D.Invariant s) :
    ∃ rest a, post (log ++ rest) a s ∧ (rest = [] → p = .done a) := by
  induction p generalizing log with
  | done a => exact ⟨[], a, by simpa using h s (D.later_refl s) hs, fun _ => rfl⟩
  | call r next ih =>
    obtain ⟨-, -, herr⟩ := h s (D.later_refl s) hs
    obtain ⟨rest, a, hpost, -⟩ := ih _ (herr .notFound)
    exact ⟨_ :: rest, a, by simpa using hpost, nofun⟩

/-- A program that is done keeps to a discipline if its result meets `post` from now on. -/
theorem Keeps.done {post : List Exchange → α → σ → Prop} {a : α} {log : List Exchange} {s : σ}
    (h : ∀ s', D.Later s s' → D.Invariant s' → post log a s') :
    (Program.done a).Keeps D call post log s := h

end Program

/-- What `f` picks from the exchanges of a history is what `g` picks call by call, up to the order.
The induction is on the calls, the last of which has its exchanges apart from those of the
others. -/
theorem perm_filterMap_logs {history : List (Entry κ)} {threads : List (Thread κ α)}
    {f : Exchange → Option β} {g : Thread κ α → Option β}
    (hcaller : ∀ e ∈ history, e.caller < threads.length)
    (hpicked : ∀ i t, threads[i]? = some t →
      ((history.filter fun e => e.caller = i).map (·.exchange)).filterMap f = (g t).toList) :
    ((history.map (·.exchange)).filterMap f).Perm (threads.filterMap g) := by
  induction threads using List.reverseRecOn generalizing history with
  | nil =>
    cases history with
    | nil => exact .refl _
    | cons e _ => exact absurd (hcaller e List.mem_cons_self) (Nat.not_lt_zero _)
  | append_singleton threads t ih =>
    have hlast := hpicked threads.length t (by simp)
    -- the exchanges of the last call are the ones that the others have not made
    have hsplit := List.filter_append_perm (fun e => decide (e.caller < threads.length)) history
    have hrest : (history.filter fun e => !decide (e.caller < threads.length)) =
        history.filter fun e => e.caller = threads.length := by
      refine List.filter_congr fun e he => ?_
      have hlt := hcaller e he
      rw [List.length_append, List.length_singleton] at hlt
      rw [Bool.eq_iff_iff]
      simp
      omega
    rw [hrest] at hsplit
    refine ((hsplit.symm.map _).filterMap f).trans ?_
    rw [List.map_append, List.filterMap_append, List.filterMap_append, hlast]
    refine (ih (fun e he => of_decide_eq_true (List.mem_filter.1 he).2) fun i t' ht' =>
      ?_).append ?_
    · have hi := (List.getElem?_eq_some_iff.1 ht').1
      rw [← hpicked i t' (by rw [List.getElem?_append_left hi, ht']), List.filter_filter]
      congr 2
      refine List.filter_congr fun e _ => ?_
      rw [Bool.eq_iff_iff]
      simp
      omega
    · cases hg : g t <;> simp [hg]

namespace Workload

variable {w : Workload κ α σ} {D : Discipline κ w.backend} {post : κ → List Exchange → α → σ → Prop}

/-- The invariant of `D` holds, and every call in progress keeps to `D` with its own `post`. -/
structure Sound (w : Workload κ α σ) (D : Discipline κ w.backend)
    (post : κ → List Exchange → α → σ → Prop) (sys : System κ α σ) : Prop where
  invariant : D.Invariant sys.store
  /-- Exchanges belong to calls that were started. -/
  caller_lt : ∀ e ∈ sys.history, e.caller < sys.threads.length
  /-- What is left of a call `t`, its program `p`, keeps to the discipline. -/
  keeps : ∀ (i : Nat) (t : Thread κ α) (p : Program α), sys.threads[i]? = some t →
    t.rest = some p → p.Keeps D t.call (post t.call) (sys.log i) sys.store

/-- A call that was not started has no exchanges. -/
theorem Sound.log_eq_nil {sys : System κ α σ} (h : Sound w D post sys) {i : Nat}
    (hi : sys.threads.length ≤ i) : sys.log i = [] := by
  have hnone : ∀ e ∈ sys.history, ¬decide (e.caller = i) = true := by
    intro e he
    have hlt := h.caller_lt e he
    simp only [decide_eq_true_eq]
    omega
  rw [System.log, List.filter_eq_nil_iff.2 hnone, List.map_nil]

/-- An exchange keeps a system sound if it keeps the invariant and develops the store, and the call
goes on as the discipline has it. -/
theorem Sound.exchanged {sys : System κ α σ} (h : Sound w D post sys) {caller : Nat} {call : κ}
    {r : Request} {next : Reply r → Program α} {reply : Reply r} {store : σ}
    (hthread : sys.threads[caller]? = some ⟨call, some (.call r next)⟩) (hinv : D.Invariant store)
    (hlater : D.Later sys.store store)
    (hnext : (next reply).Keeps D call (post call) (sys.log caller ++ [⟨r, reply⟩]) store) :
    Sound w D post (sys.exchanged caller call r next reply store) where
  invariant := hinv
  caller_lt := by
    intro e he
    have hcaller : caller < sys.threads.length := (List.getElem?_eq_some_iff.1 hthread).1
    simp only [System.exchanged, List.length_set]
    rcases List.mem_append.1 he with he | he
    · exact h.caller_lt e he
    · obtain rfl := List.mem_singleton.1 he
      exact hcaller
  keeps := by
    intro i t p ht hp
    simp only [System.exchanged, List.getElem?_set] at ht
    rw [System.log_exchanged]
    split at ht
    next hi =>
      -- the call that was answered goes on with the reply
      subst hi
      split at ht
      · cases ht
        cases hp
        rw [if_pos rfl]
        exact hnext
      · cases ht
    next hi =>
      -- every other call relies on the direction of the development
      rw [if_neg fun e => hi e.symm]
      exact (h.keeps i t p ht hp).later hlater

/-- An action `a` keeps a system sound, develops its store, and adds a permitted exchange or
none. -/
theorem Sound.step {sys : System κ α σ} (h : Sound w D post sys) (a : Action κ)
    (hstart : ∀ call, a = .start call → ∀ s, D.Invariant s →
      (w.program call).Keeps D call (post call) [] s) :
    Sound w D post (w.step sys a) ∧ D.Later sys.store (w.step sys a).store ∧
      (((w.step sys a).store = sys.store ∧ (w.step sys a).history = sys.history) ∨
        ∃ caller call r, D.Permits call r sys.store ∧
          (((w.step sys a).store = (w.backend.answer r sys.store).2 ∧ (w.step sys a).history =
              sys.history ++ [⟨caller, call, ⟨r, (w.backend.answer r sys.store).1⟩⟩]) ∨
            ((w.step sys a).store = sys.store ∧ ∃ e, a = .fault caller e ∧ (w.step sys a).history =
              sys.history ++ [⟨caller, call, ⟨r, .error e⟩⟩]))) := by
  rcases w.step_cases sys a with ⟨hstore, hhistory, hlength, hthreads⟩ |
    ⟨caller, call, r, next, hthread, hstep⟩
  -- no exchange takes place
  · refine ⟨⟨hstore ▸ h.invariant, ?_, ?_⟩, hstore ▸ D.later_refl _, .inl ⟨hstore, hhistory⟩⟩
    · intro e he
      rw [hhistory] at he
      exact Nat.lt_of_lt_of_le (h.caller_lt e he) hlength
    · intro i t p ht hp
      rw [System.log, hhistory, hstore]
      rcases hthreads i t ht p hp with ht | ⟨hi, ha, rfl⟩
      · exact h.keeps i t p ht hp
      · -- a call that was just started has made no exchange yet
        have hlog := h.log_eq_nil (Nat.le_of_eq hi.symm)
        rw [System.log] at hlog
        rw [hlog]
        exact hstart t.call ha sys.store h.invariant
  · obtain ⟨hpermits, hok, herr⟩ :=
      h.keeps caller _ _ hthread rfl sys.store (D.later_refl _) h.invariant
    rcases hstep with hstep | ⟨e, ha, hstep⟩
    -- the store answers
    · have hlater := D.later_answer h.invariant hpermits
      rw [hstep]
      exact ⟨h.exchanged hthread (D.invariant_answer h.invariant hpermits) hlater hok, hlater,
        .inr ⟨caller, call, r, hpermits, .inl ⟨rfl, rfl⟩⟩⟩
    -- the request fails
    · rw [hstep]
      exact ⟨h.exchanged hthread h.invariant (D.later_refl _) (herr e), D.later_refl _,
        .inr ⟨caller, call, r, hpermits, .inr ⟨rfl, e, ha, rfl⟩⟩⟩

section Started

variable {store : σ} {schedule : List (Action κ)}

/-- A run is sound if the calls that are started in its `schedule` keep to the discipline. -/
theorem run_sound
    (hcalls : ∀ call, .start call ∈ schedule → ∀ s, D.Invariant s →
      (w.program call).Keeps D call (post call) [] s)
    (hstore : D.Invariant store) : Sound w D post (w.run store schedule) := by
  induction schedule using List.reverseRecOn with
  | nil => exact ⟨hstore, by simp [System.ofStore], by simp [System.ofStore]⟩
  | append_singleton schedule a ih =>
    have hbefore := ih fun call hcall => hcalls call (List.mem_append_left _ hcall)
    rw [run_concat]
    exact (hbefore.step a fun call ha => hcalls call (by simp [ha])).1

/-- What holds at first, and is kept by every permitted exchange and by the faults of the
`schedule`, holds of history and store after it. -/
theorem run_invariant
    (hcalls : ∀ call, .start call ∈ schedule → ∀ s, D.Invariant s →
      (w.program call).Keeps D call (post call) [] s)
    (hstore : D.Invariant store) {Q : List (Entry κ) → σ → Prop} (hnil : Q [] store)
    (hserve : ∀ history s caller call r, D.Invariant s → D.Permits call r s → Q history s →
      Q (history ++ [⟨caller, call, ⟨r, (w.backend.answer r s).1⟩⟩]) (w.backend.answer r s).2)
    (hfault : ∀ history s caller call r e, .fault caller e ∈ schedule → Q history s →
      Q (history ++ [⟨caller, call, ⟨r, .error e⟩⟩]) s) :
    Q (w.run store schedule).history (w.run store schedule).store := by
  induction schedule using List.reverseRecOn with
  | nil => exact hnil
  | append_singleton schedule a ih =>
    have hcalls' : ∀ call, .start call ∈ schedule → _ :=
      fun call hcall => hcalls call (List.mem_append_left _ hcall)
    have hbefore := ih hcalls' fun history s caller call r e he =>
      hfault history s caller call r e (List.mem_append_left _ he)
    -- what is permitted is only known of a store that earlier actions have kept sound
    have hsound := run_sound hcalls' hstore
    rw [run_concat]
    rcases (hsound.step a fun call ha => hcalls call (by simp [ha])).2.2 with
      ⟨hs, hh⟩ | ⟨caller, call, r, hp, ⟨hs, hh⟩ | ⟨hs, e, ha, hh⟩⟩
    · rw [hs, hh]
      exact hbefore
    · rw [hs, hh]
      exact hserve _ _ _ _ _ hsound.invariant hp hbefore
    · rw [hs, hh]
      exact hfault _ _ _ _ _ _ (by simp [ha]) hbefore

end Started

section Calls

variable (hcalls : ∀ call s, D.Invariant s → (w.program call).Keeps D call (post call) [] s)
  {store : σ} (hstore : D.Invariant store)

include hcalls hstore

theorem run_keeps (schedule : List (Action κ)) : Sound w D post (w.run store schedule) :=
  run_sound (fun call _ => hcalls call) hstore

/-- A run that goes on, by the actions in `more`, develops the store. -/
theorem run_later (schedule more : List (Action κ)) :
    D.Later (w.run store schedule).store (w.run store (schedule ++ more)).store := by
  induction more using List.reverseRecOn with
  | nil => rw [List.append_nil]; exact D.later_refl _
  | append_singleton more a ih =>
    rw [← List.append_assoc, run_concat]
    exact D.later_trans ih ((run_keeps hcalls hstore _).step a fun call _ => hcalls call).2.1

/-- What holds at first and is kept by every permitted exchange and every fault holds of history and
store after every `schedule`. -/
theorem run_history {Q : List (Entry κ) → σ → Prop} (hnil : Q [] store)
    (hserve : ∀ history s caller call r, D.Invariant s → D.Permits call r s → Q history s →
      Q (history ++ [⟨caller, call, ⟨r, (w.backend.answer r s).1⟩⟩]) (w.backend.answer r s).2)
    (hfault : ∀ history s caller call r e, Q history s →
      Q (history ++ [⟨caller, call, ⟨r, .error e⟩⟩]) s)
    (schedule : List (Action κ)) :
    Q (w.run store schedule).history (w.run store schedule).store :=
  run_invariant (fun call _ => hcalls call) hstore hnil hserve
    fun history s caller call r e _ => hfault history s caller call r e

end Calls

end Workload

end StakeLedger
