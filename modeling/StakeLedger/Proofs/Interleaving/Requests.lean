import StakeLedger.Lifecycle.Apply
import StakeLedger.Proofs.Interleaving.Discipline

/-!
# What Programs Ask

`Program.OnlyAsks` bounds the requests of a program, whatever it is answered. A program that runs by
itself makes the exchanges of `Program.exchanges`; one that keeps to a discipline while other calls
run also keeps to a stricter one if its requests allow it (`Program.Keeps.strengthen`).
-/

namespace StakeLedger.Program

variable {κ α β σ : Type} {backend : Backend σ} {P : Request → Prop}

/-! ## Requests -/

/-- Whatever a program is answered, it only makes requests of which `P` holds. -/
def OnlyAsks (P : Request → Prop) : Program α → Prop
  | .done _ => True
  | .call r next => P r ∧ ∀ reply, (next reply).OnlyAsks P

/-- Programs in sequence only ask `P` if the first one does and so does what follows each of its
results. -/
theorem OnlyAsks.bind {p : Program α} {f : α → Program β} (h : p.OnlyAsks P)
    (hf : ∀ a, (f a).OnlyAsks P) : (p.bind f).OnlyAsks P := by
  induction p with
  | done a => exact hf a
  | call r next ih => exact ⟨h.1, fun reply => ih reply (h.2 reply)⟩

/-! ## Running Alone -/

/-- The exchanges of a program that runs on a store by itself, the first one first. -/
def exchanges (backend : Backend σ) : Program α → σ → List Exchange
  | .done _, _ => []
  | .call r next, s =>
    ⟨r, (backend.answer r s).1⟩ ::
      (next (backend.answer r s).1).exchanges backend (backend.answer r s).2

/-- Programs in sequence make the exchanges of the first one, and then those of `f` after its
result. -/
theorem exchanges_bind (p : Program α) (f : α → Program β) (s : σ) :
    (p.bind f).exchanges backend s = p.exchanges backend s ++
      (f (p.run backend s).1).exchanges backend (p.run backend s).2 := by
  induction p generalizing s with
  | done a => rfl
  | call r next ih =>
    show _ :: ((next _).bind f).exchanges backend _ = _
    rw [ih]
    rfl

/-- The exchanges of a program that only asks `P` are of such requests. -/
theorem OnlyAsks.exchanges {p : Program α} (h : p.OnlyAsks P) (s : σ) :
    ∀ e ∈ p.exchanges backend s, P e.request := by
  induction p generalizing s with
  | done a => simp [Program.exchanges]
  | call r next ih =>
    intro e he
    rcases List.mem_cons.1 he with rfl | he
    · exact h.1
    · exact ih _ (h.2 _) _ e he

/-! ## Running with Others -/

variable {D D' : Discipline κ backend} {call : κ}

/-- A program that keeps to a discipline and only asks `P` adds such requests to its log, and
nothing else. -/
theorem Keeps.onlyAsks {post : List Exchange → α → σ → Prop} {p : Program α} {log : List Exchange}
    {s : σ} (h : p.Keeps D call post log s) (hp : p.OnlyAsks P) :
    p.Keeps D call (fun log' a s' => (∃ rest, log' = log ++ rest ∧ ∀ e ∈ rest, P e.request) ∧
      post log' a s') log s := by
  induction p generalizing log s with
  | done a => exact fun s' hs hinv => ⟨⟨[], by simp⟩, h s' hs hinv⟩
  | call r next ih =>
    -- the request in front is one of `P`, and comes before those that follow
    have hadd : ∀ (reply : Reply r) (log' : List Exchange),
        (∃ rest, log' = log ++ [⟨r, reply⟩] ++ rest ∧ ∀ e ∈ rest, P e.request) →
        ∃ rest, log' = log ++ rest ∧ ∀ e ∈ rest, P e.request := by
      rintro reply log' ⟨rest, rfl, hrest⟩
      refine ⟨⟨r, reply⟩ :: rest, by simp, fun e he => ?_⟩
      rcases List.mem_cons.1 he with rfl | he
      · exact hp.1
      · exact hrest e he
    intro s' hs hinv
    obtain ⟨hpermits, hok, herr⟩ := h s' hs hinv
    exact ⟨hpermits, (ih _ hok (hp.2 _)).imp fun _ _ _ h => ⟨hadd _ _ h.1, h.2⟩,
      fun e => (ih _ (herr e) (hp.2 _)).imp fun _ _ _ h => ⟨hadd _ _ h.1, h.2⟩⟩

/-- A program keeps to a stricter discipline `D'` if this one permits its requests on every store
that the one it starts on can develop into. -/
theorem Keeps.strengthen (hinvariant : ∀ s, D'.Invariant s → D.Invariant s)
    (hlater : ∀ s s', D'.Later s s' → D.Later s s') {p : Program α} {s : σ}
    (hpermits : ∀ r s', D'.Later s s' → D'.Invariant s' → P r → D.Permits call r s' →
      D'.Permits call r s')
    {post : List Exchange → α → σ → Prop} {log : List Exchange} (hp : p.OnlyAsks P)
    (h : p.Keeps D call post log s) : p.Keeps D' call post log s := by
  induction p generalizing log s with
  | done a => exact fun s' hs hinv => h s' (hlater _ _ hs) (hinvariant _ hinv)
  | call r next ih =>
    intro s' hs hinv
    obtain ⟨hD, hok, herr⟩ := h s' (hlater _ _ hs) (hinvariant _ hinv)
    have hD' := hpermits r s' hs hinv hp.1 hD
    -- what the start can develop into after an answer it can develop into at once
    refine ⟨hD', ih _ (fun r' s'' hs' => ?_) (hp.2 _) hok, fun e =>
      ih _ (fun r' s'' hs' => ?_) (hp.2 _) (herr e)⟩
    · exact hpermits r' s'' (D'.later_trans hs (D'.later_trans (D'.later_answer hinv hD') hs'))
    · exact hpermits r' s'' (D'.later_trans hs hs')

/-- A program keeps to a discipline that permits its requests on every store. -/
theorem OnlyAsks.keeps {p : Program α} (h : p.OnlyAsks P)
    (hpermits : ∀ r s, P r → D.Permits call r s) (log : List Exchange) (s : σ) :
    p.Keeps D call (fun _ _ _ => True) log s := by
  induction p generalizing log s with
  | done a => exact fun _ _ _ => trivial
  | call r next ih =>
    exact fun s' _ _ => ⟨hpermits r s' h.1, ih _ (h.2 _) _ _, fun e => ih _ (h.2 _) _ _⟩

/-- The invariant of a discipline is kept by a program that keeps to it and runs by itself. -/
theorem Keeps.invariant_run {post : List Exchange → α → σ → Prop} {p : Program α}
    {log : List Exchange} {s : σ} (h : p.Keeps D call post log s) (hs : D.Invariant s) :
    D.Invariant (p.run backend s).2 := by
  induction p generalizing log s with
  | done a => exact hs
  | call r next ih =>
    obtain ⟨hpermits, hok, -⟩ := h s (D.later_refl s) hs
    exact ih _ hok (D.invariant_answer hs hpermits)

/-- What every permitted exchange keeps, a program keeps that runs by itself: `Q` holds of the
exchanges and the store after it. -/
theorem Keeps.run {Q : List Exchange → σ → Prop}
    (hserve : ∀ history s r, D.Invariant s → D.Permits call r s → Q history s →
      Q (history ++ [⟨r, (backend.answer r s).1⟩]) (backend.answer r s).2)
    {post : List Exchange → α → σ → Prop} {p : Program α} {log history : List Exchange} {s : σ}
    (h : p.Keeps D call post log s) (hs : D.Invariant s) (hQ : Q history s) :
    D.Invariant (p.run backend s).2 ∧ Q (history ++ p.exchanges backend s) (p.run backend s).2 := by
  induction p generalizing log history s with
  | done a => exact ⟨hs, by rwa [Program.exchanges, List.append_nil]⟩
  | call r next ih =>
    obtain ⟨hpermits, hok, -⟩ := h s (D.later_refl s) hs
    have hrest := ih _ hok (D.invariant_answer hs hpermits) (hserve history s r hs hpermits hQ)
    rw [List.append_assoc] at hrest
    exact hrest

/-! ## Requests That End a Program When They Fail -/

section Request

variable {r : Request} {next : r.Answer → Program (Except TrackingError α)}

/-- A request and what follows its answers only ask `P` if both do; its failure is the end. -/
theorem onlyAsks_request (hr : P r) (hnext : ∀ a, (next a).OnlyAsks P) :
    (Program.request r next).OnlyAsks P := by
  refine ⟨hr, fun reply => ?_⟩
  cases reply with
  | error e => trivial
  | ok a => exact hnext a

/-- A request that is answered by `a` goes on with `next a`. -/
theorem run_request {s s' : σ} {a : r.Answer} (h : backend.answer r s = (.ok a, s')) :
    (Program.request r next).run backend s = (next a).run backend s' := by
  simp only [request, run, h]

/-- A request that fails by `e` ends its program with `.store e`. -/
theorem run_request_error {s s' : σ} {e : StoreError} (h : backend.answer r s = (.error e, s')) :
    (Program.request r next).run backend s = (.error (.store e), s') := by
  simp only [request, run, h]

/-- A request that is answered by `a` is the first exchange, and those of `next a` follow. -/
theorem exchanges_request {s s' : σ} {a : r.Answer} (h : backend.answer r s = (.ok a, s')) :
    (Program.request r next).exchanges backend s = ⟨r, .ok a⟩ :: (next a).exchanges backend s' := by
  simp only [request, exchanges, h]

/-- A request keeps to a discipline if it is permitted, its failure is a result that meets `post`,
and its answer lets the program go on. -/
theorem Keeps.request {post : List Exchange → Except TrackingError α → σ → Prop}
    {log : List Exchange} {s : σ}
    (hfail : ∀ e s', post (log ++ [⟨r, .error e⟩]) (.error (.store e)) s')
    (h : ∀ s', D.Later s s' → D.Invariant s' → D.Permits call r s' ∧
      ∀ a, (backend.answer r s').1 = .ok a →
        (next a).Keeps D call post (log ++ [⟨r, .ok a⟩]) (backend.answer r s').2) :
    (Program.request r next).Keeps D call post log s := by
  intro s' hs hinv
  obtain ⟨hp, hnext⟩ := h s' hs hinv
  refine ⟨hp, ?_, fun e s'' _ _ => hfail e s''⟩
  cases ha : (backend.answer r s').1 with
  | error e => exact fun s'' _ _ => hfail e s''
  | ok a => exact hnext a ha

end Request

end StakeLedger.Program
