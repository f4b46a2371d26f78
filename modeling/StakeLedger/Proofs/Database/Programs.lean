import StakeLedger.Proofs.Database.Refinement
import StakeLedger.Proofs.Interleaving.Requests

/-!
# Programs over the Database

A session that meets no obstacles mirrors a memory store if its database does, and if no cursor was
advanced more often than its height says (`Session.Mirrors`). It answers what is storable as the
memory store does, and so it runs a program to the same result if what the program asks of the
memory store is storable (`Session.Mirrors.run`).
-/

namespace StakeLedger

variable {α β : Type} {s : MemoryStore} {session : Session}

/-! ## Requests -/

/-- Every advance has raised the height of its cursor, so that `version ≤ height`, and no height is
too large to be read back. -/
def MemoryStore.IsPaced (s : MemoryStore) : Prop :=
  ∀ name, (s.cursor name).version.toNat ≤ (s.cursor name).height.toNat ∧
    IsStorableHeight (s.cursor name).height

/-- The session meets no obstacles, its database mirrors the memory store `s`, and the cursors are
paced. This is what every call preserves. -/
structure Session.Mirrors (session : Session) (s : MemoryStore) : Prop where
  free : session.IsFree
  database : session.database.Mirrors s
  paced : s.IsPaced

/-- A request that the memory store `s` answers, and the database alike. An advance raises the
height of the cursor. Lists of delegations are left out: the database has an order of its own for
them, and no call asks for them. -/
def Request.IsAnswered (s : MemoryStore) : Request → Prop
  | saveSignature txid _ _ => ∃ d, s.delegation? txid = some d
  | advanceCursor name expected height =>
    expected = (s.cursor name).version ∧ (s.cursor name).height < height ∧ IsStorableHeight height
  | delegationsByStates _ | delegationsByProvider _ => False
  | r => r.IsStorable

/-- The memory store answers unless there is no record to sign for. -/
theorem Request.IsAnswered.exists_answer {r : Request} (h : r.IsAnswered s) :
    ∃ a, (s.answer r).1 = .ok a := by
  cases r with
  | saveSignature txid key signature =>
    obtain ⟨d, hd⟩ := h
    show ∃ a, (s.saveSignature txid key signature).1 = .ok a
    rcases s.saveSignature_cases txid key signature with ⟨hnone, -⟩ | ⟨_, -,
      ⟨-, hsave⟩ | ⟨-, hsave⟩⟩
    · exact absurd (hd.symm.trans hnone) (by simp)
    · exact ⟨_, congrArg Prod.fst hsave⟩
    · exact ⟨_, congrArg Prod.fst hsave⟩
  | _ => exact ⟨_, rfl⟩

namespace MemoryStore.IsPaced

/-- The version of a paced cursor is below `2 ^ 63`, because its height is. -/
theorem version_lt (h : s.IsPaced) (name : String) : (s.cursor name).version.toNat < 2 ^ 63 :=
  Nat.lt_of_le_of_lt (h name).1 (h name).2

/-- An advance that raises the height of a cursor has room for its version: `IsPaced` is kept. -/
theorem answer (h : s.IsPaced) {r : Request} (hr : r.IsAnswered s) : (s.answer r).2.IsPaced := by
  intro name
  by_cases hmethod : r.method = .advanceCursor
  · -- only the cursor that is advanced changes, and its height goes up with its version
    cases r with
    | advanceCursor name' expected height =>
      obtain ⟨rfl, hlt, hheight⟩ := hr
      have hadvance : s.answer (.advanceCursor name' (s.cursor name').version height) =
        (.ok (s.advanceCursor name' (s.cursor name').version height).1,
          (s.advanceCursor name' (s.cursor name').version height).2) := rfl
      rcases s.advanceCursor_cases name' (s.cursor name').version height with ⟨-, hcase⟩ | ⟨hne, -⟩
      · rw [hcase] at hadvance
        rw [hadvance, cursor]
        by_cases hname : name = name'
        · subst hname
          have hraised := UInt64.lt_iff_toNat_lt.1 hlt
          have hversion := (h name).1
          -- the version is no more than the height, so that there is room for one more
          have hnext := Cursor.toNat_next (Nat.lt_of_lt_of_le (Nat.succ_lt_succ (h.version_lt name))
            (by decide))
          rw [SortedMap.find?_insert_self, Option.getD_some]
          exact ⟨by dsimp only; omega, hheight⟩
        · rw [SortedMap.find?_insert_of_ne _ _ hname]
          exact h name
      · exact absurd rfl hne
    | _ => cases hmethod
  · rw [cursor, s.cursors_answer hmethod]
    exact h name

end MemoryStore.IsPaced

namespace Session.Mirrors

theorem fresh : Session.fresh.Mirrors .empty :=
  ⟨isFree_fresh, Database.mirrors_empty, fun _ => ⟨Nat.le_refl _, Nat.two_pow_pos 63⟩⟩

/-- A request that is answered is storable; for an advance this is the room for the next version. -/
theorem isStorable (h : session.Mirrors s) {r : Request} (hr : r.IsAnswered s) : r.IsStorable := by
  cases r with
  | advanceCursor name expected height =>
    obtain ⟨rfl, -, hheight⟩ := hr
    exact ⟨Nat.lt_of_lt_of_le (Nat.succ_lt_succ (h.paced.version_lt name)) (by decide), hheight⟩
  | saveSignature _ _ _ | delegationsByStates _ | delegationsByProvider _ => trivial
  | _ => exact hr

/-- A request is answered as by the memory store, with the answer `a` and no failure, and the
session mirrors the store afterwards. -/
theorem answer (h : session.Mirrors s) {r : Request} (hr : r.IsAnswered s) (retries : Nat) :
    ∃ a session', (s.answer r).1 = .ok a ∧
      (Session.backend retries).answer r session = (.ok a, session') ∧
      session'.Mirrors (s.answer r).2 := by
  obtain ⟨hagrees, hfree, hmirrors⟩ :=
    Session.answer_agrees h.free h.database (h.isStorable hr) retries
  have hpaced := h.paced.answer hr
  -- only a signature for an unknown delegation fails in memory
  have hreply : ∃ a, (s.answer r).1 = .ok a ∧ (Session.answer retries r session).1 = .ok a := by
    cases r with
    | saveSignature txid key signature =>
      rcases hagrees with hok | ⟨hnone, -⟩
      · exact hok
      · obtain ⟨a, ha⟩ := hr.exists_answer
        cases ha.symm.trans hnone
    | delegationsByStates _ => exact hr.elim
    | delegationsByProvider _ => exact hr.elim
    | _ => exact hagrees
  obtain ⟨a, hmemory, hsession⟩ := hreply
  exact ⟨a, _, hmemory, Prod.ext hsession rfl, hfree, hmirrors hpaced.version_lt, hpaced⟩

end Session.Mirrors

/-! ## Programs -/

namespace Program

/-- The program asks the memory store only for what is answered, and its result has the property
`Q`. -/
def IsAnswered (Q : α → Prop) : Program α → MemoryStore → Prop
  | done a, _ => Q a
  | call r next, s => r.IsAnswered s ∧ (next (s.answer r).1).IsAnswered Q (s.answer r).2

@[simp]
theorem isAnswered_done {Q : α → Prop} {a : α} : (done a).IsAnswered Q s ↔ Q a := .rfl

/-- A program that fails asks for nothing, and `Q` is about the failure. -/
@[simp]
theorem isAnswered_fail {Q : Except TrackingError α → Prop} {e : TrackingError} :
    (fail e : Program (Except TrackingError α)).IsAnswered Q s ↔ Q (.error e) := .rfl

/-- Programs in sequence are answered in sequence: `f a` need be answered only for the result `a` of
`p`, in the store that `p` leaves. -/
theorem IsAnswered.bind {Q : α → Prop} {R : β → Prop} {p : Program α} {f : α → Program β}
    (hp : p.IsAnswered Q s)
    (hf : ∀ a, a = (p.run MemoryStore.backend s).1 → Q a →
      (f a).IsAnswered R (p.run MemoryStore.backend s).2) : (p.bind f).IsAnswered R s := by
  induction p generalizing s with
  | done a => exact hf a rfl hp
  | call r next ih => exact ⟨hp.1, ih _ hp.2 hf⟩

/-- The result of a program is passed on through `f` as it is, and the store is the same. -/
theorem run_bind_done {σ : Type} (backend : Backend σ) (p : Program α) (f : α → β) (store : σ) :
    (p.bind fun a => done (f a)).run backend store =
      (f (p.run backend store).1, (p.run backend store).2) :=
  run_bind backend p _ store

/-- A request that is answered does not fail, so that only the answer needs to be gone on with. -/
theorem isAnswered_request {r : Request} {next : r.Answer → Program (Except TrackingError α)}
    {Q : Except TrackingError α → Prop} (hr : r.IsAnswered s)
    (hnext : ∀ a, (s.answer r).1 = .ok a → (next a).IsAnswered Q (s.answer r).2) :
    (Program.request r next).IsAnswered Q s := by
  refine ⟨hr, ?_⟩
  obtain ⟨a, ha⟩ := hr.exists_answer
  rw [ha]
  exact hnext a ha

theorem OnlyAsks.cursors {p : Program α} (h : p.OnlyAsks (·.method ≠ .advanceCursor))
    (s : MemoryStore) : (p.run MemoryStore.backend s).2.cursors = s.cursors := by
  induction p generalizing s with
  | done a => rfl
  | call r next ih => exact (ih _ (h.2 _) _).trans (s.cursors_answer h.1)

end Program

/-- A session that mirrors the memory store runs a program to the same result, and still mirrors it
afterwards. -/
theorem Session.Mirrors.run (h : session.Mirrors s) {Q : α → Prop} {p : Program α}
    (hp : p.IsAnswered Q s) (retries : Nat) :
    (p.run (Session.backend retries) session).1 = (p.run MemoryStore.backend s).1 ∧
      Q (p.run MemoryStore.backend s).1 ∧
      (p.run (Session.backend retries) session).2.Mirrors (p.run MemoryStore.backend s).2 := by
  induction p generalizing session s with
  | done a => exact ⟨rfl, hp, h⟩
  | call r next ih =>
    obtain ⟨a, session', hmemory, hsession, hmirrors⟩ := h.answer hp.1 retries
    have hstep : (Program.call r next).run (Session.backend retries) session =
        (next (s.answer r).1).run (Session.backend retries) session' := by
      simp only [Program.run, hsession, hmemory]
    rw [hstep]
    exact ih _ hmirrors hp.2

end StakeLedger
