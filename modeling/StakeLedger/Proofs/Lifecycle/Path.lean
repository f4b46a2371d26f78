import StakeLedger.Proofs.Lifecycle.Conduct

/-!
# Lifecycle Paths

The states that are written to a delegation in the course of a run form a path of the transition
table (`IsLifecyclePath`), however the calls are interleaved and wherever they are abandoned or
fail:

* `run_isLifecyclePath`: the states written so far form a path, the stored state is the last of
  them, ranks only grow, and what has come to a terminal state changes no more.
-/

namespace StakeLedger

/-- States written to the delegation `txid`, each by a call that asked for it: the delegation is
created, and every further state is the target of a kind of transition that is allowed from the
state before. -/
inductive IsLifecyclePath (txid : Txid) : List (Call × State) → Prop where
  /-- Nothing has been written yet. -/
  | nil : IsLifecyclePath txid []
  /-- The delegation is created from `stake`. -/
  | created {stake : Stake} (htxid : stake.txid = txid) :
    IsLifecyclePath txid [(.apply (.newStake stake), .pending)]
  /-- The delegation is moved from `state`, by a call that asks for the observation `o`. -/
  | moved {path : List (Call × State)} {before call : Call} {state : State} {o : Observation}
    (hpath : IsLifecyclePath txid (path ++ [(before, state)])) (hasks : call.Asks txid o)
    (hqualified : state ∈ o.kind.qualified) :
    IsLifecyclePath txid (path ++ [(before, state), (call, o.kind.target)])

/-- Ranks grow along a path, so that no state is written twice. -/
theorem IsLifecyclePath.rank_lt {txid : Txid} {path : List (Call × State)}
    (h : IsLifecyclePath txid path) : path.Pairwise fun a b => a.2.rank < b.2.rank := by
  induction h with
  | nil => exact .nil
  | created _ => exact List.pairwise_singleton _ _
  | @moved path before call state o _ _ hqualified ih =>
    obtain ⟨hpath, -, hlast⟩ := List.pairwise_append.1 ih
    have hlt := TransitionKind.rank_lt_target hqualified
    -- the new state is above the last one, which is above all before it
    refine List.pairwise_append.2 ⟨hpath, by simpa using hlt, fun a ha b hb => ?_⟩
    have hbefore := hlast a ha _ (List.mem_singleton_self _)
    rcases List.mem_cons.1 hb with rfl | hb
    · exact hbefore
    · obtain rfl := List.mem_singleton.1 hb
      exact Nat.lt_trans hbefore hlt

/-- The states that `history` writes to the delegation `txid`, each with the call that wrote it. -/
def writes (history : List (Entry Call)) (txid : Txid) : List (Call × State) :=
  history.filterMap fun e => match e.exchange.written? with
    | some (txid', state) => if txid' = txid then some (e.call, state) else none
    | none => none

section Writes

variable {history : List (Entry Call)} {caller : Nat} {call : Call} {e : Exchange}
  {txid txid' : Txid} {state : State}

theorem writes_concat_none (h : e.written? = none) :
    writes (history ++ [⟨caller, call, e⟩]) txid = writes history txid := by
  simp [writes, List.filterMap_append, h]

/-- An exchange that writes `state` to the delegation adds it, with its call, at the end of the
writes. -/
theorem writes_concat_self (h : e.written? = some (txid, state)) :
    writes (history ++ [⟨caller, call, e⟩]) txid = writes history txid ++ [(call, state)] := by
  simp [writes, List.filterMap_append, h]

/-- An exchange that writes to another delegation `txid'` adds nothing to the writes of `txid`. -/
theorem writes_concat_of_ne (h : e.written? = some (txid', state)) (hne : txid ≠ txid') :
    writes (history ++ [⟨caller, call, e⟩]) txid = writes history txid := by
  simp [writes, List.filterMap_append, h, hne.symm]

/-- A state among the writes was there before the exchange `e`, or is written by it. -/
theorem mem_writes_concat (h : state ∈ (writes (history ++ [⟨caller, call, e⟩]) txid).map (·.2)) :
    state ∈ (writes history txid).map (·.2) ∨ e.written? = some (txid, state) := by
  cases hwritten : e.written? with
  | none =>
    rw [writes_concat_none hwritten] at h
    exact .inl h
  | some w =>
    obtain ⟨txid', state'⟩ := w
    by_cases htxid : txid = txid'
    · subst htxid
      rw [writes_concat_self hwritten, List.map_append] at h
      rcases List.mem_append.1 h with h | h
      · exact .inl h
      · exact .inr (by rw [List.mem_singleton.1 h])
    · rw [writes_concat_of_ne hwritten htxid] at h
      exact .inl h

end Writes

/-- The `history` accounts for the store `s`: what it wrote to a delegation is a path to the state
that is stored. -/
structure Accounts (history : List (Entry Call)) (s : MemoryStore) : Prop where
  /-- The states written for `txid` form a path. -/
  path : ∀ txid, IsLifecyclePath txid (writes history txid)
  /-- The last of the `writes` is the state that is stored, and there is none for an unknown
  delegation. -/
  stored : ∀ txid, (writes history txid).getLast?.map (·.2) = (s.delegation? txid).map (·.state)

namespace Accounts

variable {registry : Registry} {history : List (Entry Call)} {s s' : MemoryStore} {call : Call}
  {e : Exchange}

/-- An exchange that writes no state goes with a store `s'` that holds the same states. -/
theorem concat_none (h : Accounts history s) (hwritten : e.written? = none)
    (hstate : ∀ txid, (s'.delegation? txid).map (·.state) = (s.delegation? txid).map (·.state))
    (caller : Nat) (call : Call) : Accounts (history ++ [⟨caller, call, e⟩]) s' := by
  constructor <;> intro txid <;> rw [writes_concat_none hwritten]
  · exact h.path txid
  · rw [hstate]
    exact h.stored txid

/-- An exchange that extends the path of one delegation goes with a store that holds the new
state. -/
theorem concat_written (h : Accounts history s) {d : Delegation} {opened : Option Marker}
    {txid : Txid} (hwritten : e.written? = some (txid, d.state))
    (hpath : IsLifecyclePath txid (writes history txid ++ [(call, d.state)])) (caller : Nat) :
    Accounts (history ++ [⟨caller, call, e⟩]) (s.written txid d opened) := by
  constructor <;> intro txid' <;> by_cases htxid : txid' = txid
  · subst htxid
    rw [writes_concat_self hwritten]
    exact hpath
  · rw [writes_concat_of_ne hwritten htxid]
    exact h.path txid'
  · subst htxid
    rw [writes_concat_self hwritten, MemoryStore.delegation?_written_self]
    simp
  · rw [writes_concat_of_ne hwritten htxid, MemoryStore.delegation?_written_of_ne _ _ _ htxid]
    exact h.stored txid'

/-- Every `Effect` of an exchange is accounted for by it. -/
theorem effect (h : Accounts history s) (he : registry.Effect call s e s') (caller : Nat) :
    Accounts (history ++ [⟨caller, call, e⟩]) s' := by
  cases he with
  | unchanged cursors hwritten =>
    refine h.concat_none hwritten (fun txid => ?_) caller call
    rfl
  | @created stake hcall hnone =>
    refine h.concat_written (d := .ofStake stake) rfl ?_ caller
    -- nothing is stored, and so nothing was written
    have hlast := h.stored stake.txid
    rw [hnone, Option.map_none, Option.map_eq_none_iff, List.getLast?_eq_none_iff] at hlast
    rw [hlast, hcall]
    exact .created rfl
  | @moved txid d o u hd hasks hu =>
    refine h.concat_written (d := u.applyTo d) rfl ?_ caller
    obtain ⟨-, htarget, hqualified⟩ := hu.move
    -- the path ends in the state that is stored, from which the move is allowed
    have hlast := h.stored txid
    rw [hd, Option.map_some, Option.map_eq_some_iff] at hlast
    obtain ⟨⟨before, state⟩, hlast, rfl⟩ := hlast
    obtain ⟨path, hwrites⟩ := List.getLast?_eq_some_iff.1 hlast
    have hpath := h.path txid
    rw [hwrites] at hpath ⊢
    rw [List.append_assoc, StateUpdate.applyTo, htarget]
    exact .moved hpath hasks hqualified
  | @signed txid d key signature total hd =>
    refine h.concat_none ?_ (fun txid' => ?_) caller call
    · rfl
    by_cases htxid : txid' = txid
    · subst htxid
      rw [MemoryStore.delegation?_written_self, hd]
      rfl
    · rw [MemoryStore.delegation?_written_of_ne _ _ _ htxid]
  | removed _ =>
    refine h.concat_none ?_ (fun txid => ?_) caller call
    · rfl
    · rfl

/-- The history of every run accounts for its store. -/
theorem run (registry : Registry) (schedule : List (Action Call)) :
    Accounts (registry.workload.run .empty schedule).history
      (registry.workload.run .empty schedule).store := by
  have hnil : Accounts [] .empty := ⟨fun _ => .nil, fun _ => rfl⟩
  refine Workload.run_history (w := registry.workload) (D := registry.lifecycle)
    registry.keeps_program MemoryStore.coherent_empty hnil ?_ ?_ schedule
  · intro history s caller call r _ hp h
    exact h.effect (Registry.effect_answer hp) caller
  · intro history s caller call r error h
    -- a request that failed has written nothing
    exact h.concat_none (Exchange.written?_error r error) (fun _ => rfl) caller call

end Accounts

/-- Whatever calls run side by side over an initially empty memory store, in whatever order their
requests are served, and wherever they fail or are abandoned: the states written to the delegation
`txid` form a path of the transition table that starts with its creation and leads to the stored
state; the ranks grow strictly, so that no state is written twice; and a delegation in a terminal
state keeps its record for good, apart from `signatures`. -/
theorem run_isLifecyclePath (registry : Registry) (schedule : List (Action Call)) (txid : Txid) :
    IsLifecyclePath txid (writes (registry.workload.run .empty schedule).history txid) ∧
    (writes (registry.workload.run .empty schedule).history txid).getLast?.map (·.2) =
      ((registry.workload.run .empty schedule).store.delegation? txid).map (·.state) ∧
    (writes (registry.workload.run .empty schedule).history txid).Pairwise
      (fun a b => a.2.rank < b.2.rank) ∧
    ((writes (registry.workload.run .empty schedule).history txid).map (·.2)).Nodup ∧
    ∀ d, (registry.workload.run .empty schedule).store.delegation? txid = some d →
      d.state.isTerminal → ∀ more, ∃ signatures,
        (registry.workload.run .empty (schedule ++ more)).store.delegation? txid =
          some { d with signatures } := by
  have haccounts := Accounts.run registry schedule
  have hrank := (haccounts.path txid).rank_lt
  refine ⟨haccounts.path txid, haccounts.stored txid, hrank, ?_, ?_⟩
  · refine List.pairwise_map.2 (hrank.imp fun hlt heq => ?_)
    rw [heq] at hlt
    exact Nat.lt_irrefl _ hlt
  · intro d hd hterminal more
    obtain ⟨d', hd', hadv⟩ := registry.run_later schedule more txid d hd
    -- nothing is further along than a terminal state
    rcases hadv.state with hlt | heq
    · exact absurd hlt (Nat.not_lt.2 (State.rank_le_of_isTerminal hterminal d'.state))
    · refine ⟨d'.signatures, ?_⟩
      rw [hd', ← heq]

end StakeLedger
