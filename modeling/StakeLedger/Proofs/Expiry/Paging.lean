import StakeLedger.Expiry.Scan
import StakeLedger.Proofs.Interleaving.Requests
import StakeLedger.Proofs.Store.Memory

/-!
# Going Through Pages

A scan goes through its pages marker by marker. It keeps to a discipline as soon as the handling of
each listed marker does (`Registry.keeps_scanning`), which takes that the expiry does, and that the
marker may be removed once the expiry was answered (`Registry.keeps_handling`).
-/

namespace StakeLedger

namespace Registry

variable {registry : Registry} {κ : Type} {D : Discipline κ MemoryStore.backend} {call : κ}
  {m : Marker} {report : ScanReport} {log : List Exchange} {s : MemoryStore}

/-- The removal of `m` keeps to a discipline that permits it from now on. -/
theorem keeps_removal
    (hpermits : ∀ s', D.Later s s' → D.Invariant s' → D.Permits call (.deleteMarker m) s') :
    (removeMarker m report).Keeps D call (fun _ _ _ => True) log s := by
  intro s' hlater hinv
  refine ⟨hpermits s' hlater hinv, ?_, fun _ => Program.Keeps.done fun _ _ _ => trivial⟩
  generalize (MemoryStore.backend.answer (.deleteMarker m) s').1 = reply
  -- the reply is only counted
  rcases reply with _ | _ | _ <;> exact Program.Keeps.done fun _ _ _ => trivial

/-- The handling of `m` keeps to a discipline if its expiry does, and its removal is permitted after
every answer to the expiry. -/
theorem keeps_handling
    (hexpiry : (registry.apply (.observed m.txid (.timelockExpired m.subState))).Keeps D call
      (fun _ result s' => ∀ outcome, result = .ok outcome → D.Permits call (.deleteMarker m) s')
        log s) :
    (registry.handleMarker m report).Keeps D call (fun _ _ _ => True) log s := by
  refine Program.Keeps.bind (hexpiry.lasting.imp fun log' result s' hpermits => ?_)
  cases result with
  | error e => exact Program.Keeps.done fun _ _ _ => trivial
  | ok outcome =>
    have hremoval : ∀ report, (removeMarker m report).Keeps D call (fun _ _ _ => True) log' s' :=
      fun report => keeps_removal fun s'' hlater hinv => hpermits s'' hlater hinv outcome rfl
    cases outcome <;> exact hremoval _

section Handling

variable {P : Marker → MemoryStore → Prop} (hlater : ∀ m s s', P m s → D.Later s s' → P m s')
  (hhandling : ∀ m report log s, P m s →
    (registry.handleMarker m report).Keeps D call (fun _ _ _ => True) log s)

include hlater hhandling

/-- A `page` keeps to a discipline if the handling of each of its markers does, whenever it comes to
it; `P` is what is known of a marker until then. -/
theorem keeps_paging {page : List Marker} (hpage : ∀ m ∈ page, P m s) :
    (registry.handlePage page report).Keeps D call (fun _ _ _ => True) log s := by
  induction page generalizing s report log with
  | nil => exact Program.Keeps.done fun _ _ _ => trivial
  | cons m rest ih =>
    obtain ⟨hm, hrest⟩ := List.forall_mem_cons.1 hpage
    refine Program.Keeps.bind ((hhandling m report log s hm).since.imp fun log' report' s' h => ?_)
    obtain ⟨-, hs, -⟩ := h
    exact ih fun m' hm' => hlater m' _ _ (hrest m' hm') hs

/-- A scan keeps to a discipline if the handling of each marker that it lists does, that is, if `P`
holds of every due marker. The induction is on the markers above the start of the page. -/
theorem keeps_scanning {pageSize : Nat} {tip : Height}
    (hlist : ∀ after s, D.Invariant s → D.Permits call (.dueMarkers tip after pageSize) s)
    (hlisted : ∀ m s, D.Invariant s → m ∈ s.queue → m.IsDue tip → P m s) (after : Option Marker) :
    (registry.scanAfter pageSize tip after report).Keeps D call (fun _ _ _ => True) log s := by
  induction hn : Marker.remaining after using Nat.strongRecOn generalizing after report log s with
  | _ n ih =>
    rw [scanAfter]
    refine Program.Keeps.request (fun _ _ => trivial) fun s' _ hinv =>
      ⟨hlist after s' hinv, fun page hpage => ?_⟩
    obtain rfl := Except.ok.inj hpage
    have hdue : ∀ m ∈ s'.dueMarkers tip after pageSize, P m s' := by
      intro m hm
      obtain ⟨hqueued, hdue, -⟩ := MemoryStore.mem_of_mem_dueMarkers hm
      exact hlisted m s' hinv hqueued hdue
    refine Program.Keeps.bind
      ((keeps_paging hlater hhandling hdue).imp fun log' report' s'' _ => ?_)
    split
    next => exact Program.Keeps.done fun _ _ _ => trivial
    next last _ =>
      split
      · -- the next page starts behind the last marker of this one
        split
        next hlt => exact ih _ (hn ▸ Marker.remaining_lt hlt) _ rfl
        next => exact Program.Keeps.done fun _ _ _ => trivial
      · exact Program.Keeps.done fun _ _ _ => trivial

end Handling

end Registry

end StakeLedger
