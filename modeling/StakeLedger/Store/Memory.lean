import StakeLedger.Store.Program

/-!
# The Memory Store

The memory store keeps delegations by transaction identifier, the queue of markers in marker order
and cursors by name. Each request is answered by one function on the whole store.
-/

namespace StakeLedger

/-- The contents of the memory store: delegations, the queue of markers, and cursors. -/
structure MemoryStore where
  /-- The delegations by transaction identifier. -/
  delegations : SortedMap Txid Delegation
  /-- The markers of running timelocks, in the order `compare` they are worked off. -/
  queue : SortedSet Marker
  /-- The cursors that were advanced, by name; `cursor` gives the others, too. -/
  cursors : SortedMap String Cursor
  deriving DecidableEq

namespace MemoryStore

/-- The store that holds nothing, which is the one a process starts with. -/
def empty : MemoryStore := ⟨.empty, .empty, .empty⟩

instance : Inhabited MemoryStore := ⟨empty⟩

/-- The record of the delegation `txid`, with its signatures, if there is one. -/
def delegation? (s : MemoryStore) (txid : Txid) : Option Delegation := s.delegations.find? txid

/-- The cursor of a name, which stands at height and version zero until it is advanced. -/
def cursor (s : MemoryStore) (name : String) : Cursor := (s.cursors.find? name).getD default

/-- Inserts the record `d` unless there is one of the same transaction. -/
def saveDelegation (s : MemoryStore) (d : Delegation) : InsertOutcome × MemoryStore :=
  if s.delegations.contains d.txid then (.alreadyExists, s)
  else (.inserted, { s with delegations := s.delegations.insert d.txid d })

/-- Makes the change `u` to a delegation that is in one of the states `u.origins`, and queues the
marker `u.timelock` along with it. -/
def updateState (s : MemoryStore) (txid : Txid) (u : StateUpdate) : UpdateOutcome × MemoryStore :=
  match s.delegation? txid with
  | none => (.preconditionFailed, s)
  | some d =>
    if d.state ∈ u.origins then
      -- record and marker change together, so that neither is seen without the other
      (.applied, { s with
        delegations := s.delegations.insert txid (u.applyTo d)
        queue := match u.timelock with
          | some marker => s.queue.insert marker
          | none => s.queue })
    else (.preconditionFailed, s)

/-- Stores a signature under `key` unless this key has signed already, and counts the signatures. -/
def saveSignature (s : MemoryStore) (txid : Txid) (key : XOnlyKey) (signature : Signature) :
    Except StoreError SignatureOutcome × MemoryStore :=
  match s.delegation? txid with
  | none => (.error .notFound, s)
  | some d =>
    if d.signatures.contains key then (.ok .alreadyExists, s)
    else
      let signatures := d.signatures.insert key signature
      (.ok (.inserted signatures.size),
        { s with delegations := s.delegations.insert txid { d with signatures } })

/-- Queues the marker `m` unless it is queued already. -/
def saveMarker (s : MemoryStore) (m : Marker) : InsertOutcome × MemoryStore :=
  if m ∈ s.queue then (.alreadyExists, s)
  else (.inserted, { s with queue := s.queue.insert m })

/-- The first `limit` markers, in order, that are due at `tip` and come after `after`. -/
def dueMarkers (s : MemoryStore) (tip : Height) (after : Option Marker) (limit : Nat) :
    List Marker :=
  let later : List Marker := match after with
    | none => s.queue.elements
    | some a => s.queue.elements.filter fun m => compare a m = .lt
  -- the order of markers is by height first, so that no due one stands behind one that is not
  (later.takeWhile fun m => m.IsDue tip).take limit

/-- Removes the marker `m` from the queue, if it is there. -/
def deleteMarker (s : MemoryStore) (m : Marker) : DeleteOutcome × MemoryStore :=
  if m ∈ s.queue then (.deleted, { s with queue := s.queue.erase m })
  else (.notFound, s)

/-- Advances a cursor to `height` and the next version, if its version is `expected`. -/
def advanceCursor (s : MemoryStore) (name : String) (expected : UInt64) (height : Height) :
    CursorOutcome × MemoryStore :=
  let current := s.cursor name
  if current.version = expected then
    let advanced : Cursor := ⟨height, current.version + 1⟩
    (.advanced advanced, { s with cursors := s.cursors.insert name advanced })
  else (.stale current, s)

/-- Answers the request `r` and gives the store after it. Only `saveSignature` can fail. -/
def answer : (r : Request) → MemoryStore → Reply r × MemoryStore
  | .getDelegation txid, s => (.ok (s.delegation? txid), s)
  | .saveDelegation d, s => let (outcome, s') := s.saveDelegation d; (.ok outcome, s')
  | .updateState txid u, s => let (outcome, s') := s.updateState txid u; (.ok outcome, s')
  | .saveSignature txid key signature, s => s.saveSignature txid key signature
  | .delegationsByStates states, s =>
    (.ok (s.delegations.values.filter fun d => d.state ∈ states), s)
  | .delegationsByProvider provider, s =>
    (.ok (s.delegations.values.filter fun d => provider ∈ d.stake.providers), s)
  | .saveMarker m, s => let (outcome, s') := s.saveMarker m; (.ok outcome, s')
  | .dueMarkers tip after limit, s => (.ok (s.dueMarkers tip after limit), s)
  | .deleteMarker m, s => let (outcome, s') := s.deleteMarker m; (.ok outcome, s')
  | .getCursor name, s => (.ok (s.cursor name), s)
  | .advanceCursor name expected height, s =>
    let (outcome, s') := s.advanceCursor name expected height; (.ok outcome, s')

/-- The memory store as a backend of programs, by `MemoryStore.answer`. -/
def backend : Backend MemoryStore := ⟨answer⟩

end MemoryStore

end StakeLedger
