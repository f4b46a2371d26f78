import StakeLedger.Delegation.Record
import StakeLedger.Store.Error

/-!
# Store Requests

Everything that is asked of a store is one of eleven requests, each with its own type of answer.
What duplicate delivery or a concurrent writer brings about (a row that is already there, a
precondition that no longer holds) is an answer and not a failure.
-/

namespace StakeLedger

/-- The answer to `saveDelegation` and `saveMarker`: whether the row was new. -/
inductive InsertOutcome where
  | inserted
  /-- There is a row with the same key, which was left alone. -/
  | alreadyExists
  deriving DecidableEq, Repr

/-- The answer to `updateState`: whether the delegation was in one of the states `origins`. -/
inductive UpdateOutcome where
  | applied
  /-- The delegation is in another state, or there is none. Nothing was written. -/
  | preconditionFailed
  deriving DecidableEq, Repr

/-- The answer to `saveSignature`: whether the key had signed before. -/
inductive SignatureOutcome where
  /-- The signature was stored, and is one of `total` for the delegation now. -/
  | inserted (total : Nat)
  /-- The key has a signature stored already, which was left alone. -/
  | alreadyExists
  deriving DecidableEq, Repr

/-- The answer to `deleteMarker`: whether there was such a marker. -/
inductive DeleteOutcome where
  | deleted
  | notFound
  deriving DecidableEq, Repr

/-- A named record of progress: the `height` it stands at, and how often it was advanced. -/
structure Cursor where
  height : Height
  /-- The number of times the cursor was advanced, which tells a writer whether another one was
  first. -/
  version : UInt64
  deriving DecidableEq, Repr

/-- A cursor that was never advanced. -/
instance : Inhabited Cursor := ⟨⟨0, 0⟩⟩

/-- The answer to `advanceCursor`: whether the cursor was at the version expected. -/
inductive CursorOutcome where
  /-- The cursor now stands at `cursor`. -/
  | advanced (cursor : Cursor)
  /-- The cursor was not at the version expected, but stands at `cursor`. -/
  | stale (cursor : Cursor)
  deriving DecidableEq, Repr

/-- A change of state that is written only if the delegation is in one of the states `origins`. A
`timelock` is queued and its height becomes the expiry height in the same write. -/
structure StateUpdate where
  /-- The states the delegation may be in for the change to be written. -/
  origins : List State
  target : State
  /-- The sub state to record; `none` keeps the one there is. -/
  subState : Option SubState
  /-- The start height to record; `none` keeps the one there is. -/
  startHeight : Option Height
  /-- The timelock to queue, whose height is recorded as `expiryHeight`. -/
  timelock : Option Marker
  /-- The slashing transaction to record; `none` keeps the one there is. -/
  slashing : Option Slashing
  deriving DecidableEq

/-- The record `d` after the change `u`; what the change does not mention stays as it is. -/
def StateUpdate.applyTo (u : StateUpdate) (d : Delegation) : Delegation :=
  { d with
    state := u.target
    subState := u.subState.or d.subState
    startHeight := u.startHeight.or d.startHeight
    expiryHeight := (u.timelock.map (·.expireHeight)).or d.expiryHeight
    slashing := u.slashing.or d.slashing }

/-- What a store can be asked for. Five of the requests read and six write. -/
inductive Request where
  | getDelegation (txid : Txid)
  /-- Insert a delegation unless there is one of the same transaction. -/
  | saveDelegation (delegation : Delegation)
  /-- Change the state of a delegation that is in one of the states `update.origins`. -/
  | updateState (txid : Txid) (update : StateUpdate)
  /-- Store a covenant signature unless `key` has signed the delegation. -/
  | saveSignature (txid : Txid) (key : XOnlyKey) (signature : Signature)
  /-- List the delegations whose state is in `states`. -/
  | delegationsByStates (states : List State)
  /-- List the delegations that have `provider` among their finality providers. -/
  | delegationsByProvider (provider : XOnlyKey)
  /-- Queue a marker unless it is queued. -/
  | saveMarker (marker : Marker)
  /-- List the first `limit` markers, in order, that are due at `tip` and come after `after`. -/
  | dueMarkers (tip : Height) (after : Option Marker) (limit : Nat)
  | deleteMarker (marker : Marker)
  | getCursor (name : String)
  /-- Advance a cursor to `height` if its version is `expected`. -/
  | advanceCursor (name : String) (expected : UInt64) (height : Height)
  deriving DecidableEq

/-- The type of the answer to a request, if the store does not fail. -/
@[reducible]
def Request.Answer : Request → Type
  | getDelegation _ => Option Delegation
  | saveDelegation _ => InsertOutcome
  | updateState _ _ => UpdateOutcome
  | saveSignature _ _ _ => SignatureOutcome
  | delegationsByStates _ => List Delegation
  | delegationsByProvider _ => List Delegation
  | saveMarker _ => InsertOutcome
  | dueMarkers _ _ _ => List Marker
  | deleteMarker _ => DeleteOutcome
  | getCursor _ => Cursor
  | advanceCursor _ _ _ => CursorOutcome

/-- The kind of a request, without its arguments. It is what a disturbance waits for. -/
inductive Method where
  | getDelegation
  | saveDelegation
  | updateState
  | saveSignature
  | delegationsByStates
  | delegationsByProvider
  | saveMarker
  | dueMarkers
  | deleteMarker
  | getCursor
  | advanceCursor
  deriving DecidableEq, Repr

/-- The kind of a request, which forgets its arguments. -/
def Request.method : Request → Method
  | getDelegation _ => .getDelegation
  | saveDelegation _ => .saveDelegation
  | updateState _ _ => .updateState
  | saveSignature _ _ _ => .saveSignature
  | delegationsByStates _ => .delegationsByStates
  | delegationsByProvider _ => .delegationsByProvider
  | saveMarker _ => .saveMarker
  | dueMarkers _ _ _ => .dueMarkers
  | deleteMarker _ => .deleteMarker
  | getCursor _ => .getCursor
  | advanceCursor _ _ _ => .advanceCursor

end StakeLedger
