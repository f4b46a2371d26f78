/-!
# Lifecycle States

A delegation is in one of seven states. A sub state records which spending path led to it, and a
slashed output which output a slashing transaction spent. All three are stored and exchanged by
name.

The main statements are that a name is read back (`State.ofName?_name` and the like).
-/

namespace StakeLedger

/-- A name that does not belong to any value of its kind. -/
inductive UnknownName where
  | state (name : String)
  | subState (name : String)
  | slashedOutput (name : String)
  deriving DecidableEq, Repr

/-- The text shown for an unknown name; it says of which kind the name should be. -/
def UnknownName.message : UnknownName → String
  | state name => s!"unknown delegation state: {name}"
  | subState name => s!"unknown delegation substate: {name}"
  | slashedOutput name => s!"unknown slashed output: {name}"

/-- The lifecycle state of a delegation. A new one is `pending`, and what is `withdrawn` or
`slashed` stays so. -/
inductive State where
  /-- The stake has been seen; the covenant committee has not reached its quorum on it. -/
  | pending
  /-- The covenant committee has reached its quorum. -/
  | verified
  /-- The stake is included in the chain, deep enough. -/
  | active
  /-- A transaction that unbonds the stake has been seen. -/
  | unbonding
  /-- The stake is no longer locked. -/
  | unbonded
  /-- The stake has been withdrawn. -/
  | withdrawn
  /-- The stake has been slashed. -/
  | slashed
  deriving DecidableEq, Repr, Inhabited

namespace State

/-- All states in lifecycle order, `pending` first. -/
def all : List State := [pending, verified, active, unbonding, unbonded, withdrawn, slashed]

/-- The position of a state in `all`, by which states are ordered. -/
def index : State → Nat
  | pending => 0
  | verified => 1
  | active => 2
  | unbonding => 3
  | unbonded => 4
  | withdrawn => 5
  | slashed => 6

instance : Ord State := ⟨compareOn index⟩

/-- Whether no transition leaves the state, as is so for `withdrawn` and `slashed`. -/
def isTerminal : State → Bool
  | withdrawn | slashed => true
  | _ => false

/-- The name under which a state is stored and exchanged. -/
def name : State → String
  | pending => "PENDING"
  | verified => "VERIFIED"
  | active => "ACTIVE"
  | unbonding => "UNBONDING"
  | unbonded => "UNBONDED"
  | withdrawn => "WITHDRAWN"
  | slashed => "SLASHED"

/-- The state that has the name `s`, which has to be in capitals. -/
def ofName? (s : String) : Except UnknownName State :=
  match all.find? (·.name = s) with
  | some state => .ok state
  | none => .error (.state s)

/-- A state is read back from its name. -/
theorem ofName?_name (s : State) : ofName? s.name = .ok s := by
  cases s <;> rfl

end State

/-- The spending path that led to a state: by waiting for the timelock, or by unbonding before
that. -/
inductive SubState where
  /-- The timelock of the staking output ran out. -/
  | timelock
  /-- The stake was unbonded before that. -/
  | earlyUnbonding
  deriving DecidableEq, Repr, Inhabited

namespace SubState

/-- Both sub states in order, `timelock` first. -/
def all : List SubState := [timelock, earlyUnbonding]

/-- The position of a sub state in `all`, by which sub states are ordered. -/
def index : SubState → Nat
  | timelock => 0
  | earlyUnbonding => 1

instance : Ord SubState := ⟨compareOn index⟩

instance : Std.TransOrd SubState :=
  inferInstanceAs (Std.TransCmp (compareOn index))

/-- Sub states at the same position are the same, so that their order is lawful. -/
theorem index_inj {a b : SubState} (h : a.index = b.index) : a = b := by
  cases a <;> cases b <;> first | rfl | cases h

instance : Std.LawfulEqOrd SubState where
  eq_of_compare h := index_inj (Std.LawfulEqOrd.eq_of_compare h)

/-- The name under which a sub state is stored and exchanged. -/
def name : SubState → String
  | timelock => "TIMELOCK"
  | earlyUnbonding => "EARLY_UNBONDING"

/-- The sub state that has the name `s`, which has to be in capitals. -/
def ofName? (s : String) : Except UnknownName SubState :=
  match all.find? (·.name = s) with
  | some subState => .ok subState
  | none => .error (.subState s)

/-- A sub state is read back from its name. -/
theorem ofName?_name (s : SubState) : ofName? s.name = .ok s := by
  cases s <;> rfl

end SubState

/-- The output that a slashing transaction spent. It is the unbonding output once the delegation is
`unbonding`. -/
inductive SlashedOutput where
  /-- The staking output, slashed while the stake was active. -/
  | staking
  /-- The unbonding output, slashed while the stake was unbonding. -/
  | unbonding
  deriving DecidableEq, Repr, Inhabited

namespace SlashedOutput

/-- Both outputs, among which `ofName?` looks for a name. -/
def all : List SlashedOutput := [staking, unbonding]

/-- The name under which an output is stored and exchanged. -/
def name : SlashedOutput → String
  | staking => "STAKING"
  | unbonding => "UNBONDING"

/-- The output that has the name `s`, which has to be in capitals. -/
def ofName? (s : String) : Except UnknownName SlashedOutput :=
  match all.find? (·.name = s) with
  | some output => .ok output
  | none => .error (.slashedOutput s)

/-- An output is read back from its name. -/
theorem ofName?_name (o : SlashedOutput) : ofName? o.name = .ok o := by
  cases o <;> rfl

end SlashedOutput

end StakeLedger
