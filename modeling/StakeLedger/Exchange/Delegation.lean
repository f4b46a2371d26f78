import StakeLedger.Delegation.Event
import StakeLedger.Exchange.Bitcoin
import StakeLedger.Store.Request

/-!
# Forms of Delegations, Markers and Events

Stakes and delegations are exchanged as flat records. Finality providers may be listed in any order
and more than once; the signatures of a delegation are a record with a field for each key.
-/

namespace StakeLedger.Form

/-- Lifecycle states, by `State.name`. -/
def state : Form State := named State.all State.name

/-- Sub states, by `SubState.name`. -/
def subState : Form SubState := named SubState.all SubState.name

/-- Slashed outputs, by `SlashedOutput.name`. -/
def slashedOutput : Form SlashedOutput := named SlashedOutput.all SlashedOutput.name

/-- Sets of keys, as lists in which a key may be repeated. -/
def keySet : Form (SortedSet XOnlyKey) where
  write s := key.list.write s.elements
  read? v := (key.list.read? v).map SortedSet.ofList

/-- Reads the signature in a `field` whose name is the text of a key. -/
def readSigned? (field : String × Value) : Option (XOnlyKey × Signature) := do
  return (← XOnlyKey.ofText? field.1, ← signature.read? field.2)

/-- Signatures by key, as records. Of several fields that name the same key, the last one by name
counts. -/
def signatures : Form (SortedMap XOnlyKey Signature) where
  write m := .record (m.entries.map fun e => (e.1.text, signature.write e.2))
  read?
    | .record fields =>
      ((fields.mergeSort fun a b => decide (a.1 ≤ b.1)).mapM readSigned?).map SortedMap.ofList
    | _ => none

/-- The names of the fields of a stake, which are the first fields of a delegation, too. -/
def stakeNames : List String :=
  ["staking_txid", "staker_pk", "finality_provider_pks", "staking_amount", "staking_time",
    "unbonding_time", "params_version"]

/-- The values of the fields `stakeNames` of the stake `s`. -/
def stakeValues (s : Stake) : List Value :=
  [txid.write s.txid, key.write s.staker, keySet.write s.providers, amount.write s.amount,
    word32.write s.stakingTime, word32.write s.unbondingTime, word32.write s.paramsVersion]

/-- The stake of the values of `stakeNames`, all of which have to be given. -/
def stakeOfFields : List (Option Value) → Option Stake
  | [txidField, staker, providers, amountField, stakingTime, unbondingTime, paramsVersion] => do
    return {
      txid := ← txid.required txidField
      staker := ← key.required staker
      providers := ← keySet.required providers
      amount := ← amount.required amountField
      stakingTime := ← word32.required stakingTime
      unbondingTime := ← word32.required unbondingTime
      paramsVersion := ← word32.required paramsVersion }
  | _ => none

/-- Stakes, as records with the fields `stakeNames`. -/
def stake : Form Stake :=
  Layout.form { names := stakeNames, values := stakeValues, ofFields := stakeOfFields }

/-- Slashings, as records. -/
def slashing : Form Slashing := Layout.form {
  names := ["output", "slashing_tx", "spend_height"]
  values := fun s => [slashedOutput.write s.output, transaction.write s.transaction,
    word64.write s.spendHeight]
  ofFields := fun
    | [output, tx, spendHeight] => do
      return {
        output := ← slashedOutput.required output
        transaction := ← transaction.required tx
        spendHeight := ← word64.required spendHeight }
    | _ => none }

/-- Delegations, as flat records: the fields of the stake, and behind them those of the record kept
of it. What is optional may be left out. -/
def delegation : Form Delegation := Layout.form {
  names := stakeNames ++ ["state", "sub_state", "start_height", "expiry_height",
    "covenant_signatures", "slashing"]
  values := fun d => stakeValues d.stake ++
    [state.write d.state, subState.optional.write d.subState,
    word64.optional.write d.startHeight, word64.optional.write d.expiryHeight,
    signatures.write d.signatures, slashing.optional.write d.slashing]
  ofFields := fun fields =>
    match fields.drop 7 with
    | [stateField, subStateField, startHeight, expiryHeight, signaturesField, slashingField] => do
      return {
        stake := ← stakeOfFields (fields.take 7)
        state := ← state.required stateField
        subState := ← subState.orNone subStateField
        startHeight := ← word64.orNone startHeight
        expiryHeight := ← word64.orNone expiryHeight
        signatures := ← signatures.required signaturesField
        slashing := ← slashing.orNone slashingField }
    | _ => none }

/-- Markers, as records. -/
def marker : Form Marker := Layout.form {
  names := ["expire_height", "staking_txid", "sub_state"]
  values := fun m => [word64.write m.expireHeight, txid.write m.txid, subState.write m.subState]
  ofFields := fun
    | [expireHeight, txidField, subStateField] => do
      return {
        expireHeight := ← word64.required expireHeight
        txid := ← txid.required txidField
        subState := ← subState.required subStateField }
    | _ => none }

/-- Cursors, as records. -/
def cursor : Form Cursor := Layout.form {
  names := ["height", "version"]
  values := fun c => [word64.write c.height, word64.write c.version]
  ofFields := fun
    | [height, version] => do
      return { height := ← word64.required height, version := ← word64.required version }
    | _ => none }

/-- The kinds of transitions by name, apart from `timelockExpired`, which has an argument. -/
def plainKinds : List (String × TransitionKind) :=
  [("CovenantQuorumReached", .covenantQuorumReached),
    ("InclusionProofConfirmed", .inclusionProofConfirmed),
    ("UnbondingTxObserved", .unbondingTxObserved), ("UnbondingTxConfirmed", .unbondingTxConfirmed),
    ("WithdrawalTxObserved", .withdrawalTxObserved), ("SlashingTxObserved", .slashingTxObserved)]

/-- Writes the kind of a transition: its name, and the path of an expiry in a record. -/
def writeKind : TransitionKind → Value
  | .timelockExpired path => .record [("TimelockExpired", subState.write path)]
  | .covenantQuorumReached => .text "CovenantQuorumReached"
  | .inclusionProofConfirmed => .text "InclusionProofConfirmed"
  | .unbondingTxObserved => .text "UnbondingTxObserved"
  | .unbondingTxConfirmed => .text "UnbondingTxConfirmed"
  | .withdrawalTxObserved => .text "WithdrawalTxObserved"
  | .slashingTxObserved => .text "SlashingTxObserved"

/-- Reads the kind of a transition, the name of which may also stand in a record, in front of
`null`. -/
def readKind? : Value → Option TransitionKind
  | .text name => plainKinds.lookup name
  | .record [("TimelockExpired", path)] => (subState.read? path).map .timelockExpired
  | .record [(name, .null)] => plainKinds.lookup name
  | _ => none

/-- Kinds of transitions, by their name in camel case. -/
def kind : Form TransitionKind := ⟨writeKind, readKind?⟩

/-- Writes the body of an observation: the delegation and the `fields` that belong to the
observation. -/
def writeObservation (delegation : Txid) (name : String) (fields : List (String × Value)) : Value :=
  .record [(name, .record (("staking_txid", txid.write delegation) :: fields))]

/-- Writes an event as a record of one field, which has the name of the event and holds its body. -/
def writeEvent : Event → Value
  | .newStake s => .record [("NewStake", stake.write s)]
  | .observed d .covenantQuorumReached => writeObservation d "CovenantQuorumReached" []
  | .observed d (.inclusionProofConfirmed inclusion tip) =>
    writeObservation d "InclusionProofConfirmed"
      [("inclusion_height", word64.write inclusion), ("tip_height", word64.write tip)]
  | .observed d (.unbondingTxObserved height) =>
    writeObservation d "UnbondingTxObserved" [("observed_height", word64.write height)]
  | .observed d .unbondingTxConfirmed => writeObservation d "UnbondingTxConfirmed" []
  | .observed d (.timelockExpired path) =>
    writeObservation d "TimelockExpired" [("sub_state", subState.write path)]
  | .observed d .withdrawalTxObserved => writeObservation d "WithdrawalTxObserved" []
  | .observed d (.slashingTxObserved tx height) =>
    writeObservation d "SlashingTxObserved"
      [("slashing_tx", transaction.write tx), ("spend_height", word64.write height)]

/-- Reads what an observation of a given name says, from the `fields` of its body. -/
def readObservation? (fields : List (String × Value)) : String → Option Observation
  | "CovenantQuorumReached" => some .covenantQuorumReached
  | "InclusionProofConfirmed" => do
    return .inclusionProofConfirmed (← word64.required (fields.lookup "inclusion_height"))
      (← word64.required (fields.lookup "tip_height"))
  | "UnbondingTxObserved" => do
    return .unbondingTxObserved (← word64.required (fields.lookup "observed_height"))
  | "UnbondingTxConfirmed" => some .unbondingTxConfirmed
  | "TimelockExpired" => do
    return .timelockExpired (← subState.required (fields.lookup "sub_state"))
  | "WithdrawalTxObserved" => some .withdrawalTxObserved
  | "SlashingTxObserved" => do
    return .slashingTxObserved (← transaction.required (fields.lookup "slashing_tx"))
      (← word64.required (fields.lookup "spend_height"))
  | _ => none

/-- Reads an event from a record of one field. -/
def readEvent? : Value → Option Event
  | .record [("NewStake", body)] => (stake.read? body).map .newStake
  | .record [(name, .record fields)] => do
    return .observed (← txid.required (fields.lookup "staking_txid"))
      (← readObservation? fields name)
  | _ => none

/-- Events, as records of one field with the name of the event. -/
def event : Form Event := ⟨writeEvent, readEvent?⟩

end StakeLedger.Form
