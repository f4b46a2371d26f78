import StakeLedger.Exchange.Bitcoin
import StakeLedger.Params.Registry

/-!
# Forms of Parameters

A registry is exchanged as the list of its versions. Reading one registers the entries of the list
in turn, which may fail even though the list has the right form; the first entry that cannot be
registered is then the reason. In a file of parameters the lists that stand for records are roomy.
-/

namespace StakeLedger.Form

/-- Checkpoint parameters, as records; a list of the fields may be longer if it is `roomy`. -/
def checkpoint (roomy : Bool := false) : Form CheckpointParams := Layout.form {
  names := ["btc_confirmation_depth", "checkpoint_finalization_timeout"]
  roomy
  values := fun c => [word64.write c.confirmationDepth, word64.write c.finalizationTimeout]
  ofFields := fun
    | [depth, timeout] => do
      return {
        confirmationDepth := ← word64.required depth
        finalizationTimeout := ← word64.required timeout }
    | _ => none }

/-- Staking parameters, as records; the committee is a list in which the order counts. -/
def stakingParams (roomy : Bool := false) : Form StakingParams := Layout.form {
  names := ["version", "covenant_pks", "covenant_quorum", "min_staking_value", "max_staking_value",
    "min_staking_time_blocks", "max_staking_time_blocks", "min_unbonding_time_blocks"]
  roomy
  values := fun p => [word32.write p.version, key.list.write p.committee, word32.write p.quorum,
    amount.write p.leastAmount, amount.write p.mostAmount, word32.write p.leastStakingTime,
    word32.write p.mostStakingTime, word32.write p.leastUnbondingTime]
  ofFields := fun
    | [version, committee, quorum, leastAmount, mostAmount, leastStaking, mostStaking,
        leastUnbonding] => do
      return {
        version := ← word32.required version
        committee := ← key.list.required committee
        quorum := ← word32.required quorum
        leastAmount := ← amount.required leastAmount
        mostAmount := ← amount.required mostAmount
        leastStakingTime := ← word32.required leastStaking
        mostStakingTime := ← word32.required mostStaking
        leastUnbondingTime := ← word32.required leastUnbonding }
    | _ => none }

/-- Checkpoint parameters together with a list of staking parameters, which may be left out. -/
def paramsList (roomy : Bool := false) :
    Form (CheckpointParams × List StakingParams) := Layout.form {
  names := ["checkpoint", "staking"]
  least := 1
  roomy
  values := fun p => [(checkpoint roomy).write p.1, (stakingParams roomy).list.write p.2]
  ofFields := fun
    | [checkpointField, staking] => do
      let checkpoint ← (checkpoint roomy).required checkpointField
      return (checkpoint, ← (stakingParams roomy).list.orDefault [] staking)
    | _ => none }

/-- Writes the registry `r`, with its versions in ascending order. -/
def writeRegistry (r : Registry) : Value := paramsList.write (r.checkpoint, r.all)

/-- Reads a registry: `none` if the value does not have the form, else the registry or the reason
why an entry cannot be registered. -/
def readRegistry? (v : Value) (roomy : Bool := false) : Option (Except ParamsError Registry) :=
  ((paramsList roomy).read? v).map fun (checkpoint, staking) => Registry.load checkpoint staking

end StakeLedger.Form
